import Evget.Capture

/-!
# What is left can be stored

When the handler has ended, the timer and the threads have what is left to do: a tick takes what is
in the buffer, whoever has taken a batch spawns its coroutine, and a thread runs the coroutines.
After a stop of the scheduler there are no more ticks, and what is in the buffer stays there.

* `tasks_end`         a thread can run all coroutines to their ends;
* `Sound.all_spawn`   whoever has taken a batch can spawn its coroutine;
* `tick_takes`        a tick takes what is in the buffer;
* `Stopped.run`       after a stop nothing is taken;
* `run_drains`        before a stop all can be stored, with one more timer and one more thread;
                      after it, what is in the buffer is lost.
-/

set_option linter.unusedSectionVars false

namespace Evget
open Calls

namespace DatabaseManager

/-! ## a thread -/

section
variable {S : Type}

/-- no call on a store has returned an error -/
def Unfailed (task : Task S) : Prop := ∀ answer ∈ task.answers, answer = .ok ()

def State.outer (m : State S) : LockingVector Data × Bool := (m.data, m.stopped)

def runSteps (steps : List ThreadStep) (m : State S) : State S :=
  steps.foldl (fun m step => (answer step.call m).2) m

theorem runSteps_append (steps steps' : List ThreadStep) (m : State S) :
    runSteps (steps ++ steps') m = runSteps steps' (runSteps steps m) := List.foldl_append ..

section
variable {m : State S} {k : Nat} {task : Task S} {c : StoreCall S}
  {next : Result Unit → Coroutine S}

theorem resume_call (hk : m.tasks[k]? = some task) (hcalling : task.calling = false)
    (hco : task.coroutine = .call c next) :
    m.resume k = { m with
      tasks := m.tasks.set k { task with calling := true }
      passed := m.passed ++ [⟨task.batch, c⟩] } := by
  unfold State.resume
  rw [hk]
  dsimp only
  rw [hcalling, hco]

theorem finish_call (hk : m.tasks[k]? = some task) (hcalling : task.calling = true)
    (hco : task.coroutine = .call c next) (result : Result Unit) :
    m.finish k result = { m with
      tasks := m.tasks.set k { task with
        coroutine := next result
        calling := false
        answers := task.answers ++ [result] } } := by
  unfold State.finish
  rw [hk]
  dsimp only
  rw [hcalling, hco]

theorem one_call (hk : m.tasks[k]? = some task) (hco : task.coroutine = .call c next) :
    ∃ steps, (runSteps steps m).tasks = m.tasks.set k { task with
        coroutine := next (.ok ())
        calling := false
        answers := task.answers ++ [.ok ()] } ∧
      (runSteps steps m).outer = m.outer := by
  cases hcalling : task.calling with
  | true =>
    refine ⟨[.finish k (.ok ())], ?_⟩
    show (m.finish k (.ok ())).tasks = _ ∧ (m.finish k (.ok ())).outer = m.outer
    rw [finish_call hk hcalling hco]
    exact ⟨rfl, rfl⟩
  | false =>
    refine ⟨[.resume k, .finish k (.ok ())], ?_⟩
    show ((m.resume k).finish k (.ok ())).tasks = _ ∧
      ((m.resume k).finish k (.ok ())).outer = m.outer
    have hlt : k < m.tasks.length := (List.getElem?_eq_some_iff.mp hk).1
    have hresume := resume_call hk hcalling hco
    have hk' : (m.resume k).tasks[k]? = some { task with calling := true } := by
      rw [hresume]
      exact List.getElem?_set_self hlt
    rw [finish_call hk' rfl hco, hresume]
    exact ⟨List.set_set .., rfl⟩

end

theorem Stands.ended_ok {storeIn : List S} {data : Data} {answers : List (Result Unit)}
    {calling : Bool} {result : Result Unit} (h : Stands storeIn data answers calling (.ret result))
    (hok : ∀ answer ∈ answers, answer = .ok ()) : result = .ok () := by
  rcases h.ended.2 with ⟨-, hresult⟩ | ⟨n, e, -, hanswers, -⟩
  · exact hresult
  · have herror : (.error e : Result Unit) ∈ answers := by
      rw [hanswers]
      exact List.mem_append_right _ (List.mem_singleton_self _)
    cases hok _ herror

/-- **One coroutine** is run to its end. -/
theorem task_ends {m : State S} {k : Nat} {task : Task S} (hk : m.tasks[k]? = some task)
    (hstands : Stands task.storeIn task.data task.answers task.calling task.coroutine)
    (hok : Unfailed task) :
    ∃ steps ended, (runSteps steps m).tasks = m.tasks.set k ended ∧
      ended.coroutine = .ret (.ok ()) ∧ (runSteps steps m).outer = m.outer := by
  -- by induction on the stores that are still to be asked
  generalize hleft : task.storeIn.length - task.answers.length = left
  induction left using Nat.strong_induction_on generalizing m task with
  | _ left ih =>
    cases hco : task.coroutine with
    | ret result =>
      rw [hco] at hstands
      obtain ⟨hlt, hget⟩ := List.getElem?_eq_some_iff.mp hk
      refine ⟨[], task, ?_, hco.trans (congrArg _ (hstands.ended_ok hok)), rfl⟩
      rw [← hget]
      exact (List.set_getElem_self hlt).symm
    | call c next =>
      rw [hco] at hstands
      obtain ⟨store, hstore, -, -, hnext⟩ := hstands.next
      have hlt : task.answers.length < task.storeIn.length :=
        (List.getElem?_eq_some_iff.mp hstore).1
      obtain ⟨steps, htasks, houter⟩ := one_call hk hco
      have hk' := congrArg (·[k]?) htasks
      rw [List.getElem?_set_self (List.getElem?_eq_some_iff.mp hk).1] at hk'
      have hok' : ∀ answer ∈ task.answers ++ [.ok ()], answer = .ok () := by
        intro answer hanswer
        rcases List.mem_append.mp hanswer with h | h
        · exact hok answer h
        · exact List.mem_singleton.mp h
      obtain ⟨rest, ended, htasks', hended, houter'⟩ :=
        ih (task.storeIn.length - (task.answers ++ [Except.ok ()]).length)
          (by rw [List.length_append, List.length_singleton]; omega) hk' (hnext (.ok ())) hok' rfl
      refine ⟨steps ++ rest, ended, ?_, hended, ?_⟩
      · rw [runSteps_append, htasks', htasks, List.set_set]
      · rw [runSteps_append, houter', houter]

/-- **All coroutines** are run to their ends. -/
theorem tasks_end {m : State S}
    (hstands : ∀ task ∈ m.tasks,
      Stands task.storeIn task.data task.answers task.calling task.coroutine)
    (hok : ∀ task ∈ m.tasks, Unfailed task) :
    ∃ steps, (∀ task ∈ (runSteps steps m).tasks, task.coroutine = .ret (.ok ())) ∧
      (runSteps steps m).outer = m.outer := by
  -- those before `k` have been run, and the others are as they were
  have hall : ∀ k ≤ m.tasks.length, ∃ steps,
      (runSteps steps m).tasks.length = m.tasks.length ∧
      (∀ j < k, ∀ task, (runSteps steps m).tasks[j]? = some task →
        task.coroutine = .ret (.ok ())) ∧
      (∀ j, k ≤ j → (runSteps steps m).tasks[j]? = m.tasks[j]?) ∧
      (runSteps steps m).outer = m.outer := by
    intro k
    induction k with
    | zero =>
      exact fun _ => ⟨[], rfl, fun j hj => absurd hj (Nat.not_lt_zero j), fun _ _ => rfl, rfl⟩
    | succ k ih =>
      intro hlt
      obtain ⟨steps, hlength, hdone, hothers, houter⟩ := ih (Nat.le_of_succ_le hlt)
      have hk : (runSteps steps m).tasks[k]? = some m.tasks[k] := by
        rw [hothers k (Nat.le_refl k)]
        exact List.getElem?_eq_getElem hlt
      have hmem : m.tasks[k] ∈ m.tasks := List.getElem_mem hlt
      obtain ⟨rest, ended, htasks, hended, houter'⟩ :=
        task_ends hk (hstands _ hmem) (hok _ hmem)
      refine ⟨steps ++ rest, ?_⟩
      rw [runSteps_append, htasks, houter', List.length_set]
      refine ⟨hlength, fun j hj task htask => ?_, fun j hj => ?_, houter⟩
      · by_cases hjk : k = j
        · rw [← hjk, List.getElem?_set_self (by omega)] at htask
          rw [← Option.some.inj htask]
          exact hended
        · rw [List.getElem?_set_ne hjk] at htask
          exact hdone j (by omega) task htask
      · rw [List.getElem?_set_ne (by omega)]
        exact hothers j (by omega)
  obtain ⟨steps, hlength, hdone, -, houter⟩ := hall m.tasks.length (Nat.le_refl _)
  refine ⟨steps, fun task htask => ?_, houter⟩
  obtain ⟨j, hj⟩ := List.mem_iff_getElem?.mp htask
  have hlt := (List.getElem?_eq_some_iff.mp hj).1
  exact hdone j (by omega) task hj

end
end DatabaseManager

namespace Capture
open DatabaseManager

section
variable {S : Type} {ι : Type} [DecidableEq ι]

abbrev Clients (S ι : Type) : Type :=
  Pool (Option ι) (DatabaseManager.Call S) Reply Unit (Phase S × List Data) (State S)

structure Sound (captured : List Data) (storeIn : List S) (p : Clients S ι) : Prop where
  follows : p.Follows (protocol.prod feeding) fun _ phase _ => phase.1 = .idle ∧ phase.2 = []
  holds : Holds captured storeIn p.phase p.object

variable {captured : List Data} {storeIn : List S} {p p' : Clients S ι}

namespace Sound

theorem run (h : Sound captured storeIn p) (sched : List (Option ι)) :
    Sound captured storeIn (p.run answer (protocol.prod feeding) sched) := by
  obtain ⟨hfollows, hholds⟩ := Pool.run_inv (Holds captured storeIn)
    (fun _ _ _ _ _ _ h ha => h.step ha) h.follows h.holds sched (Pool.under_true ..)
  exact ⟨hfollows, hholds⟩

theorem calls (h : Sound captured storeIn p) {i : Option ι} (hi : (p.phase i).1 ≠ .idle) :
    ∃ c k, p.client i = .call c k ∧ protocol.allowed (p.phase i).1 c := by
  have hfollows := h.follows i
  cases hclient : p.client i with
  | ret a =>
    rw [hclient] at hfollows
    exact absurd hfollows.1 hi
  | call c k =>
    rw [hclient] at hfollows
    exact ⟨c, k, rfl, hfollows.1.1⟩

theorem fewer (h : Sound captured storeIn p) {i : Option ι} {batch : Nat}
    (hi : (p.phase i).1.batch = some batch) : p.object.tasks.length < p.object.taken.length := by
  have hkept := h.holds.1
  obtain ⟨hlt, hnot⟩ := (hkept.held i).batch_lt hi
  have hnodup : (batch :: p.object.tasks.map Task.batch).Nodup := hkept.nodup.cons hnot
  have hsubset : batch :: p.object.tasks.map Task.batch ⊆ List.range p.object.taken.length := by
    refine List.cons_subset.mpr ⟨List.mem_range.mpr hlt, fun b hb => ?_⟩
    obtain ⟨task, htask, rfl⟩ := List.mem_map.mp hb
    exact List.mem_range.mpr (hkept.tasks task htask).batch_lt
  have hlength := (List.subperm_of_subset hnodup hsubset).length_le
  rw [List.length_cons, List.length_map, List.length_range] at hlength
  exact hlength

end Sound

/-! ## whoever has taken a batch -/

structure Spawns (p p' : Clients S ι) (i : Option ι) : Prop where
  idle : (p'.phase i).1 = .idle
  others : ∀ j, j ≠ i → (p'.phase j).1 = (p.phase j).1
  outer : p'.object.outer = p.object.outer
  taken : p'.object.taken = p.object.taken
  tasks : ∃ task, task.answers = [] ∧ p'.object.tasks = p.object.tasks ++ [task]

namespace Sound

theorem ready_spawns (h : Sound captured storeIn p) {i : Option ι} {batch : Nat}
    {inner : List Data} {stores : List S} (hi : (p.phase i).1 = .ready batch inner stores) :
    Spawns p (p.step answer (protocol.prod feeding) i) i := by
  have hne : (p.phase i).1 ≠ .idle := by
    rw [hi]
    exact nofun
  obtain ⟨c, k, hclient, hallowed⟩ := h.calls hne
  rw [hi] at hallowed
  cases c with
  | spawn batch' data stores' =>
    rw [Pool.step_call hclient]
    refine ⟨?_, fun j hj => ?_, rfl, rfl, _, rfl, rfl⟩
    · show (Function.update p.phase i _ i).1 = _
      rw [Function.update_self]
      show protocol.next (p.phase i).1 _ _ = _
      rw [hi]
      rfl
    · show (Function.update p.phase i _ j).1 = _
      rw [Function.update_of_ne hj]
  | _ => exact hallowed.elim

theorem taken_ready (h : Sound captured storeIn p) {i : Option ι} {batch : Nat}
    {inner : List Data} (hi : (p.phase i).1 = .taken batch inner) :
    let p' := p.step answer (protocol.prod feeding) i
    (p'.phase i).1 = .ready batch inner p.object.storeIn ∧
      (∀ j, j ≠ i → (p'.phase j).1 = (p.phase j).1) ∧ p'.object = p.object := by
  have hne : (p.phase i).1 ≠ .idle := by
    rw [hi]
    exact nofun
  obtain ⟨c, k, hclient, hallowed⟩ := h.calls hne
  rw [hi] at hallowed
  cases c with
  | snapshot =>
    intro p'
    have hp' : p' = _ := Pool.step_call hclient
    rw [hp']
    refine ⟨?_, fun j hj => ?_, rfl⟩
    · show (Function.update p.phase i _ i).1 = _
      rw [Function.update_self]
      show protocol.next (p.phase i).1 _ _ = _
      rw [hi]
      rfl
    · show (Function.update p.phase i _ j).1 = _
      rw [Function.update_of_ne hj]
  | _ => exact hallowed.elim

/-- **Whoever has taken a batch** spawns its coroutine in two steps at most. -/
theorem spawns (h : Sound captured storeIn p) {i : Option ι} (hi : (p.phase i).1 ≠ .idle) :
    ∃ n, Spawns p (p.run answer (protocol.prod feeding) (List.replicate n i)) i := by
  cases hphase : (p.phase i).1 with
  | idle => exact absurd hphase hi
  | ready batch inner stores => exact ⟨1, h.ready_spawns hphase⟩
  | taken batch inner =>
    obtain ⟨hready, hothers, hobject⟩ := h.taken_ready hphase
    have hspawns := (h.run [i]).ready_spawns hready
    refine ⟨2, hspawns.idle, fun j hj => (hspawns.others j hj).trans (hothers j hj), ?_, ?_, ?_⟩
    · exact hspawns.outer.trans (congrArg State.outer hobject)
    · exact hspawns.taken.trans (congrArg State.taken hobject)
    · obtain ⟨task, hanswers, htasks⟩ := hspawns.tasks
      exact ⟨task, hanswers, htasks.trans (congrArg (State.tasks · ++ [task]) hobject)⟩

/-- **All that has been taken** is given to coroutines, in steps of those who have taken it. -/
theorem all_spawn (h : Sound captured storeIn p) (hok : ∀ task ∈ p.object.tasks, Unfailed task) :
    ∃ sched : List (Option ι), (∀ i ∈ sched, (p.phase i).1 ≠ .idle) ∧
      let p' := p.run answer (protocol.prod feeding) sched
      (∀ i, (p'.phase i).1 = .idle) ∧ p'.object.outer = p.object.outer ∧
        ∀ task ∈ p'.object.tasks, Unfailed task := by
  -- by induction on the batches that have no coroutine yet
  generalize hleft : p.object.taken.length - p.object.tasks.length = left
  induction left using Nat.strong_induction_on generalizing p with
  | _ left ih =>
    by_cases hidle : ∀ i, (p.phase i).1 = .idle
    · exact ⟨[], fun i hi => absurd hi List.not_mem_nil, hidle, rfl, hok⟩
    · obtain ⟨i, hi⟩ := not_forall.mp hidle
      obtain ⟨batch, hbatch⟩ : ∃ batch, (p.phase i).1.batch = some batch := by
        cases hphase : (p.phase i).1 with
        | idle => exact absurd hphase hi
        | taken batch inner => exact ⟨batch, rfl⟩
        | ready batch inner stores => exact ⟨batch, rfl⟩
      have hfewer := h.fewer hbatch
      obtain ⟨n, hspawns⟩ := h.spawns hi
      obtain ⟨task, hanswers, htasks⟩ := hspawns.tasks
      have hok' : ∀ task ∈ (p.run answer (protocol.prod feeding)
          (List.replicate n i)).object.tasks, Unfailed task := by
        intro task' htask'
        rw [htasks] at htask'
        rcases List.mem_append.mp htask' with hmem | hmem
        · exact hok task' hmem
        · obtain rfl := List.mem_singleton.mp hmem
          intro answer hanswer
          rw [hanswers] at hanswer
          exact absurd hanswer List.not_mem_nil
      have hless : (p.run answer (protocol.prod feeding) (List.replicate n i)).object.taken.length
          - (p.run answer (protocol.prod feeding) (List.replicate n i)).object.tasks.length
            < left := by
        rw [hspawns.taken, htasks, List.length_append, List.length_singleton]
        omega
      obtain ⟨sched, hsched, hidle', houter, hok''⟩ := ih _ hless (h.run _) hok' rfl
      refine ⟨List.replicate n i ++ sched, fun j hj => ?_, ?_⟩
      · rcases List.mem_append.mp hj with hmem | hmem
        · rw [List.eq_of_mem_replicate hmem]
          exact hi
        · by_cases hji : j = i
          · rw [hji]
            exact hi
          · rw [← hspawns.others j hji]
            exact hsched j hmem
      · rw [Pool.run_append]
        exact ⟨hidle', houter.trans hspawns.outer, hok''⟩

end Sound

/-! ## the timer -/

/-- a round of the timer that nothing disturbs -/
def quietTick : Tick := ⟨true, .ok (), true⟩

/-- **A tick** takes what is in the buffer. -/
theorem tick_takes {i : Option ι} {nEvents : Nat}
    (hclient : p.client i = (Worker.timer [quietTick]).client.prog nEvents)
    (hstopped : p.object.stopped = false) :
    (p.run answer (protocol.prod feeding) [i, i]).object.outer = (.new, false) ∧
      (p.run answer (protocol.prod feeding) [i, i]).object.tasks = p.object.tasks := by
  have hstep : p.step answer (protocol.prod feeding) i = _ := Pool.step_call hclient
  have hnext : ∃ k, (p.step answer (protocol.prod feeding) i).client i = .call .intoInner k := by
    rw [hstep, show (answer .isStopped p.object).1 = false from hstopped]
    exact ⟨_, Function.update_self ..⟩
  obtain ⟨k, hk⟩ := hnext
  have hstep' : p.run answer (protocol.prod feeding) [i, i] = _ := Pool.step_call hk
  rw [hstep', hstep]
  exact ⟨congrArg (Prod.mk _) hstopped, rfl⟩

/-- **A tick, and then those who have taken a batch**: nobody holds anything any more, and the
buffer is empty. -/
theorem Sound.tick (h : Sound captured storeIn p) (hok : ∀ task ∈ p.object.tasks, Unfailed task)
    {i : Option ι} {nEvents : Nat}
    (hclient : p.client i = (Worker.timer [quietTick]).client.prog nEvents)
    (hstopped : p.object.stopped = false) {j : Option ι} (hj : j ≠ i)
    (hidle : (p.phase j).1 = .idle) :
    ∃ sched : List (Option ι), j ∉ sched ∧
      let p' := p.run answer (protocol.prod feeding) sched
      (∀ i, (p'.phase i).1 = .idle) ∧ p'.object.outer = (.new, false) ∧
        ∀ task ∈ p'.object.tasks, Unfailed task := by
  obtain ⟨hempty, htasks⟩ := tick_takes hclient hstopped
  have hnot : j ∉ [i, i] := fun hmem => hj (List.eq_of_mem_replicate (n := 2) hmem)
  obtain ⟨later, hlater, hidle', houter, hok'⟩ := (h.run [i, i]).all_spawn (htasks ▸ hok)
  refine ⟨[i, i] ++ later, fun hmem => ?_, ?_⟩
  · rcases List.mem_append.mp hmem with hmem | hmem
    · exact hnot hmem
    · refine hlater j hmem ?_
      rw [(p.run_other hnot).2]
      exact hidle
  · rw [Pool.run_append]
    exact ⟨hidle', houter.trans hempty, hok'⟩

/-! ## the thread -/

theorem thread_runs {i : Option ι} {steps : List ThreadStep}
    (hclient : p.client i = threadSteps steps) :
    let p' := p.run answer (protocol.prod feeding) (List.replicate steps.length i)
    p'.client i = .ret () ∧ p'.object = runSteps steps p.object := by
  induction steps generalizing p with
  | nil => exact ⟨hclient, rfl⟩
  | cons step steps ih =>
    have hstep : p.step answer (protocol.prod feeding) i = _ := Pool.step_call hclient
    obtain ⟨hended, hobject⟩ := ih (p := p.step answer (protocol.prod feeding) i) (by
      rw [hstep]
      exact Function.update_self ..)
    refine ⟨hended, hobject.trans ?_⟩
    rw [hstep]
    rfl

/-- **A thread** drains a capture of which nobody holds a batch and the buffer is empty. -/
theorem Sound.drains (h : Sound captured storeIn p) (hended : p.client none = .ret ())
    (hidle : ∀ i, (p.phase i).1 = .idle) (hempty : p.object.outer = (.new, false)) {i : Option ι}
    {steps : List ThreadStep} (hclient : p.client i = threadSteps steps)
    (houter : (runSteps steps p.object).outer = p.object.outer)
    (hstored : ∀ task ∈ (runSteps steps p.object).tasks, task.coroutine = .ret (.ok ())) :
    Drained (p.run answer (protocol.prod feeding) (List.replicate steps.length i)) ∧
      (p.run answer (protocol.prod feeding) (List.replicate steps.length i)).object.stopped
        = false := by
  obtain ⟨hreturned, hobject⟩ := thread_runs hclient
  have hlast := (congrArg State.outer hobject).trans (houter.trans hempty)
  refine ⟨⟨Pool.run_ret hended _, fun j => ?_, ?_, ?_⟩, congrArg Prod.snd hlast⟩
  · by_cases hj : j = i
    · rw [hj]
      exact ((h.run _).follows.ended hreturned).1
    · have hnot : j ∉ List.replicate steps.length i :=
        fun hmem => hj (List.eq_of_mem_replicate hmem)
      rw [(p.run_other hnot).2]
      exact hidle j
  · exact congrArg (fun outer => outer.1.inner) hlast
  · rw [hobject]
    exact hstored

end

/-! ## after a stop -/

/-- a worker takes the buffer right after the scheduler has told it that it is not stopped, and
pushes nothing -/
def checking : Protocol (DatabaseManager.Call S) Reply Bool where
  allowed
    | true, .intoInner => True
    | true, .stop => True
    | true, _ => False
    | false, .intoInner => False
    | false, .intoInnerAt _ => False
    | false, .pushBack _ => False
    | false, _ => True
  possible _ _ _ := True
  next
    | _, .isStopped, stopped => !stopped
    | _, _, _ => false

section
variable {S : Type}

abbrev Checks {α : Type} (checked : Bool) (m : Prog (DatabaseManager.Call S) Reply α) : Prop :=
  m.Follows checking (fun _ _ => True) checked

theorem storeAfterCoroutine_checks (ticks : List Tick) :
    Checks false (storeAfterCoroutine (S := S) ticks) := by
  induction ticks with
  | nil => trivial
  | cons tick ticks ih =>
    unfold storeAfterCoroutine
    by_cases hbefore : tick.before
    · rw [if_pos hbefore]
      refine ⟨trivial, fun stopped _ => ?_⟩
      cases stopped with
      | true => trivial
      | false =>
        cases tick.result with
        | error e => trivial
        | ok u =>
          by_cases hafter : tick.after
          · rw [if_pos hafter]
            refine ⟨trivial, fun inner _ => ⟨trivial, fun storeIn _ => ?_⟩⟩
            cases inner with
            | none => exact ih
            | some taken => exact ⟨trivial, fun _ _ => ih⟩
          · rw [if_neg hafter]
            trivial
    · rw [if_neg hbefore]
      trivial

theorem worker_checks (nEvents : Nat) (worker : Worker) :
    Checks false (worker.client.prog (S := S) nEvents) := by
  cases worker with
  | timer ticks =>
    refine (storeAfterCoroutine_checks ticks).bind ?_
    intro checked result _
    split
    · exact ⟨by cases checked <;> trivial, fun _ _ => trivial⟩
    · trivial
  | thread steps =>
    show Checks false (threadSteps steps)
    induction steps with
    | nil => trivial
    | cons step steps ih => cases step <;> exact ⟨trivial, fun _ _ => ih⟩

theorem Checks.unchecked {α : Type} {m : Prog (DatabaseManager.Call S) Reply α} {checked : Bool}
    (h : Checks checked m) (hm : ∀ k, m ≠ .call .intoInner k) : Checks false m := by
  cases checked with
  | false => exact h
  | true =>
    cases m with
    | ret a => trivial
    | call c k =>
      cases c with
      | intoInner => exact absurd rfl (hm k)
      | stop => exact ⟨trivial, h.2⟩
      | _ => exact h.1.elim

theorem resume_stopped {m : State S} (h : m.stopped = true) (k : Nat) :
    (m.resume k).stopped = true ∧ (m.resume k).data = m.data := by
  unfold State.resume
  split
  · exact ⟨h, rfl⟩
  · split
    · exact ⟨h, rfl⟩
    · rename_i result _ _
      cases result with
      | ok u => exact ⟨h, rfl⟩
      | error e => exact ⟨rfl, rfl⟩
    · exact ⟨h, rfl⟩

theorem finish_stopped {m : State S} (h : m.stopped = true) (k : Nat) (result : Result Unit) :
    (m.finish k result).stopped = true ∧ (m.finish k result).data = m.data := by
  unfold State.finish
  split
  · exact ⟨h, rfl⟩
  · split <;> exact ⟨h, rfl⟩

theorem answer_stopped {m : State S} (h : m.stopped = true) {call : DatabaseManager.Call S}
    (ha : checking.allowed false call) : checking.next false call (answer call m).1 = false ∧
      (answer call m).2.stopped = true ∧ (answer call m).2.data = m.data := by
  cases call with
  | pushBack events => exact ha.elim
  | intoInnerAt size => exact ha.elim
  | intoInner => exact ha.elim
  | snapshot => exact ⟨rfl, h, rfl⟩
  | spawn batch data storeIn => exact ⟨rfl, h, rfl⟩
  | addStore store => exact ⟨rfl, h, rfl⟩
  | isStopped => exact ⟨congrArg Bool.not h, h, rfl⟩
  | stop => exact ⟨rfl, rfl, rfl⟩
  | resume k => exact ⟨rfl, resume_stopped h k⟩
  | finish k result => exact ⟨rfl, finish_stopped h k result⟩

/-- the scheduler is stopped, the handler has ended, and nobody is about to take the buffer -/
structure Stopped {ι : Type} (p : Clients S ι) : Prop where
  stopped : p.object.stopped = true
  ended : p.client none = .ret ()
  checks : ∀ i, Checks false (p.client (some i))

variable {ι : Type} [DecidableEq ι] {p : Clients S ι}

theorem Stopped.step (h : Stopped p) (i : Option ι) :
    Stopped (p.step answer (protocol.prod feeding) i) ∧
      (p.step answer (protocol.prod feeding) i).object.data = p.object.data := by
  cases hcall : p.client i with
  | ret a =>
    rw [Pool.step_ret hcall]
    exact ⟨h, rfl⟩
  | call c k =>
    cases i with
    | none =>
      rw [h.ended] at hcall
      cases hcall
    | some i =>
      have hchecks := h.checks i
      rw [hcall] at hchecks
      obtain ⟨hnext, hstopped, hdata⟩ := answer_stopped h.stopped hchecks.1
      have hended : (p.step answer (protocol.prod feeding) (some i)).client none = .ret () :=
        (p.step_other (Option.some_ne_none i).symm).1.trans h.ended
      rw [Pool.step_call hcall] at hended ⊢
      refine ⟨⟨hstopped, hended, fun j => ?_⟩, hdata⟩
      show Checks false (Function.update p.client (some i) _ (some j))
      by_cases hj : some j = some i
      · rw [hj, Function.update_self, ← hnext]
        exact hchecks.2 _ trivial
      · rw [Function.update_of_ne hj]
        exact h.checks j

/-- **After a stop** nothing is taken from the buffer, whatever the workers do. -/
theorem Stopped.run (h : Stopped p) (sched : List (Option ι)) :
    Stopped (p.run answer (protocol.prod feeding) sched) ∧
      (p.run answer (protocol.prod feeding) sched).object.data = p.object.data := by
  induction sched generalizing p with
  | nil => exact ⟨h, rfl⟩
  | cons i sched ih =>
    obtain ⟨hstep, hdata⟩ := h.step i
    obtain ⟨hrun, hrest⟩ := ih hstep
    exact ⟨hrun, hrest.trans hdata⟩

end

/-! ## a run with more workers -/

section
variable {S σ T E : Type} {ι : Type} [DecidableEq ι]

def moreWorkers (workers : ι → Worker) (steps : List ThreadStep) : ι ⊕ Bool → Worker
  | .inl i => workers i
  | .inr false => .timer [quietTick]
  | .inr true => .thread steps

section
variable (backend : Backend σ T E) (nEvents : Nat) (allowed : Option (Finset DeviceType))
  (storeIn : List S) (fuel : Nat) (world : σ) (workers : ι → Worker)

theorem start_agrees (steps : List ThreadStep) : Pool.Agrees (Option.map Sum.inl)
    (start backend nEvents allowed storeIn fuel world (moreWorkers workers steps))
    (start backend nEvents allowed storeIn fuel world workers) := by
  refine ⟨fun i => ?_, fun i => ?_, rfl⟩ <;> cases i <;> rfl

theorem start_setClient (steps : List ThreadStep) :
    (start backend nEvents allowed storeIn fuel world (moreWorkers workers [])).setClient
      (some (.inr true)) (threadSteps steps)
        = start backend nEvents allowed storeIn fuel world (moreWorkers workers steps) := by
  refine congrArg (Pool.mk · _ _) (funext fun i => ?_)
  by_cases hi : i = some (.inr true)
  · rw [hi]
    exact Function.update_self ..
  · refine (Function.update_of_ne hi _ _).trans ?_
    rcases i with _ | _ | _ | _
    · rfl
    · rfl
    · rfl
    · exact absurd rfl hi

theorem more_agrees (steps : List ThreadStep) (sched : List (Option ι)) :
    Pool.Agrees (Option.map Sum.inl)
      (run backend nEvents allowed storeIn fuel world (moreWorkers workers steps)
        (sched.map (Option.map .inl)))
      (run backend nEvents allowed storeIn fuel world workers sched) :=
  (start_agrees backend nEvents allowed storeIn fuel world workers steps).run
    (Option.map_injective Sum.inl_injective) sched

theorem more_notMem (b : Bool) (sched : List (Option ι)) :
    some (.inr b) ∉ sched.map (Option.map (Sum.inl : ι → ι ⊕ Bool)) := by
  intro hmem
  obtain ⟨i, -, hi⟩ := List.mem_map.mp hmem
  cases i <;> cases hi

theorem more_waits (steps : List ThreadStep) (b : Bool) (sched : List (Option ι)) :
    let p := run backend nEvents allowed storeIn fuel world (moreWorkers workers steps)
      (sched.map (Option.map .inl))
    p.client (some (.inr b)) = (moreWorkers workers steps (.inr b)).client.prog nEvents ∧
      p.phase (some (.inr b)) = (.idle, []) :=
  Pool.run_other _ (more_notMem b sched)

theorem run_sound (sched : List (Option ι)) :
    Sound (captures backend allowed fuel false world) storeIn
      (run backend nEvents allowed storeIn fuel world workers sched) := by
  obtain ⟨hfollows, hholds⟩ := run_holds backend nEvents allowed storeIn fuel world workers sched
  exact ⟨hfollows, hholds⟩

theorem run_checks (sched : List (Option ι)) (i : ι) : ∃ checked, Checks checked
    ((run backend nEvents allowed storeIn fuel world workers sched).client (some i)) := by
  have hall : ∀ i : Option ι, i ≠ none → ∃ checked, Checks checked
      ((run backend nEvents allowed storeIn fuel world workers sched).client i) := by
    refine Pool.run_clients (Q := fun i m => i ≠ none → ∃ checked, Checks checked m) ?_ ?_ sched
    · intro i c k h r hi
      obtain ⟨checked, hchecks⟩ := h hi
      exact ⟨_, hchecks.2 r trivial⟩
    · rintro (_ | i) hi
      · exact absurd rfl hi
      · exact ⟨false, worker_checks nEvents (workers i)⟩
  exact hall (some i) (Option.some_ne_none i)

variable {backend nEvents allowed storeIn fuel world workers}

theorem unstopped_drains {sched : List (Option ι)}
    (hended : (run backend nEvents allowed storeIn fuel world workers sched).client none = .ret ())
    (hok : ∀ task ∈ (run backend nEvents allowed storeIn fuel world workers sched).object.tasks,
      Unfailed task)
    (hstopped : (run backend nEvents allowed storeIn fuel world workers sched).object.stopped
      = false) :
    ∃ steps later,
      let p := run backend nEvents allowed storeIn fuel world (moreWorkers workers steps)
        (sched.map (Option.map .inl) ++ later)
      Drained p ∧ p.object.stopped = false := by
  -- first without the steps of the thread, which are known when the timer is done
  have hagrees := more_agrees backend nEvents allowed storeIn fuel world workers [] sched
  obtain ⟨htimer, -⟩ :=
    more_waits backend nEvents allowed storeIn fuel world workers [] false sched
  obtain ⟨-, hthread⟩ :=
    more_waits backend nEvents allowed storeIn fuel world workers [] true sched
  obtain ⟨later, hnot, hidle, hempty, hok'⟩ :=
    (run_sound backend nEvents allowed storeIn fuel world (moreWorkers workers [])
      (sched.map (Option.map .inl))).tick (hagrees.object ▸ hok) htimer (hagrees.object ▸ hstopped)
        (j := some (.inr true)) (by simp) (congrArg Prod.fst hthread)
  have hsound := (run_sound backend nEvents allowed storeIn fuel world (moreWorkers workers [])
    (sched.map (Option.map .inl))).run later
  obtain ⟨steps, hstored, houter⟩ :=
    tasks_end (fun task htask => (hsound.holds.1.tasks task htask).stands) hok'
  have hclient : some (.inr true) ∉ sched.map (Option.map Sum.inl) ++ later :=
    fun hmem => (List.mem_append.mp hmem).elim (more_notMem true sched) hnot
  have hset : run backend nEvents allowed storeIn fuel world (moreWorkers workers steps)
      (sched.map (Option.map .inl) ++ later)
        = ((run backend nEvents allowed storeIn fuel world (moreWorkers workers [])
            (sched.map (Option.map .inl))).run answer (protocol.prod feeding) later).setClient
              (some (.inr true)) (threadSteps steps) := by
    rw [run, ← start_setClient, Pool.run_setClient _ _ hclient, Pool.run_append]
  refine ⟨steps, later ++ List.replicate steps.length (some (.inr true)), ?_⟩
  rw [← List.append_assoc, run, Pool.run_append]
  refine (run_sound backend nEvents allowed storeIn fuel world (moreWorkers workers steps)
    (sched.map (Option.map .inl) ++ later)).drains ?_ ?_ ?_ ?_ ?_ ?_
  all_goals rw [hset]
  · rw [Pool.setClient_other _ (Option.some_ne_none _).symm]
    exact Pool.run_ret ((hagrees.client none).trans hended) later
  · exact hidle
  · exact hempty
  · exact Pool.setClient_self ..
  · exact houter
  · exact hstored

theorem stopped_keeps {sched : List (Option ι)}
    (hended : (run backend nEvents allowed storeIn fuel world workers sched).client none = .ret ())
    (hstopped : (run backend nEvents allowed storeIn fuel world workers sched).object.stopped
      = true)
    (hcalls : ∀ i k, (run backend nEvents allowed storeIn fuel world workers sched).client i
      ≠ .call .intoInner k) (steps : List ThreadStep) (later : List (Option (ι ⊕ Bool))) :
    (run backend nEvents allowed storeIn fuel world (moreWorkers workers steps)
        (sched.map (Option.map .inl) ++ later)).object.data
      = (run backend nEvents allowed storeIn fuel world workers sched).object.data := by
  have hagrees := more_agrees backend nEvents allowed storeIn fuel world workers steps sched
  have hS : Stopped (run backend nEvents allowed storeIn fuel world (moreWorkers workers steps)
      (sched.map (Option.map .inl))) := by
    refine ⟨?_, (hagrees.client none).trans hended, fun i => ?_⟩
    · rw [hagrees.object]
      exact hstopped
    · cases i with
      | inl i =>
        obtain ⟨checked, hchecks⟩ := run_checks backend nEvents allowed storeIn fuel world
          (moreWorkers workers steps) (sched.map (Option.map .inl)) (.inl i)
        refine hchecks.unchecked fun k hcall => ?_
        exact hcalls (some i) k ((hagrees.client (some i)).symm.trans hcall)
      | inr b =>
        obtain ⟨hclient, -⟩ :=
          more_waits backend nEvents allowed storeIn fuel world workers steps b sched
        rw [hclient]
        exact worker_checks nEvents _
  have hdata := (hS.run later).2
  rw [hagrees.object, ← Pool.run_append] at hdata
  exact hdata

/-- **The end of a capture**, from every state of every run in which the handler has ended and no
call on a store has failed.  Before a stop, some more steps of a timer and a thread lead to where
everything is stored.  After a stop, and when no timer is just about to take the buffer, nobody
takes it any more: unless it is empty, no steps lead to where everything is stored. -/
theorem run_drains (sched : List (Option ι))
    (hended : (run backend nEvents allowed storeIn fuel world workers sched).client none = .ret ())
    (hok : ∀ task ∈ (run backend nEvents allowed storeIn fuel world workers sched).object.tasks,
      Unfailed task) :
    let p := run backend nEvents allowed storeIn fuel world workers sched
    let more := fun steps later => run backend nEvents allowed storeIn fuel world
      (moreWorkers workers steps) (sched.map (Option.map .inl) ++ later)
    (p.object.stopped = false →
        ∃ steps later, Drained (more steps later) ∧ (more steps later).object.stopped = false) ∧
      (p.object.stopped = true → (∀ i k, p.client i ≠ .call .intoInner k) → ∀ steps later,
        (more steps later).object.data = p.object.data ∧
          (p.object.data.inner ≠ [] → ¬ Drained (more steps later))) := by
  intro p more
  refine ⟨unstopped_drains hended hok, fun hstopped hcalls steps later => ?_⟩
  have hdata := stopped_keeps hended hstopped hcalls steps later
  refine ⟨hdata, fun hbuffer hdrained => hbuffer ?_⟩
  rw [← hdata]
  exact hdrained.buffer

/-! ### the end of a keystroke -/

def idleThread : Unit → Worker := fun _ => .thread []

def throwing : Backend Nat Nat Unit where
  next world := some (threeEvents world)
  transformEvent event world :=
    if event = 0 then .ok (⟨[FilterStore.keyboardPress]⟩, world) else .error ()

/-- The handler has ended, and both coroutines have not been run: a timer and a thread drain the
pool.  The handler has thrown with a press in the buffer, which is never stored. -/
theorem idleThread_drains :
    (∃ steps later,
      let p := run (ofTransform threeEvents keystroke) 1 (some {.keyboard}) [0] 4 0
        (moreWorkers idleThread steps) ((List.replicate 8 none).map (Option.map .inl) ++ later)
      Drained p ∧ p.object.stopped = false) ∧
    ∀ steps later,
      let p := run throwing 2 (some {.keyboard}) [0] 4 0 (moreWorkers idleThread steps)
        ((List.replicate 4 none).map (Option.map .inl) ++ later)
      p.object.data.inner = [⟨[FilterStore.keyboardPress]⟩] ∧ ¬ Drained p := by
  constructor
  · refine (@run_drains Nat Nat Nat Empty Unit _ (ofTransform threeEvents keystroke) 1
      (some {.keyboard}) [0] 4 0 idleThread (List.replicate 8 none) rfl fun task htask => ?_).1 rfl
    have hanswers : (run (ofTransform threeEvents keystroke) 1 (some {.keyboard}) [0] 4 0
        idleThread (List.replicate 8 none)).object.tasks.map Task.answers = [[], []] := rfl
    have hnone : task.answers = [] := by
      have hmem : task.answers ∈ [[], []] := hanswers ▸ List.mem_map_of_mem htask
      exact (List.mem_pair.mp hmem).elim id id
    unfold Unfailed
    rw [hnone]
    exact fun answer hanswer => absurd hanswer List.not_mem_nil
  · intro steps later
    have hbuffer : (run throwing 2 (some {.keyboard}) [0] 4 0 idleThread
        (List.replicate 4 none)).object.data.inner = [⟨[FilterStore.keyboardPress]⟩] := rfl
    have hcalls : ∀ i k, (run throwing 2 (some {.keyboard}) [0] 4 0 idleThread
        (List.replicate 4 none)).client i ≠ .call .intoInner k := by
      rintro (_ | _) k hcall <;> cases hcall
    obtain ⟨hdata, hnever⟩ := (@run_drains Nat Nat Nat Unit Unit _ throwing 2
      (some {.keyboard}) [0] 4 0 idleThread (List.replicate 4 none) rfl
      (fun task htask => absurd htask List.not_mem_nil)).2 rfl hcalls steps later
    refine ⟨?_, hnever ?_⟩
    · rw [hdata]
      exact hbuffer
    · rw [hbuffer]
      exact List.cons_ne_nil _ _

end
end
end Capture
end Evget
