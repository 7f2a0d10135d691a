import Evget.Error
import Mathlib.Data.List.Basic

/-!
# The event loop

`Start` runs until the loop is stopped.  Its inner loop goes through the listeners, and the event is
fetched inside of it, so every listener is notified of an event of its own.  Next and the listeners
act on a world `σ`, and while the loop awaits one of them somebody may call `Stop`.

* `fetch`, `notify`, `notifyEach`, `start`   the loop, for a number of its iterations;
* `Serves`                                   what a loop should do;
* `serves_iff`                               when it does;
* `EventHandler.start_serves`                the loop of an event handler, its one listener.
-/

namespace Evget

/-- the answer of an awaited call, whether `Stop` was called meanwhile, and the world after it -/
abbrev Awaited (σ α : Type) := σ → Result α × Bool × σ

inductive Action (T : Type) where
  | fetch (result : Result T)
  | notify (listener : Nat) (event : T) (result : Result Unit)

structure EventLoop (σ T : Type) where
  world : σ
  stopped_ : Bool
  trace : List (Action T)

namespace EventLoop
variable {σ T : Type}

def stop (self : EventLoop σ T) : EventLoop σ T := { self with stopped_ := true }

def await {α : Type} (call : Awaited σ α) (action : Result α → Action T) (self : EventLoop σ T) :
    Result α × EventLoop σ T :=
  let (result, stops, world) := call self.world
  let self := if stops then self.stop else self
  (result, { self with world := world, trace := self.trace ++ [action result] })

def fetch (next : Awaited σ T) : EventLoop σ T → Result T × EventLoop σ T := await next .fetch

def notify (index : Nat) (listener : T → Awaited σ Unit) (event : T) :
    EventLoop σ T → Result Unit × EventLoop σ T :=
  await (listener event) (.notify index event)

def notifyEach (next : Awaited σ T) : Nat → List (T → Awaited σ Unit) → EventLoop σ T →
    Result Unit × EventLoop σ T
  | _, [], self => (.ok (), self)
  | index, listener :: listeners, self =>
    andThen (fetch next self) fun event self =>
      andThen (notify index listener event self) fun _ self =>
        notifyEach next (index + 1) listeners self

/-- the loop for at most `fuel` iterations; no result when it goes on after them -/
def start (next : Awaited σ T) (listeners : List (T → Awaited σ Unit)) : Nat → EventLoop σ T →
    Option (Result Unit) × EventLoop σ T
  | 0, self => (none, self)
  | fuel + 1, self =>
    if self.stopped_ then (some (.ok ()), self) else
      match notifyEach next 0 listeners self with
      | (.ok (), self) => start next listeners fuel self
      | (.error e, self) => (some (.error e), self)

end EventLoop

/-! ## What a loop should do -/

section
variable {T : Type}

def Action.error : Action T → Option Error
  | .fetch (.error e) => some e
  | .notify _ _ (.error e) => some e
  | _ => none

def fetchedEvent : Action T → Option T
  | .fetch (.ok event) => some event
  | _ => none

def notifiedEvent (index : Nat) : Action T → Option T
  | .notify listener event _ => if listener = index then some event else none
  | _ => none

def fetched (trace : List (Action T)) : List T := trace.filterMap fetchedEvent

def delivered (index : Nat) (trace : List (Action T)) : List T :=
  trace.filterMap (notifiedEvent index)

def FailedAt (index : Nat) (trace : List (Action T)) : Prop :=
  ∃ event e, Action.notify index event (.error e) ∈ trace

/-- the listener of an index was notified of every event once and in order, of all but the last one
when a listener before it has failed -/
def Delivers (index : Nat) (trace : List (Action T)) : Prop :=
  delivered index trace = fetched trace ∨
    (∃ i < index, FailedAt i trace) ∧ delivered index trace = (fetched trace).dropLast

def EndsWithFirst (result : Option (Result Unit)) (trace : List (Action T)) : Prop :=
  (∀ action ∈ trace.dropLast, action.error = none) ∧
    ∀ e, result = some (.error e) ↔ trace.getLast?.bind Action.error = some e

end

section
variable {σ T : Type}

/-- a loop from its first iteration on: all its events go to all listeners, the first error ends it,
and there is no iteration after the one in which it was stopped -/
structure Serves (next : Awaited σ T) (listeners : List (T → Awaited σ Unit))
    (loop : EventLoop σ T) : Prop where
  delivers : ∀ fuel, ∀ index < listeners.length,
    Delivers index (loop.start next listeners fuel).2.trace
  errors : ∀ fuel, EndsWithFirst (loop.start next listeners fuel).1
    (loop.start next listeners fuel).2.trace
  stops : ∀ fuel more, (loop.start next listeners fuel).2.stopped_ = true →
    fetched (loop.start next listeners (fuel + more)).2.trace =
      fetched (loop.start next listeners fuel).2.trace

namespace EventLoop

/-! ## One listener of an iteration -/

theorem await_result {α : Type} (call : Awaited σ α) (action : Result α → Action T)
    (self : EventLoop σ T) : (await call action self).1 = (call self.world).1 := rfl

theorem await_world {α : Type} (call : Awaited σ α) (action : Result α → Action T)
    (self : EventLoop σ T) : (await call action self).2.world = (call self.world).2.2 := rfl

theorem await_trace {α : Type} (call : Awaited σ α) (action : Result α → Action T)
    (self : EventLoop σ T) :
    (await call action self).2.trace = self.trace ++ [action (await call action self).1] := by
  unfold await
  obtain ⟨result, stops, world⟩ := call self.world
  cases stops <;> rfl

/-- what happens at one listener: the fetch fails, or its notification fails, or neither, and then
the other listeners follow -/
theorem notifyEach_cases (next : Awaited σ T) (index : Nat) (listener : T → Awaited σ Unit)
    (listeners : List (T → Awaited σ Unit)) (self : EventLoop σ T) :
    (∃ e after, notifyEach next index (listener :: listeners) self = (.error e, after) ∧
      after.trace = self.trace ++ [.fetch (.error e)] ∧ (next self.world).1 = .error e) ∨
    (∃ event e after, notifyEach next index (listener :: listeners) self = (.error e, after) ∧
      after.trace = self.trace ++ [.fetch (.ok event), .notify index event (.error e)] ∧
      (next self.world).1 = .ok event ∧
      (listener event (next self.world).2.2).1 = .error e) ∨
    ∃ event after, notifyEach next index (listener :: listeners) self =
        notifyEach next (index + 1) listeners after ∧
      after.trace = self.trace ++ [.fetch (.ok event), .notify index event (.ok ())] ∧
      (next self.world).1 = .ok event ∧
      (listener event (next self.world).2.2).1 = .ok () := by
  have hresult := await_result next .fetch self
  have hworld := await_world next .fetch self
  have ht := await_trace next .fetch self
  rw [← hworld, ← hresult]
  cases hfetch : await next .fetch self with
  | mk fetched mid =>
    rw [hfetch] at ht
    cases fetched with
    | error e =>
      exact .inl ⟨e, mid, by rw [notifyEach, fetch, hfetch, andThen_error], ht, rfl⟩
    | ok event =>
      have hn := await_trace (listener event) (.notify index event) mid
      have hanswer := await_result (listener event) (.notify index event) mid
      cases hnotify : await (listener event) (.notify index event) mid with
      | mk answer after =>
        rw [hnotify] at hn hanswer
        have htrace : after.trace =
            self.trace ++ [.fetch (.ok event), .notify index event answer] := by
          rw [show after.trace = _ from hn, show mid.trace = _ from ht]
          simp
        cases answer with
        | error e =>
          refine .inr (.inl ⟨event, e, after, ?_, htrace, rfl, hanswer.symm⟩)
          rw [notifyEach, fetch, hfetch, andThen_ok, notify, hnotify, andThen_error]
        | ok done =>
          refine .inr (.inr ⟨event, after, ?_, htrace, rfl, hanswer.symm⟩)
          rw [notifyEach, fetch, hfetch, andThen_ok, notify, hnotify, andThen_ok]

/-! ## Errors -/

def Clean (trace : List (Action T)) : Prop := ∀ action ∈ trace, action.error = none

theorem Clean.append {trace more : List (Action T)} (h : Clean trace) (h' : Clean more) :
    Clean (trace ++ more) := by
  intro action ha
  rcases List.mem_append.mp ha with ha | ha
  · exact h action ha
  · exact h' action ha

theorem Clean.endsWithFirst {trace : List (Action T)} (h : Clean trace)
    {result : Option (Result Unit)} (hr : ∀ e, result ≠ some (.error e)) :
    EndsWithFirst result trace := by
  refine ⟨fun action ha => h action (List.dropLast_subset _ ha), fun e => ?_⟩
  constructor
  · intro he
    exact absurd he (hr e)
  · intro he
    obtain ⟨action, hlast, herr⟩ := Option.bind_eq_some_iff.mp he
    rw [h action (List.mem_of_getLast? hlast)] at herr
    cases herr

theorem Clean.fails {trace : List (Action T)} (h : Clean trace) {action : Action T} {e : Error}
    (he : action.error = some e) : EndsWithFirst (some (.error e)) (trace ++ [action]) := by
  refine ⟨?_, fun e' => ?_⟩
  · rw [List.dropLast_concat]
    exact h
  · simp [he]

theorem notifyEach_errors (next : Awaited σ T) (index : Nat)
    (listeners : List (T → Awaited σ Unit)) (self : EventLoop σ T) (h : Clean self.trace) :
    match notifyEach next index listeners self with
    | (.ok (), after) => Clean after.trace
    | (.error e, after) => EndsWithFirst (some (.error e)) after.trace := by
  induction listeners generalizing index self with
  | nil => exact h
  | cons listener listeners ih =>
    obtain ⟨e, after, heq, htrace, -⟩ | ⟨event, e, after, heq, htrace, -⟩ |
      ⟨event, after, heq, htrace, -⟩ := notifyEach_cases next index listener listeners self
    · rw [heq]
      show EndsWithFirst _ after.trace
      rw [htrace]
      exact h.fails rfl
    · rw [heq]
      show EndsWithFirst _ after.trace
      have hclean : Clean (self.trace ++ [.fetch (.ok event)]) :=
        h.append (by simp [Clean, Action.error])
      rw [htrace, ← List.singleton_append, ← List.append_assoc]
      exact hclean.fails rfl
    · rw [heq]
      apply ih
      rw [htrace]
      exact h.append (by simp [Clean, Action.error])

theorem start_errors (next : Awaited σ T) (listeners : List (T → Awaited σ Unit)) (fuel : Nat)
    (self : EventLoop σ T) (h : Clean self.trace) :
    EndsWithFirst (start next listeners fuel self).1 (start next listeners fuel self).2.trace := by
  induction fuel generalizing self with
  | zero => exact h.endsWithFirst fun e => by simp [start]
  | succ fuel ih =>
    rw [start]
    by_cases hstop : self.stopped_ = true
    · rw [if_pos hstop]
      exact h.endsWithFirst (by simp)
    · rw [if_neg hstop]
      have hbody := notifyEach_errors next 0 listeners self h
      cases hn : notifyEach next 0 listeners self with
      | mk result after =>
        rw [hn] at hbody
        cases result with
        | error e => exact hbody
        | ok done => exact ih after hbody

/-! ## Stopping -/

theorem start_stopped (next : Awaited σ T) (listeners : List (T → Awaited σ Unit)) (fuel : Nat)
    {self : EventLoop σ T} (h : self.stopped_ = true) :
    (start next listeners fuel self).2 = self := by
  cases fuel with
  | zero => rfl
  | succ fuel => rw [start, if_pos h]

theorem start_add (next : Awaited σ T) (listeners : List (T → Awaited σ Unit)) (fuel more : Nat)
    (self : EventLoop σ T) :
    start next listeners (fuel + more) self =
      match start next listeners fuel self with
      | (none, after) => start next listeners more after
      | (some result, after) => (some result, after) := by
  induction fuel generalizing self with
  | zero => rw [Nat.zero_add]; rfl
  | succ fuel ih =>
    rw [show fuel + 1 + more = (fuel + more) + 1 by omega, start, start]
    by_cases hstop : self.stopped_ = true
    · rw [if_pos hstop, if_pos hstop]
    · rw [if_neg hstop, if_neg hstop]
      cases notifyEach next 0 listeners self with
      | mk result after =>
        cases result with
        | error e => rfl
        | ok done => exact ih after

theorem start_stops (next : Awaited σ T) (listeners : List (T → Awaited σ Unit)) (fuel more : Nat)
    (self : EventLoop σ T) (h : (start next listeners fuel self).2.stopped_ = true) :
    (start next listeners (fuel + more) self).2 = (start next listeners fuel self).2 := by
  rw [start_add]
  cases hs : start next listeners fuel self with
  | mk result after =>
    rw [hs] at h
    cases result with
    | none => exact start_stopped next listeners more h
    | some result => rfl

/-! ## Deliveries -/

@[simp] theorem fetched_append (trace more : List (Action T)) :
    fetched (trace ++ more) = fetched trace ++ fetched more := List.filterMap_append

@[simp] theorem delivered_append (index : Nat) (trace more : List (Action T)) :
    delivered index (trace ++ more) = delivered index trace ++ delivered index more :=
  List.filterMap_append

@[simp] theorem fetched_nil : fetched ([] : List (Action T)) = [] := rfl

@[simp] theorem fetched_fetch_ok (event : T) (trace : List (Action T)) :
    fetched (.fetch (.ok event) :: trace) = event :: fetched trace := rfl

@[simp] theorem fetched_fetch_error (e : Error) (trace : List (Action T)) :
    fetched (.fetch (.error e) :: trace) = fetched trace := rfl

@[simp] theorem fetched_notify (index : Nat) (event : T) (result : Result Unit)
    (trace : List (Action T)) : fetched (.notify index event result :: trace) = fetched trace := rfl

@[simp] theorem delivered_nil (index : Nat) : delivered index ([] : List (Action T)) = [] := rfl

@[simp] theorem delivered_fetch (index : Nat) (result : Result T) (trace : List (Action T)) :
    delivered index (.fetch result :: trace) = delivered index trace := rfl

@[simp] theorem delivered_notify (index i : Nat) (event : T) (result : Result Unit)
    (trace : List (Action T)) : delivered index (.notify i event result :: trace) =
      if i = index then event :: delivered index trace else delivered index trace := by
  by_cases h : i = index <;> simp [delivered, notifiedEvent, h]

/-- the listeners from an index on leave what those before it got, and fetch more -/
theorem notifyEach_before (next : Awaited σ T) (index : Nat) (listeners : List (T → Awaited σ Unit))
    (self : EventLoop σ T) {i : Nat} (hi : i < index) :
    delivered i (notifyEach next index listeners self).2.trace = delivered i self.trace ∧
      fetched self.trace <+: fetched (notifyEach next index listeners self).2.trace := by
  induction listeners generalizing index self with
  | nil => exact ⟨rfl, List.prefix_rfl⟩
  | cons listener listeners ih =>
    have hne : index ≠ i := by omega
    obtain ⟨e, after, heq, htrace, -⟩ | ⟨event, e, after, heq, htrace, -⟩ |
      ⟨event, after, heq, htrace, -⟩ := notifyEach_cases next index listener listeners self
    · rw [heq, htrace]
      simp
    · rw [heq, htrace]
      simp [hne]
    · obtain ⟨hdelivered, hfetched⟩ := ih (index + 1) after (by omega)
      rw [heq, hdelivered]
      rw [htrace] at hfetched ⊢
      refine ⟨by simp [hne], ?_⟩
      rw [fetched_append] at hfetched
      exact (List.prefix_append _ _).trans hfetched

theorem notifyEach_single (next : Awaited σ T) (listener : T → Awaited σ Unit)
    (self : EventLoop σ T) (h : delivered 0 self.trace = fetched self.trace) :
    delivered 0 (notifyEach next 0 [listener] self).2.trace =
      fetched (notifyEach next 0 [listener] self).2.trace := by
  obtain ⟨e, after, heq, htrace, -⟩ | ⟨event, e, after, heq, htrace, -⟩ |
    ⟨event, after, heq, htrace, -⟩ := notifyEach_cases next 0 listener [] self
  all_goals
    rw [heq]
    simp [notifyEach, htrace, h]

theorem start_single (next : Awaited σ T) (listener : T → Awaited σ Unit) (fuel : Nat)
    (self : EventLoop σ T) (h : delivered 0 self.trace = fetched self.trace) :
    delivered 0 (start next [listener] fuel self).2.trace =
      fetched (start next [listener] fuel self).2.trace := by
  induction fuel generalizing self with
  | zero => exact h
  | succ fuel ih =>
    rw [start]
    by_cases hstop : self.stopped_ = true
    · rw [if_pos hstop]
      exact h
    · rw [if_neg hstop]
      have hbody := notifyEach_single next listener self h
      cases hn : notifyEach next 0 [listener] self with
      | mk result after =>
        rw [hn] at hbody
        cases result with
        | error e => exact hbody
        | ok done => exact ih after hbody

theorem start_of_error (next : Awaited σ T) (listeners : List (T → Awaited σ Unit)) (fuel : Nat)
    {self after : EventLoop σ T} {e : Error} (hstop : self.stopped_ = false)
    (h : notifyEach next 0 listeners self = (.error e, after)) :
    start next listeners (fuel + 1) self = (some (.error e), after) := by
  rw [start, hstop, h]
  simp

theorem start_one (next : Awaited σ T) (listeners : List (T → Awaited σ Unit))
    {self : EventLoop σ T} (hstop : self.stopped_ = false) :
    (start next listeners 1 self).2 = (notifyEach next 0 listeners self).2 := by
  rw [start, hstop]
  cases notifyEach next 0 listeners self with
  | mk result after =>
    cases result with
    | error e => simp
    | ok done => simp [start]

/-- with two listeners, the first iteration that gets past the first one leaves an event that one
of them does not get -/
theorem second_misses (next : Awaited σ T) (listener second : T → Awaited σ Unit)
    (listeners : List (T → Awaited σ Unit)) {self after : EventLoop σ T} {event : T}
    (hfirst : notifyEach next 0 (listener :: second :: listeners) self =
      notifyEach next 1 (second :: listeners) after)
    (htrace : after.trace = [.fetch (.ok event), .notify 0 event (.ok ())]) :
    ∃ index < 2, ¬ Delivers index
      (notifyEach next 0 (listener :: second :: listeners) self).2.trace := by
  obtain ⟨e, last, heq, hlast, -⟩ | ⟨other, e, last, heq, hlast, -⟩ |
    ⟨other, last, heq, hlast, -⟩ := notifyEach_cases next 1 second listeners after
  · refine ⟨1, by omega, ?_⟩
    rw [hfirst, heq, hlast, htrace]
    simp [Delivers, FailedAt]
  · refine ⟨0, by omega, ?_⟩
    rw [hfirst, heq, hlast, htrace]
    simp [Delivers]
  · refine ⟨0, by omega, ?_⟩
    obtain ⟨hdelivered, hfetched⟩ :=
      notifyEach_before next 2 listeners last (show 0 < 2 by omega)
    rw [hlast, htrace] at hdelivered hfetched
    have hlength := hfetched.length_le
    rw [hfirst, heq]
    rintro (hall | ⟨⟨i, hi, -⟩, -⟩)
    · rw [← hall, hdelivered] at hlength
      simp at hlength
    · omega

/-! ## When the loop serves its listeners -/

def new (world : σ) (stopped_ : Bool) : EventLoop σ T := ⟨world, stopped_, []⟩

def EndsAtOnce (next : Awaited σ T) (listener : T → Awaited σ Unit) (self : EventLoop σ T) : Prop :=
  self.stopped_ = true ∨ (∃ e, (next self.world).1 = .error e) ∨
    ∃ event e, (next self.world).1 = .ok event ∧
      (listener event (next self.world).2.2).1 = .error e

/-- errors and `Stop` are served whatever the listeners -/
theorem serves_of_delivers (next : Awaited σ T) (listeners : List (T → Awaited σ Unit)) (world : σ)
    (stopped_ : Bool) (h : ∀ fuel, ∀ index < listeners.length,
      Delivers index (start next listeners fuel (new world stopped_)).2.trace) :
    Serves next listeners (new world stopped_) where
  delivers := h
  errors fuel := start_errors next listeners fuel _ (by simp [Clean, new])
  stops fuel more hstop := by rw [start_stops next listeners fuel more _ hstop]

theorem serves_single (next : Awaited σ T) (listener : T → Awaited σ Unit) (world : σ)
    (stopped_ : Bool) : Serves next [listener] (new world stopped_) := by
  apply serves_of_delivers
  intro fuel index hindex
  have hzero : index = 0 := by simpa using hindex
  rw [hzero]
  exact .inl (start_single next listener fuel _ rfl)

theorem delivers_of_endsAtOnce (next : Awaited σ T) (listener : T → Awaited σ Unit)
    (listeners : List (T → Awaited σ Unit)) (world : σ) (stopped_ : Bool)
    (h : EndsAtOnce next listener (new world stopped_)) (fuel index : Nat) :
    Delivers index (start next (listener :: listeners) fuel (new world stopped_)).2.trace := by
  by_cases hstop : stopped_ = true
  · rw [start_stopped next (listener :: listeners) fuel (show (new world stopped_).stopped_ = true
      from hstop)]
    exact .inl rfl
  · have hstop' : (new (T := T) world stopped_).stopped_ = false := by simpa [new] using hstop
    cases fuel with
    | zero => exact .inl rfl
    | succ fuel =>
      obtain ⟨e, after, heq, htrace, -⟩ | ⟨event, e, after, heq, htrace, -⟩ |
        ⟨event, after, heq, htrace, hfetch, hnotify⟩ :=
        notifyEach_cases next 0 listener listeners (new world stopped_)
      · rw [start_of_error next _ fuel hstop' heq, htrace]
        exact .inl rfl
      · rw [start_of_error next _ fuel hstop' heq, htrace]
        by_cases hindex : index = 0
        · left
          simp [new, hindex]
        · right
          refine ⟨⟨0, by omega, event, e, by simp⟩, ?_⟩
          simp [new, Ne.symm hindex]
      · -- neither fails, and the loop is not stopped
        rcases h with h | ⟨e, h⟩ | ⟨event', e, h, h'⟩
        · exact absurd h hstop
        · rw [hfetch] at h
          cases h
        · rw [hfetch] at h
          cases h
          rw [hnotify] at h'
          cases h'

/-- **The event loop.**  With one listener every event it fetches is delivered to it once and in
order, the first error ends the loop with that error, and there is no iteration after the one in
which it was stopped.  With more listeners no event goes to all of them, so this holds when the loop
ends before the first one has taken an event, and then only. -/
theorem serves_iff (next : Awaited σ T) (listener : T → Awaited σ Unit)
    (listeners : List (T → Awaited σ Unit)) (world : σ) (stopped_ : Bool) :
    Serves next (listener :: listeners) (new world stopped_) ↔
      listeners = [] ∨ EndsAtOnce next listener (new world stopped_) := by
  constructor
  · intro h
    cases listeners with
    | nil => exact .inl rfl
    | cons second listeners =>
      refine .inr (by_contra fun hnot => ?_)
      have hstop : (new (T := T) world stopped_).stopped_ = false := by
        simpa using fun hs => hnot (.inl hs)
      obtain ⟨e, after, -, -, hfetch⟩ | ⟨event, e, after, -, -, hfetch, hnotify⟩ |
        ⟨event, after, heq, htrace, -⟩ :=
        notifyEach_cases next 0 listener (second :: listeners) (new world stopped_)
      · exact hnot (.inr (.inl ⟨e, hfetch⟩))
      · exact hnot (.inr (.inr ⟨event, e, hfetch, hnotify⟩))
      · obtain ⟨index, hindex, hmiss⟩ := second_misses next listener second listeners heq htrace
        rw [← start_one next _ hstop] at hmiss
        exact hmiss (h.delivers 1 index (by simp only [List.length_cons]; omega))
  · rintro (rfl | h)
    · exact serves_single next listener world stopped_
    · apply serves_of_delivers
      intro fuel index _
      exact delivers_of_endsAtOnce next listener listeners world stopped_ h fuel index

def numbers : Awaited Nat Nat := fun n => (.ok n, false, n + 1)

def accepts : Nat → Awaited Nat Unit := fun _ n => (.ok (), false, n)

/-- with two listeners, event 0 goes to the first and event 1 to the second -/
theorem two_listeners_not_served : ¬ Serves numbers [accepts, accepts] (new 0 false) := by
  intro h
  have hdelivers := h.delivers 1 0 (show 0 < 2 by omega)
  have htrace : (start numbers [accepts, accepts] 1 (new 0 false)).2.trace =
      [.fetch (.ok 0), .notify 0 0 (.ok ()), .fetch (.ok 1), .notify 1 1 (.ok ())] := rfl
  rw [htrace] at hdelivers
  simp [Delivers] at hdelivers

end EventLoop
end

/-! ## The event handler -/

namespace EventHandler
variable {σ T D : Type}

/-- the one listener of the loop of an event handler: the event is transformed and stored -/
def notify (transformEvent : T → σ → D × σ) (storeEvent : D → Awaited σ Unit) (event : T) :
    Awaited σ Unit := fun world =>
  let (data, world) := transformEvent event world
  storeEvent data world

/-- **The event handler.**  Every event is transformed and stored once, in the order of the source,
until the first error or until the handler is stopped. -/
theorem start_serves (next : Awaited σ T) (transformEvent : T → σ → D × σ)
    (storeEvent : D → Awaited σ Unit) (world : σ) (stopped_ : Bool) :
    Serves next [notify transformEvent storeEvent] (EventLoop.new world stopped_) :=
  EventLoop.serves_single next _ world stopped_

end EventHandler
end Evget
