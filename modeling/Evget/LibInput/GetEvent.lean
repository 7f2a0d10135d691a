import Evget.Error
import Mathlib.Data.List.Basic

/-!
# The events of the libinput context

libinput keeps the events that it has not handed out in a queue, to which every dispatch appends.
`GetEvent` takes the first one, and polls and dispatches as long as the queue is empty.  Between its
calls `wait_for_poll_` says whether the queue may hold events that the next call can take at once.

* `Context`, `Polled`                     what poll and dispatch answer;
* `pollLoop`, `dispatch`, `getEvent`      the call, with at most `fuel` iterations of its loops;
* `LibInputContext.Ready`                 what `wait_for_poll_` says of the queue;
* `getEvent_does`                         what one call does with the queue;
* `calls_fifo`                            what every sequence of calls does with it.
-/

namespace Evget.LibInput

/-- a call was interrupted by a signal -/
def EINTR : Int := 4

/-- what poll returns, with errno; it does not return zero, as it is called without a timeout -/
structure Polled where
  result : Int
  errno : Int
  ready_or_failed : result ≠ 0

/-- libinput and its file descriptor, as calls on a world: a dispatch returns its status and the
events that it appends to the queue -/
structure Context (ω ε : Type) where
  poll : ω → Polled × ω
  dispatch : ω → Int × List ε × ω

/-- what a call has done: a poll, with the queue at which it waited, or a dispatch.  Every queued
event is kept with whether the dispatch that appended it has succeeded. -/
inductive ContextAction (ε : Type) where
  | poll (queue : List (ε × Bool)) (polled : Polled)
  | dispatch (status : Int) (events : List ε)

structure LibInputContext (ω ε : Type) where
  world : ω
  queue : List (ε × Bool)
  waitForPoll_ : Bool
  actions : List (ContextAction ε)

namespace LibInputContext
variable {ω ε : Type}

def start (world : ω) : LibInputContext ω ε := ⟨world, [], true, []⟩

/-- the context for a seat, where `udev_new`, `libinput_udev_create_context` and
`libinput_udev_assign_seat` answer so -/
def new (udev libinput : Bool) (assignSeat : String → Int) (seat : Option String) (world : ω) :
    Result (LibInputContext ω ε) :=
  let seatName := seat.getD "seat0"
  if !udev then .error ⟨.eventHandlerError, "unable to initialize udev"⟩
  else if !libinput then .error ⟨.eventHandlerError, "unable to initialize libinput"⟩
  else if assignSeat seatName ≠ 0 then
    .error ⟨.eventHandlerError, "unable to assign udev seat '" ++ seatName ++ "'"⟩
  else .ok (start world)

def pollLoop (context : Context ω ε) : Nat → LibInputContext ω ε →
    Option Polled × LibInputContext ω ε
  | 0, self => (none, self)
  | fuel + 1, self =>
    let (polled, world) := context.poll self.world
    let self :=
      { self with world := world, actions := self.actions ++ [.poll self.queue polled] }
    if polled.result < 0 ∧ polled.errno = EINTR then pollLoop context fuel self
    else (some polled, self)

def dispatch (context : Context ω ε) (self : LibInputContext ω ε) : Int × LibInputContext ω ε :=
  let (status, events, world) := context.dispatch self.world
  (status, { self with
    world := world
    queue := self.queue ++ events.map fun event => (event, decide (status = 0))
    actions := self.actions ++ [.dispatch status events] })

def takeEvent (self : LibInputContext ω ε) : Option ε × LibInputContext ω ε :=
  match self.queue with
  | [] => (none, { self with waitForPoll_ := true })
  | (event, _) :: queue => (some event, { self with queue := queue, waitForPoll_ := false })

def fill (context : Context ω ε) (fuel : Nat) (self : LibInputContext ω ε) :
    Option (Result Unit) × LibInputContext ω ε :=
  if self.waitForPoll_ then
    match pollLoop context fuel self with
    | (none, self) => (none, self)
    | (some polled, self) =>
      if polled.result ≤ 0 then
        (some (.error ⟨.eventHandlerError, "polling for events failed"⟩), self)
      else
        match dispatch context self with
        | (status, self) =>
          if status ≠ 0 then
            (some (.error ⟨.eventHandlerError, "unable to dispatch next event"⟩), self)
          else (some (.ok ()), self)
  else (some (.ok ()), self)

/-- the loop of `GetEvent`; no result when it goes on after `fuel` iterations -/
def eventLoop (context : Context ω ε) (polls : Nat) : Nat → LibInputContext ω ε →
    Option (Result ε) × LibInputContext ω ε
  | 0, self => (none, self)
  | fuel + 1, self =>
    match fill context polls self with
    | (none, self) => (none, self)
    | (some (.error e), self) => (some (.error e), self)
    | (some (.ok ()), self) =>
      match takeEvent self with
      | (some event, self) => (some (.ok event), self)
      | (none, self) => eventLoop context polls fuel self

def getEvent (context : Context ω ε) (fuel : Nat) (self : LibInputContext ω ε) :
    Option (Result ε) × LibInputContext ω ε :=
  eventLoop context fuel fuel { self with actions := [] }

structure Call (ε : Type) where
  result : Option (Result ε)
  actions : List (ContextAction ε)

/-- a sequence of calls, of which only the last one may go on -/
def calls (context : Context ω ε) : List Nat → LibInputContext ω ε →
    List (Call ε) × LibInputContext ω ε
  | [], self => ([], self)
  | fuel :: fuels, self =>
    match getEvent context fuel self with
    | (none, self) => ([⟨none, self.actions⟩], self)
    | (some result, self) =>
      let (log, last) := calls context fuels self
      (⟨some result, self.actions⟩ :: log, last)

end LibInputContext

/-! ## What a call does with the queue -/

section
variable {ω ε α : Type}

/-- the poll has failed, for another reason than a signal, or the dispatch has -/
def ContextAction.Fails : ContextAction ε → Prop
  | .poll _ polled => polled.result < 0 ∧ polled.errno ≠ EINTR
  | .dispatch status _ => status ≠ 0

/-- a poll is made without events of successful dispatches in the queue -/
def ContextAction.Waits : ContextAction ε → Prop
  | .poll queue _ => ∀ entry ∈ queue, entry.2 = false
  | .dispatch _ _ => True

def ContextAction.events : ContextAction ε → List ε
  | .poll _ _ => []
  | .dispatch _ events => events

def taken : Option (Result ε) → List ε
  | some (.ok event) => [event]
  | _ => []

namespace LibInputContext

/-- with `wait_for_poll_` no event of a successful dispatch is in the queue -/
def Ready (self : LibInputContext ω ε) : Prop :=
  self.waitForPoll_ = true → ∀ entry ∈ self.queue, entry.2 = false

/-- from `before` to `after` the `events` were taken from the queue, and `more` was done: the queue
is first in, first out, a poll waits without events, and an error is the error of an action -/
structure Does (before after : LibInputContext ω ε) (result : Option (Result α)) (events : List ε)
    (more : List (ContextAction ε)) : Prop where
  actions : after.actions = before.actions ++ more
  queue : before.queue.map Prod.fst ++ more.flatMap ContextAction.events =
    events ++ after.queue.map Prod.fst
  waits : before.Ready → ∀ action ∈ more, action.Waits
  errors : (∃ e, result = some (.error e)) ↔ ∃ action ∈ more, action.Fails

theorem Does.trans {a b c : LibInputContext ω ε} {done : α} {result : Option (Result ε)}
    {events : List ε} {first second : List (ContextAction ε)}
    (hab : Does a b (some (.ok done)) [] first) (hbc : Does b c result events second)
    (hready : a.Ready → b.Ready) : Does a c result events (first ++ second) where
  actions := by rw [hbc.actions, hab.actions, List.append_assoc]
  queue := by
    rw [List.flatMap_append, ← List.append_assoc, hab.queue, List.nil_append, hbc.queue]
  waits h action ha := by
    rcases List.mem_append.mp ha with ha | ha
    · exact hab.waits h action ha
    · exact hbc.waits (hready h) action ha
  errors := by
    have hfirst : ¬ ∃ action ∈ first, action.Fails := by
      rw [← hab.errors]
      simp
    rw [hbc.errors]
    constructor
    · rintro ⟨action, ha, hfails⟩
      exact ⟨action, List.mem_append_right _ ha, hfails⟩
    · rintro ⟨action, ha, hfails⟩
      rcases List.mem_append.mp ha with ha | ha
      · exact absurd ⟨action, ha, hfails⟩ hfirst
      · exact ⟨action, ha, hfails⟩

theorem Does.next {β : Type} {self mid after : LibInputContext ω ε} {done : Option (Result α)}
    {result : Option (Result β)} {events : List ε} {more : List (ContextAction ε)}
    (h : Does self mid done [] more) (hactions : after.actions = mid.actions)
    (hqueue : mid.queue.map Prod.fst = events ++ after.queue.map Prod.fst)
    (hresult : (∃ e, result = some (.error e)) ↔ ∃ e, done = some (.error e)) :
    Does self after result events more where
  actions := hactions.trans h.actions
  queue := h.queue.trans hqueue
  waits := h.waits
  errors := hresult.trans h.errors

/-! ## Polling -/

/-- polls of a queue, all of them interrupted but the last one -/
theorem pollLoop_spec (context : Context ω ε) (fuel : Nat) (self : LibInputContext ω ε) :
    ∃ more, (pollLoop context fuel self).2 = { self with
        world := (pollLoop context fuel self).2.world, actions := self.actions ++ more } ∧
      (∀ action ∈ more, ∃ polled, action = .poll self.queue polled) ∧
      ((∃ polled, (pollLoop context fuel self).1 = some polled ∧ polled.result ≤ 0) ↔
        ∃ action ∈ more, action.Fails) := by
  induction fuel generalizing self with
  | zero => exact ⟨[], by simp [pollLoop], by simp, by simp [pollLoop]⟩
  | succ fuel ih =>
    cases hpoll : context.poll self.world with
    | mk polled world =>
    by_cases hintr : polled.result < 0 ∧ polled.errno = EINTR
    · have hstep : pollLoop context (fuel + 1) self = pollLoop context fuel
          { self with world := world, actions := self.actions ++ [.poll self.queue polled] } := by
        rw [pollLoop, hpoll]
        exact if_pos hintr
      rw [hstep]
      obtain ⟨more, hafter, hpolls, hfails⟩ := ih
        { self with world := world, actions := self.actions ++ [.poll self.queue polled] }
      refine ⟨.poll self.queue polled :: more, ?_, ?_, ?_⟩
      · rw [hafter]
        simp
      · intro action ha
        rcases List.mem_cons.mp ha with rfl | ha
        · exact ⟨polled, rfl⟩
        · exact hpolls action ha
      · rw [hfails]
        simp [ContextAction.Fails, hintr.2]
    · have hstep : pollLoop context (fuel + 1) self = (some polled,
          { self with world := world, actions := self.actions ++ [.poll self.queue polled] }) := by
        rw [pollLoop, hpoll]
        exact if_neg hintr
      rw [hstep]
      refine ⟨[.poll self.queue polled], rfl, by simp, ?_⟩
      have hnonzero := polled.ready_or_failed
      constructor
      · rintro ⟨p, hp, hle⟩
        cases hp
        have hneg : polled.result < 0 := by omega
        exact ⟨_, List.mem_singleton_self _, hneg, fun h => hintr ⟨hneg, h⟩⟩
      · rintro ⟨action, ha, hfails⟩
        rw [List.mem_singleton.mp ha] at hfails
        exact ⟨polled, rfl, Int.le_of_lt hfails.1⟩

/-! ## One call -/

theorem pollLoop_does (context : Context ω ε) (fuel : Nat) {self mid : LibInputContext ω ε}
    {answer : Option Polled} (hwait : self.waitForPoll_ = true)
    (h : pollLoop context fuel self = (answer, mid)) :
    ∃ more, mid = { self with world := mid.world, actions := self.actions ++ more } ∧
      more.flatMap ContextAction.events = [] ∧
      (self.Ready → ∀ action ∈ more, action.Waits) ∧
      ((∃ polled, answer = some polled ∧ polled.result ≤ 0) ↔ ∃ action ∈ more, action.Fails) := by
  obtain ⟨more, hafter, hpolls, hfails⟩ := pollLoop_spec context fuel self
  rw [h] at hafter hfails
  refine ⟨more, hafter, ?_, ?_, hfails⟩
  · rw [List.flatMap_eq_nil_iff]
    intro action ha
    obtain ⟨polled, rfl⟩ := hpolls action ha
    rfl
  · intro hready action ha
    obtain ⟨polled, rfl⟩ := hpolls action ha
    exact hready hwait

theorem dispatch_does (context : Context ω ε) {self mid : LibInputContext ω ε}
    {more : List (ContextAction ε)} (result : Option (Result Unit))
    (hmid : mid = { self with world := mid.world, actions := self.actions ++ more })
    (hevents : more.flatMap ContextAction.events = [])
    (hwaits : self.Ready → ∀ action ∈ more, action.Waits)
    (hnone : ¬ ∃ action ∈ more, action.Fails)
    (hresult : (∃ e, result = some (.error e)) ↔ (dispatch context mid).1 ≠ 0) :
    ∃ more, Does self (dispatch context mid).2 result [] more ∧
      (self.Ready → (dispatch context mid).1 ≠ 0 → (dispatch context mid).2.Ready) := by
  cases hd : context.dispatch mid.world with
  | mk status rest =>
  obtain ⟨events, world⟩ := rest
  have hdispatch : dispatch context mid = (status, { mid with
      world := world
      queue := mid.queue ++ events.map fun event => (event, decide (status = 0))
      actions := mid.actions ++ [.dispatch status events] }) := by rw [dispatch, hd]
  rw [hdispatch] at hresult ⊢
  rw [hmid]
  refine ⟨more ++ [.dispatch status events], ⟨by simp, ?_, ?_, ?_⟩, ?_⟩
  · simp [hevents, ContextAction.events, Function.comp_def]
  · intro hready action ha
    rcases List.mem_append.mp ha with ha | ha
    · exact hwaits hready action ha
    · rw [List.mem_singleton.mp ha]
      trivial
  · rw [hresult]
    constructor
    · intro hstatus
      exact ⟨_, List.mem_append_right _ (List.mem_singleton_self _), hstatus⟩
    · rintro ⟨action, ha, hfails⟩
      rcases List.mem_append.mp ha with ha | ha
      · exact absurd ⟨action, ha, hfails⟩ hnone
      · rw [List.mem_singleton.mp ha] at hfails
        exact hfails
  · intro hready hstatus hwait entry hentry
    rcases List.mem_append.mp hentry with hentry | hentry
    · exact hready hwait entry hentry
    · obtain ⟨event, -, rfl⟩ := List.mem_map.mp hentry
      exact decide_eq_false hstatus

theorem fill_does (context : Context ω ε) (fuel : Nat) (self : LibInputContext ω ε) :
    ∃ more, Does self (fill context fuel self).2 (fill context fuel self).1 [] more ∧
      (self.Ready → (fill context fuel self).1 ≠ some (.ok ()) →
        (fill context fuel self).2.Ready) := by
  by_cases hwait : self.waitForPoll_ = true
  · cases hpoll : pollLoop context fuel self with
    | mk answer mid =>
    obtain ⟨more, hmid, hevents, hwaits, hfails⟩ := pollLoop_does context fuel hwait hpoll
    cases answer with
    | none =>
      have hfill : fill context fuel self = (none, mid) := by rw [fill, if_pos hwait, hpoll]
      rw [hfill, hmid]
      refine ⟨more, ⟨rfl, by simp [hevents], hwaits, ?_⟩, fun hready _ => hready⟩
      rw [← hfails]
      simp
    | some polled =>
      by_cases hle : polled.result ≤ 0
      · have hfill : fill context fuel self =
            (some (.error ⟨.eventHandlerError, "polling for events failed"⟩), mid) := by
          rw [fill, if_pos hwait, hpoll]
          exact if_pos hle
        rw [hfill, hmid]
        refine ⟨more, ⟨rfl, by simp [hevents], hwaits, ?_⟩, fun hready _ => hready⟩
        rw [← hfails]
        simp [hle]
      · have hnone : ¬ ∃ action ∈ more, action.Fails := by
          rw [← hfails]
          simpa using hle
        by_cases hstatus : (dispatch context mid).1 ≠ 0
        · have hfill : fill context fuel self =
              (some (.error ⟨.eventHandlerError, "unable to dispatch next event"⟩),
                (dispatch context mid).2) := by
            rw [fill, if_pos hwait, hpoll]
            show (if polled.result ≤ 0 then _ else _) = _
            rw [if_neg hle]
            exact if_pos hstatus
          rw [hfill]
          obtain ⟨all, hdoes, hready⟩ := dispatch_does context
            (some (.error ⟨.eventHandlerError, "unable to dispatch next event"⟩))
            hmid hevents hwaits hnone (by simp [hstatus])
          exact ⟨all, hdoes, fun h _ => hready h hstatus⟩
        · have hfill : fill context fuel self = (some (.ok ()), (dispatch context mid).2) := by
            rw [fill, if_pos hwait, hpoll]
            show (if polled.result ≤ 0 then _ else _) = _
            rw [if_neg hle]
            exact if_neg hstatus
          rw [hfill]
          obtain ⟨all, hdoes, -⟩ := dispatch_does context (some (.ok ())) hmid hevents hwaits
            hnone (by simpa using hstatus)
          exact ⟨all, hdoes, fun _ hok => absurd rfl hok⟩
  · have hfill : fill context fuel self = (some (.ok ()), self) := by rw [fill, if_neg hwait]
    rw [hfill]
    exact ⟨[], ⟨by simp, by simp, by simp, by simp⟩, fun _ hok => absurd rfl hok⟩

/-- taking an event leaves `wait_for_poll_` right, whatever it was -/
theorem takeEvent_spec (self : LibInputContext ω ε) :
    self.queue.map Prod.fst = (takeEvent self).1.toList ++ (takeEvent self).2.queue.map Prod.fst ∧
      (takeEvent self).2.actions = self.actions ∧ (takeEvent self).2.Ready := by
  unfold takeEvent
  cases hq : self.queue with
  | nil => exact ⟨rfl, rfl, fun _ => by simp⟩
  | cons entry queue => exact ⟨rfl, rfl, fun hwait => by cases hwait⟩

/-- **One call.**  It hands out the first event of the queue, it polls without events of successful
dispatches in the queue, and it returns an error when a poll or a dispatch has failed. -/
theorem eventLoop_does (context : Context ω ε) (polls fuel : Nat) (self : LibInputContext ω ε) :
    ∃ more, Does self (eventLoop context polls fuel self).2 (eventLoop context polls fuel self).1
        (taken (eventLoop context polls fuel self).1) more ∧
      (self.Ready → (eventLoop context polls fuel self).2.Ready) := by
  induction fuel generalizing self with
  | zero =>
    exact ⟨[], ⟨by simp [eventLoop], by simp [eventLoop, taken], by simp, by simp [eventLoop]⟩, id⟩
  | succ fuel ih =>
    obtain ⟨more, hfill, hready⟩ := fill_does context polls self
    cases hf : fill context polls self with
    | mk answer mid =>
    rw [hf] at hfill hready
    match answer with
    | none =>
      have hloop : eventLoop context polls (fuel + 1) self = (none, mid) := by rw [eventLoop, hf]
      rw [hloop]
      exact ⟨more, hfill.next rfl rfl (by simp), fun h => hready h (by simp)⟩
    | some (.error e) =>
      have hloop : eventLoop context polls (fuel + 1) self = (some (.error e), mid) := by
        rw [eventLoop, hf]
      rw [hloop]
      exact ⟨more, hfill.next rfl rfl (by simp), fun h => hready h (by simp)⟩
    | some (.ok ()) =>
      obtain ⟨hqueue, hactions, hnext⟩ := takeEvent_spec mid
      cases ht : takeEvent mid with
      | mk answer next =>
      rw [ht] at hqueue hactions hnext
      cases answer with
      | some event =>
        have hloop : eventLoop context polls (fuel + 1) self = (some (.ok event), next) := by
          rw [eventLoop, hf]
          show (match takeEvent mid with | (some event, self) => _ | (none, self) => _) = _
          rw [ht]
        rw [hloop]
        exact ⟨more, hfill.next hactions hqueue (by simp), fun _ => hnext⟩
      | none =>
        -- the queue was empty, and the loop goes on
        have hloop : eventLoop context polls (fuel + 1) self =
            eventLoop context polls fuel next := by
          rw [eventLoop, hf]
          show (match takeEvent mid with | (some event, self) => _ | (none, self) => _) = _
          rw [ht]
        rw [hloop]
        have hstep : Does self next (some (.ok ())) [] more := hfill.next hactions hqueue .rfl
        obtain ⟨rest, hdoes, hafter⟩ := ih next
        exact ⟨more ++ rest, hstep.trans hdoes fun _ => hnext, fun _ => hafter hnext⟩

theorem getEvent_does (context : Context ω ε) (fuel : Nat) (self : LibInputContext ω ε)
    (h : self.Ready) :
    self.queue.map Prod.fst ++
        (getEvent context fuel self).2.actions.flatMap ContextAction.events =
      taken (getEvent context fuel self).1 ++ (getEvent context fuel self).2.queue.map Prod.fst ∧
    (∀ action ∈ (getEvent context fuel self).2.actions, action.Waits) ∧
    ((∃ e, (getEvent context fuel self).1 = some (.error e)) ↔
      ∃ action ∈ (getEvent context fuel self).2.actions, action.Fails) ∧
    (getEvent context fuel self).2.Ready := by
  obtain ⟨more, hdoes, hready⟩ := eventLoop_does context fuel fuel { self with actions := [] }
  have hactions : (getEvent context fuel self).2.actions = more := hdoes.actions
  rw [hactions]
  exact ⟨hdoes.queue, hdoes.waits h, hdoes.errors, hready h⟩

/-! ## Sequences of calls -/

/-- what a call does alone: it polls without events of successful dispatches in the queue, and it
returns an error exactly when a poll or a dispatch of it has failed -/
structure Call.Sound (call : Call ε) : Prop where
  waits : ∀ action ∈ call.actions, action.Waits
  errors : (∃ e, call.result = some (.error e)) ↔ ∃ action ∈ call.actions, action.Fails

def queued (log : List (Call ε)) : List ε :=
  log.flatMap fun call => call.actions.flatMap ContextAction.events

def returned (log : List (Call ε)) : List ε := log.flatMap fun call => taken call.result

theorem calls_from (context : Context ω ε) (fuels : List Nat) (self : LibInputContext ω ε)
    (h : self.Ready) :
    self.queue.map Prod.fst ++ queued (calls context fuels self).1 =
      returned (calls context fuels self).1 ++ (calls context fuels self).2.queue.map Prod.fst ∧
    ∀ call ∈ (calls context fuels self).1, call.Sound := by
  induction fuels generalizing self with
  | nil => simp [calls, queued, returned]
  | cons fuel fuels ih =>
    obtain ⟨hqueue, hwaits, herrors, hready⟩ := getEvent_does context fuel self h
    cases hcall : getEvent context fuel self with
    | mk result after =>
    rw [hcall] at hqueue hwaits herrors hready
    cases result with
    | none =>
      have hcalls : calls context (fuel :: fuels) self = ([⟨none, after.actions⟩], after) := by
        rw [calls, hcall]
      rw [hcalls]
      refine ⟨by simpa [queued, returned] using hqueue, fun call hc => ?_⟩
      rw [List.mem_singleton.mp hc]
      exact ⟨hwaits, herrors⟩
    | some result =>
      have hcalls : calls context (fuel :: fuels) self =
          (⟨some result, after.actions⟩ :: (calls context fuels after).1,
            (calls context fuels after).2) := by
        rw [calls, hcall]
      rw [hcalls]
      obtain ⟨hrest, hsound⟩ := ih after hready
      refine ⟨?_, fun call hc => ?_⟩
      · simp only [queued, returned, List.flatMap_cons] at hrest ⊢
        rw [← List.append_assoc, hqueue, List.append_assoc, List.append_assoc, hrest]
      · rcases List.mem_cons.mp hc with rfl | hc
        · exact ⟨hwaits, herrors⟩
        · exact hsound call hc

theorem new_ok {udev libinput : Bool} {assignSeat : String → Int} {seat : Option String} {world : ω}
    {self : LibInputContext ω ε} (h : new udev libinput assignSeat seat world = .ok self) :
    self = start world := by
  unfold new at h
  by_cases hudev : udev = true <;> by_cases hlibinput : libinput = true <;>
    by_cases hseat : assignSeat (seat.getD "seat0") = 0 <;>
    simp [hudev, hlibinput, hseat] at h
  exact h.symm

end LibInputContext
end
end Evget.LibInput
