import Evget.X11.Answers
import Evget.X11.Characters

/-!
# Screens and properties

`X11` finds the screen of the pointer by asking about one screen after the other.  It reads the name
of a window, and which window is active, from properties; a property has a name, which is an atom
only when somebody has interned it.

* `XServer`                        the functions of Xlib and XInput that are called for that;
* `getProperty`, `getWindowName`, `getActiveWindow`, `getFocusWindow`, `queryPointer`
                                   what `X11` makes of them;
* `queryPointer_on`                **the screen** is the first one that the pointer is on;
* `getWindowName_zero`             there is nothing to say about the window 0;
* `capture_screens`                **whatever a store receives** shows such a screen, and no
                                   window 0.
-/

set_option linter.unusedSectionVars false

namespace Evget.X11
open SQLite Calls Steps

variable {ω : Type}

/-! ## requests -/

/-- what `XIQueryPointer` writes -/
structure XPointer where
  rootX : Double
  rootY : Double
  modifierState : UInt32
deriving DecidableEq, Repr

def XPointer.on (pointer : XPointer) (screenNumber : Nat) : QueryPointerResult :=
  ⟨pointer.rootX, pointer.rootY, pointer.modifierState, screenNumber⟩

/-- a property with the bytes that it has in memory -/
structure GetPropertyResult where
  nItems : Nat := 0
  type : Atom := 0
  size : Int := 0
  property : Option (List UInt8) := none
deriving DecidableEq, Repr

structure XServer (ω : Type) extends Xlib ω where
  /-- the atom of a name, if it has one already -/
  xInternAtom : List UInt8 → ω → Atom × ω
  xGetWindowProperty : Window → Atom → ω → (Int × GetPropertyResult) × ω
  xGetInputFocus : ω → (Int × Window) × ω
  defaultRootWindow : Window
  /-- the root windows of the screens -/
  rootWindows : List Window
  /-- whether the pointer is on the screen of this root window, and what is written in the place of
  what has been written before -/
  xiQueryPointer : Int → Window → XPointer → ω → (Bool × XPointer) × ω
  /-- what a state of modifiers holds that nothing has been written to -/
  unwritten : UInt32

namespace XServer

def kWindowPropertySize : Int := 32

def getAtom (server : XServer ω) (atomName : List UInt8) (world : ω) : Option Atom × ω :=
  let (atom, world) := server.xInternAtom atomName world
  (if atom = 0 then none else some atom, world)

/-- there are two messages for the log when there is no property, but one result -/
def getProperty (server : XServer ω) (atom : Atom) (window : Window) (world : ω) :
    GetPropertyResult × ω :=
  if window = 0 then ({}, world)
  else
    let ((status, result), world) := server.xGetWindowProperty window atom world
    (if status = success then result else {}, world)

def propertyText (result : GetPropertyResult) : List UInt8 :=
  (result.property.getD []).take result.nItems

def getWindowName (server : XServer ω) (window : Window) (world : ω) :
    Option (List UInt8) × ω :=
  match server.getAtom (bytes "_NET_WM_NAME") world with
  | (none, world) => (none, world)
  | (some atom, world) =>
    let (name, world) := server.getProperty atom window world
    if name.nItems = 0 then
      match server.getAtom (bytes "WM_NAME") world with
      | (none, world) => (none, world)
      | (some atom, world) =>
        let (name, world) := server.getProperty atom window world
        (some (propertyText name), world)
    else (some (propertyText name), world)

/-- a window in memory: eight bytes, the lowest one first -/
def windowOf (data : List UInt8) : Window :=
  (data.take 8).foldr (fun byte window => byte.toNat + 256 * window) 0

def getActiveWindow (server : XServer ω) (world : ω) : Option Window × ω :=
  match server.getAtom (bytes "_NET_ACTIVE_WINDOW") world with
  | (none, world) => (none, world)
  | (some atom, world) =>
    let (window, world) := server.getProperty atom server.defaultRootWindow world
    match window.property with
    | none => (none, world)
    | some data =>
      if window.nItems > 0 ∧ window.size = kWindowPropertySize then (some (windowOf data), world)
      else (none, world)

def getFocusWindow (server : XServer ω) (world : ω) : Option Window × ω :=
  let ((status, window), world) := server.xGetInputFocus world
  (if status = success then some window else none, world)

/-- the loop over the screens, which has come to this number -/
def queryScreens (server : XServer ω) (deviceId : Int) : List Window → Nat → XPointer → ω →
    QueryPointerResult × ω
  | [], _, pointer, world => (pointer.on 0, world)
  | root :: roots, number, pointer, world =>
    let ((result, pointer), world) := server.xiQueryPointer deviceId root pointer world
    if result then (pointer.on number, world)
    else queryScreens server deviceId roots (number + 1) pointer world

/-- what has been written before the first screen is asked about -/
def start (server : XServer ω) : XPointer := ⟨.finite false 0, .finite false 0, server.unwritten⟩

def queryPointer (server : XServer ω) (deviceId : Int) (world : ω) : QueryPointerResult × ω :=
  server.queryScreens deviceId server.rootWindows 0 server.start world

def api (server : XServer ω) (api : X11Api ω) : X11Api ω :=
  { server.toXlib.api api with
    getActiveWindow := server.getActiveWindow
    getFocusWindow := server.getFocusWindow
    getWindowName := server.getWindowName
    queryPointer := server.queryPointer }

/-! ## the screen of the pointer -/

/-- these screens have been asked about, and the pointer is on none of them -/
inductive Missed (server : XServer ω) (deviceId : Int) :
    List Window → XPointer × ω → XPointer × ω → Prop
  | nil {asked : XPointer × ω} : Missed server deviceId [] asked asked
  | cons {root : Window} {roots : List Window} {pointer pointer' : XPointer} {world world' : ω}
      {last : XPointer × ω}
      (hasked : server.xiQueryPointer deviceId root pointer world = ((false, pointer'), world'))
      (hrest : Missed server deviceId roots (pointer', world') last) :
    Missed server deviceId (root :: roots) (pointer, world) last

/-- the answer of the first screen that the pointer is on, with its number; if there is none, what
the last answer has left, as that of the screen 0 -/
inductive PointerOn (server : XServer ω) (deviceId : Int) (world : ω) :
    QueryPointerResult → ω → Prop
  | found {before after : List Window} {root : Window} {pointer pointer' : XPointer}
      {asked world' : ω} (hroots : server.rootWindows = before ++ root :: after)
      (hmissed : Missed server deviceId before (server.start, world) (pointer, asked))
      (hfound : server.xiQueryPointer deviceId root pointer asked = ((true, pointer'), world')) :
    PointerOn server deviceId world (pointer'.on before.length) world'
  | nowhere {pointer : XPointer} {world' : ω}
      (hmissed : Missed server deviceId server.rootWindows (server.start, world)
        (pointer, world')) :
    PointerOn server deviceId world (pointer.on 0) world'

theorem queryScreens_spec (server : XServer ω) (deviceId : Int) (roots : List Window) (number : Nat)
    (pointer : XPointer) (world : ω) :
    let last := server.queryScreens deviceId roots number pointer world
    (∃ before root after missed asked found, roots = before ++ root :: after ∧
      Missed server deviceId before (pointer, world) (missed, asked) ∧
      server.xiQueryPointer deviceId root missed asked = ((true, found), last.2) ∧
      last.1 = found.on (number + before.length)) ∨
    ∃ missed, Missed server deviceId roots (pointer, world) (missed, last.2) ∧
      last.1 = missed.on 0 := by
  induction roots generalizing number pointer world with
  | nil => exact .inr ⟨pointer, .nil, rfl⟩
  | cons root roots ih =>
    unfold queryScreens
    rcases h : server.xiQueryPointer deviceId root pointer world with ⟨⟨result, pointer'⟩, world'⟩
    cases result with
    | true => exact .inl ⟨[], root, roots, pointer, world, pointer', rfl, .nil, h, rfl⟩
    | false =>
      rcases ih (number + 1) pointer' world' with
        ⟨before, screen, after, missed, asked, found, hroots, hmissed, hfound, hresult⟩ |
        ⟨missed, hmissed, hresult⟩
      · refine .inl ⟨root :: before, screen, after, missed, asked, found, ?_, .cons h hmissed,
          hfound, ?_⟩
        · rw [hroots, List.cons_append]
        · rw [List.length_cons, ← Nat.add_assoc, Nat.add_right_comm]
          exact hresult
      · exact .inr ⟨missed, .cons h hmissed, hresult⟩

/-- **The screen** is the first one that the pointer is on. -/
theorem queryPointer_on (server : XServer ω) (deviceId : Int) (world : ω) :
    PointerOn server deviceId world (server.queryPointer deviceId world).1
      (server.queryPointer deviceId world).2 := by
  rcases queryScreens_spec server deviceId server.rootWindows 0 server.start world with
    ⟨before, root, after, missed, asked, found, hroots, hmissed, hfound, hresult⟩ |
    ⟨missed, hmissed, hresult⟩
  · rw [Nat.zero_add] at hresult
    exact hresult ▸ .found hroots hmissed hfound
  · exact hresult ▸ .nowhere hmissed

/-! ## the window 0 -/

/-- the window 0, which stands for no window, has no name -/
theorem getWindowName_zero (server : XServer ω) (world : ω) :
    fromString (server.getWindowName 0 world).1 = [] := by
  have hnone : ∀ (atom : Atom) (world : ω), server.getProperty atom 0 world = ({}, world) :=
    fun _ _ => if_pos rfl
  unfold getWindowName
  rcases server.getAtom (bytes "_NET_WM_NAME") world with ⟨_ | atom, world₁⟩
  · rfl
  · simp only [hnone, if_true]
    rcases server.getAtom (bytes "WM_NAME") world₁ with ⟨_ | atom', world₂⟩
    · rfl
    · rfl

/-- the entry shows the screen of the pointer, and after that what is said of a window other than 0,
or nothing of a window -/
structure Screened (server : XServer ω) (base : X11Api ω) (pointerId : Int) (world : ω)
    (entry : Entry) (world' : ω) : Prop where
  pointer : ∃ result asked, server.PointerOn pointerId world result asked ∧
    Later (server.api base) asked world' ∧ ShowsPointer result entry
  window : ShowsAnswers {} entry ∨ ∃ asked window answers,
    (currentWindow (server.api base) asked).1 = some window ∧ window ≠ 0 ∧
      AsksWindow (server.api base) asked answers world' ∧ ShowsAnswers answers entry

theorem screened {server : XServer ω} {base : X11Api ω} {pointerId : Int} {world world' : ω}
    {entry : Entry} (h : Answered (server.api base) pointerId world entry world') :
    server.Screened base pointerId world entry world' := by
  obtain ⟨hpointer, asked, answers, hlater, hasks, hshows⟩ := h
  refine ⟨⟨_, _, server.queryPointer_on pointerId world, hlater.trans hasks.later, hpointer⟩, ?_⟩
  cases hasks with
  | none _ => exact .inl hshows
  | @some w₁ w₂ w₃ _ window name position size hwindow hname hposition hsize =>
    by_cases hzero : window = 0
    · subst hzero
      obtain rfl : position = none := (congrArg Prod.fst hposition).symm
      obtain rfl : size = none := (congrArg Prod.fst hsize).symm
      obtain rfl : (server.getWindowName 0 w₁).1 = name := congrArg Prod.fst hname
      have hempty := server.getWindowName_zero w₁
      exact .inl ⟨hshows.name.trans hempty, hshows.positionX, hshows.positionY, hshows.width,
        hshows.height⟩
    · exact .inr ⟨asked, window, _, congrArg Prod.fst hwindow, hzero,
        .some hwindow hname hposition hsize, hshows⟩

end XServer

/-! ## runs -/

section
variable {S ι : Type} [DecidableEq S] [DecidableEq ι]
open Capture DatabaseManager

/-- **Screens and windows**, in every schedule of the handler, the timer and the threads, whatever
is left of the events when they are transformed: every entry that a store receives shows the answer
of the first screen that the pointer is on, at some time after the creation, with the number of this
screen; and it says nothing of a window, or what X says of a window other than 0. -/
theorem capture_screens {display : Display ω} {server : XServer ω} {base : X11Api ω}
    (hapi : display.api = server.api base) {displayName : Option String} {world : ω}
    {source : Source ω}
    (hcreate : Backend.create display displayName world = .ok (.ok source)) (clock : Nat → Int)
    (found : Nat → XIRawEvent) (nEvents : Nat) (allowed : Option (Finset DeviceType))
    {storeIn : List S} (hstores : storeIn.Nodup) (fuel : Nat) (workers : ι → Worker)
    (sched : List (Option ι)) :
    let p := Capture.run (capture display clock found) nEvents allowed storeIn fuel source workers
      sched
    ∀ store, ∀ entry ∈ p.object.received store, ∃ pointerId asked answered,
      display.Later world asked ∧
        (pointerId = 0 ∨ PointerListed display world asked pointerId) ∧
        server.Screened base pointerId asked entry answered := by
  intro p store entry hentry
  obtain ⟨last, hexpected⟩ := expected_observed hcreate clock found allowed fuel
  obtain ⟨asked, answered, hlater, ⟨pointerId, hpointer, hanswered⟩, -⟩ :=
    hexpected.mem (fun _ _ _ h => h.later)
      ((received_subperm hstores capture_decodes sched store).subset hentry)
  rw [hapi] at hanswered
  exact ⟨pointerId, asked, answered, hlater, hpointer, XServer.screened hanswered⟩

/-! ### two screens -/

def twoScreens : XServer Unit :=
  { windowXlib ⟨10, 20, 640, 480, 1⟩ with
    xInternAtom := fun _ _ => (5, ())
    xGetWindowProperty := fun _ _ _ => ((success, ⟨1, 33, 32, some [7, 0, 0, 0, 0, 0, 0, 0]⟩), ())
    xGetInputFocus := fun _ => ((1, 0), ())
    defaultRootWindow := 1
    rootWindows := [1, 2]
    xiQueryPointer := fun _ root _ _ =>
      ((root = 2, ⟨.finite false 3, .finite false 4, 0⟩), ())
    unwritten := 0 }

def twoScreensDisplay : Display Unit :=
  { keyDisplay with api := twoScreens.api keyDisplay.api }

theorem capture_screens_second : ∃ source,
    Backend.create twoScreensDisplay none () = .ok (.ok source) ∧
    let p := Capture.run (capture twoScreensDisplay (fun _ => 0) fun _ => keyPressed) 1 none [0] 1
      source (fun _ : Unit => .thread [.resume 0]) [none, none, none, none, some ()]
    (p.object.received 0).map (LibInput.text "screen") = [bytes "1"] ∧
      ∀ store, ∀ entry ∈ p.object.received store, ∃ pointerId asked answered,
        twoScreensDisplay.Later () asked ∧
          (pointerId = 0 ∨ PointerListed twoScreensDisplay () asked pointerId) ∧
          twoScreens.Screened keyDisplay.api pointerId asked entry answered := by
  refine ⟨_, rfl, rfl, ?_⟩
  exact capture_screens rfl
    (show Backend.create twoScreensDisplay none () = .ok (.ok _) from rfl) (fun _ => 0)
    (fun _ => keyPressed) 1 none (List.nodup_singleton 0) 1
    (fun _ : Unit => .thread [.resume 0]) [none, none, none, none, some ()]

end

end Evget.X11
