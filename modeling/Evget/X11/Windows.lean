import Evget.X11.Valuators

/-!
# The window of an entry

`X11` asks Xlib for the attributes of a window and for its place on the root window.  Xlib gives
integers with a sign; position and size go on as `XWindowDimensions`, which has none.

* `Xlib`                        the functions of Xlib that are asked about windows;
* `getWindowAttributes`, `getWindowSize`, `getWindowPosition`   what `X11` makes of them;
* `rootPosition`                where the window is, as Xlib says;
* `double_toUnsigned_iff`       the integers that an unsigned one keeps;
* `setWindowFields_records_iff` **the fields of the window** are right when nothing is negative.
-/

namespace Evget.X11
open SQLite

variable {ω : Type}

structure XWindowAttributes where
  x : Int32
  y : Int32
  width : Int32
  height : Int32
  root : Window
deriving DecidableEq, Repr

/-- the answers of Xlib: no attributes when `XGetWindowAttributes` fails, the parent of a window as
`XQueryTree` leaves it, and the coordinates of the origin of a window in another one -/
structure Xlib (ω : Type) where
  xGetWindowAttributes : Window → ω → Option XWindowAttributes × ω
  xQueryTree : Window → ω → Window × ω
  xTranslateCoordinates : Window → Window → ω → (Int32 × Int32) × ω

/-- `const unsigned int` of an `int` -/
def toUnsigned (n : Int32) : Nat := n.toUInt32.toNat

namespace Xlib

def getWindowAttributes (xlib : Xlib ω) (window : Window) (world : ω) :
    Option XWindowAttributes × ω :=
  if window = 0 then (none, world) else xlib.xGetWindowAttributes window world

def getWindowSize (xlib : Xlib ω) (window : Window) (world : ω) :
    Option XWindowDimensions × ω :=
  match xlib.getWindowAttributes window world with
  | (none, world) => (none, world)
  | (some attributes, world) =>
    (some ⟨toUnsigned attributes.width, toUnsigned attributes.height⟩, world)

def getWindowPosition (xlib : Xlib ω) (window : Window) (world : ω) :
    Option XWindowDimensions × ω :=
  match xlib.getWindowAttributes window world with
  | (none, world) => (none, world)
  | (some attributes, world) =>
    let (parent, world) := xlib.xQueryTree window world
    let ((xPos, yPos), world) :=
      if parent = attributes.root then ((attributes.x, attributes.y), world)
      else xlib.xTranslateCoordinates window attributes.root world
    (some ⟨toUnsigned xPos, toUnsigned yPos⟩, world)

def rootPosition (xlib : Xlib ω) (window : Window) (world : ω) : Option (Int32 × Int32) × ω :=
  match xlib.getWindowAttributes window world with
  | (none, world) => (none, world)
  | (some attributes, world) =>
    let (parent, world) := xlib.xQueryTree window world
    let (position, world) :=
      if parent = attributes.root then ((attributes.x, attributes.y), world)
      else xlib.xTranslateCoordinates window attributes.root world
    (some position, world)

theorem getWindowPosition_eq (xlib : Xlib ω) (window : Window) (world : ω) :
    xlib.getWindowPosition window world
      = ((xlib.rootPosition window world).1.map fun position =>
          ⟨toUnsigned position.1, toUnsigned position.2⟩, (xlib.rootPosition window world).2) := by
  unfold getWindowPosition rootPosition
  rcases xlib.getWindowAttributes window world with ⟨_ | attributes, _⟩ <;> rfl

def api (xlib : Xlib ω) (api : X11Api ω) : X11Api ω :=
  { api with
    getWindowSize := xlib.getWindowSize
    getWindowPosition := xlib.getWindowPosition }

end Xlib

def currentWindow (api : X11Api ω) (world : ω) : Option Window × ω :=
  match api.getActiveWindow world with
  | (some window, world) => (some window, world)
  | (none, world) => api.getFocusWindow world

/-! ## signs -/

/-- an unsigned integer shows the signed one that it was made of when that is not negative -/
theorem double_toUnsigned_iff (n : Int32) :
    EventSwitch.double (toUnsigned n) = integer n.toInt ↔ 0 ≤ n.toInt := by
  have hcases : n.toInt = if 2 * toUnsigned n < 4294967296 then (toUnsigned n : Int)
      else (toUnsigned n : Int) - 4294967296 := BitVec.toInt_eq_toNat_cond n.toBitVec
  have hlt : toUnsigned n < 4294967296 := n.toBitVec.isLt
  unfold EventSwitch.double integer
  constructor
  · intro h
    obtain ⟨hsign, -⟩ := Double.finite.inj h
    exact Int.not_lt.mp (of_decide_eq_false hsign.symm)
  · intro h
    have heq : n.toInt = (toUnsigned n : Int) := by
      split at hcases <;> omega
    rw [if_neg (Int.not_lt.mpr h), decide_eq_false (Int.not_lt.mpr h), heq]
    rfl

/-! ## the fields of the window -/

structure ShowsWindow (x y : Int32) (attributes : XWindowAttributes) (base : Base) : Prop where
  positionX : base.focusWindowPositionX_ = some (integer x.toInt)
  positionY : base.focusWindowPositionY_ = some (integer y.toInt)
  width : base.focusWindowWidth_ = some (integer attributes.width.toInt)
  height : base.focusWindowHeight_ = some (integer attributes.height.toInt)

theorem setWindowFields_some (api : X11Api ω) (base : Base) {window : Window}
    {position size : XWindowDimensions} {world w₁ w₂ w₃ : ω}
    (hwindow : currentWindow api world = (some window, w₁))
    (hposition : api.getWindowPosition window (api.getWindowName window w₁).2
      = (some position, w₂))
    (hsize : api.getWindowSize window w₂ = (some size, w₃)) :
    let fields := (EventSwitch.setWindowFields api world).1 base
    fields.focusWindowPositionX_ = some (EventSwitch.double position.width) ∧
      fields.focusWindowPositionY_ = some (EventSwitch.double position.height) ∧
      fields.focusWindowWidth_ = some (EventSwitch.double size.width) ∧
      fields.focusWindowHeight_ = some (EventSwitch.double size.height) := by
  rcases hname : api.getWindowName window w₁ with ⟨name, w⟩
  rw [hname] at hposition
  unfold currentWindow at hwindow
  rcases hactive : api.getActiveWindow world with ⟨_ | active, w₀⟩
  · rw [hactive] at hwindow
    simp only [EventSwitch.setWindowFields, hactive, hwindow, hname, hposition, hsize]
    exact ⟨rfl, rfl, rfl, rfl⟩
  · rw [hactive] at hwindow
    obtain ⟨hactive', rfl⟩ := Prod.mk.inj hwindow
    obtain rfl : active = window := Option.some.inj hactive'
    simp only [EventSwitch.setWindowFields, hactive, hname, hposition, hsize]
    exact ⟨rfl, rfl, rfl, rfl⟩

/-- **When the window is recorded as it is**: for every builder, exactly when the window is not off
the left or the top edge; sizes are not negative. -/
theorem setWindowFields_records_iff (xlib : Xlib ω) (api : X11Api ω) (base : Base)
    {window : Window} {x y : Int32} {attributes : XWindowAttributes} {world w₁ w₂ w₃ : ω}
    (hwindow : currentWindow api world = (some window, w₁))
    (hposition : xlib.rootPosition window (api.getWindowName window w₁).2 = (some (x, y), w₂))
    (hsize : xlib.getWindowAttributes window w₂ = (some attributes, w₃)) :
    ShowsWindow x y attributes ((EventSwitch.setWindowFields (xlib.api api) world).1 base) ↔
      (0 ≤ x.toInt ∧ 0 ≤ y.toInt) ∧ 0 ≤ attributes.width.toInt ∧
        0 ≤ attributes.height.toInt := by
  have hpos : xlib.getWindowPosition window (api.getWindowName window w₁).2
      = (some ⟨toUnsigned x, toUnsigned y⟩, w₂) := by
    rw [xlib.getWindowPosition_eq, hposition]
    rfl
  have hsize' : xlib.getWindowSize window w₂
      = (some ⟨toUnsigned attributes.width, toUnsigned attributes.height⟩, w₃) := by
    unfold Xlib.getWindowSize
    rw [hsize]
  obtain ⟨hx, hy, hwidth, hheight⟩ := setWindowFields_some (xlib.api api) base hwindow hpos hsize'
  constructor
  · intro h
    exact ⟨⟨(double_toUnsigned_iff x).mp (Option.some.inj (hx.symm.trans h.positionX)),
      (double_toUnsigned_iff y).mp (Option.some.inj (hy.symm.trans h.positionY))⟩,
      (double_toUnsigned_iff _).mp (Option.some.inj (hwidth.symm.trans h.width)),
      (double_toUnsigned_iff _).mp (Option.some.inj (hheight.symm.trans h.height))⟩
  · rintro ⟨⟨hx', hy'⟩, hwidth', hheight'⟩
    exact ⟨hx.trans (congrArg some ((double_toUnsigned_iff x).mpr hx')),
      hy.trans (congrArg some ((double_toUnsigned_iff y).mpr hy')),
      hwidth.trans (congrArg some ((double_toUnsigned_iff _).mpr hwidth')),
      hheight.trans (congrArg some ((double_toUnsigned_iff _).mpr hheight'))⟩

/-! ### a window in the middle and one over the left edge -/

def windowXlib (attributes : XWindowAttributes) : Xlib Unit where
  xGetWindowAttributes _ _ := (some attributes, ())
  xQueryTree _ _ := (attributes.root, ())
  xTranslateCoordinates _ _ _ := ((0, 0), ())

def windowApi (window : Window) : X11Api Unit :=
  { namingApi with getActiveWindow := fun _ => (some window, ()) }

theorem insideWindow_recorded :
    ShowsWindow 10 20 ⟨10, 20, 640, 480, 1⟩ ((EventSwitch.setWindowFields
      ((windowXlib ⟨10, 20, 640, 480, 1⟩).api (windowApi 7)) ()).1 {}) :=
  (setWindowFields_records_iff (windowXlib ⟨10, 20, 640, 480, 1⟩) (windowApi 7) {}
    (x := 10) (y := 20) rfl rfl rfl).mpr (by decide)

/-- **Not the position**: a window ten pixels over the left edge is recorded at `2 ^ 32 - 10`. -/
theorem leftWindow_fails :
    (windowXlib ⟨-10, 5, 640, 480, 1⟩).rootPosition 7 () = (some (-10, 5), ()) ∧
      ((EventSwitch.setWindowFields ((windowXlib ⟨-10, 5, 640, 480, 1⟩).api (windowApi 7))
        ()).1 {}).focusWindowPositionX_ = some (EventSwitch.double 4294967286) ∧
      ¬ ShowsWindow (-10) 5 ⟨-10, 5, 640, 480, 1⟩ ((EventSwitch.setWindowFields
        ((windowXlib ⟨-10, 5, 640, 480, 1⟩).api (windowApi 7)) ()).1 {}) := by
  refine ⟨rfl, rfl, fun h => ?_⟩
  exact absurd (Option.some.inj h.positionX) (by decide)

end Evget.X11
