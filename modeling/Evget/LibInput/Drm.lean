import Evget.Error
import Evget.LibInput.Api
import Mathlib.Data.List.Induction

/-!
# The dimensions of the screens

`DrmOutput::New` asks every primary DRM device for its connectors and keeps the largest dimensions
that it finds.  It compares areas in 32 bits: the `int` product of two 16-bit numbers, converted to
unsigned, with the unsigned product of the dimensions so far.

* `DrmMode`, `DrmConnector`, `DrmDevice`   what DRM answers;
* `DrmOutput.new`                 the query of all devices;
* `area32_toNat`                  the 32-bit area is the exact one;
* `Largest`                       the first of the largest modes;
* `new_largest`                   `New` finds it.
-/

namespace Evget.LibInput

/-! ## the query -/

structure DrmMode where
  hdisplay : UInt16
  vdisplay : UInt16
  type : UInt32
deriving DecidableEq

structure DrmConnector where
  connection : UInt32
  modes : List DrmMode

/-- a device: its node, and what opening it and asking for its resources answers.  A connector that
cannot be queried is `none`. -/
structure DrmDevice where
  availableNodes : UInt32
  path : String
  opened : Option (Option (List (Option DrmConnector)))

def DRM_NODE_PRIMARY : UInt32 := 0
def DRM_MODE_CONNECTED : UInt32 := 1
def DRM_MODE_TYPE_PREFERRED : UInt32 := 8

structure DrmOutput where
  dimensions_ : ScreenDimensions
deriving DecidableEq

namespace DrmOutput

def preferred (mode : DrmMode) : Bool := mode.type &&& DRM_MODE_TYPE_PREFERRED ≠ 0

/-- `mode.hdisplay * mode.vdisplay`, promoted to `int` and converted to unsigned -/
def area32 (mode : DrmMode) : UInt32 :=
  (mode.hdisplay.toUInt32.toInt32 * mode.vdisplay.toUInt32.toInt32).toUInt32

def consider (self : DrmOutput) (mode : DrmMode) : DrmOutput :=
  if area32 mode > self.dimensions_.width * self.dimensions_.height then
    { self with dimensions_ := ⟨mode.hdisplay.toUInt32, mode.vdisplay.toUInt32⟩ }
  else self

/-- the loop over the modes of a connector, which ends at the preferred one -/
def queryModes (self : DrmOutput) : List DrmMode → DrmOutput
  | [] => self
  | mode :: modes => if preferred mode then self.consider mode else self.queryModes modes

def queryConnector (self : DrmOutput) : Option DrmConnector → DrmOutput
  | none => self
  | some connector =>
    if connector.connection ≠ DRM_MODE_CONNECTED then self else self.queryModes connector.modes

def queryCard (resources : Option (List (Option DrmConnector))) (self : DrmOutput) :
    Result DrmOutput :=
  match resources with
  | none => .error ⟨.eventHandlerError, "unable to get DRM resources"⟩
  | some connectors => .ok (connectors.foldl queryConnector self)

def queryDevices : List DrmDevice → DrmOutput → Result DrmOutput
  | [], self => .ok self
  | device :: devices, self =>
    if device.availableNodes &&& 1 <<< DRM_NODE_PRIMARY = 0 then queryDevices devices self
    else
      match device.opened with
      | none => .error ⟨.eventHandlerError, "failed to open: " ++ device.path⟩
      | some resources =>
        match queryCard resources self with
        | .error e => .error e
        | .ok self => queryDevices devices self

/-- `New`, where the two calls of `drmGetDevices2` answer with a count and with devices -/
def new (deviceCount : Int) (devices : List DrmDevice) : Result DrmOutput :=
  if deviceCount ≤ 0 then .error ⟨.eventHandlerError, "unable to find DRM devices"⟩
  else if devices.isEmpty then .error ⟨.eventHandlerError, "unable to fetch DRM devices"⟩
  else
    match queryDevices devices ⟨⟨0, 0⟩⟩ with
    | .error e => .error e
    | .ok drmOutput =>
      if drmOutput.dimensions_.width = 0 ∧ drmOutput.dimensions_.height = 0 then
        .error ⟨.eventHandlerError, "no connected DRM outputs found"⟩
      else .ok drmOutput

def getDimensions (self : DrmOutput) : ScreenDimensions := self.dimensions_

end DrmOutput

/-! ## what is looked for -/

def DrmMode.area (mode : DrmMode) : Nat := mode.hdisplay.toNat * mode.vdisplay.toNat

def DrmMode.dimensions (mode : DrmMode) : ScreenDimensions :=
  ⟨mode.hdisplay.toUInt32, mode.vdisplay.toUInt32⟩

def DrmDevice.isPrimary (device : DrmDevice) : Bool :=
  device.availableNodes &&& 1 <<< DRM_NODE_PRIMARY ≠ 0

def DrmDevice.connectors (device : DrmDevice) : List (Option DrmConnector) :=
  if device.isPrimary then (device.opened.bind id).getD [] else []

def DrmConnector.candidate (connector : DrmConnector) : Option DrmMode :=
  if connector.connection = DRM_MODE_CONNECTED then
    connector.modes.find? DrmOutput.preferred
  else none

def candidates (devices : List DrmDevice) : List DrmMode :=
  devices.flatMap fun device => device.connectors.filterMap fun connector =>
    connector.bind DrmConnector.candidate

def Largest (modes : List DrmMode) (dimensions : ScreenDimensions) : Prop :=
  ∃ before mode after, modes = before ++ mode :: after ∧ dimensions = mode.dimensions ∧
    (∀ m ∈ before, m.area < mode.area) ∧ ∀ m ∈ after, m.area ≤ mode.area

def DrmDevice.Answers (device : DrmDevice) : Prop :=
  device.isPrimary = true → ∃ connectors, device.opened = some (some connectors)

/-! ## areas -/

section

theorem area_lt (mode : DrmMode) : mode.area < 4294967296 := by
  have hwidth := mode.hdisplay.toNat_lt
  have hheight := mode.vdisplay.toNat_lt
  have hmul : mode.area ≤ 65535 * 65535 := Nat.mul_le_mul (by omega) (by omega)
  omega

theorem area32_toNat (mode : DrmMode) : (DrmOutput.area32 mode).toNat = mode.area := by
  have hunsigned : DrmOutput.area32 mode = mode.hdisplay.toUInt32 * mode.vdisplay.toUInt32 := by
    unfold DrmOutput.area32
    simp
  rw [hunsigned, UInt32.toNat_mul, UInt16.toNat_toUInt32, UInt16.toNat_toUInt32]
  exact Nat.mod_eq_of_lt (area_lt mode)

theorem dimensions_toNat (mode : DrmMode) :
    (mode.dimensions.width * mode.dimensions.height).toNat = mode.area := by
  show (mode.hdisplay.toUInt32 * mode.vdisplay.toUInt32).toNat = _
  rw [UInt32.toNat_mul, UInt16.toNat_toUInt32, UInt16.toNat_toUInt32]
  exact Nat.mod_eq_of_lt (area_lt mode)

theorem dimensions_ne_zero {mode : DrmMode} (h : 0 < mode.area) :
    ¬ (mode.dimensions.width = 0 ∧ mode.dimensions.height = 0) := by
  rintro ⟨hwidth, -⟩
  have hzero : mode.hdisplay.toNat = 0 := by
    rw [← UInt16.toNat_toUInt32]
    exact congrArg UInt32.toNat hwidth
  unfold DrmMode.area at h
  rw [hzero, Nat.zero_mul] at h
  omega

/-! ## the loops -/

namespace DrmOutput

theorem queryModes_eq (self : DrmOutput) (modes : List DrmMode) :
    self.queryModes modes = ((modes.find? preferred).map self.consider).getD self := by
  induction modes with
  | nil => rfl
  | cons mode modes ih =>
    by_cases h : preferred mode = true
    · simp [queryModes, h]
    · simp [queryModes, h, ih]

theorem queryConnector_eq (self : DrmOutput) (connector : Option DrmConnector) :
    self.queryConnector connector =
      ((connector.bind DrmConnector.candidate).map self.consider).getD self := by
  cases connector with
  | none => rfl
  | some connector =>
    by_cases h : connector.connection = DRM_MODE_CONNECTED
    · simp [queryConnector, DrmConnector.candidate, h, queryModes_eq]
    · simp [queryConnector, DrmConnector.candidate, h]

/-- the loops over the connectors and over their modes are one loop over the candidates -/
theorem foldl_queryConnector (self : DrmOutput) (connectors : List (Option DrmConnector)) :
    connectors.foldl queryConnector self =
      (connectors.filterMap fun connector => connector.bind DrmConnector.candidate).foldl
        consider self := by
  induction connectors generalizing self with
  | nil => rfl
  | cons connector connectors ih =>
    rw [List.foldl_cons, ih, queryConnector_eq, List.filterMap_cons]
    cases connector.bind DrmConnector.candidate with
    | none => rfl
    | some mode => rfl

theorem queryDevices_eq {devices : List DrmDevice} (h : ∀ device ∈ devices, device.Answers)
    (self : DrmOutput) :
    queryDevices devices self = .ok ((candidates devices).foldl consider self) := by
  induction devices generalizing self with
  | nil => rfl
  | cons device devices ih =>
    have hrest := ih fun other hother => h other (List.mem_cons_of_mem _ hother)
    have hcandidates : candidates (device :: devices) =
        (device.connectors.filterMap fun connector => connector.bind DrmConnector.candidate) ++
          candidates devices := rfl
    rw [hcandidates, List.foldl_append, ← foldl_queryConnector]
    by_cases hprimary : device.isPrimary = true
    · obtain ⟨connectors, hopened⟩ := h device List.mem_cons_self hprimary
      have hne : ¬ device.availableNodes &&& 1 <<< DRM_NODE_PRIMARY = 0 := by
        simpa [DrmDevice.isPrimary] using hprimary
      have hconnectors : device.connectors = connectors := by
        simp [DrmDevice.connectors, hprimary, hopened]
      rw [queryDevices, if_neg hne, hopened, hconnectors]
      exact hrest _
    · have heq : device.availableNodes &&& 1 <<< DRM_NODE_PRIMARY = 0 := by
        simpa [DrmDevice.isPrimary] using hprimary
      have hconnectors : device.connectors = [] := by
        simp [DrmDevice.connectors, hprimary]
      rw [queryDevices, if_pos heq, hconnectors]
      exact hrest self

/-! ## the largest mode -/

/-- the dimensions are zero and no area was positive, or they are those of the largest mode -/
def Found (modes : List DrmMode) (self : DrmOutput) : Prop :=
  (self.dimensions_ = ⟨0, 0⟩ ∧ ∀ mode ∈ modes, mode.area = 0) ∨
    (∃ mode ∈ modes, 0 < mode.area) ∧ Largest modes self.dimensions_

theorem consider_eq (self : DrmOutput) (mode : DrmMode) :
    self.consider mode =
      if (self.dimensions_.width * self.dimensions_.height).toNat < mode.area then
        ⟨mode.dimensions⟩ else self := by
  unfold consider
  rw [← area32_toNat mode]
  rfl

theorem Largest.le {modes : List DrmMode} {best : DrmMode} {before after : List DrmMode}
    (hsplit : modes = before ++ best :: after) (hbefore : ∀ m ∈ before, m.area < best.area)
    (hafter : ∀ m ∈ after, m.area ≤ best.area) : ∀ m ∈ modes, m.area ≤ best.area := by
  intro m hm
  rw [hsplit] at hm
  rcases List.mem_append.mp hm with hm | hm
  · exact Nat.le_of_lt (hbefore m hm)
  · rcases List.mem_cons.mp hm with rfl | hm
    · exact Nat.le_refl _
    · exact hafter m hm

theorem consider_found {modes : List DrmMode} {self : DrmOutput} (h : Found modes self)
    (mode : DrmMode) : Found (modes ++ [mode]) (self.consider mode) := by
  rw [consider_eq]
  rcases h with ⟨hzero, hareas⟩ |
    ⟨⟨positive, hmem, hpos⟩, before, best, after, hsplit, hdims, hbefore, hafter⟩
  · have hproduct : (self.dimensions_.width * self.dimensions_.height).toNat = 0 := by
      rw [hzero]
      rfl
    rw [hproduct]
    by_cases hlt : 0 < mode.area
    · rw [if_pos hlt]
      refine .inr ⟨⟨mode, List.mem_append_right _ (List.mem_singleton_self _), hlt⟩,
        modes, mode, [], rfl, rfl, ?_, by simp⟩
      intro m hm
      rw [hareas m hm]
      exact hlt
    · rw [if_neg hlt]
      refine .inl ⟨hzero, fun m hm => ?_⟩
      rcases List.mem_append.mp hm with hm | hm
      · exact hareas m hm
      · rw [List.mem_singleton.mp hm]
        omega
  · have hproduct : (self.dimensions_.width * self.dimensions_.height).toNat = best.area := by
      rw [hdims]
      exact dimensions_toNat best
    rw [hproduct]
    refine .inr ⟨⟨positive, List.mem_append_left _ hmem, hpos⟩, ?_⟩
    by_cases hlt : best.area < mode.area
    · rw [if_pos hlt]
      refine ⟨modes, mode, [], rfl, rfl, fun m hm => ?_, by simp⟩
      have hle := Largest.le hsplit hbefore hafter m hm
      omega
    · rw [if_neg hlt]
      refine ⟨before, best, after ++ [mode], by simp [hsplit], hdims, hbefore, fun m hm => ?_⟩
      rcases List.mem_append.mp hm with hm | hm
      · exact hafter m hm
      · rw [List.mem_singleton.mp hm]
        omega

theorem foldl_consider_found (modes : List DrmMode) :
    Found modes (modes.foldl consider ⟨⟨0, 0⟩⟩) := by
  induction modes using List.reverseRecOn with
  | nil => exact .inl ⟨rfl, by simp⟩
  | append_singleton modes mode ih =>
    rw [List.foldl_append]
    exact consider_found ih mode

/-- the comparison in 32 bits is the one of the exact areas -/
theorem area32_gt_iff (mode other : DrmMode) :
    area32 mode > other.dimensions.width * other.dimensions.height ↔ other.area < mode.area := by
  rw [← area32_toNat mode, ← dimensions_toNat other]
  rfl

/-- **The dimensions of the screens.**  The comparison in 32 bits is exact.  When the devices
answer, `New` fails exactly when no first preferred mode of a connected connector has a positive
area, and otherwise gives the dimensions of the largest of these modes, and of the first one of the
largest. -/
theorem new_largest (deviceCount : Int) (devices : List DrmDevice) (hcount : 0 < deviceCount)
    (hdevices : devices ≠ []) (h : ∀ device ∈ devices, device.Answers) :
    (∀ mode other : DrmMode, area32 mode > other.dimensions.width * other.dimensions.height ↔
      other.area < mode.area) ∧
    (new deviceCount devices = .error ⟨.eventHandlerError, "no connected DRM outputs found"⟩ ↔
      ∀ mode ∈ candidates devices, mode.area = 0) ∧
    ((∃ mode ∈ candidates devices, 0 < mode.area) →
      ∃ drmOutput, new deviceCount devices = .ok drmOutput ∧
        Largest (candidates devices) drmOutput.getDimensions) := by
  refine ⟨area32_gt_iff, ?_⟩
  have hnew : new deviceCount devices =
      if ((candidates devices).foldl consider ⟨⟨0, 0⟩⟩).dimensions_.width = 0 ∧
          ((candidates devices).foldl consider ⟨⟨0, 0⟩⟩).dimensions_.height = 0 then
        .error ⟨.eventHandlerError, "no connected DRM outputs found"⟩
      else .ok ((candidates devices).foldl consider ⟨⟨0, 0⟩⟩) := by
    rw [new, if_neg (by omega), if_neg (by simpa using hdevices), queryDevices_eq h]
  have hfound := foldl_consider_found (candidates devices)
  generalize (candidates devices).foldl consider ⟨⟨0, 0⟩⟩ = output at hnew hfound
  rcases hfound with ⟨hzero, hareas⟩ | ⟨⟨positive, hmem, hpos⟩, hlargest⟩
  · rw [hnew, if_pos (by simp [hzero])]
    refine ⟨⟨fun _ => hareas, fun _ => rfl⟩, ?_⟩
    rintro ⟨mode, hmode, hlt⟩
    have hzeroArea := hareas mode hmode
    omega
  · have hne : ¬ (output.dimensions_.width = 0 ∧ output.dimensions_.height = 0) := by
      obtain ⟨before, best, after, hsplit, hdims, hbefore, hafter⟩ := hlargest
      have hle := Largest.le hsplit hbefore hafter positive hmem
      rw [hdims]
      exact dimensions_ne_zero (by omega)
    rw [hnew, if_neg hne]
    refine ⟨⟨fun herror => (by cases herror), fun hareas => ?_⟩, fun _ => ⟨output, rfl, hlargest⟩⟩
    have hzeroArea := hareas positive hmem
    omega

def sampleCard : DrmDevice :=
  ⟨1, "/dev/dri/card0", some (some [
    some ⟨1, [⟨800, 600, 0⟩, ⟨1920, 1080, 8⟩]⟩,
    some ⟨1, [⟨1080, 1920, 8⟩]⟩,
    some ⟨2, [⟨3840, 2160, 8⟩]⟩])⟩

theorem sampleCard_largest : ∃ drmOutput, new 1 [sampleCard] = .ok drmOutput ∧
    Largest (candidates [sampleCard]) drmOutput.getDimensions := by
  have hanswers : ∀ device ∈ [sampleCard], device.Answers := by
    intro device hdevice _
    rw [List.mem_singleton.mp hdevice]
    exact ⟨_, rfl⟩
  refine (new_largest 1 [sampleCard] (by decide) (by simp) hanswers).2.2
    ⟨⟨1920, 1080, 8⟩, by decide, by decide⟩

end DrmOutput
end
end Evget.LibInput
