import Evget.Storage.FilterStore
import Evget.X11.Emissions
import Evget.X11.Windows

/-!
# Where entries come from

What an entry says of its device is what the listings have said of it.  What it says of the pointer
and of the window is what X answers while the event is handled.

* `emit_shows`              the shared fields of an entry;
* `FromDevice`, `Answered`  what an entry says of its device, and of the pointer and the window;
* `Emission.adds`           one emission adds one entry;
* `transformEvent_sources`  every entry of an event says that of the device of the event;
* `Reached.fromListed`      and this device has been listed.
-/

namespace Evget.X11
open SQLite
open LibInput (text)

variable {ω τ : Type}

/-! ## the shared fields of an entry -/

def modifierTexts (modifierState : UInt32) : List (List UInt8) :=
  (EventSwitch.modifierMasks.filter fun mask => modifierState &&& mask.1 ≠ 0).map fun mask =>
    toUnderlying mask.2

theorem setModifierValue_eq (modifierState : UInt32) (base : Base) :
    EventSwitch.setModifierValue modifierState base
      = { base with modifiers_ := base.modifiers_ ++ modifierTexts modifierState } := by
  unfold EventSwitch.setModifierValue modifierTexts
  generalize EventSwitch.modifierMasks = masks
  induction masks generalizing base with
  | nil => rw [List.filter_nil, List.map_nil, List.append_nil, List.foldl_nil]
  | cons mask masks ih =>
    obtain ⟨mask, value⟩ := mask
    rw [List.foldl_cons]
    dsimp only
    by_cases h : modifierState &&& mask ≠ 0
    · rw [if_pos h, ih, List.filter_cons, if_pos (decide_eq_true h), List.map_cons,
        List.append_cons]
      rfl
    · rw [if_neg h, ih, List.filter_cons, if_neg (by rw [decide_eq_true_eq]; exact h)]

structure WindowAnswers where
  name : Option (List UInt8) := none
  position : Option XWindowDimensions := none
  size : Option XWindowDimensions := none

/-- X is asked for the window that is active or has the focus, and then about this window -/
inductive AsksWindow (api : X11Api ω) : ω → WindowAnswers → ω → Prop
  | none {world world' : ω} (h : currentWindow api world = (none, world')) :
    AsksWindow api world {} world'
  | some {world w₁ w₂ w₃ w₄ : ω} {window : Window} {name : Option (List UInt8)}
      {position size : Option XWindowDimensions}
      (h : currentWindow api world = (some window, w₁))
      (hname : api.getWindowName window w₁ = (name, w₂))
      (hposition : api.getWindowPosition window w₂ = (position, w₃))
      (hsize : api.getWindowSize window w₃ = (size, w₄)) :
    AsksWindow api world ⟨name, position, size⟩ w₄

def WindowAnswers.set (answers : WindowAnswers) (base : Base) : Base :=
  { base with
    focusWindowName_ := answers.name.or base.focusWindowName_
    focusWindowPositionX_ := (answers.position.map fun position =>
      EventSwitch.double position.width).or base.focusWindowPositionX_
    focusWindowPositionY_ := (answers.position.map fun position =>
      EventSwitch.double position.height).or base.focusWindowPositionY_
    focusWindowWidth_ := (answers.size.map fun size =>
      EventSwitch.double size.width).or base.focusWindowWidth_
    focusWindowHeight_ := (answers.size.map fun size =>
      EventSwitch.double size.height).or base.focusWindowHeight_ }

theorem currentWindow_later (api : X11Api ω) (world : ω) :
    Later api world (currentWindow api world).2 := by
  have hactive : Request api world (api.getActiveWindow world).2 := .getActiveWindow world
  unfold currentWindow
  rcases h : api.getActiveWindow world with ⟨_ | window, next⟩
  · rw [h] at hactive
    exact .head hactive (.single (.getFocusWindow next))
  · rw [h] at hactive
    exact .single hactive

theorem AsksWindow.later {api : X11Api ω} {answers : WindowAnswers} {world world' : ω}
    (h : AsksWindow api world answers world') : Later api world world' := by
  have hcurrent := currentWindow_later api world
  cases h with
  | none h => rwa [h] at hcurrent
  | @some w₁ w₂ w₃ _ window _ _ _ h hname hposition hsize =>
    rw [h] at hcurrent
    have hname' : Request api w₁ (api.getWindowName window w₁).2 := .getWindowName window w₁
    have hposition' : Request api w₂ (api.getWindowPosition window w₂).2 :=
      .getWindowPosition window w₂
    have hsize' : Request api w₃ (api.getWindowSize window w₃).2 := .getWindowSize window w₃
    rw [hname] at hname'
    rw [hposition] at hposition'
    rw [hsize] at hsize'
    exact ((hcurrent.tail hname').tail hposition').tail hsize'

theorem WindowAnswers.set_elim (name : Option (List UInt8))
    (position size : Option XWindowDimensions) (base : Base) :
    (let base := name.elim base base.focusWindowName
     let base := position.elim base fun p =>
       (base.focusWindowPositionX (EventSwitch.double p.width)).focusWindowPositionY
         (EventSwitch.double p.height)
     size.elim base fun s =>
       (base.focusWindowWidth (EventSwitch.double s.width)).focusWindowHeight
         (EventSwitch.double s.height)) = WindowAnswers.set ⟨name, position, size⟩ base := by
  cases name <;> cases position <;> cases size <;> rfl

theorem setWindowFields_asks (api : X11Api ω) (world : ω) : ∃ answers,
    AsksWindow api world answers (EventSwitch.setWindowFields api world).2 ∧
      ∀ base, (EventSwitch.setWindowFields api world).1 base = answers.set base := by
  unfold EventSwitch.setWindowFields
  rcases hactive : api.getActiveWindow world with ⟨_ | active, w₀⟩
  · have hcurrent : currentWindow api world = api.getFocusWindow w₀ := by
      unfold currentWindow
      rw [hactive]
    rcases hfocus : api.getFocusWindow w₀ with ⟨_ | focus, w₁⟩
    · simp only [hfocus]
      exact ⟨{}, .none (hcurrent.trans hfocus), fun _ => rfl⟩
    · simp only [hfocus]
      exact ⟨_, .some (hcurrent.trans hfocus) rfl rfl rfl, WindowAnswers.set_elim _ _ _⟩
  · have hcurrent : currentWindow api world = (some active, w₀) := by
      unfold currentWindow
      rw [hactive]
    exact ⟨_, .some hcurrent rfl rfl rfl, WindowAnswers.set_elim _ _ _⟩

def sharedBase (interval : Option Int) (timestamp : Int) (device : DeviceType)
    (uuid name systemEvent : List UInt8) (pointer : QueryPointerResult)
    (answers : WindowAnswers) : Base :=
  answers.set {
    interval_ := interval
    timestamp_ := some timestamp
    device_ := some device
    positionX_ := some pointer.rootX
    positionY_ := some pointer.rootY
    deviceId_ := some uuid
    deviceName_ := some name
    screen_ := some pointer.screenNumber
    systemEvent_ := some systemEvent
    eventSource_ := some kEventSourceName
    modifiers_ := modifierTexts pointer.modifierState }

/-- **What is emitted**: an entry that shows the event, its device, the pointer and the answers
about the window. -/
theorem emit_shows {api : X11Api ω} {getTime : Nat → τ → Option Int × τ} {event : XIRawEvent}
    {timestamp : Int} {systemEvent : List UInt8} {pointer : QueryPointerResult} {B : Type}
    [Builder B] {builder : B} {type : EntryType} (hB : Fresh builder type) {s s' : Handling ω τ}
    (h : EventSwitch.emit api getTime event timestamp systemEvent pointer builder s = .ok s') :
    let uuid := s.xEventSwitch.getDeviceUuid api event.sourceid s.world
    s'.xEventSwitch = uuid.2.1 ∧ ∃ entry device name answers,
      s'.data = s.data.addEntry entry ∧ entry.Built ∧ entry.type = type ∧
      s.xEventSwitch.getDevice event.sourceid event.evtype = .ok device ∧
      s.xEventSwitch.idToName.lookup event.sourceid = some name ∧
      AsksWindow api uuid.2.2 answers s'.world ∧
      ShowsBase (sharedBase (getTime event.time s.times).1 timestamp device uuid.1 name systemEvent
        pointer answers) entry := by
  intro uuid
  have hemit : EventSwitch.emit api getTime event timestamp systemEvent pointer builder s = (do
      let device ← s.xEventSwitch.getDevice event.sourceid event.evtype
      let names ← uuid.2.1.setDeviceNameFields event pointer.screenNumber
      let fields (base : Base) : Base := names ((EventSwitch.setWindowFields api uuid.2.2).1
        (EventSwitch.setModifierValue pointer.modifierState { base with
          interval_ := (getTime event.time s.times).1
          timestamp_ := some timestamp
          device_ := some device
          deviceId_ := some uuid.1
          systemEvent_ := some systemEvent
          positionX_ := some pointer.rootX
          positionY_ := some pointer.rootY
          eventSource_ := some kEventSourceName }))
      return ⟨(EventSwitch.setWindowFields api uuid.2.2).2, (getTime event.time s.times).2,
        uuid.2.1, Builder.build (Builder.mapBase fields builder) s.data⟩) := rfl
  rw [hemit] at h
  obtain ⟨device, hdevice, h⟩ := bind_eq_ok h
  obtain ⟨names, hnames, h⟩ := bind_eq_ok h
  obtain ⟨name, hname, hset⟩ := bind_eq_ok hnames
  cases hset
  obtain ⟨answers, hasks, hanswers⟩ := setWindowFields_asks api uuid.2.2
  have hlookup : s.xEventSwitch.idToName.lookup event.sourceid = some name := by
    rw [← (EventSwitch.getDeviceUuid_same api event.sourceid s.xEventSwitch s.world).idToName]
    exact Dict.lookup_of_fetch hname
  obtain rfl := Except.ok.inj h
  obtain ⟨entry, hentry, hbuilt, htype, hshows⟩ := hB _ s.data
  refine ⟨rfl, entry, device, name, answers, hentry, hbuilt, htype, hdevice, hlookup, hasks, ?_⟩
  dsimp only at hshows
  rw [hanswers, setModifierValue_eq] at hshows
  exact hshows

/-! ## what an entry says -/

/-- the device of the event, as the switch knows it; a key event is always one of a keyboard -/
structure FromDevice (x : EventSwitch) (event : XIRawEvent) (entry : Entry) : Prop where
  built : entry.Built
  key : entry.type = .key ↔ IsKey event
  device : ∃ device, x.getDevice event.sourceid event.evtype = .ok device ∧
    entry.device = some device
  name : x.idToName.lookup event.sourceid = some (text "device_name" entry)
  source : text "event_source" entry = kEventSourceName

structure ShowsPointer (pointer : QueryPointerResult) (entry : Entry) : Prop where
  positionX : text "position_x" entry = fromDouble (some pointer.rootX)
  positionY : text "position_y" entry = fromDouble (some pointer.rootY)
  screen : text "screen" entry = fromInt (some pointer.screenNumber)
  modifiers : entry.modifiers = modifierTexts pointer.modifierState

/-- the texts are empty where there is no answer -/
structure ShowsAnswers (answers : WindowAnswers) (entry : Entry) : Prop where
  name : text "focus_window_name" entry = fromString answers.name
  positionX : text "focus_window_position_x" entry
    = fromDouble (answers.position.map fun position => EventSwitch.double position.width)
  positionY : text "focus_window_position_y" entry
    = fromDouble (answers.position.map fun position => EventSwitch.double position.height)
  width : text "focus_window_width" entry
    = fromDouble (answers.size.map fun size => EventSwitch.double size.width)
  height : text "focus_window_height" entry
    = fromDouble (answers.size.map fun size => EventSwitch.double size.height)

/-- the entry shows what X answers about this pointer, and after that what it answers about the
window -/
structure Answered (api : X11Api ω) (pointerId : Int) (world : ω) (entry : Entry) (world' : ω) :
    Prop where
  pointer : ShowsPointer (api.queryPointer pointerId world).1 entry
  window : ∃ asked answers, Later api (api.queryPointer pointerId world).2 asked ∧
    AsksWindow api asked answers world' ∧ ShowsAnswers answers entry

theorem Answered.later {api : X11Api ω} {pointerId : Int} {world world' : ω} {entry : Entry}
    (h : Answered api pointerId world entry world') : Later api world world' := by
  obtain ⟨asked, answers, hasked, hasks, -⟩ := h.window
  exact .head (.queryPointer pointerId world) (hasked.trans hasks.later)

section
variable {interval : Option Int} {timestamp : Int} {device : DeviceType}
  {uuid name systemEvent : List UInt8} {pointer : QueryPointerResult} {answers : WindowAnswers}
  {entry : Entry}

theorem ShowsBase.showsPointer (h : ShowsBase (sharedBase interval timestamp device uuid name
    systemEvent pointer answers) entry) : ShowsPointer pointer entry :=
  ⟨h.text rfl, h.text rfl, h.text rfl, h.modifiers⟩

theorem ShowsBase.showsAnswers (h : ShowsBase (sharedBase interval timestamp device uuid name
    systemEvent pointer answers) entry) : ShowsAnswers answers entry := by
  exact {
    name := (h.text rfl).trans (congrArg fromString Option.or_none)
    positionX := (h.text rfl).trans (congrArg fromDouble Option.or_none)
    positionY := (h.text rfl).trans (congrArg fromDouble Option.or_none)
    width := (h.text rfl).trans (congrArg fromDouble Option.or_none)
    height := (h.text rfl).trans (congrArg fromDouble Option.or_none) }

end

theorem SameDevices.getDevice {x x' : EventSwitch} (h : EventSwitch.SameDevices x x')
    (deviceId evtype : Int) : x'.getDevice deviceId evtype = x.getDevice deviceId evtype := by
  unfold EventSwitch.getDevice
  rw [h.devices]

theorem getDeviceUuid_pointerId (api : X11Api ω) (deviceId : Int) (self : EventSwitch)
    (world : ω) : (self.getDeviceUuid api deviceId world).2.1.pointerId = self.pointerId := by
  unfold EventSwitch.getDeviceUuid
  cases self.deviceIds.lookup deviceId <;> rfl

structure AddsEntry (api : X11Api ω) (event : XIRawEvent) (keyPointer : Int) (s s' : Handling ω τ)
    (entry : Entry) : Prop extends EventSwitch.SameDevices s.xEventSwitch s'.xEventSwitch where
  data : s'.data = s.data.addEntry entry
  fromDevice : FromDevice s.xEventSwitch event entry
  answered : ∃ pointerId, (pointerId = s.xEventSwitch.pointerId ∨ pointerId = keyPointer) ∧
    Answered api pointerId s.world entry s'.world
  pointerId : s'.xEventSwitch.pointerId = s.xEventSwitch.pointerId

/-- **One emission** adds one entry, of the device of the event and with the answers of X. -/
theorem Emission.adds {api : X11Api ω} {getTime : Nat → τ → Option Int × τ} {event : XIRawEvent}
    {keyPointer : Int} {s s' : Handling ω τ} (h : Emission api getTime event keyPointer s s') :
    ∃ entry, AddsEntry api event keyPointer s s' entry := by
  cases h with
  | @emit B _ type _ t _ event' timestamp systemEvent pointerId builder hB htype hevent hpointer
      hlater h hsame hid hdata =>
    obtain ⟨hswitch, entry, device, name, answers, hadded, hbuilt, hentryType, hdevice, hname,
      hasks, hshows⟩ := emit_shows hB h
    have huuid := EventSwitch.getDeviceUuid_same api event'.sourceid t.xEventSwitch t.world
    rw [← hswitch] at huuid
    rw [hevent.1, hevent.2, SameDevices.getDevice hsame] at hdevice
    rw [hevent.1, hsame.idToName] at hname
    refine ⟨entry, {
      devices := huuid.devices.trans hsame.devices
      idToName := huuid.idToName.trans hsame.idToName
      data := hdata ▸ hadded
      fromDevice := ⟨hbuilt, hentryType ▸ htype,
        ⟨device, hdevice, Entry.device_of_data hshows.device⟩, ?_, hshows.text rfl⟩
      answered := ⟨pointerId, hpointer, hshows.showsPointer, _, answers,
        hlater.trans (EventSwitch.getDeviceUuid_later ..), hasks, hshows.showsAnswers⟩
      pointerId := ?_ }⟩
    · rw [hname, hshows.text rfl]
      rfl
    · rw [hswitch, getDeviceUuid_pointerId, hid]

/-- **What an event adds** are entries of its device. -/
theorem Handled.fromDevice {api : X11Api ω} {getTime : Nat → τ → Option Int × τ}
    {event : XIRawEvent} {keyPointer : Int} {s s' : Handling ω τ}
    (h : Handled api getTime event keyPointer s s') :
    (∀ entry ∈ s'.data.entries, entry ∈ s.data.entries ∨ FromDevice s.xEventSwitch event entry) ∧
      EventSwitch.SameDevices s.xEventSwitch s'.xEventSwitch := by
  induction h with
  | refl => exact ⟨fun entry hentry => .inl hentry, rfl, rfl⟩
  | tail _ hstep ih =>
    obtain ⟨hentries, hsame⟩ := ih
    obtain ⟨added, hadds⟩ := hstep.adds
    refine ⟨fun entry hentry => ?_, hadds.devices.trans hsame.devices,
      hadds.idToName.trans hsame.idToName⟩
    rw [hadds.data] at hentry
    rcases List.mem_append.mp hentry with hmem | hmem
    · exact hentries entry hmem
    · obtain rfl := List.mem_singleton.mp hmem
      obtain ⟨hbuilt, hkey, hdevice, hname, hsource⟩ := hadds.fromDevice
      refine .inr ⟨hbuilt, hkey, ?_, ?_, hsource⟩
      · obtain ⟨device, hdevice, hentryDevice⟩ := hdevice
        rw [SameDevices.getDevice hsame] at hdevice
        exact ⟨device, hdevice, hentryDevice⟩
      · rw [← hname, hsame.idToName]

namespace EventTransformer

theorem transformEvent_sources {api : X11Api ω} {event : InputEvent}
    {self self' : EventTransformer} {world world' : ω} {data : Data}
    (h : transformEvent api event self world = .ok (data, self', world')) :
    ∀ entry ∈ data.entries, ∃ raw, event.cookie = some raw ∧
      FromDevice self.xEventSwitch raw entry := by
  unfold transformEvent at h
  cases hraw : event.cookie with
  | none =>
    rw [hraw] at h
    cases h
    exact fun entry hentry => absurd hentry List.not_mem_nil
  | some raw =>
    rw [hraw] at h
    dsimp only at h
    split at h
    · obtain ⟨⟨refreshed, last⟩, -, h⟩ := bind_eq_ok h
      cases h
      exact fun entry hentry => absurd hentry List.not_mem_nil
    · obtain ⟨⟨pointerKey, last⟩, hswitch, h⟩ := bind_eq_ok h
      cases h
      have hhandled := (switchOnEvent_handled api raw event.timestamp hswitch).2.fromDevice.1
      intro entry hentry
      rcases hhandled entry hentry with hmem | hmem
      · exact absurd hmem List.not_mem_nil
      · exact ⟨raw, rfl, hmem⟩

/-! ## listed devices -/

structure FromListed (device : Listed) (entry : Entry) : Prop where
  built : entry.Built
  named : entry.device = some (if entry.type = .key then .keyboard else device.type)
  name : text "device_name" entry = device.name
  source : text "event_source" entry = kEventSourceName

theorem Reached.fromListed {api : X11Api ω} {history : List (List Listed)}
    {self : EventTransformer} (h : Reached api history self) {event : XIRawEvent} {entry : Entry}
    (hentry : FromDevice self.xEventSwitch event entry) :
    ∃ listed ∈ history, ∃ device ∈ listed, FromListed device entry := by
  have hlearn := reached_learn h
  have hlearned : self.known = (history.flatten ++ []).foldl learn {} := by
    rw [List.append_nil]
    exact hlearn
  have htype : self.xEventSwitch.devices.lookup event.sourceid = _ :=
    learn_first hlearned (fun known => known.type event.sourceid) Listed.type event.sourceid rfl
      fun _ _ => rfl
  have hname : self.xEventSwitch.idToName.lookup event.sourceid = _ :=
    learn_first hlearned (fun known => known.name event.sourceid) Listed.name event.sourceid rfl
      fun _ _ => rfl
  rw [List.append_nil] at htype hname
  cases hfind : history.flatten.find? fun device => device.id = event.sourceid with
  | none =>
    rw [hentry.name, hfind] at hname
    cases hname
  | some device =>
    rw [hfind] at htype hname
    obtain ⟨listed, hlisted, hdevice⟩ := List.mem_flatten.mp (List.mem_of_find?_eq_some hfind)
    refine ⟨listed, hlisted, device, hdevice, hentry.built, ?_, ?_, hentry.source⟩
    · obtain ⟨found, hfound, hentryDevice⟩ := hentry.device
      rw [hentryDevice]
      change (if IsKey event then _ else _) = _ at hfound
      by_cases hkey : IsKey event
      · rw [if_pos hkey] at hfound
        rw [if_pos (hentry.key.mpr hkey), Except.ok.inj hfound]
      · rw [if_neg hkey] at hfound
        have hlookup := Dict.lookup_of_fetch hfound
        rw [if_neg (mt hentry.key.mp hkey), ← hlookup, htype]
        rfl
    · exact Option.some.inj (hentry.name.symm.trans hname)

end EventTransformer
end Evget.X11
