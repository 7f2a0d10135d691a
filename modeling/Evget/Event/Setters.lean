import Evget.Event.Named
import Evget.Event.Texts
import Evget.Lib.Latest

/-!
# Calls of setters

A caller fills a builder by calls of its setters, in any order and any number of times, and then
builds an entry.

* `Attribute`                  what the setters set, under the names of the fields;
* `Call`                       a call of a setter of a builder: a shared one or one of its own;
* `Draft`                      a builder and the calls on it;
* `Draft.lastText`, `Draft.modifiers`   the text set last, and the modifiers in order;
* `Draft.toNamedRepresentation_entry`   the entry that is built has exactly these, with names.
-/

namespace Evget
open SQLite

/-! ## attributes -/

inductive Attribute where
  | interval | timestamp | positionX | positionY | deviceName | focusWindowName
  | focusWindowPositionX | focusWindowPositionY | focusWindowWidth | focusWindowHeight | screen
  | deviceId | systemEvent | eventSource | deviceType | touchId | buttonId | buttonName
  | buttonAction | character | scrollVertical | scrollHorizontal
deriving DecidableEq, Repr

def Attribute.name : Attribute → List UInt8
  | .interval => bytes "interval"
  | .timestamp => bytes "timestamp"
  | .positionX => bytes "position_x"
  | .positionY => bytes "position_y"
  | .deviceName => bytes "device_name"
  | .focusWindowName => bytes "focus_window_name"
  | .focusWindowPositionX => bytes "focus_window_position_x"
  | .focusWindowPositionY => bytes "focus_window_position_y"
  | .focusWindowWidth => bytes "focus_window_width"
  | .focusWindowHeight => bytes "focus_window_height"
  | .screen => bytes "screen"
  | .deviceId => bytes "device_id"
  | .systemEvent => bytes "system_event"
  | .eventSource => bytes "event_source"
  | .deviceType => bytes "device_type"
  | .touchId => bytes "touch_id"
  | .buttonId => bytes "button_id"
  | .buttonName => bytes "button_name"
  | .buttonAction => bytes "button_action"
  | .character => bytes "character"
  | .scrollVertical => bytes "scroll_vertical"
  | .scrollHorizontal => bytes "scroll_horizontal"

def baseAttributes : List Attribute := [
  .interval, .timestamp, .positionX, .positionY, .deviceName, .focusWindowName,
  .focusWindowPositionX, .focusWindowPositionY, .focusWindowWidth, .focusWindowHeight, .screen,
  .deviceId, .systemEvent, .eventSource, .deviceType]

def EntryType.attributes : EntryType → List Attribute
  | .key => baseAttributes ++ [.buttonId, .buttonName, .character, .buttonAction]
  | .mouseClick => baseAttributes ++ [.touchId, .buttonId, .buttonName, .buttonAction]
  | .mouseMove => baseAttributes ++ [.touchId]
  | .mouseScroll => baseAttributes ++ [.scrollVertical, .scrollHorizontal]

/-- the fields of a type are its attributes, each under a name of its own -/
theorem EntryType.fields_eq (type : EntryType) :
    type.fields = type.attributes.map Attribute.name := by
  cases type <;> rfl

theorem field_eq {entry : Entry} (text : Attribute → List UInt8)
    (h : entry.data = entry.type.attributes.map text) {a : Attribute}
    (ha : a ∈ entry.type.attributes) :
    entry.getEntryWithFields.field a.name = some (text a) := by
  have hlen : entry.data.length = entry.type.fields.length := by
    rw [h, entry.type.fields_eq, List.length_map, List.length_map]
  have hlookup := map_lookup_zip hlen entry.type.fields_nodup
  rw [entry.type.fields_eq, h, List.map_map, List.map_map, ← h, ← entry.type.fields_eq] at hlookup
  exact List.map_inj_left.mp hlookup a ha

def Attribute.isString : Attribute → Bool
  | .deviceName | .focusWindowName | .deviceId | .systemEvent | .eventSource | .buttonName
  | .character => true
  | _ => false

/-! ## setters -/

/-- the setters that every builder has; `interval` stands for both overloads -/
inductive Base.Setter where
  | interval (interval : Option Int)
  | timestamp (timestamp : Int)
  | device (device : DeviceType)
  | positionX (xPos : Double)
  | positionY (yPos : Double)
  | deviceId (deviceId : List UInt8)
  | deviceName (deviceName : List UInt8)
  | focusWindowName (name : List UInt8)
  | focusWindowPositionX (xPos : Double)
  | focusWindowPositionY (yPos : Double)
  | focusWindowWidth (width : Double)
  | focusWindowHeight (height : Double)
  | screen (screen : Int)
  | systemEvent (systemEvent : List UInt8)
  | eventSource (eventSource : List UInt8)
  | modifier (modifierValue : ModifierValue)

/-- a call of a setter: `O` are those of one builder only -/
inductive Call (O : Type) where
  | base (setter : Base.Setter)
  | own (setter : O)

inductive Key.Setter where
  | action (action : ButtonAction)
  | button (button : Int)
  | buttonName (name : List UInt8)
  | character (character : List UInt8)

inductive MouseClick.Setter where
  | action (action : ButtonAction)
  | button (button : Int)
  | buttonName (name : List UInt8)
  | touchId (touchId : Int)

inductive MouseMove.Setter where
  | touchId (touchId : Int)

inductive MouseScroll.Setter where
  | vertical (amount : Double)
  | horizontal (amount : Double)

def Base.Setter.apply : Base.Setter → Base → Base
  | .interval x => Base.interval x
  | .timestamp x => Base.timestamp x
  | .device x => Base.device x
  | .positionX x => Base.positionX x
  | .positionY x => Base.positionY x
  | .deviceId x => Base.deviceId x
  | .deviceName x => Base.deviceName x
  | .focusWindowName x => Base.focusWindowName x
  | .focusWindowPositionX x => Base.focusWindowPositionX x
  | .focusWindowPositionY x => Base.focusWindowPositionY x
  | .focusWindowWidth x => Base.focusWindowWidth x
  | .focusWindowHeight x => Base.focusWindowHeight x
  | .screen x => Base.screen x
  | .systemEvent x => Base.systemEvent x
  | .eventSource x => Base.eventSource x
  | .modifier x => Base.modifier x

def Key.Setter.apply : Key.Setter → Key → Key
  | .action x => Key.action x
  | .button x => Key.button x
  | .buttonName x => Key.buttonName x
  | .character x => Key.character x

def MouseClick.Setter.apply : MouseClick.Setter → MouseClick → MouseClick
  | .action x => MouseClick.action x
  | .button x => MouseClick.button x
  | .buttonName x => MouseClick.buttonName x
  | .touchId x => MouseClick.touchId x

def MouseMove.Setter.apply : MouseMove.Setter → MouseMove → MouseMove
  | .touchId x => MouseMove.touchId x

def MouseScroll.Setter.apply : MouseScroll.Setter → MouseScroll → MouseScroll
  | .vertical x => MouseScroll.vertical x
  | .horizontal x => MouseScroll.horizontal x

/-! ## what a call sets -/

/-- an attribute and a text for it, with names for enumerators; a modifier is no attribute -/
def Base.Setter.sets : Base.Setter → Option (Attribute × List UInt8)
  | .interval x => some (.interval, fromInterval x)
  | .timestamp x => some (.timestamp, fromTimestamp (some x))
  | .device x => some (.deviceType, fromDevice (some x))
  | .positionX x => some (.positionX, fromDouble (some x))
  | .positionY x => some (.positionY, fromDouble (some x))
  | .deviceId x => some (.deviceId, x)
  | .deviceName x => some (.deviceName, x)
  | .focusWindowName x => some (.focusWindowName, x)
  | .focusWindowPositionX x => some (.focusWindowPositionX, fromDouble (some x))
  | .focusWindowPositionY x => some (.focusWindowPositionY, fromDouble (some x))
  | .focusWindowWidth x => some (.focusWindowWidth, fromDouble (some x))
  | .focusWindowHeight x => some (.focusWindowHeight, fromDouble (some x))
  | .screen x => some (.screen, fromInt (some x))
  | .systemEvent x => some (.systemEvent, x)
  | .eventSource x => some (.eventSource, x)
  | .modifier _ => none

def Base.Setter.text (setter : Base.Setter) (a : Attribute) : Option (List UInt8) :=
  setter.sets.bind fun set => if set.1 = a then some set.2 else none

def Base.Setter.modifierValue : Base.Setter → Option ModifierValue
  | .modifier x => some x
  | _ => none

def Key.Setter.sets : Key.Setter → Attribute × List UInt8
  | .action x => (.buttonAction, fromButtonAction (some x))
  | .button x => (.buttonId, fromInt (some x))
  | .buttonName x => (.buttonName, x)
  | .character x => (.character, x)

def MouseClick.Setter.sets : MouseClick.Setter → Attribute × List UInt8
  | .action x => (.buttonAction, fromButtonAction (some x))
  | .button x => (.buttonId, fromInt (some x))
  | .buttonName x => (.buttonName, x)
  | .touchId x => (.touchId, fromInt (some x))

def MouseMove.Setter.sets : MouseMove.Setter → Attribute × List UInt8
  | .touchId x => (.touchId, fromInt (some x))

def MouseScroll.Setter.sets : MouseScroll.Setter → Attribute × List UInt8
  | .vertical x => (.scrollVertical, fromDouble (some x))
  | .horizontal x => (.scrollHorizontal, fromDouble (some x))

class Setters (O : Type) (B : outParam Type) where
  apply : O → B → B
  sets : O → Attribute × List UInt8

instance : Setters Key.Setter Key := ⟨Key.Setter.apply, Key.Setter.sets⟩

instance : Setters MouseClick.Setter MouseClick := ⟨MouseClick.Setter.apply, MouseClick.Setter.sets⟩

instance : Setters MouseMove.Setter MouseMove := ⟨MouseMove.Setter.apply, MouseMove.Setter.sets⟩

instance : Setters MouseScroll.Setter MouseScroll :=
  ⟨MouseScroll.Setter.apply, MouseScroll.Setter.sets⟩

namespace Call
variable {O B : Type} [Builder B] [Setters O B]

def apply (b : B) : Call O → B
  | .base setter => Builder.mapBase setter.apply b
  | .own setter => Setters.apply setter b

def text (a : Attribute) : Call O → Option (List UInt8)
  | .base setter => setter.text a
  | .own setter => if (Setters.sets setter).1 = a then some (Setters.sets setter).2 else none

def modifier : Call O → Option ModifierValue
  | .base setter => setter.modifierValue
  | .own _ => none

def lastText (a : Attribute) (calls : List (Call O)) : List UInt8 :=
  (Latest.of (text a) calls).getD []

end Call

/-! ## drafts -/

inductive Draft where
  | key (calls : List (Call Key.Setter))
  | mouseClick (calls : List (Call MouseClick.Setter))
  | mouseMove (calls : List (Call MouseMove.Setter))
  | mouseScroll (calls : List (Call MouseScroll.Setter))

namespace Draft

def type : Draft → EntryType
  | .key _ => .key
  | .mouseClick _ => .mouseClick
  | .mouseMove _ => .mouseMove
  | .mouseScroll _ => .mouseScroll

/-- the calls on an empty builder, and then `Build` -/
def build : Draft → Data → Data
  | .key calls => Builder.build (calls.foldl Call.apply ({} : Key))
  | .mouseClick calls => Builder.build (calls.foldl Call.apply ({} : MouseClick))
  | .mouseMove calls => Builder.build (calls.foldl Call.apply ({} : MouseMove))
  | .mouseScroll calls => Builder.build (calls.foldl Call.apply ({} : MouseScroll))

def entry : Draft → Entry
  | .key calls => (calls.foldl Call.apply ({} : Key)).entry
  | .mouseClick calls => (calls.foldl Call.apply ({} : MouseClick)).entry
  | .mouseMove calls => (calls.foldl Call.apply ({} : MouseMove)).entry
  | .mouseScroll calls => (calls.foldl Call.apply ({} : MouseScroll)).entry

def lastText (a : Attribute) : Draft → List UInt8
  | .key calls => Call.lastText a calls
  | .mouseClick calls => Call.lastText a calls
  | .mouseMove calls => Call.lastText a calls
  | .mouseScroll calls => Call.lastText a calls

def modifiers : Draft → List ModifierValue
  | .key calls => calls.filterMap Call.modifier
  | .mouseClick calls => calls.filterMap Call.modifier
  | .mouseMove calls => calls.filterMap Call.modifier
  | .mouseScroll calls => calls.filterMap Call.modifier

end Draft

def buildAll (drafts : List Draft) : Data := drafts.foldl (fun data draft => draft.build data) .new

theorem buildAll_entries (drafts : List Draft) :
    (buildAll drafts).entries = drafts.map Draft.entry := by
  have key : ∀ (data : Data), (drafts.foldl (fun data draft => draft.build data) data).entries
      = data.entries ++ drafts.map Draft.entry := by
    induction drafts with
    | nil => exact fun data => (List.append_nil _).symm
    | cons draft drafts ih =>
      intro data
      have hone : (draft.build data).entries = data.entries ++ [draft.entry] := by
        cases draft <;> rfl
      rw [List.foldl_cons, ih, hone, List.append_assoc]
      rfl
  exact key .new

/-! ## what a builder holds -/

def Base.text (self : Base) : Attribute → List UInt8
  | .interval => fromInterval self.interval_
  | .timestamp => fromTimestamp self.timestamp_
  | .positionX => fromDouble self.positionX_
  | .positionY => fromDouble self.positionY_
  | .deviceName => fromString self.deviceName_
  | .focusWindowName => fromString self.focusWindowName_
  | .focusWindowPositionX => fromDouble self.focusWindowPositionX_
  | .focusWindowPositionY => fromDouble self.focusWindowPositionY_
  | .focusWindowWidth => fromDouble self.focusWindowWidth_
  | .focusWindowHeight => fromDouble self.focusWindowHeight_
  | .screen => fromInt self.screen_
  | .deviceId => fromString self.deviceId_
  | .systemEvent => fromString self.systemEvent_
  | .eventSource => fromString self.eventSource_
  | .deviceType => fromDevice self.device_
  | _ => []

def Key.text (self : Key) : Attribute → List UInt8
  | .buttonId => fromInt self.button_
  | .buttonName => fromString self.name_
  | .character => fromString self.character_
  | .buttonAction => fromButtonAction self.action_
  | a => self.toBase.text a

def MouseClick.text (self : MouseClick) : Attribute → List UInt8
  | .touchId => fromInt self.touchId_
  | .buttonId => fromInt self.button_
  | .buttonName => fromString self.name_
  | .buttonAction => fromButtonAction self.action_
  | a => self.toBase.text a

def MouseMove.text (self : MouseMove) : Attribute → List UInt8
  | .touchId => fromInt self.touchId_
  | a => self.toBase.text a

def MouseScroll.text (self : MouseScroll) : Attribute → List UInt8
  | .scrollVertical => fromDouble self.vertical_
  | .scrollHorizontal => fromDouble self.horizontal_
  | a => self.toBase.text a

/-! ### one call -/

theorem Base.Setter.text_apply (setter : Base.Setter) (self : Base) (a : Attribute) :
    (setter.apply self).text a = (setter.text a).getD (self.text a) := by
  cases setter <;> cases a <;> rfl

theorem Base.Setter.modifiers_apply (setter : Base.Setter) (self : Base) :
    (setter.apply self).modifiers_
      = self.modifiers_ ++ setter.modifierValue.toList.map toUnderlying := by
  cases setter <;> first | exact (List.append_nil _).symm | rfl

theorem Key.text_apply (self : Key) (call : Call Key.Setter) (a : Attribute) :
    (call.apply self).text a = (call.text a).getD (self.text a) := by
  cases call with
  | own setter => cases setter <;> cases a <;> rfl
  | base setter =>
    have hbase := setter.text_apply self.toBase a
    cases a <;> first | exact hbase | (cases setter <;> rfl)

theorem Key.modifiers_apply (self : Key) (call : Call Key.Setter) :
    (call.apply self).modifiers_ = self.modifiers_ ++ call.modifier.toList.map toUnderlying := by
  cases call with
  | own setter => cases setter <;> exact (List.append_nil _).symm
  | base setter => exact setter.modifiers_apply self.toBase

theorem MouseClick.text_apply (self : MouseClick) (call : Call MouseClick.Setter) (a : Attribute) :
    (call.apply self).text a = (call.text a).getD (self.text a) := by
  cases call with
  | own setter => cases setter <;> cases a <;> rfl
  | base setter =>
    have hbase := setter.text_apply self.toBase a
    cases a <;> first | exact hbase | (cases setter <;> rfl)

theorem MouseClick.modifiers_apply (self : MouseClick) (call : Call MouseClick.Setter) :
    (call.apply self).modifiers_ = self.modifiers_ ++ call.modifier.toList.map toUnderlying := by
  cases call with
  | own setter => cases setter <;> exact (List.append_nil _).symm
  | base setter => exact setter.modifiers_apply self.toBase

theorem MouseMove.text_apply (self : MouseMove) (call : Call MouseMove.Setter) (a : Attribute) :
    (call.apply self).text a = (call.text a).getD (self.text a) := by
  cases call with
  | own setter =>
    cases setter
    cases a <;> rfl
  | base setter =>
    have hbase := setter.text_apply self.toBase a
    cases a <;> first | exact hbase | (cases setter <;> rfl)

theorem MouseMove.modifiers_apply (self : MouseMove) (call : Call MouseMove.Setter) :
    (call.apply self).modifiers_ = self.modifiers_ ++ call.modifier.toList.map toUnderlying := by
  cases call with
  | own setter => cases setter; exact (List.append_nil _).symm
  | base setter => exact setter.modifiers_apply self.toBase

theorem MouseScroll.text_apply (self : MouseScroll) (call : Call MouseScroll.Setter)
    (a : Attribute) : (call.apply self).text a = (call.text a).getD (self.text a) := by
  cases call with
  | own setter => cases setter <;> cases a <;> rfl
  | base setter =>
    have hbase := setter.text_apply self.toBase a
    cases a <;> first | exact hbase | (cases setter <;> rfl)

theorem MouseScroll.modifiers_apply (self : MouseScroll) (call : Call MouseScroll.Setter) :
    (call.apply self).modifiers_ = self.modifiers_ ++ call.modifier.toList.map toUnderlying := by
  cases call with
  | own setter => cases setter <;> exact (List.append_nil _).symm
  | base setter => exact setter.modifiers_apply self.toBase

/-- the texts of an entry before names are put in: numbers for the device type and the action -/
def Attribute.number (device : Option DeviceType) (action : Option ButtonAction)
    (text : Attribute → List UInt8) : Attribute → List UInt8
  | .deviceType => toUnderlyingOptional device
  | .buttonAction => toUnderlyingOptional action
  | a => text a

theorem plain_fromDevice (value : Option DeviceType) : Plain (fromDevice value) :=
  plain_optionalToString (fun x => (by cases x <;> decide +kernel)) value

theorem plain_fromButtonAction (value : Option ButtonAction) : Plain (fromButtonAction value) :=
  plain_optionalToString (fun x => (by cases x <;> decide +kernel)) value

theorem Base.Setter.plain_sets (setter : Base.Setter) {a : Attribute} {text : List UInt8}
    (h : setter.sets = some (a, text)) (ha : a.isString = false) : Plain text := by
  cases setter <;> cases h
  case interval => exact plain_fromInterval _
  case timestamp => exact plain_fromTimestamp _
  case device => exact plain_fromDevice _
  case screen => exact plain_fromInt _
  case deviceId | deviceName | focusWindowName | systemEvent | eventSource => cases ha
  all_goals exact plain_fromDouble _

/-- what a builder of entries of a type holds, and what one call changes of it -/
structure Holding (O : Type) {B : Type} [Builder B] [Setters O B] (type : EntryType)
    (entry : B → Entry) (blank : B) where
  text : B → Attribute → List UInt8
  modifiers : B → List (List UInt8)
  device : B → Option DeviceType
  action : B → Option ButtonAction
  entry_eq : ∀ b, entry b
    = ⟨type, type.attributes.map (Attribute.number (device b) (action b) (text b)), modifiers b⟩
  text_device : ∀ b, text b .deviceType = fromDevice (device b)
  text_action : ∀ b, text b .buttonAction = fromButtonAction (action b)
  text_apply : ∀ b (call : Call O) a, text (call.apply b) a = (call.text a).getD (text b a)
  modifiers_apply : ∀ b (call : Call O), modifiers (call.apply b)
    = modifiers b ++ call.modifier.toList.map toUnderlying
  text_blank : ∀ a, text blank a = []
  modifiers_blank : modifiers blank = []
  plain_sets : ∀ setter : O, (Setters.sets setter).1.isString = false →
    Plain (Setters.sets setter).2

def Key.holding : Holding Key.Setter .key Key.entry {} where
  text := Key.text
  modifiers b := b.modifiers_
  device b := b.device_
  action b := b.action_
  entry_eq _ := rfl
  text_device _ := rfl
  text_action _ := rfl
  text_apply := Key.text_apply
  modifiers_apply := Key.modifiers_apply
  text_blank a := by cases a <;> rfl
  modifiers_blank := rfl
  plain_sets setter h := by
    cases setter with
    | action x => exact plain_fromButtonAction (some x)
    | button x => exact plain_fromInt (some x)
    | buttonName x => cases h
    | character x => cases h

def MouseClick.holding : Holding MouseClick.Setter .mouseClick MouseClick.entry {} where
  text := MouseClick.text
  modifiers b := b.modifiers_
  device b := b.device_
  action b := b.action_
  entry_eq _ := rfl
  text_device _ := rfl
  text_action _ := rfl
  text_apply := MouseClick.text_apply
  modifiers_apply := MouseClick.modifiers_apply
  text_blank a := by cases a <;> rfl
  modifiers_blank := rfl
  plain_sets setter h := by
    cases setter with
    | action x => exact plain_fromButtonAction (some x)
    | button x => exact plain_fromInt (some x)
    | buttonName x => cases h
    | touchId x => exact plain_fromInt (some x)

def MouseMove.holding : Holding MouseMove.Setter .mouseMove MouseMove.entry {} where
  text := MouseMove.text
  modifiers b := b.modifiers_
  device b := b.device_
  action _ := none
  entry_eq _ := rfl
  text_device _ := rfl
  text_action _ := rfl
  text_apply := MouseMove.text_apply
  modifiers_apply := MouseMove.modifiers_apply
  text_blank a := by cases a <;> rfl
  modifiers_blank := rfl
  plain_sets setter h := by
    cases setter with
    | touchId x => exact plain_fromInt (some x)

def MouseScroll.holding : Holding MouseScroll.Setter .mouseScroll MouseScroll.entry {} where
  text := MouseScroll.text
  modifiers b := b.modifiers_
  device b := b.device_
  action _ := none
  entry_eq _ := rfl
  text_device _ := rfl
  text_action _ := rfl
  text_apply := MouseScroll.text_apply
  modifiers_apply := MouseScroll.modifiers_apply
  text_blank a := by cases a <;> rfl
  modifiers_blank := rfl
  plain_sets setter h := by
    cases setter with
    | vertical x => exact plain_fromDouble (some x)
    | horizontal x => exact plain_fromDouble (some x)

/-! ### all calls -/

namespace Holding
variable {O B : Type} [Builder B] [Setters O B] {type : EntryType} {entry : B → Entry} {blank : B}

/-- each call sets the text of its attribute, so what was set last counts -/
theorem foldl_text (h : Holding O type entry blank) (calls : List (Call O)) :
    h.text (calls.foldl Call.apply blank) = fun a => Call.lastText a calls := by
  funext a
  have hstep : ∀ b (call : Call O),
      some (h.text (call.apply b) a) = (call.text a).or (some (h.text b a)) := by
    intro b call
    rw [h.text_apply]
    cases call.text a <;> rfl
  have hrun := Latest.foldl_of (fun b => some (h.text b a)) hstep calls blank
  unfold Call.lastText
  rw [h.text_blank] at hrun
  cases hlast : Latest.of (Call.text a) calls with
  | none =>
    rw [hlast] at hrun
    exact Option.some.inj hrun
  | some text =>
    rw [hlast] at hrun
    exact Option.some.inj hrun

theorem foldl_modifiers (h : Holding O type entry blank) (calls : List (Call O)) :
    h.modifiers (calls.foldl Call.apply blank)
      = (calls.filterMap Call.modifier).map toUnderlying := by
  have key : ∀ b, h.modifiers (calls.foldl Call.apply b)
      = h.modifiers b ++ (calls.filterMap Call.modifier).map toUnderlying := by
    induction calls with
    | nil => exact fun b => (List.append_nil _).symm
    | cons call calls ih =>
      intro b
      rw [List.foldl_cons, ih, h.modifiers_apply, List.append_assoc]
      cases hm : call.modifier with
      | none => rw [List.filterMap_cons_none hm]; rfl
      | some m => rw [List.filterMap_cons_some hm]; rfl
  rw [key, h.modifiers_blank, List.nil_append]

theorem entry_foldl (h : Holding O type entry blank) (calls : List (Call O)) :
    ∃ device action, Call.lastText .deviceType calls = fromDevice device ∧
      Call.lastText .buttonAction calls = fromButtonAction action ∧
      entry (calls.foldl Call.apply blank) = ⟨type,
        type.attributes.map (Attribute.number device action fun a => Call.lastText a calls),
        (calls.filterMap Call.modifier).map toUnderlying⟩ := by
  have htext := h.foldl_text calls
  refine ⟨h.device (calls.foldl Call.apply blank), h.action (calls.foldl Call.apply blank),
    ?_, ?_, ?_⟩
  · rw [← h.text_device, htext]
  · rw [← h.text_action, htext]
  · rw [h.entry_eq, htext, h.foldl_modifiers]

/-- the text that was set last for an attribute that is no string -/
theorem plain_lastText (h : Holding O type entry blank) (calls : List (Call O)) {a : Attribute}
    (ha : a.isString = false) : Plain (Call.lastText a calls) := by
  unfold Call.lastText
  cases hlast : Latest.of (Call.text a) calls with
  | none => exact List.forall_mem_nil _
  | some text =>
    obtain ⟨call, -, hcall⟩ := Latest.exists_of_eq_some hlast
    show Plain text
    cases call with
    | base setter =>
      obtain ⟨set, hset, hif⟩ := Option.bind_eq_some_iff.mp hcall
      by_cases hs : set.1 = a
      · rw [if_pos hs] at hif
        cases hif
        exact setter.plain_sets hset (hs ▸ ha)
      · rw [if_neg hs] at hif
        cases hif
    | own setter =>
      have hif : (if (Setters.sets setter).1 = a then some (Setters.sets setter).2 else none)
          = some text := hcall
      by_cases hs : (Setters.sets setter).1 = a
      · rw [if_pos hs] at hif
        cases hif
        exact h.plain_sets setter (hs ▸ ha)
      · rw [if_neg hs] at hif
        cases hif

end Holding

/-! ### the entry -/

namespace Draft

/-- **What is built**: under every name of its type the entry has the text that was set last, or
none, with numbers for the device type and the button action, and the numbers of all modifiers
that were added, in their order. -/
theorem entry_eq (draft : Draft) :
    ∃ device action, draft.lastText .deviceType = fromDevice device ∧
      draft.lastText .buttonAction = fromButtonAction action ∧
      draft.entry = ⟨draft.type,
        draft.type.attributes.map (Attribute.number device action fun a => draft.lastText a),
        draft.modifiers.map toUnderlying⟩ := by
  cases draft with
  | key calls => exact Key.holding.entry_foldl calls
  | mouseClick calls => exact MouseClick.holding.entry_foldl calls
  | mouseMove calls => exact MouseMove.holding.entry_foldl calls
  | mouseScroll calls => exact MouseScroll.holding.entry_foldl calls

theorem built (draft : Draft) : draft.entry.Built := by
  cases draft with
  | key calls => exact .key _
  | mouseClick calls => exact .mouseClick _
  | mouseMove calls => exact .mouseMove _
  | mouseScroll calls => exact .mouseScroll _

theorem plain_lastText (draft : Draft) {a : Attribute} (ha : a.isString = false) :
    Plain (draft.lastText a) := by
  cases draft with
  | key calls => exact Key.holding.plain_lastText calls ha
  | mouseClick calls => exact MouseClick.holding.plain_lastText calls ha
  | mouseMove calls => exact MouseMove.holding.plain_lastText calls ha
  | mouseScroll calls => exact MouseScroll.holding.plain_lastText calls ha

theorem toNamedRepresentation_entry (draft : Draft) :
    draft.entry.toNamedRepresentation = .ok ⟨draft.type,
      draft.type.attributes.map fun a => draft.lastText a,
      draft.modifiers.map fun modifier => fromModifierValue (some modifier)⟩ := by
  obtain ⟨device, action, hdevice, haction, hentry⟩ := draft.entry_eq
  rw [hentry]
  cases htype : draft.type with
  | key =>
    rw [Entry.named_action (.inl rfl) rfl rfl rfl, ← hdevice, ← haction]
    rfl
  | mouseClick =>
    rw [Entry.named_action (.inr rfl) rfl rfl rfl, ← hdevice, ← haction]
    rfl
  | mouseMove =>
    refine (Entry.named_plain ⟨?_, ?_⟩ rfl rfl).trans ?_
    · exact nofun
    · exact nofun
    · rw [← hdevice]
      rfl
  | mouseScroll =>
    refine (Entry.named_plain ⟨?_, ?_⟩ rfl rfl).trans ?_
    · exact nofun
    · exact nofun
    · rw [← hdevice]
      rfl

end Draft
end Evget
