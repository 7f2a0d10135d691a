import Evget.Event.Entry

/-!
# Builders of entries

A builder collects optional values and makes an entry of them.  The fields and setters that the
four builders share are those of `Base`; each builder lists the texts of its entry itself, in the
order that the names of its type have.

* `Key.build`, `MouseClick.build`, `MouseMove.build`, `MouseScroll.build`   add the entry to `Data`;
* `Entry.Built.length_data`                             a built entry has one text for each name.
-/

namespace Evget
open SQLite

/-! ## what the builders share -/

structure Base where
  interval_ : Option Int := none
  timestamp_ : Option Int := none
  device_ : Option DeviceType := none
  positionX_ : Option Double := none
  positionY_ : Option Double := none
  deviceId_ : Option (List UInt8) := none
  deviceName_ : Option (List UInt8) := none
  focusWindowName_ : Option (List UInt8) := none
  focusWindowPositionX_ : Option Double := none
  focusWindowPositionY_ : Option Double := none
  focusWindowWidth_ : Option Double := none
  focusWindowHeight_ : Option Double := none
  screen_ : Option Int := none
  systemEvent_ : Option (List UInt8) := none
  eventSource_ : Option (List UInt8) := none
  modifiers_ : List (List UInt8) := []
deriving DecidableEq, Repr

namespace Base

def interval (interval : Option Int) (self : Base) : Base := { self with interval_ := interval }

def timestamp (timestamp : Int) (self : Base) : Base := { self with timestamp_ := some timestamp }

def device (device : DeviceType) (self : Base) : Base := { self with device_ := some device }

def positionX (xPos : Double) (self : Base) : Base := { self with positionX_ := some xPos }

def positionY (yPos : Double) (self : Base) : Base := { self with positionY_ := some yPos }

def deviceId (deviceId : List UInt8) (self : Base) : Base :=
  { self with deviceId_ := some deviceId }

def deviceName (deviceName : List UInt8) (self : Base) : Base :=
  { self with deviceName_ := some deviceName }

def focusWindowName (name : List UInt8) (self : Base) : Base :=
  { self with focusWindowName_ := some name }

def focusWindowPositionX (xPos : Double) (self : Base) : Base :=
  { self with focusWindowPositionX_ := some xPos }

def focusWindowPositionY (yPos : Double) (self : Base) : Base :=
  { self with focusWindowPositionY_ := some yPos }

def focusWindowWidth (width : Double) (self : Base) : Base :=
  { self with focusWindowWidth_ := some width }

def focusWindowHeight (height : Double) (self : Base) : Base :=
  { self with focusWindowHeight_ := some height }

def screen (screen : Int) (self : Base) : Base := { self with screen_ := some screen }

def systemEvent (systemEvent : List UInt8) (self : Base) : Base :=
  { self with systemEvent_ := some systemEvent }

def eventSource (eventSource : List UInt8) (self : Base) : Base :=
  { self with eventSource_ := some eventSource }

def modifier (modifierValue : ModifierValue) (self : Base) : Base :=
  { self with modifiers_ := self.modifiers_ ++ [toUnderlying modifierValue] }

end Base

class Builder (B : Type) where
  mapBase : (Base → Base) → B → B
  build : B → Data → Data

/-! ## the four builders -/

structure Key extends Base where
  action_ : Option ButtonAction := none
  button_ : Option Int := none
  name_ : Option (List UInt8) := none
  character_ : Option (List UInt8) := none
deriving DecidableEq, Repr

namespace Key

def action (action : ButtonAction) (self : Key) : Key := { self with action_ := some action }

def button (button : Int) (self : Key) : Key := { self with button_ := some button }

def buttonName (name : List UInt8) (self : Key) : Key := { self with name_ := some name }

def character (character : List UInt8) (self : Key) : Key :=
  { self with character_ := some character }

def entry (self : Key) : Entry :=
  ⟨.key, [
    fromInterval self.interval_,
    fromTimestamp self.timestamp_,
    fromDouble self.positionX_,
    fromDouble self.positionY_,
    fromString self.deviceName_,
    fromString self.focusWindowName_,
    fromDouble self.focusWindowPositionX_,
    fromDouble self.focusWindowPositionY_,
    fromDouble self.focusWindowWidth_,
    fromDouble self.focusWindowHeight_,
    fromInt self.screen_,
    fromString self.deviceId_,
    fromString self.systemEvent_,
    fromString self.eventSource_,
    toUnderlyingOptional self.device_,
    fromInt self.button_,
    fromString self.name_,
    fromString self.character_,
    toUnderlyingOptional self.action_], self.modifiers_⟩

instance : Builder Key where
  mapBase f self := { self with toBase := f self.toBase }
  build self data := data.addEntry self.entry

end Key

structure MouseClick extends Base where
  action_ : Option ButtonAction := none
  button_ : Option Int := none
  name_ : Option (List UInt8) := none
  touchId_ : Option Int := none
deriving DecidableEq, Repr

namespace MouseClick

def action (action : ButtonAction) (self : MouseClick) : MouseClick :=
  { self with action_ := some action }

def button (button : Int) (self : MouseClick) : MouseClick := { self with button_ := some button }

def buttonName (name : List UInt8) (self : MouseClick) : MouseClick :=
  { self with name_ := some name }

def touchId (touchId : Int) (self : MouseClick) : MouseClick :=
  { self with touchId_ := some touchId }

def entry (self : MouseClick) : Entry :=
  ⟨.mouseClick, [
    fromInterval self.interval_,
    fromTimestamp self.timestamp_,
    fromDouble self.positionX_,
    fromDouble self.positionY_,
    fromString self.deviceName_,
    fromString self.focusWindowName_,
    fromDouble self.focusWindowPositionX_,
    fromDouble self.focusWindowPositionY_,
    fromDouble self.focusWindowWidth_,
    fromDouble self.focusWindowHeight_,
    fromInt self.screen_,
    fromString self.deviceId_,
    fromString self.systemEvent_,
    fromString self.eventSource_,
    toUnderlyingOptional self.device_,
    fromInt self.touchId_,
    fromInt self.button_,
    fromString self.name_,
    toUnderlyingOptional self.action_], self.modifiers_⟩

instance : Builder MouseClick where
  mapBase f self := { self with toBase := f self.toBase }
  build self data := data.addEntry self.entry

end MouseClick

structure MouseMove extends Base where
  touchId_ : Option Int := none
deriving DecidableEq, Repr

namespace MouseMove

def touchId (touchId : Int) (self : MouseMove) : MouseMove := { self with touchId_ := some touchId }

def entry (self : MouseMove) : Entry :=
  ⟨.mouseMove, [
    fromInterval self.interval_,
    fromTimestamp self.timestamp_,
    fromDouble self.positionX_,
    fromDouble self.positionY_,
    fromString self.deviceName_,
    fromString self.focusWindowName_,
    fromDouble self.focusWindowPositionX_,
    fromDouble self.focusWindowPositionY_,
    fromDouble self.focusWindowWidth_,
    fromDouble self.focusWindowHeight_,
    fromInt self.screen_,
    fromString self.deviceId_,
    fromString self.systemEvent_,
    fromString self.eventSource_,
    toUnderlyingOptional self.device_,
    fromInt self.touchId_], self.modifiers_⟩

instance : Builder MouseMove where
  mapBase f self := { self with toBase := f self.toBase }
  build self data := data.addEntry self.entry

end MouseMove

structure MouseScroll extends Base where
  vertical_ : Option Double := none
  horizontal_ : Option Double := none
deriving DecidableEq, Repr

namespace MouseScroll

def vertical (amount : Double) (self : MouseScroll) : MouseScroll :=
  { self with vertical_ := some amount }

def horizontal (amount : Double) (self : MouseScroll) : MouseScroll :=
  { self with horizontal_ := some amount }

def entry (self : MouseScroll) : Entry :=
  ⟨.mouseScroll, [
    fromInterval self.interval_,
    fromTimestamp self.timestamp_,
    fromDouble self.positionX_,
    fromDouble self.positionY_,
    fromString self.deviceName_,
    fromString self.focusWindowName_,
    fromDouble self.focusWindowPositionX_,
    fromDouble self.focusWindowPositionY_,
    fromDouble self.focusWindowWidth_,
    fromDouble self.focusWindowHeight_,
    fromInt self.screen_,
    fromString self.deviceId_,
    fromString self.systemEvent_,
    fromString self.eventSource_,
    toUnderlyingOptional self.device_,
    fromDouble self.vertical_,
    fromDouble self.horizontal_], self.modifiers_⟩

instance : Builder MouseScroll where
  mapBase f self := { self with toBase := f self.toBase }
  build self data := data.addEntry self.entry

end MouseScroll

/-! ## what a built entry has -/

inductive Entry.Built : Entry → Prop where
  | key (self : Key) : Built self.entry
  | mouseClick (self : MouseClick) : Built self.entry
  | mouseMove (self : MouseMove) : Built self.entry
  | mouseScroll (self : MouseScroll) : Built self.entry

/-- **The texts match the names**: a built entry has as many texts as its type has names. -/
theorem Entry.Built.length_data {entry : Entry} (h : entry.Built) :
    entry.data.length = entry.type.fields.length := by
  cases h <;> rfl

theorem Entry.built_of_data {entry : Entry} (h : entry.Built ∨ entry.data = [])
    (hdata : ¬ entry.data.isEmpty) : entry.Built := by
  rcases h with hbuilt | hnil
  · exact hbuilt
  · exact absurd (List.isEmpty_iff.mpr hnil) hdata

end Evget
