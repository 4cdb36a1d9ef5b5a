import WindowRouting.Router.Basic

/-!
A client that answers by rule. Its listeners are either silent or recorders; a recorder classifies
points by the first of its rules that covers them and consumes the keys it is told to. The drag
sessions and scroll gestures of recorders are numbered, and those of silent listeners are silent.
-/

set_option autoImplicit false
set_option relaxedAutoImplicit false

namespace WindowRouting.Scenario

/-- A rectangle of points of one class, without its right and lower borders. -/
structure Zone where
  low : Vec
  high : Vec
  hit : HitTest

/-- The keys that are consumed. -/
inductive Consumption
  /-- All keys, or none. -/
  | every (consumed : Bool)
  | keys (keyvals : List UInt32)

/-- A key is consumed. -/
def Consumption.covers : Consumption → UInt32 → Bool
  | every consumed, _ => consumed
  | keys keyvals, keyval => keyvals.contains keyval

/-- A listener that is recorded. -/
structure Recorder where
  zones : List Zone
  consumption : Consumption

/-- The class of a point. -/
def Recorder.hit (r : Recorder) (loc : Vec) : HitTest :=
  match r.zones.find? fun zone ↦ loc.within zone.low zone.high with
  | some zone => zone.hit
  | none => .client

/-- A listener that does nothing, or one that is recorded. -/
inductive Listener
  | silent
  | recorder (r : Recorder)

/-- The number of a session or gesture; those of silent listeners have none. -/
abbrev Serial := Option Nat

/-- The scale factors that a host reports: some by window, and one for all others. -/
structure ScaleTable where
  byId : List (WindowId × Option Float32)
  others : Option Float32

/-- The scale factor of a window. -/
def ScaleTable.find (t : ScaleTable) (id : WindowId) : Option Float32 :=
  (t.byId.lookup id).getD t.others

/-- The client of a scenario. -/
abbrev client : Client where
  Listener := Listener
  Drag := Serial
  Gesture := Serial
  Host := ScaleTable

/-- A call asks for a session or a gesture, which takes a number. -/
def opensSession : WindowCall → Bool
  | .beginDrag _ _ | .beginGesture _ => true
  | _ => false

/-- The answer of a silent listener. -/
def silentAnswer : (call : WindowCall) → call.Answer client
  | .hitTest _ => HitTest.client
  | .keyDown _ | .keyUp _ => false
  | .beginDrag _ _ | .beginGesture _ => (none : Serial)
  | .draw _ | .scaleChanged | .motion _ | .leave | .scroll _ _ => ()

/-- The answer of a recorder, where a session or gesture gets the number `serial`. -/
def Recorder.answer (r : Recorder) (serial : Nat) : (call : WindowCall) → call.Answer client
  | .hitTest loc => r.hit loc
  | .keyDown key | .keyUp key => r.consumption.covers key.keyval
  | .beginDrag _ _ | .beginGesture _ => some serial
  | .draw _ | .scaleChanged | .motion _ | .leave | .scroll _ _ => ()

end WindowRouting.Scenario
