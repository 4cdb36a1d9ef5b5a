import WindowRouting.Store.Window
import WindowRouting.Store.WindowId
import WindowRouting.Input.HitTest
import WindowRouting.Input.Button
import WindowRouting.Input.Key
import WindowRouting.Input.ScrollAmount

/-!
The calls that a router makes to its client. A client has listeners, one for each window, and a host
that knows the scale factors. A listener opens a drag session at the first press of a button and a
scroll gesture at the first smooth scroll; from then on the session or gesture is called instead of
the listener. Each call has a type of answers (`Call.Answer`).
-/

set_option autoImplicit false
set_option relaxedAutoImplicit false

namespace WindowRouting

/-- What a client is made of. -/
structure Client where
  /-- Receives the events of a window. -/
  Listener : Type
  /-- Receives the pointer events of a drag session. -/
  Drag : Type
  /-- Receives the motion of a scroll gesture. -/
  Gesture : Type
  /-- Answers queries about the native side. -/
  Host : Type

/-- A call to the listener of a window. -/
inductive WindowCall
  | draw (context : UInt64)
  /-- The scale of the window changed; its descriptor holds the new one. -/
  | scaleChanged
  /-- Asks what a point of the window is for. -/
  | hitTest (loc : Vec)
  /-- Asks whether the press of a key is consumed. -/
  | keyDown (event : KeyEvent)
  /-- Asks whether the release of a key is consumed. -/
  | keyUp (event : KeyEvent)
  /-- The pointer moved while no button was held. -/
  | motion (loc : Vec)
  /-- The pointer left the window while no button was held. -/
  | leave
  /-- Asks for a drag session. -/
  | beginDrag (loc : Vec) (button : Button)
  /-- A step of a scroll wheel. -/
  | scroll (loc : Vec) (amount : ScrollAmount)
  /-- Asks for a scroll gesture. -/
  | beginGesture (loc : Vec)

/-- A call to a drag session. -/
inductive DragCall
  | motion (loc : Vec)
  | down (loc : Vec) (button : Button)
  | up (loc : Vec) (button : Button)
  /-- The session ends because its window closed. -/
  | cancel

/-- A call to a scroll gesture. -/
inductive GestureCall
  /-- The velocity is in units of the amount per second. -/
  | motion (amount : ScrollAmount) (velocity : Vec)
  /-- The fingers were lifted while the content was moving; the end follows. -/
  | momentum
  | finish
  | cancel
deriving DecidableEq

/-- A call to a client. -/
inductive Call (C : Client)
  | window (listener : C.Listener) (id : WindowId) (window : Window) (call : WindowCall)
  | drag (session : C.Drag) (call : DragCall)
  | gesture (gesture : C.Gesture) (call : GestureCall)
  /-- Asks for the scale factor of a window, which is unknown until the window is shown. -/
  | scaleFactor (host : C.Host) (id : WindowId)

/-- An open window with the listener that receives its events. -/
structure Target (C : Client) where
  id : WindowId
  window : Window
  listener : C.Listener

/-- A call to the listener of the window. -/
abbrev Target.call {C : Client} (t : Target C) (call : WindowCall) : Call C :=
  .window t.listener t.id t.window call

/-- What a listener answers to a call. -/
def WindowCall.Answer (C : Client) : WindowCall → Type
  | .hitTest _ => HitTest
  | .keyDown _ | .keyUp _ => Bool
  | .beginDrag _ _ => C.Drag
  | .beginGesture _ => C.Gesture
  | _ => Unit

/-- What a client answers to a call. -/
def Call.Answer {C : Client} : Call C → Type
  | .window _ _ _ call => call.Answer C
  | .drag _ _ | .gesture _ _ => Unit
  | .scaleFactor _ _ => Option Float32

/-- The name of a call to a listener. -/
def WindowCall.name : WindowCall → String
  | .draw _ => "draw"
  | .scaleChanged => "dpi_scale_changed"
  | .hitTest _ => "nc_hit_test"
  | .keyDown _ => "key_down"
  | .keyUp _ => "key_up"
  | .motion _ => "mouse_motion"
  | .leave => "mouse_leave"
  | .beginDrag _ _ => "mouse_drag"
  | .scroll _ _ => "scroll_motion"
  | .beginGesture _ => "scroll_gesture"

/-- The name of a call to a drag session. -/
def DragCall.name : DragCall → String
  | .motion _ => "drag.mouse_motion"
  | .down _ _ => "drag.mouse_down"
  | .up _ _ => "drag.mouse_up"
  | .cancel => "drag.cancel"

/-- The name of a call to a scroll gesture. -/
def GestureCall.name : GestureCall → String
  | .motion _ _ => "gesture.motion"
  | .momentum => "gesture.start_momentum_phase"
  | .finish => "gesture.end"
  | .cancel => "gesture.cancel"

/-- The name of a call. -/
def Call.name {C : Client} : Call C → String
  | .window _ _ _ call => call.name
  | .drag _ call => call.name
  | .gesture _ call => call.name
  | .scaleFactor _ _ => "host.scale_factor"

end WindowRouting
