import WindowRouting.Error
import WindowRouting.Input.Button
import WindowRouting.Input.HitTest

/-!
The notices that a router leaves for whoever watches it: what happened, at which level, in which
words and with which fields.
-/

set_option autoImplicit false
set_option relaxedAutoImplicit false

namespace WindowRouting

/-- How much a notice matters. -/
inductive Level
  | error
  | warn
  | info
  | debug
  | trace
deriving DecidableEq, Repr

/-- The name of a level. -/
def Level.name : Level → String
  | error => "ERROR"
  | warn => "WARN"
  | info => "INFO"
  | debug => "DEBUG"
  | trace => "TRACE"

/-- The value of a field of a notice. -/
inductive Field
  | flag (value : Bool)
  | number (value : Float32)
  | text (value : String)

/-- What a router reports. -/
inductive Notice
  | windowOpened (id : WindowId) (handle : Handle)
  | windowClosed (id : WindowId)
  | drawing (id : WindowId)
  | scaleChanged (id : WindowId) (scale : Float32)
  | scaleRefused (id : WindowId) (scale : Float32)
  | scaleUnknown (id : WindowId)
  | keyPressed (id : WindowId) (keyval : UInt32) (handled : Bool)
  | keyReleased (id : WindowId) (keyval : UInt32) (handled : Bool)
  /-- The button has no bit in the word of held buttons. -/
  | buttonUntracked (id : WindowId) (button : Button)
  | buttonHeld (id : WindowId) (button : Button)
  | buttonNotHeld (id : WindowId) (button : Button)
  | dragStarted (id : WindowId) (button : Button)
  | dragEnded (id : WindowId)
  | dragCancelled (id : WindowId)
  /-- The pointer left, but the drag session keeps it. -/
  | leftWhileDragging (id : WindowId)
  | gestureStarted (id : WindowId)
  | gestureTimedOut (id : WindowId)
  /-- A discrete scroll came while the gesture was open. -/
  | gestureInterrupted (id : WindowId)
  | gestureEnded (id : WindowId) (elapsed : UInt32) (momentum : Bool)
  | gestureCancelled (id : WindowId)
  | noGestureToStop (id : WindowId)
  /-- A signal of the native side was not delivered. -/
  | dropped (reason : Error) (entry : String) (handle : Handle)
  /-- The client failed while a signal of the native side was delivered. -/
  | clientFailed (entry : String) (handle : Handle)

namespace Notice

/-- The level of a notice. Signals for windows that are gone are normal, since a widget may go on
sending while it is destroyed. -/
def level : Notice → Level
  | windowOpened .. | windowClosed .. => .info
  | scaleRefused .. | buttonUntracked .. => .warn
  | drawing .. | keyPressed .. | keyReleased .. | buttonHeld .. | buttonNotHeld ..
  | leftWhileDragging .. | noGestureToStop .. => .trace
  | scaleChanged .. | scaleUnknown .. | dragStarted .. | dragEnded .. | dragCancelled ..
  | gestureStarted .. | gestureTimedOut .. | gestureInterrupted .. | gestureEnded ..
  | gestureCancelled .. => .debug
  | dropped (.unknownHandle _) .. | dropped (.unknownWindow _) .. => .debug
  | dropped .. => .warn
  | clientFailed .. => .error

/-- The words of a notice. -/
def message : Notice → String
  | windowOpened .. => "new window"
  | windowClosed .. => "window closed"
  | drawing .. => "draw"
  | scaleChanged .. => "scale factor changed"
  | scaleRefused .. => "ignoring invalid scale factor"
  | scaleUnknown .. => "widget reports no scale factor"
  | keyPressed .. => "key press"
  | keyReleased .. => "key release"
  | buttonUntracked .. => "ignoring event of untracked mouse button"
  | buttonHeld .. => "button already pressed"
  | buttonNotHeld .. => "release of a button that is not pressed"
  | dragStarted .. => "drag session started"
  | dragEnded .. => "drag session ended"
  | dragCancelled .. => "cancelling drag session"
  | leftWhileDragging .. => "leave during drag session"
  | gestureStarted .. => "scroll gesture started"
  | gestureTimedOut .. => "scroll gesture timed out"
  | gestureInterrupted .. => "scroll gesture interrupted by discrete scroll"
  | gestureEnded .. => "scroll gesture ended"
  | gestureCancelled .. => "cancelling scroll gesture"
  | noGestureToStop .. => "scroll stop without gesture"
  | dropped reason .. => "dropping event: " ++ reason.message
  | clientFailed .. => "listener panicked"

/-- The field that names the window of a notice. -/
def idField (id : WindowId) : String × Field := ("id", .text id.display)

/-- The fields that name the origin of a signal. -/
def originFields (entry : String) (handle : Handle) : List (String × Field) :=
  [("entry", .text entry), ("handle", .text (toString handle.toNat))]

/-- The fields of a notice. -/
def fields : Notice → List (String × Field)
  | windowOpened id handle => [idField id, ("handle", .text (toString handle.toNat))]
  | scaleChanged id scale | scaleRefused id scale => [idField id, ("scale_factor", .number scale)]
  | keyPressed id keyval handled | keyReleased id keyval handled =>
    [idField id, ("keyval", .text (toString keyval.toNat)), ("handled", .flag handled)]
  | buttonUntracked id button | buttonHeld id button | buttonNotHeld id button
  | dragStarted id button => [idField id, ("button", .text button.name)]
  | gestureEnded id elapsed momentum =>
    [idField id, ("elapsed", .text (toString elapsed.toNat)), ("momentum", .flag momentum)]
  | windowClosed id | drawing id | scaleUnknown id | dragEnded id | dragCancelled id
  | leftWhileDragging id | gestureStarted id | gestureTimedOut id | gestureInterrupted id
  | gestureCancelled id | noGestureToStop id => [idField id]
  | dropped _ entry handle => originFields entry handle
  | clientFailed entry handle => originFields entry handle

end Notice

end WindowRouting
