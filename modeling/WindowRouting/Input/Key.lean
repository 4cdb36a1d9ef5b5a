import WindowRouting.Input.Clock
import WindowRouting.Input.Modifiers

/-!
Key events, as listeners see them and as the native side reports them.
-/

set_option autoImplicit false
set_option relaxedAutoImplicit false

namespace WindowRouting

/-- A key was pressed or released. -/
structure KeyEvent where
  /-- The symbol on the key. -/
  keyval : UInt32
  /-- The position of the key on the keyboard. -/
  keycode : UInt16
  modifiers : Modifiers
  /-- The key itself is a modifier. -/
  isModifier : Bool
  time : Timestamp
deriving DecidableEq, Repr

/-- A key event as the native side reports it. -/
structure NativeKeyEvent where
  time : UInt32
  state : UInt32
  keyval : UInt32
  keycode : UInt16
  /-- The byte whose lowest bit marks a modifier; its other bits mean nothing. -/
  isModifier : UInt8
deriving DecidableEq, Repr

/-- The event that listeners see. -/
def KeyEvent.ofNative (e : NativeKeyEvent) : KeyEvent where
  keyval := e.keyval
  keycode := e.keycode
  modifiers := .ofNative e.state
  isModifier := e.isModifier &&& 1 ≠ 0
  time := ⟨e.time⟩

end WindowRouting
