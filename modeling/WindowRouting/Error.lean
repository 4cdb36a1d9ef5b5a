import WindowRouting.Store.WindowId
import WindowRouting.Text.Hex

/-!
Handles, the reasons why a request cannot be served (`Error`), and the faults that break a request
off (`Fault`).
-/

set_option autoImplicit false
set_option relaxedAutoImplicit false

namespace WindowRouting

/-- The number by which the native side refers to a window. Zero refers to none. -/
abbrev Handle := UInt64

namespace Handle

/-- The handle as it is written in messages. -/
def hex (h : Handle) : String := String.ofList (Text.Hex.marked h.toNat)

end Handle

/-- Why a request was not served. -/
inductive Error
  /-- The handle can belong to no window. -/
  | invalidHandle (h : Handle)
  /-- The handle belongs to no open window. -/
  | unknownHandle (h : Handle)
  /-- No open window has the id. -/
  | unknownWindow (id : WindowId)
  /-- There is no router to serve the request. -/
  | notInstalled
  /-- The router is serving another request. -/
  | reentrant
  /-- A native pointer that must refer to something is null. -/
  | nullPointer (pointer : String)
deriving DecidableEq, Repr

/-- The message of an error. -/
def Error.message : Error → String
  | invalidHandle h => h.hex ++ " is not a valid window handle"
  | unknownHandle h => "the window handle " ++ h.hex ++ " does not belong to a live window"
  | unknownWindow id => "the window " ++ id.display ++ " does not exist (anymore)"
  | notInstalled => "no widget dispatcher is installed on this thread"
  | reentrant => "the widget dispatcher is already in use (re-entrant call from a listener)"
  | nullPointer pointer => "the native `" ++ pointer ++ "` pointer is null"

/-- What breaks a request off before it has an answer. -/
inductive Fault
  /-- The id of no open window was used where an open one is needed. -/
  | deadId
  /-- A client failed because its script said so. -/
  | scripted
deriving DecidableEq, Repr

/-- The message of a fault. -/
def Fault.message : Fault → String
  | deadId => "invalid SlotMap key used"
  | scripted => "scripted failure"

end WindowRouting
