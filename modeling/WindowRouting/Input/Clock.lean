/-!
The clock of native events. It counts milliseconds in a 32-bit word and wraps, so times are compared
by the wrapping difference only.
-/

set_option autoImplicit false
set_option relaxedAutoImplicit false

namespace WindowRouting

/-- A reading of the event clock, in milliseconds. -/
structure Timestamp where
  millis : UInt32
deriving DecidableEq, Repr

namespace Timestamp

/-- The milliseconds from `earlier` to `t`. -/
def millisSince (t earlier : Timestamp) : UInt32 := t.millis - earlier.millis

/-- The seconds from `earlier` to `t`, in single precision. -/
def secondsSince (t earlier : Timestamp) : Float32 := (t.millisSince earlier).toFloat32 / 1000

end Timestamp

end WindowRouting
