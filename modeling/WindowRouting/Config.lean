/-!
The settings of a router.
-/

set_option autoImplicit false
set_option relaxedAutoImplicit false

namespace WindowRouting

/-- How scroll events are read. -/
structure Config where
  /-- A smooth scroll event that comes more milliseconds than this after the one before it starts
  a new gesture. -/
  gestureTimeout : UInt32
  /-- The factor from native smooth scroll deltas to pixels. -/
  scrollScale : Float32
deriving Repr

/-- The settings of a router that is given none. -/
instance : Inhabited Config := ⟨⟨150, 1⟩⟩

end WindowRouting
