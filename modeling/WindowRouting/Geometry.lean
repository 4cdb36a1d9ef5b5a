/-!
Points, vectors and sizes. Coordinates are in single precision, and every arithmetic operation on
them rounds on its own.
-/

set_option autoImplicit false
set_option relaxedAutoImplicit false

namespace WindowRouting

/-- A point of a window or a displacement, in single precision. -/
structure Vec where
  x : Float32
  y : Float32
deriving DecidableEq, Repr

namespace Vec

/-- The zero vector. -/
def zero : Vec := ⟨0, 0⟩

/-- The opposite vector; the opposite of zero has negative zeros. -/
def neg (v : Vec) : Vec := ⟨-v.x, -v.y⟩

/-- Both coordinates multiplied by `k`. -/
def scale (v : Vec) (k : Float32) : Vec := ⟨v.x * k, v.y * k⟩

/-- Both coordinates divided by `k`. -/
def div (v : Vec) (k : Float32) : Vec := ⟨v.x / k, v.y / k⟩

/-- Both coordinates compare equal to zero: those of either sign do, and a NaN does not. -/
def isZero (v : Vec) : Bool := v.x == 0 && v.y == 0

/-- The coordinates of `v` compare at least those of `low` and below those of `high`. -/
def within (v low high : Vec) : Bool :=
  decide (low.x ≤ v.x) && decide (low.y ≤ v.y) && decide (v.x < high.x) && decide (v.y < high.y)

end Vec

/-- A width and a height in whole pixels. -/
structure Size where
  width : UInt32
  height : UInt32
deriving DecidableEq, Repr

end WindowRouting
