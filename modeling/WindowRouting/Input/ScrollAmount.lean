import WindowRouting.Geometry

/-!
Scroll amounts. A positive `y` scrolls toward the top of the content and a positive `x` toward its
left, opposite to the native deltas.
-/

set_option autoImplicit false
set_option relaxedAutoImplicit false

namespace WindowRouting

/-- An amount of scrolling, in pixels if it is precise and in lines otherwise. -/
structure ScrollAmount where
  delta : Vec
  precise : Bool
deriving DecidableEq, Repr

namespace ScrollAmount

/-- An amount in lines. -/
def lines (delta : Vec) : ScrollAmount := ⟨delta, false⟩

/-- An amount in pixels. -/
def pixels (delta : Vec) : ScrollAmount := ⟨delta, true⟩

/-- No scrolling. -/
instance : Inhabited ScrollAmount := ⟨lines .zero⟩

end ScrollAmount

end WindowRouting
