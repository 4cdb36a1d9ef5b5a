/-!
Mouse buttons and their native numbers. The numbers `1` to `31` are tracked: each of them has one
bit of a 32-bit word (`mask?`), and the lowest bit belongs to no button.
-/

set_option autoImplicit false
set_option relaxedAutoImplicit false

namespace WindowRouting

/-- A mouse button: one of the named ones, or a button known by its native number alone. -/
inductive Button
  | left
  | middle
  | right
  | back
  | forward
  | other (native : UInt8)
deriving DecidableEq, Repr

namespace Button

/-- The button with a native number. -/
def ofNative (n : UInt8) : Button :=
  if n = 1 then left
  else if n = 2 then middle
  else if n = 3 then right
  else if n = 8 then back
  else if n = 9 then forward
  else other n

/-- The native number of a button. -/
def native : Button → UInt8
  | left => 1
  | middle => 2
  | right => 3
  | back => 8
  | forward => 9
  | other n => n

@[simp] theorem native_ofNative (n : UInt8) : (ofNative n).native = n := by
  unfold ofNative
  repeat' split
  all_goals simp_all [native]

/-- The button with a native number given as a signed word. A number that is no byte stands for
button `0`, which is never tracked. -/
def ofWord (n : Int32) : Button :=
  if 0 ≤ n.toInt ∧ n.toInt < 256 then ofNative (UInt8.ofNat n.toInt.toNat) else other 0

/-- The bit of a tracked button in a word of held buttons. -/
def mask? (b : Button) : Option UInt32 :=
  if 1 ≤ b.native ∧ b.native ≤ 31 then some (1 <<< b.native.toUInt32) else none

/-- The name of a button. -/
def name : Button → String
  | left => "Left"
  | middle => "Middle"
  | right => "Right"
  | back => "Back"
  | forward => "Forward"
  | other n => s!"Other({n})"

end Button

end WindowRouting
