/-!
Window ids. An id is a position together with a version: a position that becomes vacant is used
again by a later window under another version, so the id of a closed window names no newer one.
Versions are 32-bit words that wrap, and are ordered by their wrapping difference (`isOlder`).
-/

set_option autoImplicit false
set_option relaxedAutoImplicit false

namespace WindowRouting

/-- The name of a window. -/
structure WindowId where
  index : Nat
  version : UInt32
deriving DecidableEq, Repr

namespace WindowId

/-- The last index a 32-bit word can hold. It is never the position of a window. -/
def nullIndex : Nat := 4294967295

/-- The id that names no window. -/
def null : WindowId := ⟨nullIndex, 1⟩

/-- An id at the null index names no window, whatever its version. -/
def isNull (id : WindowId) : Bool := id.index == nullIndex

/-- The id of the window that uses the position next: versions go up in steps of two and wrap. -/
def successor (id : WindowId) : WindowId := ⟨id.index, id.version + 2⟩

/-- Version `v` is older than version `w`: going up from `w` to `v` wraps more than half-way. -/
def isOlder (v w : UInt32) : Bool := decide (0x80000000 ≤ v - w)

theorem isOlder_self (v : UInt32) : isOlder v v = false := by
  rw [isOlder, UInt32.sub_self]
  rfl

/-- The index and the version, or the word for no window. -/
def text (id : WindowId) : String :=
  if id.isNull then "null" else s!"{id.index}v{id.version}"

/-- The id as it is written in messages. -/
def display (id : WindowId) : String := "WindowId(" ++ id.text ++ ")"

end WindowId

end WindowRouting
