import WindowRouting.Text.Hex
import WindowRouting.Text.Blank
import WindowRouting.Text.Pieces

/-!
Modifier keys and their text. A set of modifiers is a 32-bit word in which seven bits have names
(`Modifiers.named`). The text of a set joins the names of its bits, in the order of `named`, and the
hexadecimal numeral of the bits without a name (`Modifiers.text`); reading a text takes names and
numerals in any order (`Modifiers.parse?`) and keeps bits without a name.
-/

set_option autoImplicit false
set_option relaxedAutoImplicit false

namespace WindowRouting

/-- A set of modifier keys. -/
structure Modifiers where
  bits : UInt32
deriving DecidableEq, Repr

namespace Modifiers

/-- The named modifiers with their bits. -/
def named : List (String × UInt32) :=
  [("SHIFT", 0x1), ("CAPS_LOCK", 0x2), ("CONTROL", 0x4), ("ALT", 0x8),
    ("SUPER", 0x4000000), ("HYPER", 0x8000000), ("META", 0x10000000)]

/-- The bits that have a name. -/
def known : UInt32 := named.foldr (fun flag bits ↦ flag.2 ||| bits) 0

/-- The modifiers in a native state word; pointer buttons and other bits are dropped. -/
def ofNative (state : UInt32) : Modifiers := ⟨state &&& known⟩

/-- The names of the modifiers in the set. -/
def names (m : Modifiers) : List String :=
  (named.filter fun flag ↦ m.bits &&& flag.2 ≠ 0).map (·.1)

/-- The bits of the set that have no name. -/
def unnamed (m : Modifiers) : UInt32 := m.bits &&& ~~~known

/-- The parts of the text of a set: its names, then the numeral of the bits without one. -/
def parts (m : Modifiers) : List (List Char) :=
  m.names.map String.toList ++
    if m.unnamed = 0 then [] else [Text.Hex.marked m.unnamed.toNat]

/-- The text of a set; that of the empty set is empty. -/
def text (m : Modifiers) : String :=
  String.ofList (Text.join [' ', '|', ' '] m.parts)

/-- The text of a set for people, in which the empty set is the numeral zero. -/
def display (m : Modifiers) : String :=
  "ModifierKeys(" ++ (if m.bits = 0 then "0x0" else m.text) ++ ")"

/-- The bits that a part of a text stands for: those of a numeral that fits 32 bits, or the bit of
a name. -/
def part? : List Char → Option UInt32
  | '0' :: 'x' :: digits =>
    (Text.Hex.number? digits).bind fun n ↦ if n < UInt32.size then some (UInt32.ofNat n) else none
  | name => (named.find? fun flag ↦ flag.1.toList = name).map (·.2)

/-- Reads a text. A blank one is the empty set; any other is cut at the bars, and every piece must
be a part after trimming. -/
def parse? (s : List Char) : Option Modifiers :=
  if (Text.trim s).isEmpty then some ⟨0⟩
  else ((Text.pieces '|' s).mapM fun piece ↦ part? (Text.trim piece)).map fun parts ↦
    ⟨parts.foldl (· ||| ·) 0⟩

end Modifiers

end WindowRouting
