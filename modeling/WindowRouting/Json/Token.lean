import WindowRouting.Json.Numeral
import WindowRouting.Text.Hex

/-!
The tokens of a text in JSON. White space separates tokens and is dropped. A string keeps its
escapes as code units, since not every sequence of units is a text (`Piece.text?`).
-/

set_option autoImplicit false
set_option relaxedAutoImplicit false

namespace WindowRouting.Json

/-- A piece of a string: a character, or a code unit of 16 bits that is given by its number. -/
inductive Piece
  | char (c : Char)
  | unit (u : Nat)

/-- A token. -/
inductive Token
  | openObject
  | closeObject
  | openArray
  | closeArray
  | colon
  | comma
  | null
  | bool (b : Bool)
  | string (pieces : List Piece)
  | number (n : Numeral)

/-- The character that an escape of two characters stands for. -/
def escape? : Char → Option Char
  | '"' => some '"'
  | '\\' => some '\\'
  | '/' => some '/'
  | 'b' => some '\x08'
  | 'f' => some '\x0c'
  | 'n' => some '\n'
  | 'r' => some '\r'
  | 't' => some '\t'
  | _ => none

/-- The code unit with four hexadecimal digits. -/
def unit? (a b c d : Char) : Option Nat := do
  let a ← Text.Hex.digit? a
  let b ← Text.Hex.digit? b
  let c ← Text.Hex.digit? c
  let d ← Text.Hex.digit? d
  some (((16 * a + b) * 16 + c) * 16 + d)

/-- Reads the rest of a string, up to its closing quote. Control characters must be escaped. -/
def string? : List Char → Option (List Piece × List Char)
  | [] => none
  | '"' :: cs => some ([], cs)
  | '\\' :: 'u' :: a :: b :: c :: d :: cs =>
    (unit? a b c d).bind fun u ↦ (string? cs).map fun (pieces, cs) ↦ (.unit u :: pieces, cs)
  | '\\' :: e :: cs =>
    (escape? e).bind fun c ↦ (string? cs).map fun (pieces, cs) ↦ (.char c :: pieces, cs)
  | c :: cs =>
    if c < ' ' then none else (string? cs).map fun (pieces, cs) ↦ (.char c :: pieces, cs)

/-- A string of pieces is a text if its code units pair up: a unit of the first half of the
surrogates must be followed by one of the second half, and these stand for one character. -/
def Piece.text? : List Piece → Option (List Char)
  | [] => some []
  | .char c :: pieces => (text? pieces).map (c :: ·)
  | .unit u :: pieces =>
    if u < 0xd800 ∨ 0xdfff < u then (text? pieces).map (Char.ofNat u :: ·)
    else
      match pieces with
      | .unit v :: pieces =>
        if u < 0xdc00 ∧ 0xdc00 ≤ v ∧ v ≤ 0xdfff then
          (text? pieces).map (Char.ofNat (0x10000 + 0x400 * (u - 0xd800) + (v - 0xdc00)) :: ·)
        else none
      | _ => none

namespace Numeral

/-- The digits at the front of a text, and what follows them. -/
def spanDigits (cs : List Char) : List Nat × List Char :=
  ((cs.takeWhile Char.isDigit).map fun c ↦ c.toNat - '0'.toNat, cs.dropWhile Char.isDigit)

/-- Reads the digits before the point: a zero alone, or digits that do not start with zero. -/
def whole? (cs : List Char) : Option (List Nat × List Char) :=
  match spanDigits cs with
  | ([], _) => none
  | (0 :: _ :: _, _) => none
  | (ds, cs) => some (ds, cs)

/-- Reads a fraction, if there is a point. -/
def fraction? : List Char → Option (List Nat × List Char)
  | '.' :: cs =>
    match spanDigits cs with
    | ([], _) => none
    | (ds, cs) => some (ds, cs)
  | cs => some ([], cs)

/-- Reads the sign and the digits of an exponent. -/
def exponentDigits? (cs : List Char) : Option (Option (Bool × List Nat) × List Char) :=
  let (negative, cs) :=
    match cs with
    | '-' :: cs => (true, cs)
    | '+' :: cs => (false, cs)
    | cs => (false, cs)
  match spanDigits cs with
  | ([], _) => none
  | (ds, cs) => some (some (negative, ds), cs)

/-- Reads an exponent, if there is its mark. -/
def exponent? : List Char → Option (Option (Bool × List Nat) × List Char)
  | 'e' :: cs => exponentDigits? cs
  | 'E' :: cs => exponentDigits? cs
  | cs => some (none, cs)

/-- Reads a numeral without its sign. -/
def unsigned? (negative : Bool) (cs : List Char) : Option (Numeral × List Char) := do
  let (whole, cs) ← whole? cs
  let (fraction, cs) ← fraction? cs
  let (exponent, cs) ← exponent? cs
  some (⟨negative, whole, fraction, exponent⟩, cs)

/-- Reads a numeral. -/
def read? : List Char → Option (Numeral × List Char)
  | '-' :: cs => unsigned? true cs
  | cs => unsigned? false cs

end Numeral

namespace Token

/-- White space between tokens. -/
def isSpace (c : Char) : Bool := c = ' ' || c = '\t' || c = '\n' || c = '\r'

/-- Reads a token. -/
def read? : List Char → Option (Token × List Char)
  | '\x7b' :: cs => some (openObject, cs)
  | '\x7d' :: cs => some (closeObject, cs)
  | '[' :: cs => some (openArray, cs)
  | ']' :: cs => some (closeArray, cs)
  | ':' :: cs => some (colon, cs)
  | ',' :: cs => some (comma, cs)
  | 'n' :: 'u' :: 'l' :: 'l' :: cs => some (null, cs)
  | 't' :: 'r' :: 'u' :: 'e' :: cs => some (bool true, cs)
  | 'f' :: 'a' :: 'l' :: 's' :: 'e' :: cs => some (bool false, cs)
  | '"' :: cs => (string? cs).map fun (pieces, cs) ↦ (string pieces, cs)
  | cs => (Numeral.read? cs).map fun (n, cs) ↦ (number n, cs)

end Token

/-- What follows a string is shorter than the text it was read from. -/
theorem length_lt_of_string? {cs rest : List Char} {pieces : List Piece}
    (h : string? cs = some (pieces, rest)) : rest.length < cs.length := by
  fun_induction string? cs generalizing pieces rest with
  | case1 => simp at h
  | case2 cs => simp_all
  | case3 a b c d cs ih =>
    obtain ⟨u, -, h⟩ := Option.bind_eq_some_iff.1 h
    obtain ⟨⟨p, r⟩, hr, h⟩ := Option.map_eq_some_iff.1 h
    have := ih hr
    simp_all only [Prod.mk.injEq, List.length_cons]
    omega
  | case4 e cs _ ih =>
    obtain ⟨u, -, h⟩ := Option.bind_eq_some_iff.1 h
    obtain ⟨⟨p, r⟩, hr, h⟩ := Option.map_eq_some_iff.1 h
    have := ih hr
    simp_all only [Prod.mk.injEq, List.length_cons]
    omega
  | case5 => simp at h
  | case6 c cs _ _ _ _ ih =>
    obtain ⟨⟨p, r⟩, hr, h⟩ := Option.map_eq_some_iff.1 h
    have := ih hr
    simp_all only [Prod.mk.injEq, List.length_cons]
    omega

namespace Numeral

theorem length_spanDigits (cs : List Char) :
    (spanDigits cs).1.length + (spanDigits cs).2.length = cs.length := by
  simp only [spanDigits, List.length_map, ← List.length_append, List.takeWhile_append_dropWhile]

theorem length_lt_of_whole? {cs rest : List Char} {ds : List Nat}
    (h : whole? cs = some (ds, rest)) : rest.length < cs.length := by
  have hlength := length_spanDigits cs
  unfold whole? at h
  split at h
  · simp at h
  · simp at h
  · rename_i found tail hne _ heq
    have hpos : 0 < found.length := List.length_pos_iff.2 hne
    rw [heq] at hlength
    simp only [Option.some.injEq, Prod.mk.injEq] at h
    simp only [← h.2] at *
    omega

theorem length_le_of_fraction? {cs rest : List Char} {ds : List Nat}
    (h : fraction? cs = some (ds, rest)) : rest.length ≤ cs.length := by
  unfold fraction? at h
  split at h
  case h_1 cs =>
    have := length_spanDigits cs
    split at h <;> grind
  case h_2 => simp_all

theorem length_le_of_exponent? {cs rest : List Char} {e : Option (Bool × List Nat)}
    (h : exponent? cs = some (e, rest)) : rest.length ≤ cs.length := by
  have hdigits {cs rest : List Char} {e : Option (Bool × List Nat)}
      (h : exponentDigits? cs = some (e, rest)) : rest.length ≤ cs.length := by
    unfold exponentDigits? at h
    split at h
    rename_i negative tail hsign
    have := length_spanDigits tail
    split at hsign <;> split at h <;> grind
  unfold exponent? at h
  split at h
  · exact Nat.le_succ_of_le (hdigits h)
  · exact Nat.le_succ_of_le (hdigits h)
  · simp_all

theorem length_lt_of_read? {cs rest : List Char} {n : Numeral}
    (h : read? cs = some (n, rest)) : rest.length < cs.length := by
  have hunsigned {negative : Bool} {cs : List Char}
      (h : unsigned? negative cs = some (n, rest)) : rest.length < cs.length := by
    simp only [unsigned?, bind, Option.bind_eq_some_iff] at h
    obtain ⟨⟨w, r⟩, hw, ⟨f, s⟩, hf, ⟨e, t⟩, he, h⟩ := h
    have := length_lt_of_whole? hw
    have := length_le_of_fraction? hf
    have := length_le_of_exponent? he
    simp only [Option.some.injEq, Prod.mk.injEq] at h
    obtain ⟨-, rfl⟩ := h
    simp only at *
    omega
  unfold read? at h
  split at h
  · exact Nat.lt_succ_of_lt (hunsigned h)
  · exact hunsigned h

end Numeral

/-- What follows a token is shorter than the text it was read from. -/
theorem Token.length_lt_of_read? {cs rest : List Char} {t : Token}
    (h : Token.read? cs = some (t, rest)) : rest.length < cs.length := by
  unfold Token.read? at h
  split at h
  case h_10 cs =>
    obtain ⟨⟨p, r⟩, hr, h⟩ := Option.map_eq_some_iff.1 h
    have := length_lt_of_string? hr
    simp only [Prod.mk.injEq] at h
    simp only [List.length_cons]
    grind
  case h_11 =>
    obtain ⟨⟨p, r⟩, hr, h⟩ := Option.map_eq_some_iff.1 h
    have := Numeral.length_lt_of_read? hr
    grind
  all_goals
    simp only [Option.some.injEq, Prod.mk.injEq] at h
    simp only [List.length_cons]
    grind

/-- The tokens of a text, if it has no other contents. -/
def tokens? (cs : List Char) : Option (List Token) :=
  match _hspace : cs.dropWhile Token.isSpace with
  | [] => some []
  | c :: tail =>
    match _hread : Token.read? (c :: tail) with
    | none => none
    | some (t, rest) => (tokens? rest).map (t :: ·)
termination_by cs.length
decreasing_by
  have := Token.length_lt_of_read? _hread
  have : (cs.dropWhile Token.isSpace).length ≤ cs.length := (List.dropWhile_sublist _).length_le
  grind

end WindowRouting.Json
