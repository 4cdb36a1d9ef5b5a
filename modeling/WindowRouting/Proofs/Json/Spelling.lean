import Mathlib.Data.List.Basic
import WindowRouting.Json.Token
import WindowRouting.Proofs.Text.Pieces

/-!
How tokens are spelled. A string is spelled by characters that stand for themselves, by escapes of
two characters and by code units of four hexadecimal digits; a numeral by its sign, its digits, its
fraction and its exponent. A token that is spelled in front of a text is what is read from there,
and the text is what is left (`Token.read?_of_spelled`). Only a numeral can be carried on by the
text behind it, so it is read in whole unless a character of a numeral follows (`Numeral.Ends`).
-/

set_option autoImplicit false
set_option relaxedAutoImplicit false

namespace WindowRouting.Json

/-! ### Strings -/

/-- The characters between the quotes of a string with these pieces. -/
inductive Piece.Spelled : List Piece → List Char → Prop
  | nil : Spelled [] []
  /-- A character stands for itself, unless it must be escaped. -/
  | char {c : Char} {pieces : List Piece} {cs : List Char} (hcontrol : ' ' ≤ c) (hquote : c ≠ '"')
      (hescape : c ≠ '\\') (hrest : Spelled pieces cs) : Spelled (.char c :: pieces) (c :: cs)
  | escape {e c : Char} {pieces : List Piece} {cs : List Char} (hescape : escape? e = some c)
      (hrest : Spelled pieces cs) : Spelled (.char c :: pieces) ('\\' :: e :: cs)
  | unit {a b c d : Char} {u : Nat} {pieces : List Piece} {cs : List Char}
      (hunit : unit? a b c d = some u) (hrest : Spelled pieces cs) :
      Spelled (.unit u :: pieces) ('\\' :: 'u' :: a :: b :: c :: d :: cs)

/-- A string is read up to the quote that closes it. -/
theorem string?_of_spelled {pieces : List Piece} {cs : List Char} (h : Piece.Spelled pieces cs)
    (rest : List Char) : string? (cs ++ '"' :: rest) = some (pieces, rest) := by
  induction h with
  | nil => simp [string?]
  | @char c pieces cs hcontrol hquote hescape hrest ih =>
    have hplain : ¬c < ' ' := Char.not_lt.mpr hcontrol
    rw [List.cons_append, string?, if_neg hplain, ih, Option.map_some]
    · exact hquote
    · intro a b c d _ heq
      exact absurd heq hescape
    · intro e _ heq
      exact absurd heq hescape
  | @escape e c pieces cs hescape hrest ih =>
    have hunit : e ≠ 'u' := by
      rintro rfl
      exact nomatch hescape
    rw [List.cons_append, List.cons_append, string?, hescape, Option.bind_some, ih,
      Option.map_some]
    intro a b c d _ heq
    exact absurd heq hunit
  | @unit a b c d u pieces cs hunit hrest ih =>
    simp only [List.cons_append]
    rw [string?, hunit, Option.bind_some, ih, Option.map_some]

/-- Characters that need no escape spell themselves. -/
theorem Piece.spelled_map_char {cs : List Char}
    (h : ∀ c ∈ cs, ' ' ≤ c ∧ c ≠ '"' ∧ c ≠ '\\') : Spelled (cs.map .char) cs := by
  induction cs with
  | nil => exact .nil
  | cons c cs ih =>
    obtain ⟨hc, hcs⟩ := List.forall_mem_cons.mp h
    exact .char hc.1 hc.2.1 hc.2.2 (ih hcs)

theorem Piece.text?_map_char (cs : List Char) : text? (cs.map .char) = some cs := by
  induction cs with
  | nil => rfl
  | cons c cs ih => rw [List.map_cons, text?, ih, Option.map_some]

/-! ### Numerals -/

namespace Numeral

/-- The decimal digits `ds` as they are written. -/
def digitText (ds : List Nat) : List Char := ds.map Nat.digitChar

/-- There are digits, and they are decimal. -/
structure AreDigits (ds : List Nat) : Prop where
  ne_nil : ds ≠ []
  lt_ten : ∀ d ∈ ds, d < 10

/-- A fraction is left out if there are no digits after the point, and the point with it. -/
inductive FractionSpelled : List Nat → List Char → Prop
  | absent : FractionSpelled [] []
  | present {ds : List Nat} (hds : AreDigits ds) : FractionSpelled ds ('.' :: digitText ds)

/-- The sign of an exponent, which says whether the exponent is negative. -/
inductive SignSpelled : Bool → List Char → Prop
  | absent : SignSpelled false []
  | plus : SignSpelled false ['+']
  | minus : SignSpelled true ['-']

inductive ExponentSpelled : Option (Bool × List Nat) → List Char → Prop
  | absent : ExponentSpelled none []
  | present {mark : Char} {negative : Bool} {sign : List Char} {ds : List Nat}
      (hmark : mark = 'e' ∨ mark = 'E') (hsign : SignSpelled negative sign) (hds : AreDigits ds) :
      ExponentSpelled (some (negative, ds)) (mark :: (sign ++ digitText ds))

/-- The text of a numeral. Its whole part starts with zero only if it is zero alone. -/
inductive Spelled : Numeral → List Char → Prop
  | intro (negative : Bool) {whole fraction : List Nat} {exponent : Option (Bool × List Nat)}
      {f e : List Char} (hwhole : AreDigits whole) (hzero : whole.head? = some 0 → whole = [0])
      (hfraction : FractionSpelled fraction f) (hexponent : ExponentSpelled exponent e) :
      Spelled ⟨negative, whole, fraction, exponent⟩
        ((if negative then ['-'] else []) ++ (digitText whole ++ (f ++ e)))

/-- A numeral in front of the text ends there. -/
def Ends (rest : List Char) : Prop :=
  ∀ c ∈ rest.head?, c.isDigit = false ∧ c ≠ '.' ∧ c ≠ 'e' ∧ c ≠ 'E'

theorem isDigit_digitChar {d : Nat} (hd : d < 10) :
    (Nat.digitChar d).isDigit = true ∧ (Nat.digitChar d).toNat - '0'.toNat = d := by
  have hall : ∀ d < 10, (Nat.digitChar d).isDigit = true ∧
      (Nat.digitChar d).toNat - '0'.toNat = d := by decide
  exact hall d hd

/-- Digits are read up to the first character that is no digit. -/
theorem spanDigits_digitText {ds : List Nat} (hds : ∀ d ∈ ds, d < 10) {rest : List Char}
    (hrest : ∀ c ∈ rest.head?, c.isDigit = false) :
    spanDigits (digitText ds ++ rest) = (ds, rest) := by
  have hdigits : ∀ c ∈ digitText ds, c.isDigit = true := by
    intro c hc
    obtain ⟨d, hd, rfl⟩ := List.mem_map.mp hc
    exact (isDigit_digitChar (hds d hd)).1
  have htake : rest.takeWhile Char.isDigit = [] := by
    cases rest with
    | nil => rfl
    | cons c cs => rw [List.takeWhile_cons, hrest c rfl, if_neg Bool.false_ne_true]
  have hvalues : (digitText ds).map (fun c ↦ c.toNat - '0'.toNat) = ds := by
    rw [digitText, List.map_map]
    refine (List.map_congr_left fun d hd ↦ ?_).trans (List.map_id ds)
    exact (isDigit_digitChar (hds d hd)).2
  rw [spanDigits, List.takeWhile_append_of_pos hdigits, htake, List.append_nil, hvalues,
    Text.dropWhile_append_of_head? hdigits hrest]

theorem whole?_digitText {ds : List Nat} (hds : AreDigits ds)
    (hzero : ds.head? = some 0 → ds = [0]) {rest : List Char}
    (hrest : ∀ c ∈ rest.head?, c.isDigit = false) :
    whole? (digitText ds ++ rest) = some (ds, rest) := by
  rw [whole?, spanDigits_digitText hds.lt_ten hrest]
  split
  · rename_i heq
    exact absurd (Prod.mk.inj heq).1 hds.ne_nil
  · rename_i d ds' _ heq
    obtain ⟨rfl, -⟩ := Prod.mk.inj heq
    exact absurd (hzero rfl) (by simp)
  · rename_i heq
    exact congrArg some heq.symm

theorem fraction?_of_spelled {ds : List Nat} {f : List Char} (hf : FractionSpelled ds f)
    {rest : List Char} (hdigit : ∀ c ∈ rest.head?, c.isDigit = false)
    (hpoint : ∀ c ∈ rest.head?, c ≠ '.') : fraction? (f ++ rest) = some (ds, rest) := by
  cases hf with
  | absent =>
    cases rest with
    | nil => rfl
    | cons c cs =>
      rw [List.nil_append, fraction?]
      intro _ heq
      exact hpoint c rfl (List.cons.inj heq).1
  | present hds =>
    rw [List.cons_append, fraction?, spanDigits_digitText hds.lt_ten hdigit]
    split
    · rename_i heq
      exact absurd (Prod.mk.inj heq).1 hds.ne_nil
    · rename_i heq
      exact congrArg some heq.symm

theorem exponentDigits?_of_spelled {negative : Bool} {sign : List Char} {ds : List Nat}
    (hsign : SignSpelled negative sign) (hds : AreDigits ds) {rest : List Char}
    (hdigit : ∀ c ∈ rest.head?, c.isDigit = false) :
    exponentDigits? (sign ++ digitText ds ++ rest) = some (some (negative, ds), rest) := by
  have hspan := spanDigits_digitText hds.lt_ten hdigit
  obtain ⟨d, ds', rfl⟩ := List.exists_cons_of_ne_nil hds.ne_nil
  have hd := isDigit_digitChar (hds.lt_ten d List.mem_cons_self)
  cases hsign with
  | absent =>
    have hminus : Nat.digitChar d ≠ '-' := fun heq ↦ by simp [heq] at hd
    have hplus : Nat.digitChar d ≠ '+' := fun heq ↦ by simp [heq] at hd
    simp only [digitText, List.map_cons, List.cons_append] at hspan
    simp [exponentDigits?, digitText, hminus, hplus, hspan]
  | plus => simp [exponentDigits?, hspan]
  | minus => simp [exponentDigits?, hspan]

theorem exponent?_of_spelled {exponent : Option (Bool × List Nat)} {e : List Char}
    (he : ExponentSpelled exponent e) {rest : List Char} (hrest : Ends rest) :
    exponent? (e ++ rest) = some (exponent, rest) := by
  cases he with
  | absent =>
    cases rest with
    | nil => rfl
    | cons c cs =>
      obtain ⟨-, -, hlower, hupper⟩ := hrest c rfl
      rw [List.nil_append, exponent?]
      · intro _ heq
        exact hlower (List.cons.inj heq).1
      · intro _ heq
        exact hupper (List.cons.inj heq).1
  | present hmark hsign hds =>
    have hdigits := exponentDigits?_of_spelled hsign hds fun c hc ↦ (hrest c hc).1
    rcases hmark with rfl | rfl
    · exact hdigits
    · exact hdigits

/-- What follows the whole part of a numeral. -/
theorem head?_of_spelled {exponent : Option (Bool × List Nat)} {ds : List Nat} {f e : List Char}
    (hf : FractionSpelled ds f) (he : ExponentSpelled exponent e) {rest : List Char}
    (hrest : Ends rest) :
    (∀ c ∈ (f ++ (e ++ rest)).head?, c.isDigit = false) ∧
      ∀ c ∈ (e ++ rest).head?, c.isDigit = false ∧ c ≠ '.' := by
  have hexponent : ∀ c ∈ (e ++ rest).head?, c.isDigit = false ∧ c ≠ '.' := by
    intro c hc
    cases he with
    | absent => exact ⟨(hrest c hc).1, (hrest c hc).2.1⟩
    | present hmark =>
      obtain rfl := Option.some.inj hc
      rcases hmark with rfl | rfl <;> decide
  refine ⟨fun c hc ↦ ?_, hexponent⟩
  cases hf with
  | absent => exact (hexponent c hc).1
  | present =>
    obtain rfl := Option.some.inj hc
    decide

/-- A numeral starts with a minus sign or with a digit. -/
theorem Spelled.exists_cons {n : Numeral} {cs : List Char} (h : n.Spelled cs) :
    ∃ c tail, cs = c :: tail ∧ (c = '-' ∨ c.isDigit = true) := by
  obtain ⟨negative, hwhole, -, -, -⟩ := h
  cases negative with
  | true => exact ⟨'-', _, rfl, Or.inl rfl⟩
  | false =>
    obtain ⟨d, ds, rfl⟩ := List.exists_cons_of_ne_nil hwhole.ne_nil
    exact ⟨Nat.digitChar d, _, rfl,
      Or.inr (isDigit_digitChar (hwhole.lt_ten d List.mem_cons_self)).1⟩

theorem read?_of_spelled {n : Numeral} {cs : List Char} (h : n.Spelled cs) {rest : List Char}
    (hrest : Ends rest) : read? (cs ++ rest) = some (n, rest) := by
  obtain ⟨negative, hwhole, hzero, hfraction, hexponent⟩ := h
  rename_i whole fraction exponent f e
  obtain ⟨hafterWhole, hafterFraction⟩ := head?_of_spelled hfraction hexponent hrest
  have hunsigned : unsigned? negative (digitText whole ++ (f ++ (e ++ rest))) =
      some (⟨negative, whole, fraction, exponent⟩, rest) := by
    simp only [unsigned?, bind, whole?_digitText hwhole hzero hafterWhole, Option.bind_some,
      fraction?_of_spelled hfraction (fun c hc ↦ (hafterFraction c hc).1)
        fun c hc ↦ (hafterFraction c hc).2, exponent?_of_spelled hexponent hrest]
  cases negative with
  | true => simpa [read?] using hunsigned
  | false =>
    obtain ⟨d, ds, rfl⟩ := List.exists_cons_of_ne_nil hwhole.ne_nil
    have hd := isDigit_digitChar (hwhole.lt_ten d List.mem_cons_self)
    have hminus : Nat.digitChar d ≠ '-' := fun heq ↦ by simp [heq] at hd
    simp only [digitText, List.map_cons, List.cons_append] at hunsigned
    simpa [read?, digitText, hminus] using hunsigned

end Numeral

/-! ### Tokens -/

namespace Token

/-- The text of a token. -/
inductive Spelled : Token → List Char → Prop
  | openObject : Spelled .openObject ['\x7b']
  | closeObject : Spelled .closeObject ['\x7d']
  | openArray : Spelled .openArray ['[']
  | closeArray : Spelled .closeArray [']']
  | colon : Spelled .colon [':']
  | comma : Spelled .comma [',']
  | null : Spelled .null ['n', 'u', 'l', 'l']
  | true : Spelled (.bool true) ['t', 'r', 'u', 'e']
  | false : Spelled (.bool false) ['f', 'a', 'l', 's', 'e']
  | string {pieces : List Piece} {cs : List Char} (h : Piece.Spelled pieces cs) :
      Spelled (.string pieces) ('"' :: (cs ++ ['"']))
  | number {n : Numeral} {cs : List Char} (h : n.Spelled cs) : Spelled (.number n) cs

/-- The token is a numeral. -/
def isNumber : Token → Bool
  | number _ => Bool.true
  | _ => Bool.false

/-- A token is read from the front of a text that starts with it. -/
theorem read?_of_spelled {t : Token} {cs : List Char} (h : t.Spelled cs) {rest : List Char}
    (hrest : t.isNumber = Bool.true → Numeral.Ends rest) : read? (cs ++ rest) = some (t, rest) := by
  cases h with
  | string h => simp [read?, string?_of_spelled h]
  | @number n cs h =>
    have hread := Numeral.read?_of_spelled h (hrest rfl)
    obtain ⟨c, tail, rfl, hc⟩ := h.exists_cons
    -- No other token starts like a numeral.
    have hother {x : Char} {xs : List Char} (hx : x ≠ '-' ∧ x.isDigit = Bool.false) :
        c :: tail ++ rest ≠ x :: xs := by
      intro heq
      obtain rfl := (List.cons.inj heq).1
      rcases hc with rfl | hc
      · exact hx.1 rfl
      · exact Bool.false_ne_true (hx.2.symm.trans hc)
    rw [read?, hread, Option.map_some]
    all_goals
      intros
      rename_i heq
      refine absurd heq (hother ?_)
      decide
  | _ => rfl

end Token

end WindowRouting.Json
