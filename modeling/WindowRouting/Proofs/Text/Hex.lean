import Mathlib.Data.List.Forall2
import Mathlib.Data.Nat.Digits.Defs
import WindowRouting.Text.Hex

/-!
Hexadecimal numerals and their numbers. A numeral writes a number with digits of either case, the
first one the most significant (`Hex.Writes`). What is read is what is written
(`Hex.number?_eq_some_iff`), and the digits of a number write it (`Hex.writes_digits`).
-/

set_option autoImplicit false
set_option relaxedAutoImplicit false

namespace WindowRouting.Text.Hex

/-- The character stands for the digit, in lower case or in upper case. -/
def IsDigit (c : Char) (d : Nat) : Prop :=
  "0123456789abcdef".toList[d]? = some c ∨ "0123456789ABCDEF".toList[d]? = some c

/-- The characters are the digits of the number, from the most significant on. -/
def Writes (cs : List Char) (n : Nat) : Prop :=
  cs ≠ [] ∧ ∃ ds, List.Forall₂ IsDigit cs ds ∧ Nat.ofDigits 16 ds.reverse = n

theorem IsDigit.lt {c : Char} {d : Nat} (h : IsDigit c d) : d < 16 := by
  rcases h with h | h
  · exact (List.getElem?_eq_some_iff.mp h).1
  · exact (List.getElem?_eq_some_iff.mp h).1

theorem toNat_lt_of_digit? {c : Char} {d : Nat} (h : digit? c = some d) : c.toNat < 128 := by
  have hle {top : Char} (hc : c ≤ top) (htop : top.toNat < 128) : c.toNat < 128 :=
    lt_of_le_of_lt (UInt32.le_iff_toNat_le.mp hc) htop
  unfold digit? at h
  split_ifs at h with hdecimal hlower hupper
  · exact hle hdecimal.2 (by decide)
  · exact hle hlower.2 (by decide)
  · exact hle hupper.2 (by decide)

theorem digit?_eq_some_iff {c : Char} {d : Nat} : digit? c = some d ↔ IsDigit c d := by
  constructor
  · intro h
    have hascii : ∀ n < 128, ∀ d ∈ digit? (Char.ofNat n),
        "0123456789abcdef".toList[d]? = some (Char.ofNat n) ∨
          "0123456789ABCDEF".toList[d]? = some (Char.ofNat n) := by
      decide
    have hc := hascii c.toNat (toNat_lt_of_digit? h)
    rw [Char.ofNat_toNat] at hc
    exact hc d h
  · intro h
    have hlower : ∀ d < 16, "0123456789abcdef".toList[d]?.bind digit? = some d := by decide
    have hupper : ∀ d < 16, "0123456789ABCDEF".toList[d]?.bind digit? = some d := by decide
    have hlt := IsDigit.lt h
    rcases h with h | h
    · rw [← hlower d hlt, h, Option.bind_some]
    · rw [← hupper d hlt, h, Option.bind_some]

theorem value?_eq_some_iff {acc n : Nat} {cs : List Char} :
    value? acc cs = some n ↔
      ∃ ds, List.Forall₂ IsDigit cs ds ∧ ds.foldl (fun n d ↦ 16 * n + d) acc = n := by
  induction cs generalizing acc with
  | nil =>
    simp only [List.forall₂_nil_left_iff, exists_eq_left]
    exact Option.some_inj
  | cons c cs ih =>
    simp only [value?, Option.bind_eq_some_iff, digit?_eq_some_iff, ih, List.forall₂_cons_left_iff]
    constructor
    · rintro ⟨d, hd, ds, hds, h⟩
      exact ⟨d :: ds, ⟨d, ds, hd, hds, rfl⟩, h⟩
    · rintro ⟨_, ⟨d, ds, hd, hds, rfl⟩, h⟩
      exact ⟨d, hd, ds, hds, h⟩

theorem value?_zero_eq_some_iff {c : Char} {cs : List Char} {n : Nat} :
    value? 0 (c :: cs) = some n ↔ Writes (c :: cs) n := by
  have hvalue (ds : List Nat) :
      Nat.ofDigits 16 ds.reverse = ds.foldl (fun n d ↦ 16 * n + d) 0 := by
    rw [Nat.ofDigits_eq_foldr, List.foldr_reverse]
    simp only [Nat.cast_id, Nat.add_comm]
  simp only [Writes, value?_eq_some_iff, hvalue, ne_eq, reduceCtorEq, not_false_eq_true, true_and]

/-- A numeral is read if it has digits, after at most one plus sign. -/
theorem number?_eq_some_iff {cs : List Char} {n : Nat} :
    number? cs = some n ↔
      ∃ sign digits, (sign = [] ∨ sign = ['+']) ∧ cs = sign ++ digits ∧ Writes digits n := by
  constructor
  · intro h
    unfold number? at h
    split at h
    · exact nomatch h
    · exact ⟨['+'], _, .inr rfl, rfl, value?_zero_eq_some_iff.mp h⟩
    · exact ⟨[], _, .inl rfl, rfl, value?_zero_eq_some_iff.mp h⟩
  · rintro ⟨sign, digits, hsign, rfl, h⟩
    obtain ⟨c, cs, rfl⟩ := List.exists_cons_of_ne_nil h.1
    rcases hsign with rfl | rfl
    · have hplus : c ≠ '+' := by
        rintro rfl
        obtain ⟨-, _ | ⟨d, ds⟩, hds, -⟩ := h
        · exact nomatch hds
        · have hd := (List.forall₂_cons.mp hds).1
          exact nomatch digit?_eq_some_iff.mpr hd
      rw [List.nil_append, number?]
      · exact value?_zero_eq_some_iff.mpr h
      · intro _ _ heq
        exact absurd heq hplus
    · exact value?_zero_eq_some_iff.mpr h

theorem isDigit_digitChar {d : Nat} (hd : d < 16) : IsDigit (Nat.digitChar d) d := by
  have hall : ∀ d < 16, "0123456789abcdef".toList[d]? = some (Nat.digitChar d) := by decide
  exact Or.inl (hall d hd)

/-- A number is written by its digits. -/
theorem writes_digits (n : Nat) : Writes (digits n) n := by
  rw [digits]
  induction n using Nat.strong_induction_on with
  | _ n ih =>
    by_cases hn : n < 16
    · rw [Nat.toDigits_of_lt_base hn]
      exact ⟨List.cons_ne_nil _ _, [n], .cons (isDigit_digitChar hn) .nil,
        Nat.ofDigits_singleton⟩
    · obtain ⟨-, ds, hds, hvalue⟩ := ih (n / 16) (Nat.div_lt_self (by omega) (by decide))
      have hdigit := isDigit_digitChar (Nat.mod_lt n (by decide : 16 > 0))
      rw [Nat.toDigits_of_base_le (by decide) (Nat.not_lt.mp hn)]
      refine ⟨List.append_ne_nil_of_right_ne_nil _ (List.cons_ne_nil _ _), ds ++ [n % 16], ?_, ?_⟩
      · exact List.rel_append hds (.cons hdigit .nil)
      · rw [List.reverse_append, List.reverse_singleton, List.singleton_append, Nat.ofDigits_cons,
          hvalue]
        exact Nat.mod_add_div n 16

end WindowRouting.Text.Hex
