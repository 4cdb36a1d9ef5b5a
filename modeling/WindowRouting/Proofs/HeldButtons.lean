import Mathlib.Data.Finset.Basic
import Mathlib.Data.Finset.Range
import Mathlib.Data.Nat.Bitwise
import WindowRouting.Input.Button

/-!
The word of held buttons is read as a finite set of native numbers (`heldButtons`). The operations
on the word with the bit of a tracked button are those on the set with its number.
-/

set_option autoImplicit false
set_option relaxedAutoImplicit false

namespace WindowRouting

/-- The native numbers of the buttons whose bits are set. -/
def heldButtons (word : UInt32) : Finset Nat :=
  (Finset.range 32).filter fun n ↦ word.toNat.testBit n

theorem mem_heldButtons {word : UInt32} {n : Nat} :
    n ∈ heldButtons word ↔ word.toNat.testBit n = true := by
  rw [heldButtons, Finset.mem_filter, Finset.mem_range, and_iff_right_iff_imp]
  intro hbit
  by_contra hn
  have hlt : word.toNat < 2 ^ n :=
    Nat.lt_of_lt_of_le word.toNat_lt (Nat.pow_le_pow_right (by omega) (by omega))
  rw [Nat.testBit_lt_two_pow hlt] at hbit
  exact absurd hbit nofun

theorem heldButtons_eq_empty_iff {word : UInt32} : heldButtons word = ∅ ↔ word = 0 := by
  constructor
  · intro hempty
    have hzero : word.toNat = 0 := by
      refine Nat.eq_of_testBit_eq fun n ↦ ?_
      have hn : n ∉ heldButtons word := hempty ▸ Finset.notMem_empty n
      rw [mem_heldButtons, Bool.not_eq_true] at hn
      rw [hn, Nat.zero_testBit]
    exact UInt32.toNat_inj.mp hzero
  · rintro rfl
    ext n
    simp [mem_heldButtons]

variable {b : Button} {mask word : UInt32}

theorem testBit_mask (hmask : b.mask? = some mask) (n : Nat) :
    mask.toNat.testBit n = decide (n = b.native.toNat) := by
  unfold Button.mask? at hmask
  split at hmask
  case isTrue htracked =>
    obtain ⟨-, hle⟩ := htracked
    have hlt : b.native.toNat < 32 := Nat.lt_succ_of_le (UInt8.le_iff_toNat_le.mp hle)
    have hpow : 2 ^ b.native.toNat < 2 ^ 32 := Nat.pow_lt_pow_right (by omega) hlt
    have hvalue : mask.toNat = 2 ^ b.native.toNat := by
      rw [← Option.some.inj hmask, UInt32.toNat_shiftLeft, UInt8.toNat_toUInt32,
        Nat.mod_eq_of_lt hlt, UInt32.toNat_one, Nat.one_shiftLeft, Nat.mod_eq_of_lt hpow]
    rw [hvalue, Nat.testBit_two_pow]
    exact decide_eq_decide.mpr eq_comm
  case isFalse => exact absurd hmask nofun

/-- A button that goes down is held. -/
theorem heldButtons_or (hmask : b.mask? = some mask) :
    heldButtons (word ||| mask) = insert b.native.toNat (heldButtons word) := by
  ext n
  rw [Finset.mem_insert, mem_heldButtons, mem_heldButtons, UInt32.toNat_or, Nat.testBit_or,
    testBit_mask hmask, Bool.or_eq_true, decide_eq_true_iff, or_comm]

/-- A button that goes up is not held. -/
theorem heldButtons_and_not (hmask : b.mask? = some mask) :
    heldButtons (word &&& ~~~mask) = (heldButtons word).erase b.native.toNat := by
  ext n
  have hnot : (~~~mask).toNat = 2 ^ 32 - (mask.toNat + 1) := by
    rw [UInt32.toNat_not, UInt32.size]
    omega
  rw [Finset.mem_erase, mem_heldButtons, mem_heldButtons, UInt32.toNat_and, hnot, Nat.testBit_and,
    Nat.testBit_two_pow_sub_succ mask.toNat_lt, testBit_mask hmask, Bool.and_eq_true]
  constructor
  · rintro ⟨hbit, hother⟩
    exact ⟨by simpa using (Bool.and_eq_true_iff.mp hother).2, hbit⟩
  · rintro ⟨hne, hbit⟩
    have hlt : n < 32 :=
      Finset.mem_range.mp (Finset.mem_filter.mp (mem_heldButtons.mpr hbit)).1
    exact ⟨hbit, by simp [hlt, hne]⟩

/-- The bit of a button is clear when the button is not held. -/
theorem and_mask_eq_zero_iff (hmask : b.mask? = some mask) :
    word &&& mask = 0 ↔ b.native.toNat ∉ heldButtons word := by
  rw [← heldButtons_eq_empty_iff, Finset.eq_empty_iff_forall_notMem]
  simp only [mem_heldButtons, UInt32.toNat_and, Nat.testBit_and, testBit_mask hmask]
  constructor
  · intro hclear hbit
    exact hclear b.native.toNat (by simp [hbit])
  · intro hbit n
    simp only [Bool.and_eq_true, decide_eq_true_eq, not_and]
    rintro hn rfl
    exact hbit hn

end WindowRouting
