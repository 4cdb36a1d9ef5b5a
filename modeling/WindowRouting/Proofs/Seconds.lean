import Mathlib.Algebra.Group.Nat.Defs
import WindowRouting.Receiver.Scrolling

/-!
Times of scroll events in single precision. The seconds between two readings of the clock are a
quotient that is rounded twice, and a velocity is given only if this quotient compares above zero. A
rounded quotient can be zero although its dividend is not, but whole milliseconds are far from the
smallest numbers of the format (`SinglePrecision.zero_lt_div_thousand`): some time passed exactly if
the readings differ (`Timestamp.secondsSince_pos_iff`). The range of a number is followed from the
conversion of a word (`within_ofNat`) through the division (`within_div`), and packing a number in
this range loses nothing (`unpack_pack`).
-/

set_option autoImplicit false
set_option relaxedAutoImplicit false

namespace WindowRouting

namespace SinglePrecision

open Float.Model Float.Model.UnpackedFloat

/-- The number is positive with a mantissa of full length, and its exponent is in a range. -/
def Within (low high : Int) : UnpackedFloat → Prop
  | .finite .positive m e _ => 2 ^ 23 ≤ m ∧ m < 2 ^ 24 ∧ low ≤ e ∧ e ≤ high
  | _ => False

variable {m : Nat} {e low low' high high' : Int}

theorem Within.exists_eq {u : UnpackedFloat} (hu : Within low high u) :
    ∃ m e hm, u = .finite .positive m e hm ∧ 2 ^ 23 ≤ m ∧ m < 2 ^ 24 ∧ low ≤ e ∧ e ≤ high := by
  cases u with
  | finite sign m e hm =>
    cases sign with
    | positive => exact ⟨m, e, hm, rfl, hu⟩
    | negative => exact hu.elim
  | _ => exact hu.elim

theorem Within.mono {u : UnpackedFloat} (hu : Within low high u) (hlow : low' ≤ low)
    (hhigh : high ≤ high') : Within low' high' u := by
  obtain ⟨m, e, hm, rfl, hm₁, hm₂, he₁, he₂⟩ := hu.exists_eq
  exact ⟨hm₁, hm₂, Int.le_trans hlow he₁, Int.le_trans he₂ hhigh⟩

theorem targetExponent_eq (total : Int) :
    Format.binary32.targetExponent total = max (total - 24) (-149) := rfl

theorem mantissa_shiftRight (em : ExtendedMantissa) (k : Nat) :
    (em >>> k).mantissa = em.mantissa / 2 ^ k := by
  induction k with
  | zero => exact (Nat.div_one _).symm
  | succ k ih =>
    change (em >>> k).mantissa / 2 = _
    rw [ih, Nat.div_div_eq_div_mul, Nat.pow_succ]

theorem mantissa_ofMantissaAndAccuracy (m : Nat) (accuracy : Accuracy) :
    (ExtendedMantissa.ofMantissaAndAccuracy m accuracy).mantissa = m := by
  unfold ExtendedMantissa.ofMantissaAndAccuracy
  split <;> rfl

/-- Rounding goes up by one at most. -/
theorem roundedMantissa_bounds (em : ExtendedMantissa) :
    em.mantissa ≤ em.roundedMantissa ∧ em.roundedMantissa ≤ em.mantissa + 1 := by
  unfold ExtendedMantissa.roundedMantissa Accuracy.roundToNearestEven
  split <;> omega

/-- A mantissa that is long enough is cut to its full length. -/
theorem shiftToTargetExponent_bounds (hm : 2 ^ 23 ≤ m) (he : -149 ≤ e) (accuracy : Accuracy) :
    2 ^ 23 ≤ (shiftToTargetExponent Format.binary32 m e accuracy).1.mantissa ∧
      (shiftToTargetExponent Format.binary32 m e accuracy).1.mantissa < 2 ^ 24 ∧
      (shiftToTargetExponent Format.binary32 m e accuracy).2 = e + m.log2 - 23 := by
  have hpos : m ≠ 0 := by omega
  have hlog : 23 ≤ m.log2 := (Nat.le_log2 hpos).mpr hm
  have htarget : Format.binary32.targetExponent (totalExponent m e) = e + m.log2 - 23 := by
    rw [targetExponent_eq, totalExponent]
    omega
  have hshift : (e + m.log2 - 23 - e).toNat = m.log2 - 23 := by omega
  have hsplit : m.log2 - 23 + 23 = m.log2 := by omega
  simp only [shiftToTargetExponent, htarget, shiftToExponent, hshift, mantissa_shiftRight,
    mantissa_ofMantissaAndAccuracy]
  refine ⟨?_, ?_, by omega⟩
  · rw [Nat.le_div_iff_mul_le (Nat.two_pow_pos _), ← Nat.pow_add, Nat.add_comm, hsplit]
    exact Nat.log2_self_le hpos
  · rw [Nat.div_lt_iff_lt_mul (Nat.two_pow_pos _), ← Nat.pow_add,
      show 24 + (m.log2 - 23) = m.log2 + 1 by omega]
    exact Nat.lt_log2_self

theorem within_roundWithAccuracy (hm : 2 ^ 23 ≤ m) (he : -149 ≤ e) (accuracy : Accuracy) :
    Within e (e + m.log2 - 22) (roundWithAccuracy Format.binary32 .positive m e accuracy) := by
  obtain ⟨hlow, hhigh, hexponent⟩ := shiftToTargetExponent_bounds hm he accuracy
  have hlog : 23 ≤ m.log2 := (Nat.le_log2 (by omega)).mpr hm
  unfold roundWithAccuracy
  generalize shiftToTargetExponent Format.binary32 m e accuracy = first at hlow hhigh hexponent
  obtain ⟨em, e'⟩ := first
  simp only at hlow hhigh hexponent
  obtain ⟨hrounded, hrounded'⟩ := roundedMantissa_bounds em
  -- A mantissa that was rounded up to an even power is cut once more.
  have hlog' : em.roundedMantissa.log2 < 25 := (Nat.log2_lt (by omega)).mpr (by omega)
  have hlog'' : 23 ≤ em.roundedMantissa.log2 := (Nat.le_log2 (by omega)).mpr (by omega)
  obtain ⟨hlow', hhigh', hexponent'⟩ :=
    shiftToTargetExponent_bounds (m := em.roundedMantissa) (e := e') (by omega) (by omega) .exact
  dsimp only
  rw [dif_neg (by omega)]
  exact ⟨hlow', hhigh', by omega, by omega⟩

/-- The number one and all greater integers that fit into a word. -/
theorem within_ofNat {n : Nat} (hpos : 0 < n) (hlt : n < 2 ^ 32) :
    Within (-23) 9 (UnpackedFloat.ofNat Format.binary32 n) := by
  have hlog : n.log2 < 32 := (Nat.log2_lt (by omega)).mpr hlt
  have htarget : Format.binary32.targetExponent (totalExponent n 0) = (n.log2 : Int) - 23 := by
    rw [targetExponent_eq, totalExponent]
    omega
  -- The mantissa is first made long enough.
  obtain ⟨k, hk⟩ : ∃ k, (0 - ((n.log2 : Int) - 23)).toNat = k := ⟨_, rfl⟩
  have hlong : 2 ^ 23 ≤ n <<< k := by
    rw [Nat.shiftLeft_eq]
    calc 2 ^ 23 ≤ 2 ^ (n.log2 + k) := Nat.pow_le_pow_right (by decide) (by omega)
      _ = 2 ^ n.log2 * 2 ^ k := Nat.pow_add _ _ _
      _ ≤ n * 2 ^ k := Nat.mul_le_mul_right _ (Nat.log2_self_le (by omega))
  have hshort : n <<< k < 2 ^ 32 := by
    rw [Nat.shiftLeft_eq]
    calc n * 2 ^ k < 2 ^ (n.log2 + 1) * 2 ^ k :=
          Nat.mul_lt_mul_of_pos_right Nat.lt_log2_self (Nat.two_pow_pos k)
      _ = 2 ^ (n.log2 + 1 + k) := (Nat.pow_add _ _ _).symm
      _ ≤ 2 ^ 32 := Nat.pow_le_pow_right (by decide) (by omega)
  have hlog' : (n <<< k).log2 < 32 := (Nat.log2_lt (by omega)).mpr hshort
  have hround : UnpackedFloat.ofNat Format.binary32 n =
      roundWithAccuracy Format.binary32 .positive (n <<< k) (0 - k) .exact := by
    unfold UnpackedFloat.ofNat UnpackedFloat.ofInt UnpackedFloat.normalize
    rw [Int.compare_eq_gt.mpr (by omega)]
    simp only [Int.toNat_natCast, UnpackedFloat.round, htarget, decreaseExponent, hk]
  rw [hround]
  exact (within_roundWithAccuracy hlong (by omega) .exact).mono (by omega) (by omega)

/-- The quotient of two numbers that are far from the smallest ones. -/
theorem within_div {u v : UnpackedFloat} {low₁ high₁ low₂ high₂ : Int} (hu : Within low₁ high₁ u)
    (hv : Within low₂ high₂ v) (hlow : -125 ≤ low₁ - high₂) :
    Within (low₁ - high₂ - 24) (high₁ - low₂ - 22) (UnpackedFloat.div Format.binary32 u v) := by
  obtain ⟨m₁, e₁, hm₁, rfl, hlow₁, hhigh₁, hexp₁, hexp₁'⟩ := hu.exists_eq
  obtain ⟨m₂, e₂, hm₂, rfl, hlow₂, hhigh₂, hexp₂, hexp₂'⟩ := hv.exists_eq
  have hlog₁ : m₁.log2 = 23 := (Nat.log2_eq_iff (by omega)).mpr ⟨hlow₁, hhigh₁⟩
  have hlog₂ : m₂.log2 = 23 := (Nat.log2_eq_iff (by omega)).mpr ⟨hlow₂, hhigh₂⟩
  have htarget : min (e₁ - e₂) (Format.binary32.targetExponent
      (totalExponent m₁ e₁ - totalExponent m₂ e₂)) = e₁ - e₂ - 24 := by
    rw [targetExponent_eq, totalExponent, totalExponent, hlog₁, hlog₂]
    omega
  have hshift : (e₁ - e₂ - (e₁ - e₂ - 24)).toNat = 24 := by omega
  dsimp only [UnpackedFloat.div, divCore]
  rw [htarget, hshift, Nat.shiftLeft_eq]
  have hlong : 2 ^ 23 ≤ m₁ * 2 ^ 24 / m₂ := by
    rw [Nat.le_div_iff_mul_le hm₂]
    omega
  have hshort : m₁ * 2 ^ 24 / m₂ < 2 ^ 25 := by
    rw [Nat.div_lt_iff_lt_mul hm₂]
    omega
  have hlog : (m₁ * 2 ^ 24 / m₂).log2 < 25 := (Nat.log2_lt (by omega)).mpr hshort
  exact (within_roundWithAccuracy hlong (by omega) _).mono (by omega) (by omega)

/-- The sign is the bit above those of the exponent and the mantissa. -/
theorem getLsbD_unpackSign (b : BitVec Format.binary32.numBits) :
    (unpackSign b).getLsbD 0 = b.getLsbD 31 := by
  delta unpackSign
  rw [BitVec.getLsbD_cast, BitVec.getLsbD_extractLsb]
  rfl

theorem unpackSign_positive (exponent : BitVec 8) (mantissa : BitVec 23) :
    unpackSign (packComponents Format.binary32 .positive exponent mantissa) = 0#1 := by
  refine BitVec.eq_of_getLsbD_eq fun i hi ↦ ?_
  obtain rfl : i = 0 := by omega
  have htop : ((0#1 ++ exponent) ++ mantissa).getLsbD 31 = false := by
    rw [BitVec.getLsbD_append, if_neg (by decide), BitVec.getLsbD_append, if_neg (by decide)]
    rfl
  exact (getLsbD_unpackSign _).trans htop

/-- What is read from the three parts of a number that is not one of the special ones. -/
theorem unpack_eq_finite {b : BitVec Format.binary32.numBits} (hm : 0 < m)
    (hsign : unpackSign b = 0#1) (htop : unpackExponent b ≠ -1#_)
    (hbottom : unpackExponent b ≠ 0#_) (hmantissa : (1#1 ++ unpackMantissa b).toNat = m)
    (hexponent : ((unpackExponent b).toNat : Int) - 150 = e) :
    UnpackedFloat.unpack Format.binary32 b = .finite .positive m e hm := by
  subst hmantissa hexponent
  unfold UnpackedFloat.unpack
  rw [if_neg htop, if_neg hbottom, hsign]
  rfl

/-- A number in the range of the format is read back as it was packed. -/
theorem unpack_pack {u : UnpackedFloat} (hu : Within low high u) (hlow : -149 ≤ low)
    (hhigh : high ≤ 104) :
    UnpackedFloat.unpack Format.binary32 (UnpackedFloat.pack Format.binary32 u) = u := by
  obtain ⟨m, e, hm, rfl, hm₁, hm₂, he₁, he₂⟩ := hu.exists_eq
  obtain ⟨biased, hbiased⟩ : ∃ n, (e + 127 + 23).toNat = n := ⟨_, rfl⟩
  have hlog : m.log2 = 23 := (Nat.log2_eq_iff (by omega)).mpr ⟨hm₁, hm₂⟩
  have hpack : UnpackedFloat.pack Format.binary32 (.finite .positive m e hm) =
      packComponents Format.binary32 .positive (.ofNat 8 biased) (.ofNat 23 m) := by
    subst hbiased
    unfold UnpackedFloat.pack
    dsimp only
    rw [if_neg, if_pos]
    · rfl
    · exact congrArg (· + 1) hlog
    · change ¬ 256 ≤ (e + 127 + 23).toNat + 1
      omega
  have hexponent : (BitVec.ofNat 8 biased).toNat = biased := by
    rw [BitVec.toNat_ofNat]
    omega
  have hmantissa : (BitVec.ofNat 1 1 ++ BitVec.ofNat 23 m).toNat = m := by
    rw [BitVec.toNat_append, BitVec.toNat_ofNat, BitVec.toNat_ofNat,
      ← Nat.shiftLeft_add_eq_or_of_lt (by omega), Nat.shiftLeft_eq]
    omega
  have htop : BitVec.ofNat 8 biased ≠ -BitVec.ofNat 8 1 := by
    rw [ne_eq, ← BitVec.toNat_inj, hexponent]
    change ¬ biased = 255
    omega
  have hbottom : BitVec.ofNat 8 biased ≠ BitVec.ofNat 8 0 := by
    rw [ne_eq, ← BitVec.toNat_inj, hexponent]
    change ¬ biased = 0
    omega
  rw [hpack]
  refine unpack_eq_finite hm (unpackSign_positive _ _) ?_ ?_ ?_ ?_
  · rwa [unpackExponent_packComponents]
  · rwa [unpackExponent_packComponents]
  · rwa [unpackMantissa_packComponents]
  · rw [unpackExponent_packComponents, hexponent]
    omega

theorem zero_lt {x : Float32} (hx : Within low high x.toModel.unpack) : 0 < x := by
  have hlt : 0 < x ↔ UnpackedFloat.lt (.zero .positive) x.toModel.unpack = true :=
    decide_eq_true_iff
  obtain ⟨m, e, hm, heq, -⟩ := hx.exists_eq
  rw [hlt, heq]
  rfl

theorem within_thousand : Within (-14) (-14) (1000 : Float32).toModel.unpack := by
  rw [show (1000 : Float32).toModel.unpack = .finite .positive 16384000 (-14) (by decide) from rfl]
  exact ⟨by decide, by decide, by decide, by decide⟩

/-- A whole number of thousandths is above zero unless it is zero. -/
theorem zero_lt_div_thousand {n : UInt32} (hn : n ≠ 0) : 0 < n.toFloat32 / 1000 := by
  have hpos : 0 < n.toNat := Nat.pos_of_ne_zero fun hzero ↦ hn (UInt32.toNat_inj.mp hzero)
  have hrange := within_ofNat hpos n.toNat_lt
  have hnumber : Within (-23) 9 n.toFloat32.toModel.unpack := by
    have hunpack : n.toFloat32.toModel.unpack = UnpackedFloat.ofNat Format.binary32 n.toNat :=
      unpack_pack hrange (by decide) (by decide)
    exact hunpack ▸ hrange
  have hquotient := within_div hnumber within_thousand (by decide)
  have hunpack : (n.toFloat32 / 1000).toModel.unpack =
      UnpackedFloat.div Format.binary32 n.toFloat32.toModel.unpack
        (1000 : Float32).toModel.unpack := unpack_pack hquotient (by decide) (by decide)
  exact zero_lt (hunpack ▸ hquotient)

end SinglePrecision

namespace Timestamp

variable {time earlier : Timestamp}

theorem millisSince_eq_zero_iff : time.millisSince earlier = 0 ↔ time = earlier := by
  rw [millisSince, UInt32.sub_eq_iff_eq_add, UInt32.zero_add]
  exact ⟨fun heq ↦ congrArg Timestamp.mk heq, congrArg Timestamp.millis⟩

/-- Some time passed between two readings of the clock exactly if they differ. -/
theorem secondsSince_pos_iff : 0 < time.secondsSince earlier ↔ time ≠ earlier := by
  constructor
  · rintro hpos rfl
    rw [secondsSince, millisSince_eq_zero_iff.mpr rfl] at hpos
    exact absurd hpos (by decide +kernel)
  · exact fun hne ↦ SinglePrecision.zero_lt_div_thousand (mt millisSince_eq_zero_iff.mp hne)

theorem velocity_self (time : Timestamp) (displacement : Vec) :
    time.velocity time displacement = .zero := by
  rw [velocity, if_neg (mt secondsSince_pos_iff.mp (not_not_intro rfl))]

theorem velocity_of_ne (hne : time ≠ earlier) (displacement : Vec) :
    time.velocity earlier displacement = displacement.div (time.secondsSince earlier) := by
  rw [velocity, if_pos (secondsSince_pos_iff.mpr hne)]

end Timestamp

/-- A gesture is over for a smooth scroll exactly if it is too late for momentum: the two tests of
the timeout agree at every distance of the times. -/
theorem Config.timedOut_eq_not (cfg : Config) (time last : Timestamp) :
    cfg.timedOut time last = !decide (time.millisSince last ≤ cfg.gestureTimeout) := by
  rw [timedOut, ← decide_not]
  exact decide_eq_decide.mpr UInt32.not_le.symm

end WindowRouting
