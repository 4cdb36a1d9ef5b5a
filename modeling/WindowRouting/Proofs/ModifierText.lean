import Mathlib.Data.Nat.Bitwise
import WindowRouting.Json.Fields
import WindowRouting.Proofs.Json.Records
import WindowRouting.Proofs.Text.Hex
import WindowRouting.Proofs.Text.Pieces

/-!
The text of a set of modifiers. A part of a text is the name of a flag or a marked numeral that fits
32 bits (`Modifiers.IsPart`); with blanks around it, it is a piece of the text. A text that joins
such pieces by bars is read as the union of their bits, whatever their order and however often one
is repeated, and no other text is accepted but a blank one (`Modifiers.parse?_eq_some_iff`).

The text of a set names its named flags and gives the other bits by one numeral. Together these are
the bits of the set (`Modifiers.foldl_contents`), so its text is read as the same set
(`Modifiers.parse?_text`), also as a string in JSON.
-/

set_option autoImplicit false
set_option relaxedAutoImplicit false

namespace WindowRouting.Modifiers

open Text (AllBlank Padded join pieces trim)
open Json (Piece Token Value)

/-! ### Parts -/

/-- The text is a part of the text of a set, and these are its bits. A numeral may have one of the
`signs` behind its mark. -/
inductive IsPart (signs : List (List Char)) : List Char → UInt32 → Prop
  | name {flag : String × UInt32} (hflag : flag ∈ named) : IsPart signs flag.1.toList flag.2
  | numeral {sign digits : List Char} {bits : UInt32} (hsign : sign ∈ signs)
      (hdigits : Text.Hex.Writes digits bits.toNat) :
      IsPart signs ('0' :: 'x' :: (sign ++ digits)) bits

/-- The signs that are accepted: none, or one plus sign. -/
def signs : List (List Char) := [[], ['+']]

theorem part?_eq_some_iff {part : List Char} {bits : UInt32} :
    part? part = some bits ↔ IsPart signs part bits := by
  constructor
  · intro h
    unfold part? at h
    split at h
    · obtain ⟨n, hn, h⟩ := Option.bind_eq_some_iff.mp h
      obtain ⟨hlt, hbits⟩ := Option.ite_none_right_eq_some.mp h
      obtain ⟨sign, digits, hsign, rfl, hdigits⟩ := Text.Hex.number?_eq_some_iff.mp hn
      have htoNat : bits.toNat = n := by
        rw [← Option.some.inj hbits, UInt32.toNat_ofNat_of_lt' hlt]
      exact .numeral (by simpa [signs] using hsign) (htoNat ▸ hdigits)
    · obtain ⟨flag, hflag, rfl⟩ := Option.map_eq_some_iff.mp h
      have hname := List.find?_some hflag
      rw [decide_eq_true_eq] at hname
      exact hname ▸ .name (List.mem_of_find?_eq_some hflag)
  · intro h
    cases h with
    | @name flag hflag =>
      have hall : ∀ flag ∈ named, part? flag.1.toList = some flag.2 := by decide
      exact hall flag hflag
    | @numeral sign digits _ hsign hdigits =>
      have hn : Text.Hex.number? (sign ++ digits) = some bits.toNat :=
        Text.Hex.number?_eq_some_iff.mpr ⟨sign, digits, by simpa [signs] using hsign, rfl, hdigits⟩
      rw [part?, hn, Option.bind_some, if_pos bits.toNat_lt, UInt32.ofNat_toNat]

/-- The character has no meaning of its own in a text, neither among parts nor in JSON. -/
def IsPlain (c : Char) : Prop :=
  Text.isBlank c = false ∧ c ≠ '|' ∧ ' ' ≤ c ∧ c ≠ '"' ∧ c ≠ '\\'

instance : DecidablePred IsPlain := fun _ ↦ inferInstanceAs (Decidable (_ ∧ _))

theorem isPlain_of_all {cs : List Char} (h : cs.all (IsPlain ·) = true) {c : Char} (hc : c ∈ cs) :
    IsPlain c :=
  of_decide_eq_true (List.all_eq_true.mp h c hc)

theorem isPlain_of_isDigit {c : Char} {d : Nat} (h : Text.Hex.IsDigit c d) : IsPlain c := by
  rcases h with h | h
  · exact isPlain_of_all (by decide) (List.mem_of_getElem? h)
  · exact isPlain_of_all (by decide) (List.mem_of_getElem? h)

theorem IsPart.isPlain {part : List Char} {bits : UInt32} (h : IsPart signs part bits) :
    ∀ c ∈ part, IsPlain c := by
  cases h with
  | @name flag hflag =>
    have hall : ∀ flag ∈ named, flag.1.toList.all (IsPlain ·) = true := by decide
    exact fun c ↦ isPlain_of_all (hall flag hflag)
  | @numeral sign digits _ hsign hdigits =>
    obtain ⟨-, ds, hds, -⟩ := hdigits
    have hmark : ∀ sign ∈ signs, ('0' :: 'x' :: sign).all (IsPlain ·) = true := by decide
    have hrest : ∀ c ∈ digits, IsPlain c := by
      intro c hc
      obtain ⟨d, -, hd⟩ := Text.exists_of_mem_of_forall₂ hds hc
      exact isPlain_of_isDigit hd
    intro c hc
    rw [← List.cons_append, ← List.cons_append] at hc
    exact (List.mem_append.mp hc).elim (isPlain_of_all (hmark sign hsign)) (hrest c)

theorem IsPart.ne_nil {part : List Char} {bits : UInt32} (h : IsPart signs part bits) :
    part ≠ [] := by
  cases h with
  | @name flag hflag =>
    have hall : ∀ flag ∈ named, flag.1.toList ≠ [] := by decide
    exact hall flag hflag
  | numeral => exact List.cons_ne_nil _ _

/-! ### Pieces -/

/-- The piece is a part, up to the blanks around it. -/
def IsPiece (piece : List Char) (bits : UInt32) : Prop :=
  ∃ part, Padded part piece ∧ IsPart signs part bits

theorem isPiece_iff {piece : List Char} {bits : UInt32} :
    part? (trim piece) = some bits ↔ IsPiece piece bits := by
  rw [part?_eq_some_iff]
  constructor
  · intro h
    exact ⟨trim piece, Text.padded_trim piece, h⟩
  · intro ⟨part, hpadded, hpart⟩
    rwa [hpadded.trim_eq fun c hc ↦ (hpart.isPlain c hc).1]

theorem IsPiece.not_mem_bar {piece : List Char} {bits : UInt32} (h : IsPiece piece bits) :
    '|' ∉ piece := by
  obtain ⟨part, ⟨front, back, hfront, hback, rfl⟩, hpart⟩ := h
  have hbar : ¬Text.isBlank '|' = true := by decide
  intro hmem
  rcases List.mem_append.mp hmem with hmem | hmem
  · exact hbar (hfront _ hmem)
  · rcases List.mem_append.mp hmem with hmem | hmem
    · exact (hpart.isPlain _ hmem).2.1 rfl
    · exact hbar (hback _ hmem)

theorem IsPiece.not_allBlank {piece : List Char} {bits : UInt32} (h : IsPiece piece bits) :
    ¬AllBlank piece := by
  obtain ⟨part, ⟨front, back, -, -, rfl⟩, hpart⟩ := h
  obtain ⟨c, part, rfl⟩ := List.exists_cons_of_ne_nil hpart.ne_nil
  intro hblank
  have hc := hblank c (by simp)
  rw [(hpart.isPlain c List.mem_cons_self).1] at hc
  exact Bool.false_ne_true hc

/-! ### Texts -/

theorem parse?_of_allBlank {s : List Char} (h : AllBlank s) : parse? s = some ⟨0⟩ := by
  rw [parse?, Text.trim_of_allBlank h]
  rfl

theorem parse?_of_not_allBlank {s : List Char} (h : ¬AllBlank s) :
    parse? s = ((pieces '|' s).mapM fun piece ↦ part? (trim piece)).map fun parts ↦
      ⟨parts.foldl (· ||| ·) 0⟩ := by
  have hne : ¬(trim s).isEmpty = true := by
    rwa [List.isEmpty_iff, Text.trim_eq_nil_iff]
  rw [parse?, if_neg hne]

/-- Pieces joined by bars are read as the union of their bits. -/
theorem parse?_join {ps : List (List Char)} {bits : List UInt32}
    (h : List.Forall₂ IsPiece ps bits) :
    parse? (join ['|'] ps) = some ⟨bits.foldl (· ||| ·) 0⟩ := by
  cases h with
  | nil => exact parse?_of_allBlank fun c hc ↦ absurd hc List.not_mem_nil
  | @cons p b ps bits hp hps =>
    have hblank : ¬AllBlank (join ['|'] (p :: ps)) := by
      intro hblank
      refine hp.not_allBlank fun c hc ↦ hblank c ?_
      exact Text.subset_join ['|'] List.mem_cons_self hc
    have hbars : ∀ q ∈ p :: ps, '|' ∉ q := by
      intro q hq
      obtain ⟨c, -, hc⟩ := Text.exists_of_mem_of_forall₂ (.cons hp hps) hq
      exact hc.not_mem_bar
    have hread : (p :: ps).mapM (fun piece ↦ part? (trim piece)) = some (b :: bits) :=
      Text.mapM_eq_some_iff.mpr
        (List.Forall₂.cons (isPiece_iff.mpr hp) (hps.imp fun _ _ ↦ isPiece_iff.mpr))
    rw [parse?_of_not_allBlank hblank, Text.pieces_join hbars (List.cons_ne_nil p ps), hread,
      Option.map_some]

/-- A text that is not blank is accepted only if everything between its bars is a piece. -/
theorem forall₂_of_parse? {s : List Char} {m : Modifiers} (h : parse? s = some m)
    (hblank : ¬AllBlank s) :
    ∃ bits, List.Forall₂ IsPiece (pieces '|' s) bits ∧ m = ⟨bits.foldl (· ||| ·) 0⟩ := by
  rw [parse?_of_not_allBlank hblank] at h
  obtain ⟨bits, hbits, rfl⟩ := Option.map_eq_some_iff.mp h
  exact ⟨bits, (Text.mapM_eq_some_iff.mp hbits).imp fun _ _ ↦ isPiece_iff.mp, rfl⟩

/-- A text is accepted if it is blank or joins pieces by bars. -/
theorem parse?_eq_some_iff {s : List Char} {m : Modifiers} :
    parse? s = some m ↔
      (AllBlank s ∧ m = ⟨0⟩) ∨
        ∃ ps bits, s = join ['|'] ps ∧ List.Forall₂ IsPiece ps bits ∧
          m = ⟨bits.foldl (· ||| ·) 0⟩ := by
  constructor
  · intro h
    by_cases hblank : AllBlank s
    · rw [parse?_of_allBlank hblank] at h
      exact .inl ⟨hblank, (Option.some.inj h).symm⟩
    · obtain ⟨bits, hbits, hm⟩ := forall₂_of_parse? h hblank
      exact .inr ⟨pieces '|' s, bits, (Text.join_pieces '|' s).symm, hbits, hm⟩
  · rintro (⟨hblank, rfl⟩ | ⟨ps, bits, rfl, hps, rfl⟩)
    · exact parse?_of_allBlank hblank
    · exact parse?_join hps

/-- A text with anything else between its bars is refused. -/
theorem parse?_join_eq_none {ps : List (List Char)} (hbars : ∀ p ∈ ps, '|' ∉ p)
    (hblank : ¬AllBlank (join ['|'] ps)) {p : List Char} (hp : p ∈ ps)
    (hpiece : ∀ bits, ¬IsPiece p bits) : parse? (join ['|'] ps) = none := by
  rw [Option.eq_none_iff_forall_ne_some]
  intro m hm
  obtain ⟨bits, hbits, -⟩ := forall₂_of_parse? hm hblank
  rw [Text.pieces_join hbars (List.ne_nil_of_mem hp)] at hbits
  obtain ⟨b, -, hb⟩ := Text.exists_of_mem_of_forall₂ hbits hp
  exact hpiece b hb

/-! ### The text of a set -/

/-- The parts of the text of a set with their bits. -/
def contents (m : Modifiers) : List (List Char × UInt32) :=
  (named.filter fun flag ↦ m.bits &&& flag.2 ≠ 0).map (fun flag ↦ (flag.1.toList, flag.2)) ++
    if m.unnamed = 0 then [] else [(Text.Hex.marked m.unnamed.toNat, m.unnamed)]

theorem map_fst_contents (m : Modifiers) : m.contents.map (·.1) = m.parts := by
  rw [contents, parts, names, List.map_append, List.map_map, List.map_map, apply_ite (List.map _)]
  rfl

theorem isPart_of_mem_contents {m : Modifiers} {part : List Char × UInt32}
    (h : part ∈ m.contents) : IsPart signs part.1 part.2 := by
  rcases List.mem_append.mp h with h | h
  · obtain ⟨flag, hflag, rfl⟩ := List.mem_map.mp h
    exact .name (List.mem_of_mem_filter hflag)
  · split_ifs at h
    · exact absurd h List.not_mem_nil
    · obtain rfl := List.mem_singleton.mp h
      show IsPart signs ('0' :: 'x' :: ([] ++ Text.Hex.digits m.unnamed.toNat)) m.unnamed
      exact .numeral List.mem_cons_self (Text.Hex.writes_digits _)

/-- The word has one bit. -/
def IsBit (b : UInt32) : Prop := ∃ i, b.toNat = 2 ^ i

/-- A set has a bit or nothing of it. -/
theorem IsBit.and_eq {b : UInt32} (h : IsBit b) {bits : UInt32} (hne : bits &&& b ≠ 0) :
    bits &&& b = b := by
  obtain ⟨i, hi⟩ := h
  have hand : (bits &&& b).toNat = (bits.toNat.testBit i).toNat * 2 ^ i := by
    rw [UInt32.toNat_and, hi, Nat.and_two_pow]
  rw [← UInt32.toNat_inj, hand]
  cases hbit : bits.toNat.testBit i with
  | true => rw [Bool.toNat_true, one_mul, hi]
  | false =>
    rw [hbit, Bool.toNat_false, zero_mul] at hand
    exact absurd (UInt32.toNat_inj.mp hand) hne

theorem isBit_of_mem_named : ∀ flag ∈ named, IsBit flag.2 := by
  intro flag hflag
  have hall : ∀ flag ∈ named, flag.2.toNat = 2 ^ flag.2.toNat.log2 := by decide
  exact ⟨_, hall flag hflag⟩

theorem and_or_distrib (a b c : UInt32) : a &&& (b ||| c) = a &&& b ||| a &&& c := by
  rw [← UInt32.toNat_inj]
  simp only [UInt32.toNat_and, UInt32.toNat_or, Nat.and_or_distrib_left]

theorem foldl_or (start : UInt32) (words : List UInt32) :
    words.foldl (· ||| ·) start = start ||| words.foldl (· ||| ·) 0 := by
  induction words generalizing start with
  | nil => exact UInt32.or_zero.symm
  | cons w words ih => rw [List.foldl_cons, List.foldl_cons, ih, ih (0 ||| w), UInt32.zero_or,
      UInt32.or_assoc]

/-- The flags of a set are its bits among all flags. -/
theorem foldl_flags {flags : List (String × UInt32)} (hflags : ∀ flag ∈ flags, IsBit flag.2)
    (bits : UInt32) :
    ((flags.filter fun flag ↦ bits &&& flag.2 ≠ 0).map (·.2)).foldl (· ||| ·) 0 =
      bits &&& flags.foldr (fun flag bits ↦ flag.2 ||| bits) 0 := by
  induction flags with
  | nil => exact UInt32.and_zero.symm
  | cons flag flags ih =>
    obtain ⟨hflag, hflags⟩ := List.forall_mem_cons.mp hflags
    rw [List.foldr_cons, and_or_distrib, ← ih hflags]
    by_cases hset : bits &&& flag.2 = 0
    · rw [List.filter_cons_of_neg (by simpa using hset), hset, UInt32.zero_or]
    · rw [List.filter_cons_of_pos (by simpa using hset), List.map_cons, List.foldl_cons, foldl_or,
        UInt32.zero_or, hflag.and_eq hset]

/-- The parts have the bits of the set. -/
theorem foldl_contents (m : Modifiers) :
    (m.contents.map (·.2)).foldl (· ||| ·) 0 = m.bits := by
  have hnumeral : ((if m.unnamed = 0 then [] else
      [(Text.Hex.marked m.unnamed.toNat, m.unnamed)]).map (·.2)).foldl (· ||| ·) 0 = m.unnamed := by
    split_ifs with h
    · exact h.symm
    · exact UInt32.zero_or
  rw [contents, List.map_append, List.foldl_append, foldl_or, hnumeral, List.map_map]
  calc ((named.filter fun flag ↦ m.bits &&& flag.2 ≠ 0).map (·.2)).foldl (· ||| ·) 0 ||| m.unnamed
    _ = m.bits &&& known ||| m.bits &&& ~~~known := by
      rw [foldl_flags isBit_of_mem_named, known, unnamed, known]
    _ = m.bits := by
      rw [← and_or_distrib, UInt32.or_not_self, UInt32.and_neg_one]

/-- The text of a set is read as the set. -/
theorem parse?_text (m : Modifiers) : parse? m.text.toList = some m := by
  rw [text, String.toList_ofList]
  by_cases hempty : m.parts = []
  · have hcontents : m.contents = [] := List.map_eq_nil_iff.mp (m.map_fst_contents.trans hempty)
    have hbits : 0 = m.bits := by
      have hfold := m.foldl_contents
      rwa [hcontents] at hfold
    rw [hempty]
    show some ⟨0⟩ = some m
    rw [hbits]
  · have hfront : AllBlank [] := fun c hc ↦ absurd hc List.not_mem_nil
    obtain ⟨padded, hpadded, hjoin⟩ := Text.exists_join_padded '|' hempty hfront
    rw [← map_fst_contents, List.forall₂_map_left_iff] at hpadded
    have hpieces : List.Forall₂ IsPiece padded (m.contents.map (·.2)) := by
      rw [List.forall₂_map_right_iff]
      refine (Text.forall₂_imp_of_mem hpadded fun part hpart piece hpiece ↦ ?_).flip
      exact ⟨part.1, hpiece, isPart_of_mem_contents hpart⟩
    have hread := parse?_join hpieces
    rw [hjoin, List.nil_append, foldl_contents] at hread
    exact hread

/-! ### Strings -/

/-- A string is read as the text that it stands for. -/
theorem ofJson?_of_isText {pieces : List Piece} {s cs : List Char}
    (hs : (Value.string pieces).IsText s) (hcs : Piece.text? pieces = some cs) :
    (Value.parse? s).bind ofJson? = parse? cs := by
  rw [Value.parse?_of_isText hs, Option.bind_some, ofJson?, Value.text?, hcs, Option.bind_some]

/-- Characters that need no escape are written between quotes as they are. -/
theorem isText_quoted {cs : List Char} (h : ∀ c ∈ cs, ' ' ≤ c ∧ c ≠ '"' ∧ c ≠ '\\') :
    (Value.string (cs.map .char)).IsText ('"' :: (cs ++ ['"'])) := by
  have hspace : ∀ c ∈ ([] : List Char), Token.isSpace c = true :=
    fun c hc ↦ absurd hc List.not_mem_nil
  have htext := Token.Text.cons hspace (.string (Piece.spelled_map_char h)) (.nil hspace)
  rw [List.nil_append, List.append_nil] at htext
  rwa [Value.IsText, Value.tokens]

/-- The text of a set needs no escapes. -/
theorem plain_of_mem_text (m : Modifiers) {c : Char} (h : c ∈ m.text.toList) :
    ' ' ≤ c ∧ c ≠ '"' ∧ c ≠ '\\' := by
  rw [text, String.toList_ofList, ← map_fst_contents] at h
  rcases Text.mem_join h with h | ⟨part, hpart, hc⟩
  · have hall : ∀ c ∈ [' ', '|', ' '], ' ' ≤ c ∧ c ≠ '"' ∧ c ≠ '\\' := by simp
    exact hall c h
  · obtain ⟨content, hcontent, rfl⟩ := List.mem_map.mp hpart
    exact ((isPart_of_mem_contents hcontent).isPlain c hc).2.2

/-- The text of a set is read as the set, also as a string. A blank text is the empty set, pieces
joined by bars are the union of their bits, and a text with anything else between its bars is
refused. -/
theorem texts_read :
    (∀ m : Modifiers, parse? m.text.toList = some m ∧
      (Value.parse? ('"' :: (m.text.toList ++ ['"']))).bind ofJson? = some m) ∧
    (∀ (pieces : List Piece) (s cs : List Char), (Value.string pieces).IsText s →
      Piece.text? pieces = some cs → (Value.parse? s).bind ofJson? = parse? cs) ∧
    (∀ s, AllBlank s → parse? s = some ⟨0⟩) ∧
    (∀ ps bits, List.Forall₂ IsPiece ps bits →
      parse? (join ['|'] ps) = some ⟨bits.foldl (· ||| ·) 0⟩) ∧
    ∀ ps : List (List Char), (∀ p ∈ ps, '|' ∉ p) → ¬AllBlank (join ['|'] ps) →
      (∃ p ∈ ps, ∀ bits, ¬IsPiece p bits) → parse? (join ['|'] ps) = none := by
  refine ⟨fun m ↦ ⟨m.parse?_text, ?_⟩, ?_, ?_, ?_, ?_⟩
  · have htext := isText_quoted fun c hc ↦ m.plain_of_mem_text hc
    rw [ofJson?_of_isText htext (Piece.text?_map_char _), m.parse?_text]
  · exact fun _ _ _ hs hcs ↦ ofJson?_of_isText hs hcs
  · exact fun _ ↦ parse?_of_allBlank
  · exact fun _ _ ↦ parse?_join
  · exact fun _ hbars hblank ⟨_, hp, hpiece⟩ ↦ parse?_join_eq_none hbars hblank hp hpiece

/-- A text with blanks and a repeated name, a string with an escape, a blank text, and one with a
name in the wrong case. -/
theorem mixed_texts_read :
    parse? " CONTROL|0x10 | CONTROL".toList = some ⟨0x14⟩ ∧
      (Value.parse? "\"\\u0053HIFT\"".toList).bind ofJson? = some ⟨0x1⟩ ∧
        parse? "  ".toList = some ⟨0⟩ ∧ parse? "SHIFT|shift".toList = none := by
  obtain ⟨-, hstring, hblank, hjoin, hrefused⟩ := texts_read
  refine ⟨?_, ?_, hblank _ (by simp [AllBlank, Text.isBlank]), ?_⟩
  · have hcontrol : IsPiece " CONTROL".toList 0x4 := isPiece_iff.mp (by decide)
    have hnumeral : IsPiece "0x10 ".toList 0x10 := isPiece_iff.mp (by decide)
    exact hjoin _ _ (.cons hcontrol (.cons hnumeral (.cons hcontrol .nil)))
  · have htext : (Value.string (.unit 0x53 :: "HIFT".toList.map .char)).IsText
        "\"\\u0053HIFT\"".toList := Value.parse?_eq_some_iff.mp (by cbv)
    exact (hstring _ _ "SHIFT".toList htext (by decide)).trans (by decide)
  · refine hrefused ["SHIFT".toList, "shift".toList] (by simp) ?_
      ⟨"shift".toList, by simp, fun bits hpiece ↦ ?_⟩
    · simp [AllBlank, Text.isBlank, join]
    · have hnone : part? (trim "shift".toList) = none := by decide
      rw [isPiece_iff.mpr hpiece] at hnone
      exact Option.some_ne_none bits hnone

/-- A plus sign behind the mark is accepted: this text is no part with digits alone there. -/
theorem signed_numeral_accepted :
    (Value.parse? "\"0x+1\"".toList).bind ofJson? = some ⟨1⟩ ∧
      ∀ part bits, Padded part "0x+1".toList → ¬IsPart [[]] part bits := by
  constructor
  · have hplain : ∀ c ∈ "0x+1".toList, ' ' ≤ c ∧ c ≠ '"' ∧ c ≠ '\\' := by simp
    refine (ofJson?_of_isText (isText_quoted hplain) (Piece.text?_map_char _)).trans ?_
    decide
  · intro part bits hpadded hpart
    have hsigns : IsPart signs part bits := by
      cases hpart with
      | name hflag => exact .name hflag
      | numeral hsign hdigits => exact .numeral (List.mem_singleton.mp hsign ▸ by decide) hdigits
    have htrim : trim "0x+1".toList = part := hpadded.trim_eq fun c hc ↦ (hsigns.isPlain c hc).1
    have hpart' : IsPart [[]] "0x+1".toList bits := by
      rw [← htrim] at hpart
      exact hpart
    generalize htext : "0x+1".toList = text at hpart'
    cases hpart' with
    | @name flag hflag =>
      have hall : ∀ flag ∈ named, "0x+1".toList ≠ flag.1.toList := by decide
      exact hall flag hflag htext
    | @numeral sign digits _ hsign hdigits =>
      obtain rfl := List.mem_singleton.mp hsign
      obtain ⟨-, ds, hds, -⟩ := hdigits
      obtain rfl : ['+', '1'] = digits := (List.cons.inj (List.cons.inj htext).2).2
      obtain ⟨d, -, hd⟩ := Text.exists_of_mem_of_forall₂ hds (List.mem_cons_self)
      exact nomatch Text.Hex.digit?_eq_some_iff.mpr hd

end WindowRouting.Modifiers
