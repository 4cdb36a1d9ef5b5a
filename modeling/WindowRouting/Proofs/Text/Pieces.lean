import Mathlib.Data.List.Forall2
import Mathlib.Data.List.TakeWhile
import WindowRouting.Text.Blank
import WindowRouting.Text.Pieces

/-!
Texts in pieces. Trimming takes the blanks off both ends and nothing else (`padded_trim`,
`Padded.trim_eq`), and cutting a text at a separator is the inverse of joining pieces that do not
have it (`pieces_join`, `join_pieces`).
-/

set_option autoImplicit false
set_option relaxedAutoImplicit false

namespace WindowRouting.Text

/-! ### Lists, element by element -/

/-- Either all elements are read, or none is. -/
theorem mapM_eq_some_iff {α β : Type} {f : α → Option β} {as : List α} {bs : List β} :
    as.mapM f = some bs ↔ List.Forall₂ (fun a b ↦ f a = some b) as bs := by
  induction as generalizing bs with
  | nil =>
    rw [List.mapM_nil, List.forall₂_nil_left_iff]
    exact ⟨fun h ↦ (Option.some.inj h).symm, fun h ↦ congrArg some h.symm⟩
  | cons a as ih =>
    rw [List.mapM_cons, List.forall₂_cons_left_iff]
    constructor
    · intro h
      obtain ⟨b, hb, h⟩ := Option.bind_eq_some_iff.mp h
      obtain ⟨rest, hrest, h⟩ := Option.bind_eq_some_iff.mp h
      exact ⟨b, rest, hb, ih.mp hrest, (Option.some.inj h).symm⟩
    · rintro ⟨b, rest, hb, hrest, rfl⟩
      rw [hb, ih.mpr hrest]
      rfl

theorem forall₂_imp_of_mem {α β : Type} {R S : α → β → Prop} {as : List α} {bs : List β}
    (h : List.Forall₂ R as bs) (himp : ∀ a ∈ as, ∀ b, R a b → S a b) : List.Forall₂ S as bs := by
  have hmem : List.Forall₂ (fun a b ↦ a ∈ as ∧ R a b) as bs :=
    (List.forall₂_and_left as bs).mpr ⟨fun _ ha ↦ ha, h⟩
  exact hmem.imp fun a b hab ↦ himp a hab.1 b hab.2

theorem exists_of_mem_of_forall₂ {α β : Type} {R : α → β → Prop} {as : List α} {bs : List β}
    (h : List.Forall₂ R as bs) {a : α} (ha : a ∈ as) : ∃ b ∈ bs, R a b := by
  induction h with
  | nil => exact absurd ha List.not_mem_nil
  | @cons c b as bs hcb _ ih =>
    rcases List.mem_cons.mp ha with rfl | ha
    · exact ⟨b, List.mem_cons_self, hcb⟩
    · obtain ⟨b', hb', hab⟩ := ih ha
      exact ⟨b', List.mem_cons_of_mem b hb', hab⟩

/-! ### Blanks -/

/-- What is dropped from the front ends at the first character that is kept. -/
theorem dropWhile_append_of_head? {p : Char → Bool} {front rest : List Char}
    (hfront : ∀ c ∈ front, p c = true) (hrest : ∀ c ∈ rest.head?, p c = false) :
    (front ++ rest).dropWhile p = rest := by
  rw [List.dropWhile_append_of_pos hfront]
  cases rest with
  | nil => exact List.dropWhile_nil
  | cons c cs => rw [List.dropWhile_cons, hrest c rfl, if_neg Bool.false_ne_true]

/-- All characters are blank. -/
def AllBlank (s : List Char) : Prop := ∀ c ∈ s, isBlank c = true

/-- The text has blanks around it. -/
def Padded (core s : List Char) : Prop :=
  ∃ front back, AllBlank front ∧ AllBlank back ∧ s = front ++ (core ++ back)

theorem trimStart_of_allBlank {s : List Char} (h : AllBlank s) : trimStart s = [] :=
  List.dropWhile_eq_nil_iff.mpr h

theorem trim_of_allBlank {s : List Char} (h : AllBlank s) : trim s = [] := by
  rw [trim, trimStart_of_allBlank h]
  rfl

theorem exists_append_trimStart (s : List Char) :
    ∃ front, AllBlank front ∧ s = front ++ trimStart s := by
  refine ⟨s.takeWhile isBlank, ?_, List.takeWhile_append_dropWhile.symm⟩
  exact List.all_eq_true.mp List.all_takeWhile

/-- Trimming takes blanks only. -/
theorem padded_trim (s : List Char) : Padded (trim s) s := by
  obtain ⟨front, hfront, hs⟩ := exists_append_trimStart s
  obtain ⟨back, hback, hrest⟩ := exists_append_trimStart (trimStart s).reverse
  refine ⟨front, back.reverse, hfront, fun c hc ↦ hback c (List.mem_reverse.mp hc), ?_⟩
  have hrest := congrArg List.reverse hrest
  rw [List.reverse_reverse, List.reverse_append] at hrest
  rw [trim, ← hrest]
  exact hs

/-- A text without blanks in it is left of it with blanks around. -/
theorem Padded.trim_eq {core s : List Char} (h : Padded core s)
    (hcore : ∀ c ∈ core, isBlank c = false) : trim s = core := by
  obtain ⟨front, back, hfront, hback, rfl⟩ := h
  by_cases hempty : core = []
  · subst hempty
    refine trim_of_allBlank fun c hc ↦ ?_
    exact (List.mem_append.mp hc).elim (hfront c) (hback c)
  · have hhead : ∀ c ∈ (core ++ back).head?, isBlank c = false := by
      intro c hc
      rw [List.head?_append_of_ne_nil _ hempty] at hc
      exact hcore c (List.mem_of_head? hc)
    have hlast : ∀ c ∈ core.reverse.head?, isBlank c = false := by
      intro c hc
      exact hcore c (List.mem_reverse.mp (List.mem_of_head? hc))
    have hback' : AllBlank back.reverse := fun c hc ↦ hback c (List.mem_reverse.mp hc)
    rw [trim, trimStart, trimStart, dropWhile_append_of_head? hfront hhead, List.reverse_append,
      dropWhile_append_of_head? hback' hlast, List.reverse_reverse]

/-- Nothing is left of a text only if it is blank. -/
theorem trim_eq_nil_iff {s : List Char} : trim s = [] ↔ AllBlank s := by
  refine ⟨fun h ↦ ?_, trim_of_allBlank⟩
  obtain ⟨front, back, hfront, hback, hs⟩ := padded_trim s
  rw [h, List.nil_append] at hs
  intro c hc
  exact (List.mem_append.mp (hs ▸ hc)).elim (hfront c) (hback c)

/-! ### Pieces -/

theorem join_eq_intercalate (separator : List Char) (parts : List (List Char)) :
    join separator parts = separator.intercalate parts := by
  fun_induction join separator parts with
  | case1 => rfl
  | case2 s => rw [List.intercalate_singleton]
  | case3 s t rest ih => rw [ih, List.intercalate_cons_cons]

theorem pieces_eq_splitOn (separator : Char) (s : List Char) :
    pieces separator s = s.splitOn separator := by
  induction s with
  | nil => rfl
  | cons c cs ih =>
    rw [pieces, List.splitOn_cons_eq_if_modifyHead, ih]
    by_cases hc : c = separator
    · rw [if_pos hc, if_pos (beq_iff_eq.mpr hc)]
    · rw [if_neg hc, if_neg (by simpa using hc)]
      obtain ⟨piece, rest, heq⟩ := List.exists_cons_of_ne_nil (List.splitOn_ne_nil separator cs)
      rw [heq]
      rfl

/-- Pieces without the separator are found again in the text that joins them. -/
theorem pieces_join {separator : Char} {parts : List (List Char)}
    (hparts : ∀ part ∈ parts, separator ∉ part) (hne : parts ≠ []) :
    pieces separator (join [separator] parts) = parts := by
  rw [pieces_eq_splitOn, join_eq_intercalate, List.splitOn_intercalate separator hparts hne]

/-- A text is joined again from its pieces. -/
theorem join_pieces (separator : Char) (s : List Char) :
    join [separator] (pieces separator s) = s := by
  rw [pieces_eq_splitOn, join_eq_intercalate, List.intercalate_splitOn]

theorem subset_join (separator : List Char) {part : List Char} {parts : List (List Char)}
    (h : part ∈ parts) : part ⊆ join separator parts := by
  fun_induction join separator parts with
  | case1 => exact absurd h List.not_mem_nil
  | case2 s => exact List.mem_singleton.mp h ▸ List.Subset.refl part
  | case3 s t rest ih =>
    rw [List.append_assoc]
    rcases List.mem_cons.mp h with rfl | h
    · exact List.subset_append_left part _
    · exact List.subset_append_of_subset_right s
        (List.subset_append_of_subset_right separator (ih h))

theorem mem_join {separator : List Char} {parts : List (List Char)} {c : Char}
    (h : c ∈ join separator parts) : c ∈ separator ∨ ∃ part ∈ parts, c ∈ part := by
  fun_induction join separator parts with
  | case1 => exact absurd h List.not_mem_nil
  | case2 s => exact .inr ⟨s, List.mem_singleton_self s, h⟩
  | case3 s t rest ih =>
    rcases List.mem_append.mp h with h | h
    · rcases List.mem_append.mp h with h | h
      · exact .inr ⟨s, List.mem_cons_self, h⟩
      · exact .inl h
    · refine (ih h).imp_right fun ⟨part, hpart, hc⟩ ↦ ?_
      exact ⟨part, List.mem_cons_of_mem s hpart, hc⟩

/-- A separator with spaces around it separates like the separator alone, and the spaces go to the
parts. -/
theorem exists_join_padded (separator : Char) {parts : List (List Char)} (hne : parts ≠ [])
    {front : List Char} (hfront : AllBlank front) :
    ∃ padded, List.Forall₂ Padded parts padded ∧
      join [separator] padded = front ++ join [' ', separator, ' '] parts := by
  have hblank : AllBlank [' '] := by
    intro c hc
    obtain rfl := List.mem_singleton.mp hc
    decide
  induction parts generalizing front with
  | nil => exact absurd rfl hne
  | cons part rest ih =>
    cases rest with
    | nil =>
      refine ⟨[front ++ part], .cons ⟨front, [], hfront, ?_, ?_⟩ .nil, rfl⟩
      · exact fun c hc ↦ absurd hc List.not_mem_nil
      · rw [List.append_nil]
    | cons next rest =>
      obtain ⟨padded, hpadded, hjoin⟩ := ih (List.cons_ne_nil _ _) hblank
      refine ⟨(front ++ (part ++ [' '])) :: padded,
        .cons ⟨front, [' '], hfront, hblank, rfl⟩ hpadded, ?_⟩
      obtain ⟨first, others, rfl⟩ : ∃ first others, padded = first :: others := by
        cases hpadded with
        | cons _ _ => exact ⟨_, _, rfl⟩
      rw [join, join, hjoin]
      simp only [List.append_assoc, List.cons_append, List.nil_append]

end WindowRouting.Text
