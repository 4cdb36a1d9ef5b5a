import WindowRouting.Proofs.Handles

/-!
The search for a free handle. Nothing in the search itself says that it comes to an end: it takes
the next handle as long as the one it has come to is taken (`Handle.Search`). It does come to an end
from every handle but zero, because a table never assigns all the handles of a turn, and what it
finds is the first free handle in the order in which the counter passes them, round the end of the
numbers and past zero (`Handle.inTurn`). An insertion gives this handle out, moves the counter on
to the one after it and leaves every other handle as it was (`insert_takes_first_free`).
-/

set_option autoImplicit false
set_option relaxedAutoImplicit false

namespace WindowRouting

open Std

/-! ### The search -/

namespace Handle

/-- The search from a handle ends with a handle that is not taken. It is not bounded. -/
inductive Search (taken : Handle → Bool) : Handle → Handle → Prop
  | free {h : Handle} (hfree : taken h = false) : Search taken h h
  | passed {h found : Handle} (htaken : taken h = true) (hrest : Search taken h.next found) :
      Search taken h found

/-- The number at place `k` of the order `n`, `n + 1`, up to the last handle, `1`, `2`, up to
`n - 1`. -/
def inTurn (n k : Nat) : Nat := if n + k < 2 ^ 64 then n + k else n + k - (2 ^ 64 - 1)

variable {taken : Handle → Bool} {h found other : Handle}

theorem Search.unique (hfound : Search taken h found) (hother : Search taken h other) :
    found = other := by
  induction hfound with
  | free hfree =>
    cases hother with
    | free => rfl
    | passed htaken => exact absurd (hfree.symm.trans htaken) Bool.false_ne_true
  | passed htaken _ ih =>
    cases hother with
    | free hfree => exact absurd (hfree.symm.trans htaken) Bool.false_ne_true
    | passed _ hrest => exact ih hrest

/-- A search that passes over `k` handles finds the one after them. -/
theorem search_iterate_next {k : Nat} (hbefore : ∀ j < k, taken (next^[j] h) = true)
    (hfree : taken (next^[k] h) = false) : Search taken h (next^[k] h) := by
  induction k generalizing h with
  | zero => exact .free hfree
  | succ k ih =>
    have hrest : Search taken h.next (next^[k] h.next) :=
      ih (fun j hj ↦ hbefore (j + 1) (Nat.succ_lt_succ hj)) hfree
    exact .passed (hbefore 0 (Nat.succ_pos k)) hrest

theorem toNat_iterate_next_eq_inTurn (hne : h ≠ 0) {k : Nat} (hk : k < 2 ^ 64 - 1) :
    (next^[k] h).toNat = inTurn h.toNat k := by
  have hlt := h.toNat_lt
  have hpos : h.toNat ≠ 0 := fun hzero ↦ hne (UInt64.toNat_inj.mp hzero)
  rw [toNat_iterate_next hne, inTurn]
  split <;> omega

end Handle

/-! ### The table -/

namespace Handles

variable {t : Handles} {id : WindowId}

/-- The handle that is given out comes after handles that are assigned, of which there are no more
than are assigned at all. -/
theorem exists_iterate_next_fresh (hnext : t.next ≠ 0) (hsize : t.assigned.size < 2 ^ 64 - 1) :
    ∃ k ≤ t.assigned.size, t.fresh = Handle.next^[k] t.next ∧
      (∀ j < k, t.assigned.contains (Handle.next^[j] t.next) = true) ∧
      t.assigned.contains (Handle.next^[k] t.next) = false := by
  obtain ⟨k, hk, hfirst, hbefore, -⟩ :=
    Handle.exists_firstFree t.assigned.contains t.assigned.size t.next
  -- The last handle is free even if the bounded search stopped there because of its bound.
  have hfree := contains_fresh hnext hsize
  rw [fresh, hfirst] at hfree
  exact ⟨k, hk, hfirst, hbefore, hfree⟩

/-- An insertion assigns the handle that it gives out, and changes no other. -/
theorem getElem?_assigned_insert (hid : t.get? id = none) (h : Handle) :
    (t.insert id).2.assigned[h]? = if t.fresh = h then some id else t.assigned[h]? := by
  rw [insert_of_none hid]
  simp only [ExtTreeMap.getElem?_insert, LawfulEqCmp.compare_eq_iff_eq]

/-- A removal takes the handle of the id away, and changes no other. -/
theorem getElem?_assigned_erase {h : Handle} (hid : t.get? id = some h) (other : Handle) :
    (t.erase id).2.assigned[other]? = if h = other then none else t.assigned[other]? := by
  rw [erase_of_some hid]
  simp only [ExtTreeMap.getElem?_erase, LawfulEqCmp.compare_eq_iff_eq]

end Handles

/-- An insertion for a window without a handle takes the first free handle in turn. The search ends,
and with this handle only; the handles before it in turn, of which there are no more than are
assigned, are all assigned. The handle is not zero and was free; it refers to the window then, every
other handle refers to what it referred to before, and the counter is at the handle after it. -/
theorem insert_takes_first_free (t : Handles) (id : WindowId) (hnext : t.next ≠ 0)
    (hsize : t.assigned.size < 2 ^ 64 - 1) (hid : t.get? id = none) :
    (∀ found, Handle.Search t.assigned.contains t.next found ↔ found = (t.insert id).1) ∧
    (∃ k ≤ t.assigned.size, (t.insert id).1.toNat = Handle.inTurn t.next.toNat k ∧
      ∀ j < k, ∃ h : Handle, h.toNat = Handle.inTurn t.next.toNat j ∧
        t.assigned.contains h = true) ∧
    (t.insert id).1 ≠ 0 ∧ t.assigned.contains (t.insert id).1 = false ∧
    (∀ h, (t.insert id).2.resolve h =
      if h = (t.insert id).1 then .ok id else t.resolve h) ∧
    (t.insert id).2.next.toNat =
      (if (t.insert id).1.toNat = 2 ^ 64 - 1 then 1 else (t.insert id).1.toNat + 1) ∧
    (t.insert id).2.next ≠ 0 := by
  have hfirst : (t.insert id).1 = t.fresh := by rw [Handles.insert_of_none hid]
  have hcounter : (t.insert id).2.next = t.fresh.next := by rw [Handles.insert_of_none hid]
  have hzero : t.fresh ≠ 0 := Handles.fresh_ne_zero hnext
  obtain ⟨k, hk, hfresh, hbefore, hfree⟩ := Handles.exists_iterate_next_fresh hnext hsize
  rw [hfirst, hcounter]
  refine ⟨fun found ↦ ?_, ⟨k, hk, ?_, fun j hj ↦ ?_⟩, hzero, ?_, fun h ↦ ?_, ?_, ?_⟩
  · have hsearch : Handle.Search t.assigned.contains t.next t.fresh :=
      hfresh ▸ Handle.search_iterate_next hbefore hfree
    constructor
    · exact fun hfound ↦ hfound.unique hsearch
    · rintro rfl
      exact hsearch
  · rw [hfresh]
    exact Handle.toNat_iterate_next_eq_inTurn hnext (Nat.lt_of_le_of_lt hk hsize)
  · have hlt : j < 2 ^ 64 - 1 := Nat.lt_trans hj (Nat.lt_of_le_of_lt hk hsize)
    exact ⟨_, Handle.toNat_iterate_next_eq_inTurn hnext hlt, hbefore j hj⟩
  · rw [hfresh]
    exact hfree
  · rw [Handles.resolve, Handles.resolve, Handles.getElem?_assigned_insert hid]
    by_cases hh : h = t.fresh
    · rw [if_neg (hh ▸ hzero), if_pos hh.symm, if_pos hh]
    · rw [if_neg (Ne.symm hh), if_neg hh]
  · have hlt := t.fresh.toNat_lt
    rw [Handle.toNat_next]
    split <;> omega
  · exact Handle.next_ne_zero _

/-- The counter has come round to the last handle, and the handles around zero are assigned. -/
def Handles.wrapped : Handles where
  next := UInt64.ofNat (2 ^ 64 - 1)
  assigned := ((∅ : ExtTreeMap Handle WindowId).insert (UInt64.ofNat (2 ^ 64 - 1)) ⟨1, 1⟩).insert 1
    ⟨2, 1⟩
  byWindow := (IdMap.empty.insert ⟨1, 1⟩ (UInt64.ofNat (2 ^ 64 - 1))).insert ⟨2, 1⟩ 1

/-- The search passes over the last handle, over zero, which is no handle, and over one. -/
theorem wrapped_takes_two : (Handles.wrapped.insert ⟨3, 1⟩).1 = 2 ∧
    Handles.wrapped.next.toNat = 2 ^ 64 - 1 ∧
    ∀ found, Handle.Search Handles.wrapped.assigned.contains Handles.wrapped.next found ↔
      found = (Handles.wrapped.insert ⟨3, 1⟩).1 :=
  ⟨by decide +kernel, by decide +kernel,
    (insert_takes_first_free Handles.wrapped ⟨3, 1⟩ (by decide +kernel) (by decide +kernel)
      (by decide +kernel)).1⟩

end WindowRouting
