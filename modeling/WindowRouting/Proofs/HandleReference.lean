import Mathlib.Data.Fintype.Card
import WindowRouting.Proofs.HandleOrder
import WindowRouting.Proofs.HandleSearch

/-!
What handles refer to, in a table that is given whatever ids (`Handles.Reached`). A null id is never
kept in the map from ids, an older version of an index is kept out by a newer one, and a newer one
takes the place of an older one, whose handle stays assigned. So handles refer to ids that have
other handles or none; but a handle that an id has does refer to that id (`Handles.OneWay`), and
this direction is enough for what the table answers (`handles_refer_to_their_ids`).
-/

set_option autoImplicit false
set_option relaxedAutoImplicit false

namespace WindowRouting

open Std

theorem Handle.Search.free_of_end {taken : Handle → Bool} {h found : Handle}
    (hsearch : Handle.Search taken h found) : taken found = false := by
  induction hsearch with
  | free hfree => exact hfree
  | passed _ _ ih => exact ih

theorem Handle.Search.ne_zero {taken : Handle → Bool} {h found : Handle}
    (hsearch : Handle.Search taken h found) (hne : h ≠ 0) : found ≠ 0 := by
  induction hsearch with
  | free => exact hne
  | passed _ _ ih => exact ih (Handle.next_ne_zero _)

namespace Handles

/-! ### Insertions that come back -/

/-- An insertion for a window comes back with a handle: the one that the window has, or else the one
that the search ends with. Nothing bounds the search here. -/
def ComesBack (t : Handles) (id : WindowId) (h : Handle) : Prop :=
  match t.get? id with
  | some given => h = given
  | none => Handle.Search t.assigned.contains t.next h

variable {t : Handles} {id : WindowId} {h : Handle}

theorem comesBack_of_some {given : Handle} (hid : t.get? id = some given) :
    t.ComesBack id h ↔ h = given := by
  rw [ComesBack, hid]

theorem comesBack_of_none (hid : t.get? id = none) :
    t.ComesBack id h ↔ Handle.Search t.assigned.contains t.next h := by
  rw [ComesBack, hid]

theorem insert_of_some (hid : t.get? id = some h) : t.insert id = (h, t) := by
  rw [insert, hid]

theorem getElem?_of_not_contains (hfree : t.assigned.contains h = false) :
    t.assigned[h]? = none := by
  rw [← Option.not_isSome_iff_eq_none, ← ExtTreeMap.contains_eq_isSome_getElem?, hfree]
  exact Bool.false_ne_true

theorem resolve_of_assigned (hne : h ≠ 0) (hassigned : t.assigned[h]? = some id) :
    t.resolve h = .ok id := by
  rw [resolve, if_neg hne, hassigned]

/-- What an id has as its handle does refer to it. The converse is not said. -/
structure OneWay (t : Handles) : Prop where
  refers : ∀ id h, t.get? id = some h → t.assigned[h]? = some id
  zero_free : t.assigned[(0 : Handle)]? = none
  next_ne_zero : t.next ≠ 0

namespace OneWay

theorem empty : Handles.empty.OneWay where
  refers id h hid := by simp [Handles.empty, get?] at hid
  zero_free := by simp [Handles.empty]
  next_ne_zero := by decide

theorem ne_zero (ht : t.OneWay) (hid : t.get? id = some h) : h ≠ 0 := by
  rintro rfl
  exact nomatch ht.zero_free.symm.trans (ht.refers id 0 hid)

theorem resolve (ht : t.OneWay) (hid : t.get? id = some h) : t.resolve h = .ok id :=
  resolve_of_assigned (ht.ne_zero hid) (ht.refers id h hid)

theorem get?_injective (ht : t.OneWay) {other : WindowId} (hid : t.get? id = some h)
    (hother : t.get? other = some h) : id = other :=
  Option.some.inj ((ht.refers id h hid).symm.trans (ht.refers other h hother))

/-- Zero is never assigned, so a free handle leaves room for at most all the others. -/
theorem size_assigned_lt (ht : t.OneWay) (hne : h ≠ 0) (hfree : t.assigned.contains h = false) :
    t.assigned.size < 2 ^ 64 - 1 := by
  have hzero : (0 : Handle) ∉ t.assigned.keys := by
    rw [ExtTreeMap.mem_keys, ← ExtTreeMap.isSome_getElem?_iff_mem, ht.zero_free]
    exact Bool.false_ne_true
  have hkeys : h ∉ t.assigned.keys := by
    rw [ExtTreeMap.mem_keys, ← ExtTreeMap.contains_iff_mem, hfree]
    exact Bool.false_ne_true
  have hnodup : (0 :: h :: t.assigned.keys).Nodup := by
    simp only [List.nodup_cons, List.mem_cons, not_or]
    exact ⟨⟨hne.symm, hzero⟩, hkeys, ExtTreeMap.nodup_keys⟩
  have hcard := (hnodup.map fun _ _ ↦ UInt64.toFin_inj.mp).length_le_card
  rw [Fintype.card_fin, List.length_map, List.length_cons, List.length_cons,
    ExtTreeMap.length_keys, UInt64.size] at hcard
  omega

/-- The search ends with the handle that is given out, and ends if any handle is left. -/
theorem search_iff (ht : t.OneWay) : Handle.Search t.assigned.contains t.next h ↔
    h = t.fresh ∧ t.assigned.size < 2 ^ 64 - 1 := by
  have hends (hsize : t.assigned.size < 2 ^ 64 - 1) :
      Handle.Search t.assigned.contains t.next t.fresh := by
    obtain ⟨k, -, hfresh, hbefore, hfree⟩ := exists_iterate_next_fresh ht.next_ne_zero hsize
    rw [hfresh]
    exact Handle.search_iterate_next hbefore hfree
  constructor
  · intro hsearch
    have hsize := ht.size_assigned_lt (hsearch.ne_zero ht.next_ne_zero) hsearch.free_of_end
    exact ⟨hsearch.unique (hends hsize), hsize⟩
  · rintro ⟨rfl, hsize⟩
    exact hends hsize

theorem comesBack_iff (ht : t.OneWay) : t.ComesBack id h ↔
    h = (t.insert id).1 ∧ ((t.get? id).isSome = true ∨ t.assigned.size < 2 ^ 64 - 1) := by
  cases hid : t.get? id with
  | some given => simp [comesBack_of_some hid, insert_of_some hid]
  | none => simp [comesBack_of_none hid, insert_of_none hid, ht.search_iff]

/-! ### What the operations keep -/

/-- An insertion for an id without a handle. Whether the id is kept in the map from ids, and
whether another version of its index is put out, makes no difference. -/
theorem insert_fresh (ht : t.OneWay) (hid : t.get? id = none)
    (hfree : t.assigned.contains t.fresh = false) : (t.insert id).2.OneWay := by
  have hfresh := getElem?_of_not_contains hfree
  constructor
  · intro other h hother
    rw [getElem?_assigned_insert hid]
    rw [insert_of_none hid] at hother
    rcases IdMap.eq_or_get?_of_get?_insert hother with ⟨rfl, rfl⟩ | hold
    · rw [if_pos rfl]
    · have hassigned := ht.refers other h hold
      have hne : t.fresh ≠ h := by
        rintro rfl
        exact nomatch hfresh.symm.trans hassigned
      rw [if_neg hne, hassigned]
  · rw [getElem?_assigned_insert hid, if_neg (fresh_ne_zero ht.next_ne_zero), ht.zero_free]
  · rw [insert_of_none hid]
    exact Handle.next_ne_zero _

theorem insert (ht : t.OneWay) (hback : t.ComesBack id h) : (t.insert id).2.OneWay := by
  cases hid : t.get? id with
  | some given => rwa [insert_of_some hid]
  | none =>
    obtain ⟨-, hsize⟩ := ht.search_iff.mp ((comesBack_of_none hid).mp hback)
    exact ht.insert_fresh hid (contains_fresh ht.next_ne_zero hsize)

theorem erase (ht : t.OneWay) (id : WindowId) : (t.erase id).2.OneWay := by
  cases hid : t.get? id with
  | none => rwa [erase_of_none hid]
  | some given =>
    constructor
    · intro other h hother
      by_cases heq : id = other
      · rw [heq, TwoWay.get?_erase_self] at hother
        exact nomatch hother
      · rw [TwoWay.get?_erase_of_ne t heq] at hother
        have hne : given ≠ h := by
          rintro rfl
          exact heq (ht.get?_injective hid hother)
        rw [getElem?_assigned_erase hid, if_neg hne, ht.refers other h hother]
    · rw [getElem?_assigned_erase hid, ht.zero_free, ite_self]
    · rw [erase_of_some hid]
      exact ht.next_ne_zero

end OneWay

/-! ### Runs -/

/-- The tables that a new one can become: ids of whatever kind are inserted, as often as this comes
back, and removed, and the counter is set to whatever handle but zero. -/
inductive Reached : Handles → Prop
  | empty : Reached empty
  | insert {t : Handles} {id : WindowId} {h : Handle} (ht : Reached t) (hback : t.ComesBack id h) :
      Reached (t.insert id).2
  | erase {t : Handles} (ht : Reached t) (id : WindowId) : Reached (t.erase id).2
  | setNext {t : Handles} {h : Handle} (ht : Reached t) (hne : h ≠ 0) : Reached { t with next := h }

theorem Reached.oneWay (ht : t.Reached) : t.OneWay := by
  induction ht with
  | empty => exact .empty
  | insert _ hback ih => exact ih.insert hback
  | erase _ id ih => exact ih.erase id
  | setNext _ hne ih => exact ⟨ih.refers, ih.zero_free, hne⟩

end Handles

/-- In every table that a new one can become: an insertion comes back with the handle that is given
out, and with no other, as long as one is left; it is not zero, and the id resolves from it then.
The handle of an id refers to that id, so two ids do not share one. A removal answers the handle
that the id had; it refers to nothing then, the id has none, and every other handle refers to what
it referred to, and every other id has the handle it had. -/
theorem handles_refer_to_their_ids {t : Handles} (ht : t.Reached) (id : WindowId) :
    ((∃ h, t.ComesBack id h) ↔
      ((t.get? id).isSome = true ∨ t.assigned.size < 2 ^ 64 - 1)) ∧
    (∀ h, t.ComesBack id h →
      h = (t.insert id).1 ∧ h ≠ 0 ∧ (t.insert id).2.resolve h = .ok id) ∧
    (∀ h, t.get? id = some h →
      t.resolve h = .ok id ∧ ∀ other, t.get? other = some h → other = id) ∧
    (t.perform (.erase id)).1 = t.get? id ∧
    ∀ h, t.get? id = some h →
      (t.perform (.erase id)).2.resolve h = .error (.unknownHandle h) ∧
      (t.perform (.erase id)).2.get? id = none ∧
      (∀ other ≠ h, (t.perform (.erase id)).2.resolve other = t.resolve other) ∧
      ∀ other ≠ id, (t.perform (.erase id)).2.get? other = t.get? other := by
  have htable := ht.oneWay
  refine ⟨?_, fun h hback ↦ ?_, fun h hid ↦ ⟨htable.resolve hid, fun other hother ↦ ?_⟩,
    t.erase_fst id, fun h hid ↦ ⟨?_, ?_, fun other hne ↦ ?_, fun other hne ↦ ?_⟩⟩
  · simp only [htable.comesBack_iff, exists_eq_left]
  · have hgiven := (htable.comesBack_iff.mp hback).1
    have hafter : (t.insert id).2.assigned[h]? = some id := by
      cases hid : t.get? id with
      | some given =>
        rw [Handles.insert_of_some hid] at hgiven ⊢
        exact htable.refers id h (hgiven ▸ hid)
      | none =>
        rw [Handles.insert_of_none hid] at hgiven
        rw [Handles.getElem?_assigned_insert hid, if_pos hgiven.symm]
    have hne : h ≠ 0 := by
      rintro rfl
      exact nomatch (htable.insert hback).zero_free.symm.trans hafter
    exact ⟨hgiven, hne, Handles.resolve_of_assigned hne hafter⟩
  · exact htable.get?_injective hother hid
  · change (t.erase id).2.resolve h = _
    rw [Handles.resolve, if_neg (htable.ne_zero hid), Handles.getElem?_assigned_erase hid,
      if_pos rfl]
  · exact Handles.TwoWay.get?_erase_self t id
  · change (t.erase id).2.resolve other = _
    rw [Handles.resolve, Handles.resolve, Handles.getElem?_assigned_erase hid,
      if_neg hne.symm]
  · exact Handles.TwoWay.get?_erase_of_ne t hne.symm

/-- A null id and two versions of one index were given handles: the null id is not kept in the map
from ids, and the newer version put the older one out of it. -/
def Handles.replaced : Handles :=
  Handles.empty.performAll [.insert .null, .insert ⟨1, 1⟩, .insert ⟨1, 3⟩]

theorem Handles.Reached.insert_of_size {t : Handles} (ht : t.Reached) (id : WindowId)
    (hsize : t.assigned.size < 2 ^ 64 - 1) : (t.insert id).2.Reached :=
  ht.insert (ht.oneWay.comesBack_iff.mpr ⟨rfl, .inr hsize⟩)

theorem Handles.reached_replaced : Handles.replaced.Reached :=
  ((Handles.Reached.empty.insert_of_size .null (by decide +kernel)).insert_of_size ⟨1, 1⟩
    (by decide +kernel)).insert_of_size ⟨1, 3⟩ (by decide +kernel)

/-- The handle of the older version goes on referring to it when the newer one is removed. -/
theorem replaced_refers_to_older :
    (Handles.replaced.perform (.erase ⟨1, 3⟩)).2.resolve 3 = .error (.unknownHandle 3) ∧
    (Handles.replaced.perform (.erase ⟨1, 3⟩)).2.resolve 2 = Handles.replaced.resolve 2 ∧
    Handles.replaced.resolve 2 = .ok ⟨1, 1⟩ := by
  obtain ⟨hgone, -, hothers, -⟩ :=
    (handles_refer_to_their_ids Handles.reached_replaced ⟨1, 3⟩).2.2.2.2 3 (by decide +kernel)
  exact ⟨hgone, hothers 2 (by decide), by decide +kernel⟩

end WindowRouting
