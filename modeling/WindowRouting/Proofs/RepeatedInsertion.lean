import WindowRouting.Proofs.HandleReference

/-!
Insertions made twice. An id that the map from ids takes has its handle from the first insertion on,
and the second one finds it. The map does not take null ids, nor versions older than the one that is
kept at their index (`Handles.Refuses`): each insertion for such an id gives out a handle more, and
none of them is taken away when the id is removed. A removal of an id that was kept takes its handle
away, but not the handles it had before a newer version put it out (`Handles.LeftBehind`). So an
insertion can be made again and undone exactly for the ids that are neither
(`insert_again_iff`).
-/

set_option autoImplicit false
set_option relaxedAutoImplicit false

namespace WindowRouting

namespace Handles

/-- The map from ids does not take an id: it is null, or older than the version that is kept at its
index. -/
def Refuses (t : Handles) (id : WindowId) : Prop :=
  id.isNull = true ∨ ∃ other h, t.get? other = some h ∧ other.index = id.index ∧
    WindowId.isOlder id.version other.version = true

/-- A handle refers to an id that has it no more. -/
def LeftBehind (t : Handles) (id : WindowId) (h : Handle) : Prop :=
  t.resolve h = .ok id ∧ t.get? id ≠ some h

variable {t : Handles} {id : WindowId} {h : Handle}

theorem admits_eq_false_iff : t.byWindow.admits id = false ↔ t.Refuses id := by
  rw [← Bool.not_eq_true, IdMap.admits_iff, Refuses, not_and_or, Bool.not_eq_false]
  refine or_congr_right ?_
  simp only [not_forall, Bool.not_eq_false, exists_prop]
  rfl

theorem admits_of_not_refuses (hid : ¬ t.Refuses id) : t.byWindow.admits id = true :=
  Bool.not_eq_false _ ▸ mt admits_eq_false_iff.mp hid

/-- A null id is never kept. -/
theorem Reached.isNull_eq_false (ht : t.Reached) (hid : t.get? id = some h) :
    id.isNull = false := by
  induction ht generalizing h with
  | empty => exact nomatch (IdMap.get?_empty id).symm.trans hid
  | @insert t inserted _ _ _ ih =>
    cases hinserted : t.get? inserted with
    | some given =>
      rw [insert_of_some hinserted] at hid
      exact ih hid
    | none =>
      rw [insert_of_none hinserted] at hid
      cases hadmits : t.byWindow.admits inserted with
      | false => exact ih ((congrArg (IdMap.get? · id)
          (IdMap.insert_of_not_admits hadmits t.fresh)).symm.trans hid)
      | true =>
        rcases IdMap.eq_or_get?_of_get?_insert hid with ⟨rfl, -⟩ | hold
        · exact (IdMap.admits_iff.mp hadmits).1
        · exact ih hold
  | @erase t _ erased ih =>
    by_cases heq : erased = id
    · rw [heq, TwoWay.get?_erase_self] at hid
      exact nomatch hid
    · rw [TwoWay.get?_erase_of_ne t heq] at hid
      exact ih hid
  | setNext _ _ ih => exact ih hid

/-- An id with a handle is not refused. -/
theorem Reached.get?_of_refuses (ht : t.Reached) (hid : t.Refuses id) : t.get? id = none := by
  cases hget : t.get? id with
  | none => rfl
  | some h =>
    rcases hid with hnull | ⟨other, h', hother, hindex, holder⟩
    · exact absurd (hnull.symm.trans (ht.isNull_eq_false hget)) Bool.false_ne_true.symm
    · obtain rfl := IdMap.eq_of_index_eq hother hget hindex
      exact absurd (holder.symm.trans (WindowId.isOlder_self _)) Bool.false_ne_true.symm

theorem OneWay.resolve_eq_ok_iff (ht : t.OneWay) :
    t.resolve h = .ok id ↔ t.assigned[h]? = some id := by
  constructor
  · intro hresolve
    unfold Handles.resolve at hresolve
    split at hresolve
    case isTrue => exact nomatch hresolve
    case isFalse =>
      split at hresolve
      case h_1 found hfound => rw [hfound, Except.ok.inj hresolve]
      case h_2 => exact nomatch hresolve
  · intro hassigned
    have hne : h ≠ 0 := by
      rintro rfl
      exact nomatch ht.zero_free.symm.trans hassigned
    exact resolve_of_assigned hne hassigned

/-! ### Ids that are kept -/

/-- The first insertion gives the id its handle. -/
theorem get?_insert_of_not_refuses (hid : ¬ t.Refuses id) :
    (t.insert id).2.get? id = some (t.insert id).1 := by
  cases hget : t.get? id with
  | some given => rwa [insert_of_some hget]
  | none =>
    rw [insert_of_none hget]
    exact IdMap.get?_insert_self (admits_of_not_refuses hid) t.fresh

theorem insert_again_of_not_refuses (hid : ¬ t.Refuses id) :
    (t.insert id).2.insert id = t.insert id :=
  insert_of_some (get?_insert_of_not_refuses hid)

/-- An insertion adds the handle that it gives out to those that refer to the id. -/
theorem OneWay.getElem?_assigned_insert_eq (ht : t.OneWay) (id : WindowId) (h : Handle) :
    (t.insert id).2.assigned[h]? =
      if (t.insert id).1 = h then some id else t.assigned[h]? := by
  cases hget : t.get? id with
  | some given =>
    rw [insert_of_some hget]
    split
    case isTrue heq => rw [← heq, ht.refers id given hget]
    case isFalse => rfl
  | none => rw [getElem?_assigned_insert hget, insert_of_none hget]

/-- Removing an id that was just inserted leaves the handles that it had no more. -/
theorem Reached.resolve_erase_insert (ht : t.Reached) (hback : t.ComesBack id h)
    (hid : ¬ t.Refuses id) (other : Handle) :
    ((t.insert id).2.erase id).2.resolve other = .ok id ↔ t.LeftBehind id other := by
  have hkept := get?_insert_of_not_refuses hid
  have hafter := (ht.oneWay.insert hback).erase id
  rw [hafter.resolve_eq_ok_iff, getElem?_assigned_erase hkept,
    ht.oneWay.getElem?_assigned_insert_eq, LeftBehind, ht.oneWay.resolve_eq_ok_iff]
  by_cases hother : (t.insert id).1 = other
  · rw [if_pos hother]
    refine iff_of_false nofun fun ⟨hassigned, hne⟩ ↦ ?_
    cases hget : t.get? id with
    | some given =>
      rw [insert_of_some hget] at hother
      exact hne (hother ▸ hget)
    | none =>
      -- What the insertion gave out was free.
      rw [insert_of_none hget] at hother
      obtain ⟨-, hsize⟩ := ht.oneWay.search_iff.mp ((comesBack_of_none hget).mp hback)
      have hfree := getElem?_of_not_contains (contains_fresh ht.oneWay.next_ne_zero hsize)
      rw [← hother, hfree] at hassigned
      exact nomatch hassigned
  · rw [if_neg hother, if_neg hother]
    refine (and_iff_left_of_imp fun _ hget ↦ hother ?_).symm
    rw [insert_of_some hget]

/-! ### Ids that are refused -/

/-- An insertion for a refused id leaves the map from ids as it is. -/
theorem Reached.byWindow_insert_of_refuses (ht : t.Reached) (hid : t.Refuses id) :
    (t.insert id).2.byWindow = t.byWindow := by
  rw [insert_of_none (ht.get?_of_refuses hid)]
  exact IdMap.insert_of_not_admits (admits_eq_false_iff.mpr hid) t.fresh

theorem Reached.refuses_insert (ht : t.Reached) (hid : t.Refuses id) :
    (t.insert id).2.Refuses id := by
  unfold Refuses Handles.get?
  rw [ht.byWindow_insert_of_refuses hid]
  exact hid

end Handles

/-- An insertion can be made again for an id that is not refused: it gives the same handle back and
changes nothing, and the handles that refer to the id after its removal are those that were left
behind before. For a refused id every insertion that comes back gives out another handle; the
removal changes nothing then, and all these handles refer to the id. So an insertion that is made
twice gives the same handle twice, changes nothing the second time and is undone by the removal
exactly for the ids that are not refused and have no handle left behind. -/
theorem insert_again_iff {t : Handles} (ht : t.Reached) {id : WindowId} {h : Handle}
    (hback : t.ComesBack id h) :
    (¬ t.Refuses id →
      (t.insert id).2.ComesBack id h ∧ (t.insert id).2.insert id = (h, (t.insert id).2) ∧
      ∀ k, ((t.insert id).2.erase id).2.resolve k = .ok id ↔ t.LeftBehind id k) ∧
    (t.Refuses id → ∀ again, (t.insert id).2.ComesBack id again →
      let twice := ((t.insert id).2.insert id).2
      again ≠ h ∧ twice ≠ (t.insert id).2 ∧ twice.erase id = (none, twice) ∧
      twice.resolve h = .ok id ∧ twice.resolve again = .ok id) ∧
    (((t.insert id).2.ComesBack id h ∧ (t.insert id).2.insert id = (h, (t.insert id).2) ∧
        ∀ k, ((t.insert id).2.erase id).2.resolve k ≠ .ok id) ↔
      ¬ t.Refuses id ∧ ∀ k, ¬ t.LeftBehind id k) := by
  have honce := ht.insert hback
  have hfirst := (ht.oneWay.comesBack_iff.mp hback).1
  have hkept (hid : ¬ t.Refuses id) : (t.insert id).2.ComesBack id h ∧
      (t.insert id).2.insert id = (h, (t.insert id).2) ∧
      ∀ k, ((t.insert id).2.erase id).2.resolve k = .ok id ↔ t.LeftBehind id k :=
    ⟨(Handles.comesBack_of_some (Handles.get?_insert_of_not_refuses hid)).mpr hfirst,
      (Handles.insert_again_of_not_refuses hid).trans (Prod.ext hfirst.symm rfl),
      ht.resolve_erase_insert hback hid⟩
  have hrefused (hid : t.Refuses id) (again : Handle)
      (hagain : (t.insert id).2.ComesBack id again) :
      again ≠ h ∧ (t.insert id).2.assigned[h]? = some id ∧
        (t.insert id).2.assigned[again]? = none := by
    have hnone := honce.get?_of_refuses (ht.refuses_insert hid)
    have hassigned : (t.insert id).2.assigned[h]? = some id := by
      rw [ht.oneWay.getElem?_assigned_insert_eq, if_pos hfirst.symm]
    have hfree : (t.insert id).2.assigned[again]? = none :=
      Handles.getElem?_of_not_contains ((Handles.comesBack_of_none hnone).mp hagain).free_of_end
    refine ⟨?_, hassigned, hfree⟩
    rintro rfl
    exact nomatch hfree.symm.trans hassigned
  refine ⟨hkept, fun hid again hagain ↦ ?_, fun ⟨hback', hsame, hgone⟩ ↦ ?_,
    fun ⟨hid, hnone⟩ ↦ ?_⟩
  · obtain ⟨hne, hassigned, hfree⟩ := hrefused hid again hagain
    have htwice := honce.insert hagain
    have hsecond := (honce.oneWay.comesBack_iff.mp hagain).1
    have hassigned' (k : Handle) := honce.oneWay.getElem?_assigned_insert_eq id k
    have hagain' : ((t.insert id).2.insert id).2.assigned[again]? = some id := by
      rw [hassigned', if_pos hsecond.symm]
    have hgone := htwice.get?_of_refuses (honce.refuses_insert (ht.refuses_insert hid))
    refine ⟨hne, fun hsame ↦ ?_, ?_, ?_, htwice.oneWay.resolve_eq_ok_iff.mpr hagain'⟩
    · rw [hsame, hfree] at hagain'
      exact nomatch hagain'
    · exact Handles.erase_of_none hgone
    · rw [htwice.oneWay.resolve_eq_ok_iff, hassigned', if_neg (hsecond ▸ hne), hassigned]
  · have hid : ¬ t.Refuses id := fun hid ↦ (hrefused hid h hback').1 rfl
    exact ⟨hid, fun k hk ↦ hgone k (((hkept hid).2.2 k).mpr hk)⟩
  · obtain ⟨hback', hsame, hleft⟩ := hkept hid
    exact ⟨hback', hsame, fun k hk ↦ hnone k ((hleft k).mp hk)⟩

/-- The older version is refused as long as the newer one is kept, and has a handle left behind when
that is gone: in neither case does the removal undo its insertion. -/
theorem replaced_insert_again :
    (Handles.replaced.insert ⟨1, 1⟩).1 = 4 ∧
    ((Handles.replaced.insert ⟨1, 1⟩).2.insert ⟨1, 1⟩).1 = 5 ∧
    ¬ (((Handles.replaced.insert ⟨1, 1⟩).2.ComesBack ⟨1, 1⟩ 4 ∧
      (Handles.replaced.insert ⟨1, 1⟩).2.insert ⟨1, 1⟩ =
        (4, (Handles.replaced.insert ⟨1, 1⟩).2) ∧
      ∀ k, ((Handles.replaced.insert ⟨1, 1⟩).2.erase ⟨1, 1⟩).2.resolve k ≠ .ok ⟨1, 1⟩)) ∧
    (((Handles.replaced.erase ⟨1, 3⟩).2.insert ⟨1, 1⟩).2.erase ⟨1, 1⟩).2.resolve 2 =
      .ok ⟨1, 1⟩ := by
  have hback : Handles.replaced.ComesBack ⟨1, 1⟩ 4 :=
    Handles.reached_replaced.oneWay.comesBack_iff.mpr
      ⟨by decide +kernel, .inr (by decide +kernel)⟩
  have hrefused : Handles.replaced.Refuses ⟨1, 1⟩ :=
    .inr ⟨⟨1, 3⟩, 3, by decide +kernel, rfl, by decide⟩
  have herased := Handles.reached_replaced.erase ⟨1, 3⟩
  have hback' : (Handles.replaced.erase ⟨1, 3⟩).2.ComesBack ⟨1, 1⟩ 4 :=
    herased.oneWay.comesBack_iff.mpr ⟨by decide +kernel, .inr (by decide +kernel)⟩
  have hkept : ¬ (Handles.replaced.erase ⟨1, 3⟩).2.Refuses ⟨1, 1⟩ := by
    rw [← Handles.admits_eq_false_iff]
    decide +kernel
  refine ⟨by decide +kernel, by decide +kernel, fun hagain ↦ ?_, ?_⟩
  · exact ((insert_again_iff Handles.reached_replaced hback).2.2.mp hagain).1 hrefused
  · exact (((insert_again_iff herased hback').1 hkept).2.2 2).mpr
      ⟨by decide +kernel, by decide +kernel⟩

end WindowRouting
