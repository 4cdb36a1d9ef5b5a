import Mathlib.Algebra.Group.Nat.Defs
import Mathlib.Data.List.Nodup
import Mathlib.Data.List.Perm.Subperm
import Mathlib.Logic.Function.Iterate
import WindowRouting.Store.Handles

/-!
Handles in order. The handles other than zero form one cycle (`Handle.toNat_iterate_next`), and the
search for a handle goes round it until it comes to one that is free (`Handle.exists_firstFree`).
There are more handles on the cycle than are ever assigned, so the search finds one
(`Handles.contains_fresh`). A table whose two directions say the same (`Handles.TwoWay`) goes on
doing so when windows get handles and lose them.
-/

set_option autoImplicit false
set_option relaxedAutoImplicit false

namespace WindowRouting

/-! ### The cycle -/

namespace Handle

theorem toNat_next (h : Handle) : h.next.toNat = h.toNat % (2 ^ 64 - 1) + 1 := by
  have hlt := h.toNat_lt
  have hadd : (h + 1).toNat = (h.toNat + 1) % 2 ^ 64 := UInt64.toNat_add h 1
  unfold next
  split
  case isTrue hwrap =>
    rw [hwrap] at hadd
    simp only [UInt64.toNat_zero, UInt64.toNat_one] at hadd ⊢
    omega
  case isFalse hwrap =>
    have hne : (h + 1).toNat ≠ 0 := fun hzero ↦ hwrap (UInt64.toNat_inj.mp hzero)
    omega

theorem next_ne_zero (h : Handle) : h.next ≠ 0 := by
  intro hzero
  have hnext := toNat_next h
  rw [hzero] at hnext
  simp at hnext

theorem iterate_next_ne_zero {h : Handle} (hne : h ≠ 0) (k : Nat) : next^[k] h ≠ 0 := by
  cases k with
  | zero => exact hne
  | succ k =>
    rw [Function.iterate_succ_apply']
    exact next_ne_zero _

/-- Where one comes to in `k` steps along the cycle. -/
theorem toNat_iterate_next {h : Handle} (hne : h ≠ 0) (k : Nat) :
    (next^[k] h).toNat = (h.toNat - 1 + k) % (2 ^ 64 - 1) + 1 := by
  have hlt := h.toNat_lt
  have hpos : h.toNat ≠ 0 := fun hzero ↦ hne (UInt64.toNat_inj.mp hzero)
  induction k with
  | zero =>
    rw [Function.iterate_zero, id_eq]
    omega
  | succ k ih =>
    rw [Function.iterate_succ_apply', toNat_next, ih]
    omega

/-- Less than a full turn never comes back. -/
theorem eq_of_iterate_next_eq {h : Handle} (hne : h ≠ 0) {j k : Nat} (hj : j < 2 ^ 64 - 1)
    (hk : k < 2 ^ 64 - 1) (heq : next^[j] h = next^[k] h) : j = k := by
  have hnat := congrArg UInt64.toNat heq
  rw [toNat_iterate_next hne, toNat_iterate_next hne] at hnat
  omega

theorem nodup_turn {h : Handle} (hne : h ≠ 0) {n : Nat} (hn : n ≤ 2 ^ 64 - 1) :
    ((List.range n).map fun k ↦ next^[k] h).Nodup := by
  refine List.Nodup.map_on (fun j hj k hk heq ↦ ?_) List.nodup_range
  rw [List.mem_range] at hj hk
  exact eq_of_iterate_next_eq hne (Nat.lt_of_lt_of_le hj hn) (Nat.lt_of_lt_of_le hk hn) heq

/-- The search passes over handles that are taken, and over no others. -/
theorem exists_firstFree (taken : Handle → Bool) (n : Nat) (h : Handle) :
    ∃ k ≤ n, firstFree taken n h = next^[k] h ∧ (∀ j < k, taken (next^[j] h) = true) ∧
      (k < n → taken (next^[k] h) = false) := by
  induction n generalizing h with
  | zero => exact ⟨0, Nat.le_refl 0, rfl, nofun, nofun⟩
  | succ n ih =>
    cases htaken : taken h with
    | false =>
      refine ⟨0, Nat.zero_le _, ?_, nofun, fun _ ↦ htaken⟩
      rw [firstFree, htaken, if_neg Bool.false_ne_true, Function.iterate_zero, id_eq]
    | true =>
      obtain ⟨k, hk, hfirst, hbefore, hfree⟩ := ih h.next
      refine ⟨k + 1, Nat.succ_le_succ hk, ?_, fun j hj ↦ ?_, fun hlt ↦ ?_⟩
      · rw [firstFree, htaken, if_pos rfl, hfirst, Function.iterate_succ_apply]
      · cases j with
        | zero => exact htaken
        | succ j => exact hbefore j (Nat.lt_of_succ_lt_succ hj)
      · exact hfree (Nat.lt_of_succ_lt_succ hlt)

end Handle

/-! ### The table -/

namespace Handles

variable {t : Handles}

/-- The search comes to an end: not all handles that it looks at can be assigned. -/
theorem contains_fresh (hnext : t.next ≠ 0) (hsize : t.assigned.size < 2 ^ 64 - 1) :
    t.assigned.contains t.fresh = false := by
  obtain ⟨k, hk, hfirst, hbefore, hfree⟩ :=
    Handle.exists_firstFree t.assigned.contains t.assigned.size t.next
  rw [fresh, hfirst]
  rcases Nat.lt_or_eq_of_le hk with hlt | rfl
  · exact hfree hlt
  · -- The handles passed over are all that are assigned, so one more of the turn is free.
    by_contra htaken
    have hturn := Handle.nodup_turn hnext (n := t.assigned.size + 1) hsize
    have hassigned : ((List.range (t.assigned.size + 1)).map fun k ↦ Handle.next^[k] t.next) ⊆
        t.assigned.keys := by
      intro h hh
      obtain ⟨j, hj, rfl⟩ := List.mem_map.mp hh
      rw [Std.ExtTreeMap.mem_keys, ← Std.ExtTreeMap.contains_iff_mem]
      rcases Nat.lt_or_eq_of_le (Nat.le_of_lt_succ (List.mem_range.mp hj)) with hlt | rfl
      · exact hbefore j hlt
      · exact Bool.not_eq_false _ ▸ htaken
    have hlength := (List.subperm_of_subset hturn hassigned).length_le
    rw [List.length_map, List.length_range, Std.ExtTreeMap.length_keys] at hlength
    exact Nat.not_succ_le_self _ hlength

theorem fresh_ne_zero (hnext : t.next ≠ 0) : t.fresh ≠ 0 := by
  obtain ⟨k, -, hfirst, -⟩ :=
    Handle.exists_firstFree t.assigned.contains t.assigned.size t.next
  rw [fresh, hfirst]
  exact Handle.iterate_next_ne_zero hnext k

/-- The counter itself is given out while it is free. -/
theorem fresh_of_free (hfree : t.assigned.contains t.next = false) : t.fresh = t.next := by
  unfold fresh
  cases t.assigned.size with
  | zero => rfl
  | succ n => rw [Handle.firstFree, hfree, if_neg Bool.false_ne_true]

theorem insert_of_none {id : WindowId} (hid : t.get? id = none) : t.insert id =
    (t.fresh, ⟨t.fresh.next, t.assigned.insert t.fresh id, t.byWindow.insert id t.fresh⟩) := by
  rw [insert, hid]

theorem erase_of_some {id : WindowId} {h : Handle} (hid : t.get? id = some h) :
    t.erase id =
      (some h, { t with assigned := t.assigned.erase h, byWindow := t.byWindow.erase id }) := by
  rw [erase, hid]

theorem erase_of_none {id : WindowId} (hid : t.get? id = none) : t.erase id = (none, t) := by
  rw [erase, hid]

/-- The answer to a removal is the handle that the window had. -/
theorem erase_fst (t : Handles) (id : WindowId) : (t.erase id).1 = t.get? id := by
  cases hid : t.get? id with
  | none => rw [erase_of_none hid]
  | some h => rw [erase_of_some hid]

/-- The two directions of a table say the same, and zero is not assigned. -/
structure TwoWay (t : Handles) : Prop where
  get?_eq_some_iff : ∀ id h, t.get? id = some h ↔ t.assigned[h]? = some id
  zero_free : t.assigned[(0 : Handle)]? = none
  next_ne_zero : t.next ≠ 0

namespace TwoWay

theorem empty : Handles.empty.TwoWay where
  get?_eq_some_iff id h := by simp [Handles.empty, get?]
  zero_free := by simp [Handles.empty]
  next_ne_zero := by decide

theorem ne_zero (ht : t.TwoWay) {id : WindowId} {h : Handle} (hid : t.get? id = some h) :
    h ≠ 0 := by
  rintro rfl
  rw [ht.get?_eq_some_iff, ht.zero_free] at hid
  exact nomatch hid

theorem resolve_eq_ok_iff (ht : t.TwoWay) (h : Handle) (id : WindowId) :
    t.resolve h = .ok id ↔ t.get? id = some h := by
  constructor
  · intro hresolve
    unfold resolve at hresolve
    split at hresolve
    case isTrue => exact nomatch hresolve
    case isFalse =>
      split at hresolve
      case h_1 found hfound =>
        obtain rfl := Except.ok.inj hresolve
        exact (ht.get?_eq_some_iff _ h).mpr hfound
      case h_2 => exact nomatch hresolve
  · intro hid
    have hassigned := (ht.get?_eq_some_iff id h).mp hid
    rw [resolve, if_neg (ht.ne_zero hid)]
    simp only [hassigned]

/-- A handle that no window has is refused. -/
theorem resolve_of_unassigned (ht : t.TwoWay) {h : Handle} (hne : h ≠ 0)
    (hnone : ∀ id, t.get? id ≠ some h) : t.resolve h = .error (.unknownHandle h) := by
  have hassigned : t.assigned[h]? = none := by
    cases hfound : t.assigned[h]? with
    | none => rfl
    | some id => exact absurd ((ht.get?_eq_some_iff id h).mpr hfound) (hnone id)
  rw [resolve, if_neg hne]
  simp only [hassigned]

/-- Two windows do not share a handle. -/
theorem get?_injective (ht : t.TwoWay) {id other : WindowId} {h : Handle}
    (hid : t.get? id = some h) (hother : t.get? other = some h) : id = other := by
  rw [ht.get?_eq_some_iff] at hid hother
  exact Option.some.inj (hid.symm.trans hother)

/-! ### A window gets a handle -/

section Insert

variable {id : WindowId}

theorem get?_of_vacant (hvacant : t.byWindow.Vacant id.index) : t.get? id = none :=
  hvacant id rfl

theorem get?_insert (hvacant : t.byWindow.Vacant id.index) (hnull : id.isNull = false)
    (other : WindowId) :
    (t.insert id).2.get? other = if other = id then some t.fresh else t.get? other := by
  rw [insert_of_none (get?_of_vacant hvacant), get?, IdMap.get?_insert_of_vacant hvacant]
  simp only [hnull, and_true]
  rfl

theorem insert (ht : t.TwoWay) (hvacant : t.byWindow.Vacant id.index) (hnull : id.isNull = false)
    (hsize : t.assigned.size < 2 ^ 64 - 1) : (t.insert id).2.TwoWay where
  get?_eq_some_iff other h := by
    have hfresh : t.assigned[t.fresh]? = none := by
      rw [← Option.not_isSome_iff_eq_none, ← Std.ExtTreeMap.contains_eq_isSome_getElem?,
        contains_fresh ht.next_ne_zero hsize]
      exact Bool.false_ne_true
    rw [get?_insert hvacant hnull, insert_of_none (get?_of_vacant hvacant)]
    simp only [Std.ExtTreeMap.getElem?_insert, Std.LawfulEqCmp.compare_eq_iff_eq]
    by_cases hother : other = id
    · subst hother
      rw [if_pos rfl]
      by_cases hh : t.fresh = h
      · simp [hh]
      · rw [if_neg hh, Option.some.injEq]
        refine iff_of_false hh fun hassigned ↦ ?_
        rw [← ht.get?_eq_some_iff, get?_of_vacant hvacant] at hassigned
        exact nomatch hassigned
    · rw [if_neg hother]
      by_cases hh : t.fresh = h
      · subst hh
        rw [if_pos rfl, ht.get?_eq_some_iff, hfresh]
        simp [Ne.symm hother]
      · rw [if_neg hh]
        exact ht.get?_eq_some_iff other h
  zero_free := by
    rw [insert_of_none (get?_of_vacant hvacant)]
    simp only [Std.ExtTreeMap.getElem?_insert, Std.LawfulEqCmp.compare_eq_iff_eq]
    rw [if_neg (fresh_ne_zero ht.next_ne_zero)]
    exact ht.zero_free
  next_ne_zero := by
    rw [insert_of_none (get?_of_vacant hvacant)]
    exact Handle.next_ne_zero _

theorem size_assigned_insert (ht : t.TwoWay) (hvacant : t.byWindow.Vacant id.index)
    (hsize : t.assigned.size < 2 ^ 64 - 1) :
    (t.insert id).2.assigned.size = t.assigned.size + 1 := by
  rw [insert_of_none (get?_of_vacant hvacant)]
  simp [Std.ExtTreeMap.size_insert, contains_fresh ht.next_ne_zero hsize]

end Insert

/-! ### A window loses its handle -/

section Erase

variable {id : WindowId} {h : Handle}

theorem get?_erase_self (t : Handles) (id : WindowId) : (t.erase id).2.get? id = none := by
  cases hid : t.get? id with
  | none => rw [erase_of_none hid, hid]
  | some h =>
    rw [erase_of_some hid]
    exact IdMap.get?_erase_self t.byWindow id

theorem get?_erase_of_ne (t : Handles) {other : WindowId} (hother : id ≠ other) :
    (t.erase id).2.get? other = t.get? other := by
  cases hid : t.get? id with
  | none => rw [erase_of_none hid]
  | some h =>
    rw [erase_of_some hid]
    exact IdMap.get?_erase_of_ne hother

theorem erase (ht : t.TwoWay) (id : WindowId) : (t.erase id).2.TwoWay := by
  cases hid : t.get? id with
  | none => rwa [erase_of_none hid]
  | some given =>
    have hassigned (h : Handle) : (t.erase id).2.assigned[h]? =
        if given = h then none else t.assigned[h]? := by
      rw [erase_of_some hid]
      simp only [Std.ExtTreeMap.getElem?_erase, Std.LawfulEqCmp.compare_eq_iff_eq]
    constructor
    · intro other h
      rw [hassigned]
      by_cases hother : id = other
      · subst hother
        rw [get?_erase_self]
        split
        case isTrue => simp
        case isFalse hne =>
          refine iff_of_false nofun fun hfound ↦ hne ?_
          rw [← ht.get?_eq_some_iff, hid] at hfound
          exact Option.some.inj hfound
      · rw [get?_erase_of_ne t hother, ht.get?_eq_some_iff]
        split
        case isTrue heq =>
          refine iff_of_false (fun hfound ↦ hother ?_) nofun
          rw [← heq, ← ht.get?_eq_some_iff] at hfound
          exact ht.get?_injective hid hfound
        case isFalse => rfl
    · rw [hassigned, ht.zero_free, ite_self]
    · rw [erase_of_some hid]
      exact ht.next_ne_zero

theorem size_assigned_erase (ht : t.TwoWay) (hid : t.get? id = some h) :
    (t.erase id).2.assigned.size = t.assigned.size - 1 := by
  have hassigned := (ht.get?_eq_some_iff id h).mp hid
  rw [erase_of_some hid]
  simp [Std.ExtTreeMap.size_erase, Std.ExtTreeMap.contains_eq_isSome_getElem?, hassigned]

end Erase

end TwoWay

end Handles

end WindowRouting
