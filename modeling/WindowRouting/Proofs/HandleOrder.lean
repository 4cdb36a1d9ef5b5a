import WindowRouting.Proofs.Handles

/-!
The order in which handles are given out. A table takes insertions and removals of whatever ids,
null and stale ones and several versions of one index among them (`Handles.Op`). Until the counter
comes round, no handle that is assigned or kept for a window has reached it (`Handles.Counted`). So
the handles that are given out are the numbers from one on, and one that was given up is not
assigned again (`handles_in_order`).
-/

set_option autoImplicit false
set_option relaxedAutoImplicit false

namespace WindowRouting

namespace Handles

/-- What is done with a table. -/
inductive Op
  | insert (id : WindowId)
  | erase (id : WindowId)

/-- The handle that is given back, if one is, and the table afterwards. -/
def perform (t : Handles) : Op → Option Handle × Handles
  | .insert id => (some (t.insert id).1, (t.insert id).2)
  | .erase id => t.erase id

/-- The table after some operations. -/
def performAll (t : Handles) (ops : List Op) : Handles :=
  ops.foldl (fun t op ↦ (t.perform op).2) t

/-- The handle that an insertion gives back for an id that has none so far. -/
def allocated? (t : Handles) : Op → Option Handle
  | .insert id => if t.get? id = none then (t.perform (.insert id)).1 else none
  | .erase _ => none

/-- The handles that insertions give back for ids that have none, in order. -/
def allocated (t : Handles) : List Op → List Handle
  | [] => []
  | op :: ops => (t.allocated? op).toList ++ (t.perform op).2.allocated ops

theorem allocated_append (t : Handles) (ops later : List Op) :
    t.allocated (ops ++ later) = t.allocated ops ++ (t.performAll ops).allocated later := by
  induction ops generalizing t with
  | nil => rfl
  | cons op ops ih =>
    rw [List.cons_append, allocated, allocated, ih, List.append_assoc]
    rfl

theorem performAll_append (t : Handles) (ops later : List Op) :
    t.performAll (ops ++ later) = (t.performAll ops).performAll later :=
  List.foldl_append

/-- What an operation can do: the handle that it takes from the counter, and the table after it. -/
inductive Step (t : Handles) : Option Handle → Handles → Prop
  | stay : Step t none t
  | erased {id : WindowId} {h : Handle} (hid : t.get? id = some h) : Step t none (t.erase id).2
  | inserted {id : WindowId} (hid : t.get? id = none) : Step t (some t.fresh) (t.insert id).2

theorem step_perform (t : Handles) (op : Op) : t.Step (t.allocated? op) (t.perform op).2 := by
  cases op with
  | insert id =>
    cases hid : t.get? id with
    | none =>
      have hnew : t.allocated? (.insert id) = some t.fresh := by
        simp only [allocated?, hid, if_true, perform, insert_of_none]
      rw [hnew]
      exact .inserted hid
    | some h =>
      have hnew : t.allocated? (.insert id) = none := by simp [allocated?, hid]
      have hsame : (t.perform (.insert id)).2 = t := by simp only [perform, insert, hid]
      rw [hnew, hsame]
      exact .stay
  | erase id =>
    cases hid : t.get? id with
    | none =>
      have hsame : (t.perform (.erase id)).2 = t := congrArg Prod.snd (erase_of_none hid)
      rw [hsame]
      exact .stay
    | some h => exact .erased hid

/-! ### The counter -/

/-- So far `n` handles were taken from the counter, and it has not passed them again. -/
structure Counted (t : Handles) (n : Nat) : Prop where
  next_eq : t.next.toNat = n % (2 ^ 64 - 1) + 1
  assigned_le : ∀ (h : Handle) id, t.assigned[h]? = some id → h.toNat ≤ n
  kept_le : ∀ id h, t.get? id = some h → 0 < h.toNat ∧ h.toNat ≤ n

theorem counted_empty : empty.Counted 0 where
  next_eq := rfl
  assigned_le h id hid := by simp [empty] at hid
  kept_le id h hid := by simp [empty, get?] at hid

section Step

variable {t : Handles} {n : Nat} {id : WindowId} {h : Handle}

/-- The next handle is free before the counter comes round. -/
theorem Counted.toNat_fresh (ht : t.Counted n) (hn : n < 2 ^ 64 - 1) : t.fresh.toNat = n + 1 := by
  have hnext : t.next.toNat = n + 1 := by rw [ht.next_eq, Nat.mod_eq_of_lt hn]
  have hfree : t.assigned.contains t.next = false := by
    refine Bool.eq_false_iff.mpr fun htaken ↦ ?_
    rw [Std.ExtTreeMap.contains_eq_isSome_getElem?] at htaken
    obtain ⟨id, hid⟩ := Option.isSome_iff_exists.mp htaken
    have hle := ht.assigned_le t.next id hid
    omega
  rw [fresh_of_free hfree, hnext]

/-- An insertion for an id without a handle. -/
theorem Counted.insert (ht : t.Counted n) (hn : n < 2 ^ 64 - 1) (hid : t.get? id = none) :
    (t.insert id).2.Counted (n + 1) := by
  have hfresh := ht.toNat_fresh hn
  rw [insert_of_none hid]
  constructor
  · rw [Handle.toNat_next, hfresh]
  · intro h other hother
    simp only [Std.ExtTreeMap.getElem?_insert, Std.LawfulEqCmp.compare_eq_iff_eq] at hother
    split at hother
    case isTrue heq => exact heq ▸ Nat.le_of_eq hfresh
    case isFalse => exact Nat.le_succ_of_le (ht.assigned_le h other hother)
  · intro other h hother
    rcases IdMap.eq_or_get?_of_get?_insert hother with ⟨-, rfl⟩ | hold
    · rw [hfresh]
      exact ⟨Nat.succ_pos n, Nat.le_refl _⟩
    · obtain ⟨hpos, hle⟩ := ht.kept_le other h hold
      exact ⟨hpos, Nat.le_succ_of_le hle⟩

theorem Counted.erase (ht : t.Counted n) (id : WindowId) : (t.erase id).2.Counted n := by
  cases hid : t.get? id with
  | none => rwa [erase_of_none hid]
  | some h =>
    constructor
    · rw [erase_of_some hid]
      exact ht.next_eq
    · intro other found hother
      rw [erase_of_some hid, Std.ExtTreeMap.getElem?_erase] at hother
      split at hother
      · exact nomatch hother
      · exact ht.assigned_le other found hother
    · intro other given hother
      by_cases heq : id = other
      · rw [heq, TwoWay.get?_erase_self] at hother
        exact nomatch hother
      · rw [TwoWay.get?_erase_of_ne t heq] at hother
        exact ht.kept_le other given hother

/-- A step takes at most one handle from the counter, and this is the next number. -/
theorem Counted.step {new : Option Handle} {t' : Handles} (ht : t.Counted n)
    (hstep : t.Step new t') (hn : n + new.toList.length ≤ 2 ^ 64 - 1) :
    t'.Counted (n + new.toList.length) ∧ ∀ h ∈ new, h.toNat = n + 1 := by
  cases hstep with
  | stay => exact ⟨ht, nofun⟩
  | erased hid => exact ⟨ht.erase _, nofun⟩
  | inserted hid =>
    refine ⟨ht.insert hn hid, fun h hh ↦ ?_⟩
    obtain rfl := Option.some.inj hh
    exact ht.toNat_fresh hn

/-- A handle that was given out and is not assigned now is not assigned again. -/
theorem Counted.unassigned_step {new : Option Handle} {t' : Handles} (ht : t.Counted n)
    (hstep : t.Step new t') (hn : n + new.toList.length ≤ 2 ^ 64 - 1) (hle : h.toNat ≤ n)
    (hfree : t.assigned[h]? = none) : t'.assigned[h]? = none := by
  cases hstep with
  | stay => exact hfree
  | erased hid =>
    rw [erase_of_some hid, Std.ExtTreeMap.getElem?_erase, hfree, ite_self]
  | inserted hid =>
    have hne : t.fresh ≠ h := by
      rintro rfl
      rw [ht.toNat_fresh hn] at hle
      exact Nat.not_succ_le_self n hle
    rw [insert_of_none hid, Std.ExtTreeMap.getElem?_insert,
      if_neg fun heq ↦ hne (Std.LawfulEqCmp.compare_eq_iff_eq.mp heq)]
    exact hfree

end Step

/-! ### Runs -/

section Run

variable {t : Handles} {n : Nat}

theorem Counted.performAll (ht : t.Counted n) (ops : List Op)
    (hn : n + (t.allocated ops).length ≤ 2 ^ 64 - 1) :
    (t.performAll ops).Counted (n + (t.allocated ops).length) := by
  induction ops generalizing t n with
  | nil => exact ht
  | cons op ops ih =>
    rw [allocated, List.length_append, ← Nat.add_assoc] at hn ⊢
    obtain ⟨ht', -⟩ := ht.step (t.step_perform op) (by omega)
    exact ih ht' hn

theorem Counted.unassigned_performAll (ht : t.Counted n) (ops : List Op)
    (hn : n + (t.allocated ops).length ≤ 2 ^ 64 - 1) {h : Handle} (hle : h.toNat ≤ n)
    (hfree : t.assigned[h]? = none) : (t.performAll ops).assigned[h]? = none := by
  induction ops generalizing t n with
  | nil => exact hfree
  | cons op ops ih =>
    rw [allocated, List.length_append, ← Nat.add_assoc] at hn
    have hop : n + (t.allocated? op).toList.length ≤ 2 ^ 64 - 1 := by omega
    obtain ⟨ht', -⟩ := ht.step (t.step_perform op) hop
    exact ih ht' hn (Nat.le_add_right_of_le hle)
      (ht.unassigned_step (t.step_perform op) hop hle hfree)

/-- The handles that are given out are the numbers after those given out before. -/
theorem Counted.toNat_allocated (ht : t.Counted n) (ops : List Op) {k : Nat} {h : Handle}
    (hh : (t.allocated ops)[k]? = some h) (hk : n + k < 2 ^ 64 - 1) : h.toNat = n + k + 1 := by
  induction ops generalizing t n k with
  | nil => exact nomatch hh
  | cons op ops ih =>
    have hstep := t.step_perform op
    rw [allocated] at hh
    cases hnew : t.allocated? op with
    | none =>
      rw [hnew] at hh hstep
      obtain ⟨ht', -⟩ := ht.step hstep (Nat.le_of_lt (Nat.lt_of_le_of_lt (Nat.le_add_right n k) hk))
      exact ih ht' hh hk
    | some given =>
      rw [hnew] at hh hstep
      obtain ⟨ht', hgiven⟩ := ht.step hstep (Nat.lt_of_le_of_lt (Nat.le_add_right n k) hk)
      cases k with
      | zero =>
        obtain rfl := Option.some.inj hh
        exact hgiven _ rfl
      | succ k =>
        have hone : (some given).toList.length = 1 := rfl
        have hrest := ih ht' (k := k) hh (by omega)
        omega

end Run

end Handles

/-- In a new table the insertion that is the `k`-th one to find no handle for its id gives back the
handle `k`, up to the last handle that there is, whatever is inserted and removed. Until then a
handle that was removed refers to nothing any more; and the first `2 ^ 32 - 1` handles fit a word of
32 bits. -/
theorem handles_in_order (ops : List Handles.Op) :
    (∀ k h, (Handles.empty.allocated ops)[k]? = some h → k + 1 ≤ 2 ^ 64 - 1 → h.toNat = k + 1) ∧
    (∀ before id later h, ops = before ++ .erase id :: later →
      (Handles.empty.allocated ops).length ≤ 2 ^ 64 - 1 →
      ((Handles.empty.performAll before).perform (.erase id)).1 = some h →
      (Handles.empty.performAll ops).resolve h = .error (.unknownHandle h)) ∧
    ∀ k h, (Handles.empty.allocated ops)[k]? = some h → k + 1 ≤ 2 ^ 32 - 1 → h.toNat < 2 ^ 32 := by
  have horder {k : Nat} {h : Handle} (hh : (Handles.empty.allocated ops)[k]? = some h)
      (hk : k + 1 ≤ 2 ^ 64 - 1) : h.toNat = k + 1 := by
    have hnat := Handles.counted_empty.toNat_allocated ops hh (by omega)
    rwa [Nat.zero_add] at hnat
  refine ⟨fun k h hh hk ↦ horder hh hk, ?_, fun k h hh hk ↦ ?_⟩
  · rintro before id later h rfl hfew hremoved
    rw [Handles.allocated_append, List.length_append] at hfew
    have ht := Handles.counted_empty.performAll before (by omega)
    rw [Nat.zero_add] at ht
    have hid : (Handles.empty.performAll before).get? id = some h :=
      (Handles.erase_fst _ id).symm.trans hremoved
    obtain ⟨hpos, hle⟩ := ht.kept_le id h hid
    have hgone : ((Handles.empty.performAll before).erase id).2.assigned[h]? = none := by
      rw [Handles.erase_of_some hid]
      exact Std.ExtTreeMap.getElem?_erase_self
    have hstays := (ht.erase id).unassigned_performAll later hfew hle hgone
    rw [Handles.performAll_append]
    have hne : h ≠ 0 := by
      rintro rfl
      exact Nat.lt_irrefl 0 hpos
    change (((Handles.empty.performAll before).erase id).2.performAll later).resolve h = _
    rw [Handles.resolve, if_neg hne, hstays]
  · have hnat := horder hh (by omega)
    omega

/-- The null id keeps no handle, and the handle that was removed refers to nothing although its
position is used again. -/
theorem handles_in_order_null_and_reused :
    (Handles.empty.performAll [.insert .null, .insert ⟨1, 1⟩, .erase ⟨1, 1⟩, .insert .null,
      .insert ⟨1, 3⟩]).resolve 2 = .error (.unknownHandle 2) :=
  (handles_in_order _).2.1 [.insert .null, .insert ⟨1, 1⟩] ⟨1, 1⟩ [.insert .null, .insert ⟨1, 3⟩] 2
    rfl (by decide +kernel) (by decide +kernel)

end WindowRouting
