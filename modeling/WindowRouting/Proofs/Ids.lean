import Mathlib.Algebra.Group.Nat.Defs
import WindowRouting.Store.OpenWindows

/-!
The ids of windows are not repeated. A position is used again under a version that is higher by two,
and versions wrap, so an id could come back; but it takes at least half as many windows as there are
versions to get there. `OpenWindows.Issued` relates the open windows to the list of all ids that
were given out: at each position the versions go up, and they are bounded by the length of the list.
As long as the list is shorter than `2 ^ 31` this is kept by opening (`Issued.create`) and closing
(`Issued.close`), and the next id is a new one (`Issued.nextId_not_mem`).
-/

set_option autoImplicit false
set_option relaxedAutoImplicit false

namespace WindowRouting.OpenWindows

/-- The ids in `l` have been given out, and no others. -/
structure Issued (ws : OpenWindows) (l : List WindowId) : Prop where
  nodup : l.Nodup
  mem_of_open : ∀ id, (ws.get? id).isSome → id ∈ l
  positions_le : ws.positions ≤ l.length
  index_le : ∀ id ∈ l, id.index ≤ ws.positions
  version_lt : ∀ id ∈ l, id.version.toNat < 2 * l.length
  newest : ∀ id, (ws.get? id).isSome → ∀ old ∈ l, old.index = id.index →
    old.version.toNat ≤ id.version.toNat
  vacant_index_le : ∀ v ∈ ws.vacant, v.index ≤ ws.positions
  vacant_version_lt : ∀ v ∈ ws.vacant, v.version.toNat < 2 * l.length + 2
  vacant_newer : ∀ v ∈ ws.vacant, ∀ old ∈ l, old.index = v.index →
    old.version.toNat < v.version.toNat
  vacant_free : ∀ v ∈ ws.vacant, ws.live.Vacant v.index
  vacant_nodup : (ws.vacant.map (·.index)).Nodup

theorem issued_empty : empty.Issued [] where
  nodup := List.nodup_nil
  mem_of_open id hid := by simp [get?, empty] at hid
  positions_le := Nat.le_refl 0
  index_le := nofun
  version_lt := nofun
  newest := nofun
  vacant_index_le := nofun
  vacant_version_lt := nofun
  vacant_newer := nofun
  vacant_free := nofun
  vacant_nodup := List.nodup_nil

variable {ws ws' : OpenWindows} {l : List WindowId} {id : WindowId}

/-- A change of what is stored about the open windows. -/
theorem Issued.congr (h : ws.Issued l) (hopen : ∀ id, (ws'.get? id).isSome = (ws.get? id).isSome)
    (hvacant : ws'.vacant = ws.vacant) (hpositions : ws'.positions = ws.positions) :
    ws'.Issued l where
  nodup := h.nodup
  mem_of_open id hid := h.mem_of_open id (hopen id ▸ hid)
  positions_le := hpositions ▸ h.positions_le
  index_le := hpositions ▸ h.index_le
  version_lt := h.version_lt
  newest id hid := h.newest id (hopen id ▸ hid)
  vacant_index_le := hvacant ▸ hpositions ▸ h.vacant_index_le
  vacant_version_lt := hvacant ▸ h.vacant_version_lt
  vacant_newer := hvacant ▸ h.vacant_newer
  vacant_free v hv other hother := by
    have hnone := h.vacant_free v (hvacant ▸ hv) other hother
    have hsome := hopen other
    simp only [get?] at hsome
    rw [hnone, Option.isSome_none, Option.isSome_eq_false_iff, Option.isNone_iff_eq_none] at hsome
    exact hsome
  vacant_nodup := hvacant ▸ h.vacant_nodup

/-! ### Opening -/

/-- The next id is at a vacant position, or at one that was never used. -/
theorem nextId_cases (ws : OpenWindows) :
    (∃ rest, ws.vacant = ws.nextId :: rest) ∨
      ws.vacant = [] ∧ ws.nextId = ⟨ws.positions + 1, 1⟩ := by
  unfold nextId
  cases ws.vacant with
  | nil => exact Or.inr ⟨rfl, rfl⟩
  | cons v rest => exact Or.inl ⟨rest, rfl⟩

theorem Issued.newer_nextId (h : ws.Issued l) {old : WindowId} (hold : old ∈ l)
    (hindex : old.index = ws.nextId.index) : old.version.toNat < ws.nextId.version.toNat := by
  rcases ws.nextId_cases with ⟨rest, hvacant⟩ | ⟨-, hnext⟩
  · exact h.vacant_newer ws.nextId (by rw [hvacant]; exact List.mem_cons_self) old hold hindex
  · have hle := h.index_le old hold
    rw [hindex, hnext] at hle
    exact absurd hle (Nat.not_succ_le_self _)

/-- The next id was never given out. -/
theorem Issued.nextId_not_mem (h : ws.Issued l) : ws.nextId ∉ l :=
  fun hmem ↦ Nat.lt_irrefl _ (h.newer_nextId hmem rfl)

theorem Issued.version_nextId_lt (h : ws.Issued l) :
    ws.nextId.version.toNat < 2 * l.length + 2 := by
  rcases ws.nextId_cases with ⟨rest, hvacant⟩ | ⟨-, hnext⟩
  · exact h.vacant_version_lt ws.nextId (by rw [hvacant]; exact List.mem_cons_self)
  · have hone : ws.nextId.version.toNat = 1 := by rw [hnext]; rfl
    omega

theorem Issued.vacant_nextId (h : ws.Issued l) : ws.live.Vacant ws.nextId.index := by
  rcases ws.nextId_cases with ⟨rest, hvacant⟩ | ⟨-, hnext⟩
  · exact h.vacant_free ws.nextId (by rw [hvacant]; exact List.mem_cons_self)
  · intro id hid
    cases hfound : ws.live.get? id with
    | none => rfl
    | some w =>
      have hle := h.index_le id (h.mem_of_open id (by rw [get?, hfound, Option.isSome_some]))
      rw [hid, hnext] at hle
      exact absurd hle (Nat.not_succ_le_self _)

/-- The windows that are open after one was opened. -/
theorem Issued.open_create (h : ws.Issued l) {d : Descriptor}
    (hid : ((ws.create d).2.get? id).isSome) : id = ws.nextId ∨ (ws.get? id).isSome := by
  have hget : (ws.create d).2.get? id =
      if id = ws.nextId ∧ ws.nextId.isNull = false then some ⟨d, false⟩ else ws.get? id :=
    IdMap.get?_insert_of_vacant h.vacant_nextId _ id
  rw [hget] at hid
  split at hid
  case isTrue hnew => exact Or.inl hnew.1
  case isFalse => exact Or.inr hid

theorem Issued.positions_create (h : ws.Issued l) (d : Descriptor) :
    ws.positions ≤ (ws.create d).2.positions ∧
      ws.nextId.index ≤ (ws.create d).2.positions ∧
        (ws.create d).2.positions ≤ l.length + 1 := by
  have hle := h.positions_le
  rcases ws.nextId_cases with ⟨rest, hvacant⟩ | ⟨hvacant, hnext⟩
  · have hindex := h.vacant_index_le ws.nextId (by rw [hvacant]; exact List.mem_cons_self)
    simp only [create, hvacant, List.isEmpty_cons, Bool.false_eq_true, if_false]
    omega
  · simp only [create, hvacant, hnext, List.isEmpty_nil, if_true]
    omega

/-- The position that is taken is not vacant any more. -/
theorem Issued.index_ne_nextId (h : ws.Issued l) {d : Descriptor} {v : WindowId}
    (hv : v ∈ (ws.create d).2.vacant) : v ∈ ws.vacant ∧ v.index ≠ ws.nextId.index := by
  refine ⟨List.mem_of_mem_tail hv, fun hindex ↦ ?_⟩
  rcases ws.nextId_cases with ⟨rest, hvacant⟩ | ⟨hvacant, -⟩
  · have hnodup := h.vacant_nodup
    simp only [OpenWindows.create, hvacant, List.tail_cons] at hv
    rw [hvacant, List.map_cons, List.nodup_cons, ← hindex] at hnodup
    exact hnodup.1 (List.mem_map_of_mem hv)
  · simp [OpenWindows.create, hvacant] at hv

theorem mem_issued_iff : id ∈ l ++ [ws.nextId] ↔ id ∈ l ∨ id = ws.nextId := by
  rw [List.mem_append, List.mem_singleton]

/-- Opening a window gives out its id. -/
theorem Issued.create (h : ws.Issued l) (d : Descriptor) :
    (ws.create d).2.Issued (l ++ [ws.nextId]) where
  nodup := by
    refine List.nodup_append.mpr ⟨h.nodup, by simp, fun id hid other hother heq ↦ ?_⟩
    rw [heq, List.mem_singleton.mp hother] at hid
    exact h.nextId_not_mem hid
  mem_of_open id hid := by
    rcases h.open_create hid with hnew | hopen
    · exact mem_issued_iff.mpr (Or.inr hnew)
    · exact mem_issued_iff.mpr (Or.inl (h.mem_of_open id hopen))
  positions_le := by
    rw [List.length_append, List.length_singleton]
    exact (h.positions_create d).2.2
  index_le id hid := by
    obtain ⟨hpositions, hnextId, -⟩ := h.positions_create d
    rcases mem_issued_iff.mp hid with hold | rfl
    · exact Nat.le_trans (h.index_le id hold) hpositions
    · exact hnextId
  version_lt id hid := by
    rw [List.length_append, List.length_singleton, Nat.mul_add]
    rcases mem_issued_iff.mp hid with hold | rfl
    · exact Nat.lt_add_right 2 (h.version_lt id hold)
    · exact h.version_nextId_lt
  newest id hid old hold hindex := by
    rcases h.open_create hid with rfl | hopen
    · rcases mem_issued_iff.mp hold with hold | rfl
      · exact Nat.le_of_lt (h.newer_nextId hold hindex)
      · exact Nat.le_refl _
    · rcases mem_issued_iff.mp hold with hold | rfl
      · exact h.newest id hopen old hold hindex
      · rw [get?, h.vacant_nextId id hindex.symm] at hopen
        exact nomatch hopen
  vacant_index_le v hv :=
    Nat.le_trans (h.vacant_index_le v (h.index_ne_nextId hv).1) (h.positions_create d).1
  vacant_version_lt v hv := by
    rw [List.length_append, List.length_singleton, Nat.mul_add]
    exact Nat.lt_add_right 2 (h.vacant_version_lt v (h.index_ne_nextId hv).1)
  vacant_newer v hv old hold hindex := by
    obtain ⟨hvacant, hne⟩ := h.index_ne_nextId hv
    rcases mem_issued_iff.mp hold with hold | rfl
    · exact h.vacant_newer v hvacant old hold hindex
    · exact absurd hindex.symm hne
  vacant_free v hv id hid := by
    obtain ⟨hvacant, hne⟩ := h.index_ne_nextId hv
    have hget : (ws.create d).2.live.get? id = _ :=
      IdMap.get?_insert_of_vacant h.vacant_nextId _ id
    rw [hget, if_neg, h.vacant_free v hvacant id hid]
    rintro ⟨rfl, -⟩
    exact hne hid.symm
  vacant_nodup := by
    have hnodup := h.vacant_nodup.tail
    rwa [← List.map_tail] at hnodup

/-! ### Closing -/

/-- The version goes up unless it wraps. -/
theorem toNat_version_successor (hlt : id.version.toNat + 2 < 2 ^ 32) :
    id.successor.version.toNat = id.version.toNat + 2 := by
  rw [WindowId.successor, UInt32.toNat_add]
  exact Nat.mod_eq_of_lt hlt

/-- Closing a window gives out no id, and leaves a newer one for its position. -/
theorem Issued.erase (h : ws.Issued l) (hfew : l.length < 2 ^ 31) (hopen : (ws.get? id).isSome) :
    ({ ws with live := ws.live.erase id, vacant := id.successor :: ws.vacant } :
      OpenWindows).Issued l := by
  have hmem := h.mem_of_open id hopen
  have hversion := h.version_lt id hmem
  have hsuccessor : id.successor.version.toNat = id.version.toNat + 2 :=
    toNat_version_successor (by omega)
  have hkept {other : WindowId} (hother : ((ws.live.erase id).get? other).isSome) :
      id ≠ other ∧ (ws.get? other).isSome := by
    by_cases heq : id = other
    · rw [heq, IdMap.get?_erase_self] at hother
      exact nomatch hother
    · rw [IdMap.get?_erase_of_ne heq] at hother
      exact ⟨heq, hother⟩
  have hgone {other : WindowId} (hindex : other.index = id.index) :
      (ws.live.erase id).get? other = none := by
    refine Option.not_isSome_iff_eq_none.mp fun hother ↦ ?_
    obtain ⟨hne, hother⟩ := hkept hother
    obtain ⟨w, hw⟩ := Option.isSome_iff_exists.mp hopen
    obtain ⟨w', hw'⟩ := Option.isSome_iff_exists.mp hother
    exact hne (IdMap.eq_of_index_eq hw hw' hindex.symm)
  exact {
    nodup := h.nodup
    mem_of_open := fun other hother ↦ h.mem_of_open other (hkept hother).2
    positions_le := h.positions_le
    index_le := h.index_le
    version_lt := h.version_lt
    newest := fun other hother ↦ h.newest other (hkept hother).2
    vacant_index_le := by
      intro v hv
      rcases List.mem_cons.mp hv with rfl | hv
      · exact h.index_le id hmem
      · exact h.vacant_index_le v hv
    vacant_version_lt := by
      intro v hv
      rcases List.mem_cons.mp hv with rfl | hv
      · omega
      · exact h.vacant_version_lt v hv
    vacant_newer := by
      intro v hv old hold hindex
      rcases List.mem_cons.mp hv with rfl | hv
      · have hle := h.newest id hopen old hold hindex
        omega
      · exact h.vacant_newer v hv old hold hindex
    vacant_free := by
      intro v hv other hother
      rcases List.mem_cons.mp hv with rfl | hv
      · exact hgone hother
      · refine Option.not_isSome_iff_eq_none.mp fun hsome ↦ ?_
        have hopen := (hkept hsome).2
        rw [get?, h.vacant_free v hv other hother] at hopen
        exact nomatch hopen
    vacant_nodup := by
      refine List.nodup_cons.mpr ⟨fun hindex ↦ ?_, h.vacant_nodup⟩
      obtain ⟨v, hv, hindex⟩ := List.mem_map.mp hindex
      rw [get?, h.vacant_free v hv id hindex.symm] at hopen
      exact nomatch hopen }

theorem Issued.close (h : ws.Issued l) (hfew : l.length < 2 ^ 31) (id : WindowId) :
    (ws.close id).2.Issued l := by
  unfold OpenWindows.close
  split
  case isTrue hopen => exact h.erase hfew hopen
  case isFalse => exact h

end WindowRouting.OpenWindows
