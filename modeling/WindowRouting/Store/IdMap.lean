import Std.Data.ExtTreeMap
import WindowRouting.Store.WindowId

/-!
Maps from window ids to values. A map holds at most one entry at each index, for one version of it.
An entry is found and removed under its exact id only (`get?`, `erase`); storing a value replaces an
entry of another version unless that entry is newer (`insert`). Entries are listed by index.
-/

set_option autoImplicit false
set_option relaxedAutoImplicit false

namespace WindowRouting

open Std

/-- At most one version and value at each index. -/
structure IdMap (α : Type) where
  entries : ExtTreeMap Nat (UInt32 × α)

namespace IdMap

variable {α β : Type}

/-- The map without entries. -/
def empty : IdMap α := ⟨∅⟩

/-- The value stored under exactly `id`. -/
def get? (m : IdMap α) (id : WindowId) : Option α :=
  match m.entries[id.index]? with
  | some (version, value) => if version = id.version then some value else none
  | none => none

/-- A value is stored under exactly `id`. -/
def contains (m : IdMap α) (id : WindowId) : Bool := (m.get? id).isSome

/-- The map takes a value under `id`: not under a null id, and not under a version older than the
one in its place. -/
def admits (m : IdMap α) (id : WindowId) : Bool :=
  !id.isNull &&
    match m.entries[id.index]? with
    | some (version, _) => !WindowId.isOlder id.version version
    | none => true

/-- Stores `value` under `id`, in place of what is stored at the same index, if the map takes
it. -/
def insert (m : IdMap α) (id : WindowId) (value : α) : IdMap α :=
  if m.admits id then ⟨m.entries.insert id.index (id.version, value)⟩ else m

/-- Removes the value stored under exactly `id`. -/
def erase (m : IdMap α) (id : WindowId) : IdMap α :=
  if m.contains id then ⟨m.entries.erase id.index⟩ else m

/-- Changes the value stored under exactly `id`. -/
def modify (m : IdMap α) (id : WindowId) (f : α → α) : IdMap α :=
  match m.get? id with
  | some value => ⟨m.entries.insert id.index (id.version, f value)⟩
  | none => m

/-- Changes every value. -/
def map (f : α → β) (m : IdMap α) : IdMap β :=
  ⟨m.entries.map fun _ entry ↦ (entry.1, f entry.2)⟩

/-- The number of entries. -/
def size (m : IdMap α) : Nat := m.entries.size

/-- The entries, by index. -/
def toList (m : IdMap α) : List (WindowId × α) :=
  m.entries.toList.map fun entry ↦ (⟨entry.1, entry.2.1⟩, entry.2.2)

/-- Two maps with the same entry at every index are equal. -/
theorem ext_entries {m n : IdMap α} (h : ∀ i : Nat, m.entries[i]? = n.entries[i]?) : m = n := by
  cases m
  cases n
  exact congrArg IdMap.mk (ExtTreeMap.ext_getElem? h)

@[simp] theorem get?_empty (id : WindowId) : (empty : IdMap α).get? id = none := by
  simp [get?, empty]

theorem get?_insert_self {m : IdMap α} {id : WindowId} (h : m.admits id) (value : α) :
    (m.insert id value).get? id = some value := by
  simp [get?, insert, h]

theorem get?_insert_of_index_ne {m : IdMap α} {id other : WindowId} (h : id.index ≠ other.index)
    (value : α) : (m.insert id value).get? other = m.get? other := by
  unfold insert
  split
  · simp [get?, ExtTreeMap.getElem?_insert, h]
  · rfl

/-- What a map holds after a value was stored is that value, under its id, or was there before. -/
theorem eq_or_get?_of_get?_insert {m : IdMap α} {id other : WindowId} {value found : α}
    (h : (m.insert id value).get? other = some found) :
    (other = id ∧ found = value) ∨ m.get? other = some found := by
  by_cases hindex : id.index = other.index
  · unfold insert at h
    split at h
    · simp only [get?, ← hindex, ExtTreeMap.getElem?_insert_self] at h
      split at h
      case isTrue hversion =>
        have hother : other = id := by
          cases id
          cases other
          simp_all
        exact Or.inl ⟨hother, (Option.some.inj h).symm⟩
      case isFalse => exact nomatch h
    · exact Or.inr h
  · rw [get?_insert_of_index_ne hindex] at h
    exact Or.inr h

@[simp] theorem get?_erase_self (m : IdMap α) (id : WindowId) : (m.erase id).get? id = none := by
  unfold erase
  split
  · simp [get?]
  · simp_all [contains]

theorem get?_erase_of_ne {m : IdMap α} {id other : WindowId} (h : id ≠ other) :
    (m.erase id).get? other = m.get? other := by
  unfold erase
  split
  case isTrue hm =>
    by_cases hi : id.index = other.index
    · have hv : id.version ≠ other.version := fun hv ↦ h (by cases id; cases other; simp_all)
      have hnone : m.get? other = none := by
        simp only [contains, get?, hi, Option.isSome_iff_exists] at hm
        simp only [get?]
        split at hm <;> simp_all
      rw [hnone]
      simp [get?, ← hi]
    · simp [get?, ExtTreeMap.getElem?_erase, hi]
  case isFalse => rfl

theorem get?_eq_some_iff {m : IdMap α} {id : WindowId} {value : α} :
    m.get? id = some value ↔ m.entries[id.index]? = some (id.version, value) := by
  unfold get?
  split
  case h_1 version other hentry =>
    rw [hentry, Option.some.injEq, Prod.mk.injEq]
    split
    case isTrue hv => simp [hv]
    case isFalse hv => simp [hv]
  case h_2 hentry => simp [hentry]

/-- A map holds one id at each index. -/
theorem eq_of_index_eq {m : IdMap α} {id other : WindowId} {value value' : α}
    (hid : m.get? id = some value) (hother : m.get? other = some value')
    (hindex : id.index = other.index) : id = other := by
  rw [get?_eq_some_iff] at hid hother
  rw [hindex, hother] at hid
  cases id
  cases other
  simp_all

theorem admits_iff {m : IdMap α} {id : WindowId} : m.admits id = true ↔ id.isNull = false ∧
    ∀ other value, m.get? other = some value → other.index = id.index →
      WindowId.isOlder id.version other.version = false := by
  simp only [admits, Bool.and_eq_true, Bool.not_eq_true', get?_eq_some_iff]
  refine and_congr_right fun _ ↦ ?_
  cases hentry : m.entries[id.index]? with
  | none =>
    refine iff_of_true rfl fun other value hother hindex ↦ ?_
    rw [hindex, hentry] at hother
    exact nomatch hother
  | some entry =>
    obtain ⟨version, value⟩ := entry
    rw [Bool.not_eq_true']
    constructor
    · intro holder other value' hother hindex
      rw [hindex, hentry, Option.some.injEq, Prod.mk.injEq] at hother
      rwa [← hother.1]
    · exact fun hall ↦ hall ⟨id.index, version⟩ value hentry rfl

theorem insert_of_not_admits {m : IdMap α} {id : WindowId} (h : m.admits id = false) (value : α) :
    m.insert id value = m := by
  rw [insert, h, if_neg Bool.false_ne_true]

/-- Nothing is stored at the index of an id, under whatever version. -/
def Vacant (m : IdMap α) (index : Nat) : Prop :=
  ∀ id : WindowId, id.index = index → m.get? id = none

theorem entries_eq_none_of_vacant {m : IdMap α} {index : Nat} (h : m.Vacant index) :
    m.entries[index]? = none := by
  cases hentry : m.entries[index]? with
  | none => rfl
  | some entry =>
    have hnone := h ⟨index, entry.1⟩ rfl
    rw [get?_eq_some_iff.mpr hentry] at hnone
    exact absurd hnone (Option.some_ne_none _)

theorem get?_insert_of_vacant {m : IdMap α} {id : WindowId} (h : m.Vacant id.index) (value : α)
    (other : WindowId) : (m.insert id value).get? other =
      if other = id ∧ id.isNull = false then some value else m.get? other := by
  have hadmits : m.admits id = !id.isNull := by
    simp [admits, entries_eq_none_of_vacant h]
  cases hnull : id.isNull with
  | true =>
    rw [if_neg (by simp)]
    simp [insert, hadmits, hnull]
  | false =>
    by_cases hother : other = id
    · rw [if_pos ⟨hother, rfl⟩, hother]
      exact get?_insert_self (by simp [hadmits, hnull]) value
    · rw [if_neg fun hand ↦ hother hand.1]
      by_cases hindex : id.index = other.index
      · have hversion : id.version ≠ other.version := fun hv ↦
          hother (by cases id; cases other; simp_all)
        rw [h other hindex.symm]
        simp [insert, hadmits, hnull, get?, ← hindex, hversion]
      · exact get?_insert_of_index_ne hindex value

theorem modify_of_get? {m : IdMap α} {id : WindowId} {value : α} (h : m.get? id = some value)
    (f : α → α) : m.modify id f = ⟨m.entries.insert id.index (id.version, f value)⟩ := by
  rw [modify, h]

theorem modify_of_none {m : IdMap α} {id : WindowId} (h : m.get? id = none) (f : α → α) :
    m.modify id f = m := by
  rw [modify, h]

theorem get?_modify_self (m : IdMap α) (id : WindowId) (f : α → α) :
    (m.modify id f).get? id = (m.get? id).map f := by
  cases hid : m.get? id with
  | none => rw [modify_of_none hid, hid, Option.map_none]
  | some value =>
    rw [modify_of_get? hid]
    simp [get?]

theorem get?_modify_of_ne {m : IdMap α} {id other : WindowId} (h : id ≠ other) (f : α → α) :
    (m.modify id f).get? other = m.get? other := by
  cases hid : m.get? id with
  | none => rw [modify_of_none hid]
  | some value =>
    rw [modify_of_get? hid]
    by_cases hindex : id.index = other.index
    · have hversion : id.version ≠ other.version := fun hv ↦
        h (by cases id; cases other; simp_all)
      have hnone : m.get? other = none := by
        cases hother : m.get? other with
        | none => rfl
        | some value' => exact absurd (eq_of_index_eq hid hother hindex) h
      rw [hnone]
      simp [get?, ← hindex, hversion]
    · simp [get?, ExtTreeMap.getElem?_insert, hindex]

/-- Changing a value to itself changes nothing. -/
theorem modify_eq_self {m : IdMap α} {id : WindowId} {f : α → α}
    (h : ∀ value, m.get? id = some value → f value = value) : m.modify id f = m := by
  cases hid : m.get? id with
  | none => exact modify_of_none hid f
  | some value =>
    rw [modify_of_get? hid, h value hid]
    refine ext_entries fun i ↦ ?_
    simp only [ExtTreeMap.getElem?_insert, Nat.compare_eq_eq]
    split
    case isTrue hi => rw [← hi, get?_eq_some_iff.mp hid]
    case isFalse => rfl

/-- Changes can be made in any order if those under one id can. -/
theorem modify_comm {m : IdMap α} {id other : WindowId} {f g : α → α}
    (h : id = other → ∀ value, f (g value) = g (f value)) :
    (m.modify id f).modify other g = (m.modify other g).modify id f := by
  cases hid : m.get? id with
  | none =>
    have hid' : (m.modify other g).get? id = none := by
      by_cases hother : other = id
      · rw [hother, get?_modify_self, hid, Option.map_none]
      · rw [get?_modify_of_ne hother, hid]
    rw [modify_of_none hid, modify_of_none hid']
  | some value =>
    cases hother : m.get? other with
    | none =>
      have hother' : (m.modify id f).get? other = none := by
        by_cases heq : id = other
        · rw [heq, get?_modify_self, hother, Option.map_none]
        · rw [get?_modify_of_ne heq, hother]
      rw [modify_of_none hother, modify_of_none hother']
    | some value' =>
      by_cases heq : id = other
      · subst heq
        have hf := (get?_modify_self m id f).trans (congrArg (Option.map f) hid)
        have hg := (get?_modify_self m id g).trans (congrArg (Option.map g) hid)
        rw [modify_of_get? hf, modify_of_get? hg, modify_of_get? hid, modify_of_get? hid, h rfl]
        refine ext_entries fun i ↦ ?_
        simp only [ExtTreeMap.getElem?_insert]
        split <;> rfl
      · have hindex : id.index ≠ other.index := fun hindex ↦ heq (eq_of_index_eq hid hother hindex)
        have hf := (get?_modify_of_ne heq f).trans hother
        have hg := (get?_modify_of_ne (Ne.symm heq) g).trans hid
        rw [modify_of_get? hf, modify_of_get? hg, modify_of_get? hid, modify_of_get? hother]
        refine ext_entries fun i ↦ ?_
        simp only [ExtTreeMap.getElem?_insert, Nat.compare_eq_eq]
        split <;> split <;> first | rfl | omega

/-! ### The list of the entries -/

theorem mem_toList {m : IdMap α} {id : WindowId} {value : α} :
    (id, value) ∈ m.toList ↔ m.get? id = some value := by
  rw [get?_eq_some_iff, ← ExtTreeMap.mem_toList_iff_getElem?_eq_some, toList, List.mem_map]
  constructor
  · rintro ⟨entry, hentry, heq⟩
    obtain ⟨rfl, rfl⟩ := Prod.mk.inj heq
    exact hentry
  · exact fun hentry ↦ ⟨_, hentry, rfl⟩

/-- The indices go up. -/
theorem pairwise_toList (m : IdMap α) : m.toList.Pairwise fun a b ↦ a.1.index < b.1.index := by
  refine List.pairwise_map.mpr (m.entries.ordered_keys_toList.imp fun {a b} hlt ↦ ?_)
  exact Nat.compare_eq_lt.mp hlt

/-! ### The number of entries -/

theorem length_toList (m : IdMap α) : m.toList.length = m.size := by
  rw [toList, List.length_map, ExtTreeMap.length_toList, size]

theorem size_insert_of_vacant {m : IdMap α} {id : WindowId} (hvacant : m.Vacant id.index)
    (hnull : id.isNull = false) (value : α) : (m.insert id value).size = m.size + 1 := by
  have hentry := entries_eq_none_of_vacant hvacant
  have hadmits : m.admits id = true := by simp [admits, hentry, hnull]
  simp [size, insert, hadmits, ExtTreeMap.size_insert, ExtTreeMap.contains_eq_isSome_getElem?,
    hentry]

theorem size_erase_of_get? {m : IdMap α} {id : WindowId} {value : α} (h : m.get? id = some value) :
    (m.erase id).size + 1 = m.size := by
  have hentry := get?_eq_some_iff.mp h
  have hcontains : m.entries.contains id.index = true := by
    simp [ExtTreeMap.contains_eq_isSome_getElem?, hentry]
  have hpos : m.entries.size ≠ 0 := by
    intro hzero
    rw [← ExtTreeMap.eq_empty_iff_size_eq_zero] at hzero
    simp [hzero] at hentry
  simp only [size, erase, contains, h, Option.isSome_some, if_true, ExtTreeMap.size_erase,
    hcontains]
  exact Nat.sub_one_add_one hpos

theorem size_modify (m : IdMap α) (id : WindowId) (f : α → α) :
    (m.modify id f).size = m.size := by
  cases hid : m.get? id with
  | none => rw [modify_of_none hid]
  | some value =>
    rw [modify_of_get? hid]
    simp [size, ExtTreeMap.size_insert, ExtTreeMap.contains_eq_isSome_getElem?,
      get?_eq_some_iff.mp hid]

/-! ### Changing every value -/

section

variable {f : α → β} {m : IdMap α} {id : WindowId}

theorem get?_map (f : α → β) (m : IdMap α) (id : WindowId) :
    (m.map f).get? id = (m.get? id).map f := by
  simp only [get?, map, ExtTreeMap.getElem?_map]
  cases m.entries[id.index]? with
  | none => rfl
  | some entry =>
    simp only [Option.map_some]
    split <;> rfl

theorem map_empty (f : α → β) : (empty : IdMap α).map f = empty :=
  ext_entries fun i ↦ by simp [map, empty]

/-- Changing no value changes nothing. -/
theorem map_eq_self {f : α → α} (h : ∀ id value, m.get? id = some value → f value = value) :
    m.map f = m := by
  refine ext_entries fun i ↦ ?_
  simp only [map, ExtTreeMap.getElem?_map]
  cases hentry : m.entries[i]? with
  | none => rfl
  | some entry =>
    have hvalue := h ⟨i, entry.1⟩ entry.2 (get?_eq_some_iff.mpr hentry)
    rw [Option.map_some, hvalue]

theorem map_map {γ : Type} (f : α → β) (g : β → γ) (m : IdMap α) :
    (m.map f).map g = m.map fun value ↦ g (f value) := by
  refine ext_entries fun i ↦ ?_
  simp only [map, ExtTreeMap.getElem?_map, Option.map_map]
  rfl

theorem admits_map : (m.map f).admits id = m.admits id := by
  simp only [admits, map, ExtTreeMap.getElem?_map]
  cases m.entries[id.index]? <;> rfl

theorem contains_map : (m.map f).contains id = m.contains id := by
  rw [contains, contains, get?_map, Option.isSome_map]

theorem map_insert (value : α) : (m.insert id value).map f = (m.map f).insert id (f value) := by
  unfold insert
  rw [admits_map]
  split
  · refine ext_entries fun i ↦ ?_
    simp only [map, ExtTreeMap.getElem?_map, ExtTreeMap.getElem?_insert]
    split <;> rfl
  · rfl

theorem map_erase : (m.erase id).map f = (m.map f).erase id := by
  unfold erase
  rw [contains_map]
  split
  · refine ext_entries fun i ↦ ?_
    simp only [map, ExtTreeMap.getElem?_map, ExtTreeMap.getElem?_erase]
    split <;> rfl
  · rfl

theorem map_modify {g : α → α} {k : β → β} (h : ∀ value, f (g value) = k (f value)) :
    (m.modify id g).map f = (m.map f).modify id k := by
  cases hid : m.get? id with
  | none => rw [modify_of_none hid, modify_of_none (by rw [get?_map, hid, Option.map_none])]
  | some value =>
    rw [modify_of_get? hid, modify_of_get? (by rw [get?_map, hid, Option.map_some])]
    refine ext_entries fun i ↦ ?_
    simp only [map, ExtTreeMap.getElem?_map, ExtTreeMap.getElem?_insert, ← h]
    split <;> rfl

end

end IdMap

end WindowRouting
