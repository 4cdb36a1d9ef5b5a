import WindowRouting.Router.Basic

/-!
The stores of a router in step. A router keeps its windows in one store and their receivers in
another; both are written when a window is opened and when it is closed. `Router.InStep` says that
they hold the same ids and that the positions to be used next are free in both, so opening a window
never displaces another one (`vacant_nextId`). Every change that a router makes to its stores keeps
this: `inStep_opened`, `inStep_closed`, and the changes to what is stored under an id that is there.
-/

set_option autoImplicit false
set_option relaxedAutoImplicit false

namespace WindowRouting

variable {C : Client}

/-- The windows and the receivers of a router have the same ids, at positions that were used
before, and no window is at a vacant position. -/
structure Router.InStep (r : Router C) : Prop where
  open_eq : ∀ id, (r.windows.get? id).isSome = (r.receivers.get? id).isSome
  index_le : ∀ id, (r.receivers.get? id).isSome → id.index ≤ r.windows.positions
  vacant_le : ∀ v ∈ r.windows.vacant, v.index ≤ r.windows.positions
  vacant_free : ∀ v ∈ r.windows.vacant, r.receivers.Vacant v.index
  vacant_nodup : (r.windows.vacant.map (·.index)).Nodup

namespace Router

theorem inStep_new (config : Config) : (Router.new config : Router C).InStep where
  open_eq id := by simp [new, OpenWindows.get?, OpenWindows.empty]
  index_le id h := by simp [new] at h
  vacant_le v hv := by simp [new, OpenWindows.empty] at hv
  vacant_free v hv := by simp [new, OpenWindows.empty] at hv
  vacant_nodup := by simp [new, OpenWindows.empty]

/-- A change that keeps the ids of both stores and the positions. -/
theorem InStep.congr {r r' : Router C} (h : r.InStep)
    (hwindows : ∀ id, (r'.windows.get? id).isSome = (r.windows.get? id).isSome)
    (hreceivers : ∀ id, (r'.receivers.get? id).isSome = (r.receivers.get? id).isSome)
    (hvacant : r'.windows.vacant = r.windows.vacant)
    (hpositions : r'.windows.positions = r.windows.positions) : r'.InStep where
  open_eq id := by rw [hwindows, hreceivers, h.open_eq]
  index_le id hid := by
    rw [hpositions]
    exact h.index_le id (hreceivers id ▸ hid)
  vacant_le v hv := by
    rw [hpositions]
    exact h.vacant_le v (hvacant ▸ hv)
  vacant_free v hv id hid := by
    have hnone := h.vacant_free v (hvacant ▸ hv) id hid
    rw [← Option.not_isSome_iff_eq_none, hreceivers, hnone]
    simp
  vacant_nodup := by
    rw [hvacant]
    exact h.vacant_nodup

/-! ### Opening -/

theorem vacant_nextId {r : Router C} (h : r.InStep) :
    r.receivers.Vacant r.windows.nextId.index := by
  intro id hid
  unfold OpenWindows.nextId at hid
  cases hvacant : r.windows.vacant with
  | nil =>
    rw [hvacant] at hid
    cases hsome : r.receivers.get? id with
    | none => rfl
    | some receiver =>
      have hle := h.index_le id (by simp [hsome])
      simp only [List.headD_nil] at hid
      omega
  | cons v rest =>
    rw [hvacant] at hid
    exact h.vacant_free v (by simp [hvacant]) id hid

theorem windows_vacant_nextId {r : Router C} (h : r.InStep) :
    r.windows.live.Vacant r.windows.nextId.index := by
  intro id hid
  have hsome := h.open_eq id
  rw [vacant_nextId h id hid] at hsome
  exact Option.not_isSome_iff_eq_none.mp (by rw [OpenWindows.get?] at hsome; simp [hsome])

theorem get?_receivers_opened {r : Router C} (h : r.InStep) (d : Descriptor)
    (listener : C.Listener) (id : WindowId) : (r.opened d listener).2.receivers.get? id =
      if id = r.windows.nextId ∧ r.windows.nextId.isNull = false then some (.idle listener)
      else r.receivers.get? id :=
  IdMap.get?_insert_of_vacant (vacant_nextId h) _ id

theorem get?_windows_opened {r : Router C} (h : r.InStep) (d : Descriptor)
    (listener : C.Listener) (id : WindowId) : (r.opened d listener).2.windows.get? id =
      if id = r.windows.nextId ∧ r.windows.nextId.isNull = false then some ⟨d, false⟩
      else r.windows.get? id :=
  IdMap.get?_insert_of_vacant (windows_vacant_nextId h) _ id

theorem positions_opened (r : Router C) (d : Descriptor) (listener : C.Listener) :
    r.windows.positions ≤ (r.opened d listener).2.windows.positions ∧
      (r.InStep → r.windows.nextId.index ≤ (r.opened d listener).2.windows.positions) := by
  simp only [opened, OpenWindows.create, OpenWindows.nextId]
  cases hvacant : r.windows.vacant with
  | nil => simp
  | cons v rest => exact ⟨by simp, fun h ↦ by simpa using h.vacant_le v (by simp [hvacant])⟩

theorem inStep_opened {r : Router C} (h : r.InStep) (d : Descriptor) (listener : C.Listener) :
    (r.opened d listener).2.InStep where
  open_eq id := by
    rw [get?_windows_opened h, get?_receivers_opened h]
    split
    · rfl
    · exact h.open_eq id
  index_le id hid := by
    rw [get?_receivers_opened h] at hid
    split at hid
    case isTrue hnew => exact hnew.1 ▸ (positions_opened r d listener).2 h
    case isFalse => exact Nat.le_trans (h.index_le id hid) (positions_opened r d listener).1
  vacant_le v hv :=
    Nat.le_trans (h.vacant_le v (List.mem_of_mem_tail hv)) (positions_opened r d listener).1
  vacant_free v hv id hid := by
    rw [get?_receivers_opened h, if_neg]
    · exact h.vacant_free v (List.mem_of_mem_tail hv) id hid
    · rintro ⟨rfl, -⟩
      -- The position of the new id was the head of the vacant ones, which differ pairwise.
      have hnodup := h.vacant_nodup
      simp only [opened, OpenWindows.create] at hv
      cases hvacant : r.windows.vacant with
      | nil => simp [hvacant] at hv
      | cons first rest =>
        rw [hvacant, List.map_cons, List.nodup_cons] at hnodup
        rw [hvacant, List.tail_cons] at hv
        simp only [OpenWindows.nextId, hvacant, List.headD_cons] at hid
        exact hnodup.1 (hid ▸ List.mem_map_of_mem hv)
  vacant_nodup := by
    have htail := h.vacant_nodup.tail
    rwa [← List.map_tail] at htail

/-! ### Closing -/

theorem get?_receivers_closed_self (r : Router C) (id : WindowId) :
    (r.closed id).receivers.get? id = none :=
  IdMap.get?_erase_self r.receivers id

theorem get?_receivers_closed_of_ne (r : Router C) {id other : WindowId} (h : id ≠ other) :
    (r.closed id).receivers.get? other = r.receivers.get? other :=
  IdMap.get?_erase_of_ne h

theorem windows_close_of_get? {ws : OpenWindows} {id : WindowId} {w : Window}
    (h : ws.get? id = some w) :
    (ws.close id).2 =
      { ws with live := ws.live.erase id, vacant := id.successor :: ws.vacant } := by
  rw [OpenWindows.get?] at h
  simp [OpenWindows.close, OpenWindows.contains, IdMap.contains, h]

/-- The window that is closed was the only one at its position. -/
theorem vacant_closed_self {r : Router C} {id : WindowId} {receiver : Receiver C}
    (hid : r.receivers.get? id = some receiver) : (r.closed id).receivers.Vacant id.index := by
  intro other hindex
  by_cases hother : id = other
  · exact hother ▸ get?_receivers_closed_self r id
  · rw [get?_receivers_closed_of_ne r hother]
    cases hsome : r.receivers.get? other with
    | none => rfl
    | some receiver' => exact absurd (IdMap.eq_of_index_eq hid hsome hindex.symm) hother

theorem vacant_closed {r : Router C} {index : Nat} (h : r.receivers.Vacant index) (id : WindowId) :
    (r.closed id).receivers.Vacant index := by
  intro other hindex
  by_cases hother : id = other
  · exact hother ▸ get?_receivers_closed_self r id
  · rw [get?_receivers_closed_of_ne r hother]
    exact h other hindex

theorem inStep_closed {r : Router C} (h : r.InStep) {id : WindowId} {receiver : Receiver C}
    (hid : r.receivers.get? id = some receiver) : (r.closed id).InStep := by
  have hopen := h.open_eq id
  rw [hid, Option.isSome_some] at hopen
  obtain ⟨w, hw⟩ := Option.isSome_iff_exists.mp hopen
  have hwindows : (r.closed id).windows = _ := windows_close_of_get? hw
  constructor
  · intro other
    rw [hwindows]
    by_cases hother : id = other
    · rw [← hother, get?_receivers_closed_self]
      simp [OpenWindows.get?]
    · rw [get?_receivers_closed_of_ne r hother, ← h.open_eq other]
      simp [OpenWindows.get?, IdMap.get?_erase_of_ne hother]
  · intro other hother
    rw [hwindows]
    by_cases heq : id = other
    · rw [← heq, get?_receivers_closed_self] at hother
      simp at hother
    · rw [get?_receivers_closed_of_ne r heq] at hother
      exact h.index_le other hother
  · intro v hv
    rw [hwindows] at hv ⊢
    rcases List.mem_cons.mp hv with rfl | hv
    · exact h.index_le id (by simp [hid])
    · exact h.vacant_le v hv
  · intro v hv
    rw [hwindows] at hv
    rcases List.mem_cons.mp hv with rfl | hv
    · exact vacant_closed_self hid
    · exact vacant_closed (h.vacant_free v hv) id
  · rw [hwindows]
    refine List.nodup_cons.mpr ⟨fun hmem ↦ ?_, h.vacant_nodup⟩
    obtain ⟨v, hv, hindex⟩ := List.mem_map.mp hmem
    have hnone := h.vacant_free v hv id hindex.symm
    rw [hid] at hnone
    exact absurd hnone (Option.some_ne_none _)

/-! ### Changes of what is stored -/

theorem get?_receivers_modifyReceiver_self (r : Router C) (id : WindowId)
    (f : Receiver C → Receiver C) :
    (r.modifyReceiver id f).receivers.get? id = (r.receivers.get? id).map f :=
  IdMap.get?_modify_self r.receivers id f

/-- Changing what is going on in a window to what it is changes nothing. -/
theorem modifyReceiver_eq_self {r : Router C} {id : WindowId} {f : Receiver C → Receiver C}
    (h : ∀ receiver, r.receivers.get? id = some receiver → f receiver = receiver) :
    r.modifyReceiver id f = r := by
  rw [modifyReceiver, IdMap.modify_eq_self h]

theorem get?_receivers_modifyReceiver_of_ne (r : Router C) {id other : WindowId} (h : id ≠ other)
    (f : Receiver C → Receiver C) :
    (r.modifyReceiver id f).receivers.get? other = r.receivers.get? other :=
  IdMap.get?_modify_of_ne h f

/-- Changing what is stored under an id adds no id and removes none. -/
theorem isSome_get?_modify {α : Type} (m : IdMap α) (id other : WindowId) (f : α → α) :
    ((m.modify id f).get? other).isSome = (m.get? other).isSome := by
  by_cases h : id = other
  · rw [← h, IdMap.get?_modify_self, Option.isSome_map]
  · rw [IdMap.get?_modify_of_ne h]

theorem inStep_modifyReceiver {r : Router C} (h : r.InStep) (id : WindowId)
    (f : Receiver C → Receiver C) : (r.modifyReceiver id f).InStep :=
  h.congr (fun _ ↦ rfl) (fun other ↦ isSome_get?_modify r.receivers id other f) rfl rfl

theorem inStep_modifyWindow {r : Router C} (h : r.InStep) (id : WindowId) (f : Window → Window) :
    (r.modifyWindow id f).InStep :=
  h.congr (fun other ↦ isSome_get?_modify r.windows.live id other f) (fun _ ↦ rfl) rfl rfl

theorem inStep_attachHost {r : Router C} (h : r.InStep) (host : C.Host) :
    ({ r with host := some host } : Router C).InStep :=
  h.congr (fun _ ↦ rfl) (fun _ ↦ rfl) rfl rfl

/-- Announcing a window changes nothing about which windows are open. -/
theorem windows_announceWith (ws : OpenWindows) (f : Window → Window) :
    (∀ id, ((ws.announceWith f).2.get? id).isSome = (ws.get? id).isSome) ∧
      (ws.announceWith f).2.size = ws.size ∧ (ws.announceWith f).2.vacant = ws.vacant ∧
      (ws.announceWith f).2.positions = ws.positions := by
  simp only [OpenWindows.announceWith, OpenWindows.announce]
  cases ws.created.dropWhile fun id ↦ !ws.contains id with
  | nil => exact ⟨fun _ ↦ rfl, rfl, rfl, rfl⟩
  | cons id rest =>
    exact ⟨fun other ↦ isSome_get?_modify ws.live id other f, IdMap.size_modify ws.live id f,
      rfl, rfl⟩

theorem inStep_announceWith {r : Router C} (h : r.InStep) (f : Window → Window) :
    (r.announceWith f).2.InStep := by
  obtain ⟨hopen, -, hvacant, hpositions⟩ := windows_announceWith r.windows f
  exact h.congr hopen (fun _ ↦ rfl) hvacant hpositions

end Router

end WindowRouting
