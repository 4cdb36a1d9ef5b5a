import WindowRouting.Proofs.Handles
import WindowRouting.Proofs.Watch

/-!
The stores of a router agree. A router keeps what it knows of a window in four maps: the windows,
their receivers, the handles by window and the windows by handle. `Router.Agrees` says that they
hold the same ids, that the two maps of handles are inverse to each other, and that every position
was either given to an open window or is vacant, so that the positions never run out while a router
has room (`OpenWindows.capacity`). Each step keeps this (`Router.Agrees.step`), and so does opening
a window where there is room (`Router.Agrees.opened`); hence it holds whatever was done before,
failures of the client included (`Roster.Reachable.agrees`).
-/

set_option autoImplicit false
set_option relaxedAutoImplicit false

namespace WindowRouting

variable {C : Client} {σ : Type}

/-- The number of windows that can be open at once: there are as many positions before the null
index. -/
def OpenWindows.capacity : Nat := WindowId.nullIndex - 1

/-- The stores of a router hold the same ids. -/
structure Router.Agrees (r : Router C) : Prop extends Router.InStep r where
  twoWay : r.handles.TwoWay
  handle_eq : ∀ id, (r.handle? id).isSome = (r.receivers.get? id).isSome
  size_assigned : r.handles.assigned.size = r.windows.size
  size_add_vacant : r.windows.size + r.windows.vacant.length = r.windows.positions
  positions_le : r.windows.positions ≤ OpenWindows.capacity

namespace Router

variable {r r' : Router C} {id : WindowId}

theorem agrees_new (config : Config) : (Router.new config : Router C).Agrees where
  toInStep := inStep_new config
  twoWay := .empty
  handle_eq id := by simp [new, handle?, Handles.get?, Handles.empty]
  size_assigned := rfl
  size_add_vacant := rfl
  positions_le := Nat.zero_le _

/-- A change of what is stored under the ids that are there. -/
theorem Agrees.congr (h : r.Agrees) (hinStep : r'.InStep)
    (hreceivers : ∀ id, (r'.receivers.get? id).isSome = (r.receivers.get? id).isSome)
    (hhandles : r'.handles = r.handles) (hsize : r'.windows.size = r.windows.size)
    (hvacant : r'.windows.vacant = r.windows.vacant)
    (hpositions : r'.windows.positions = r.windows.positions) : r'.Agrees where
  toInStep := hinStep
  twoWay := hhandles ▸ h.twoWay
  handle_eq id := by
    rw [hreceivers, handle?, hhandles]
    exact h.handle_eq id
  size_assigned := by rw [hhandles, hsize, h.size_assigned]
  size_add_vacant := by rw [hsize, hvacant, hpositions, h.size_add_vacant]
  positions_le := hpositions ▸ h.positions_le

/-- A window with a handle is open. -/
theorem Agrees.exists_receiver (h : r.Agrees) {given : Handle} (hid : r.handle? id = some given) :
    ∃ receiver, r.receivers.get? id = some receiver := by
  have hopen := h.handle_eq id
  rw [hid, Option.isSome_some] at hopen
  exact Option.isSome_iff_exists.mp hopen.symm

/-! ### Opening -/

theorem Agrees.index_nextId_le (h : r.Agrees) (hroom : r.windows.size < OpenWindows.capacity) :
    r.windows.nextId.index ≤ OpenWindows.capacity := by
  unfold OpenWindows.nextId
  cases hvacant : r.windows.vacant with
  | nil =>
    have hfull := h.size_add_vacant
    rw [hvacant, List.length_nil, Nat.add_zero] at hfull
    exact hfull ▸ hroom
  | cons v rest => exact Nat.le_trans (h.vacant_le v (by simp [hvacant])) h.positions_le

/-- No window is opened under a null id. -/
theorem Agrees.isNull_nextId (h : r.Agrees) (hroom : r.windows.size < OpenWindows.capacity) :
    r.windows.nextId.isNull = false := by
  have hle := h.index_nextId_le hroom
  have hlt : r.windows.nextId.index < WindowId.nullIndex := Nat.lt_of_le_of_lt hle (by decide)
  exact beq_eq_false_iff_ne.mpr (Nat.ne_of_lt hlt)

theorem Agrees.byWindow_vacant_nextId (h : r.Agrees) :
    r.handles.byWindow.Vacant r.windows.nextId.index := by
  intro id hid
  have hnone := h.handle_eq id
  rw [vacant_nextId h.toInStep id hid, Option.isSome_none, Option.isSome_eq_false_iff,
    Option.isNone_iff_eq_none] at hnone
  exact hnone

/-- There are far more handles than windows. -/
theorem Agrees.size_assigned_lt (h : r.Agrees) : r.handles.assigned.size < 2 ^ 64 - 1 := by
  have hsize := h.size_assigned
  have hle := h.size_add_vacant
  have hpositions := h.positions_le
  have hcapacity : OpenWindows.capacity < 2 ^ 64 - 1 := by decide
  omega

theorem Agrees.handle?_opened (h : r.Agrees) (hroom : r.windows.size < OpenWindows.capacity)
    (d : Descriptor) (listener : C.Listener) (id : WindowId) :
    (r.opened d listener).2.handle? id =
      if id = r.windows.nextId then some r.handles.fresh else r.handle? id :=
  Handles.TwoWay.get?_insert h.byWindow_vacant_nextId (h.isNull_nextId hroom) id

theorem Agrees.receivers_opened (h : r.Agrees) (hroom : r.windows.size < OpenWindows.capacity)
    (d : Descriptor) (listener : C.Listener) (id : WindowId) :
    (r.opened d listener).2.receivers.get? id =
      if id = r.windows.nextId then some (.idle listener) else r.receivers.get? id := by
  rw [get?_receivers_opened h.toInStep, h.isNull_nextId hroom]
  simp only [and_true]

theorem Agrees.opened (h : r.Agrees) (hroom : r.windows.size < OpenWindows.capacity)
    (d : Descriptor) (listener : C.Listener) : (r.opened d listener).2.Agrees := by
  have hsize : (r.opened d listener).2.windows.size = r.windows.size + 1 :=
    IdMap.size_insert_of_vacant (windows_vacant_nextId h.toInStep) (h.isNull_nextId hroom) _
  have hassigned : (r.opened d listener).2.handles.assigned.size = r.handles.assigned.size + 1 :=
    h.twoWay.size_assigned_insert h.byWindow_vacant_nextId h.size_assigned_lt
  have hfilled := h.size_add_vacant
  refine ⟨inStep_opened h.toInStep d listener, ?_, fun id ↦ ?_, ?_, ?_, ?_⟩
  · exact h.twoWay.insert h.byWindow_vacant_nextId (h.isNull_nextId hroom) h.size_assigned_lt
  · rw [h.handle?_opened hroom, h.receivers_opened hroom]
    split
    · rfl
    · exact h.handle_eq id
  · rw [hassigned, hsize, h.size_assigned]
  · rw [hsize]
    simp only [Router.opened, OpenWindows.create]
    cases hvacant : r.windows.vacant with
    | nil =>
      rw [hvacant] at hfilled
      simpa using hfilled
    | cons v rest =>
      rw [hvacant, List.length_cons] at hfilled
      simp only [List.tail_cons, List.isEmpty_cons, Bool.false_eq_true, if_false]
      omega
  · simp only [Router.opened, OpenWindows.create]
    cases hvacant : r.windows.vacant with
    | nil =>
      rw [hvacant, List.length_nil, Nat.add_zero] at hfilled
      simp only [List.isEmpty_nil, if_true]
      exact hfilled ▸ hroom
    | cons v rest => exact h.positions_le

/-! ### Closing -/

theorem Agrees.closed (h : r.Agrees) {receiver : Receiver C}
    (hreceiver : r.receivers.get? id = some receiver) : (r.closed id).Agrees := by
  have hwindow := h.open_eq id
  have hhandle := h.handle_eq id
  rw [hreceiver, Option.isSome_some, Option.isSome_iff_exists] at hwindow hhandle
  obtain ⟨w, hw⟩ := hwindow
  obtain ⟨given, hgiven⟩ := hhandle
  have hwindows : (r.closed id).windows = _ := windows_close_of_get? hw
  have hsize : (r.closed id).windows.size + 1 = r.windows.size := by
    rw [hwindows]
    exact IdMap.size_erase_of_get? hw
  have hassigned : (r.closed id).handles.assigned.size = r.handles.assigned.size - 1 :=
    h.twoWay.size_assigned_erase hgiven
  refine ⟨inStep_closed h.toInStep hreceiver, h.twoWay.erase id, fun other ↦ ?_, ?_, ?_, ?_⟩
  · by_cases hother : id = other
    · subst hother
      rw [get?_receivers_closed_self]
      exact congrArg Option.isSome (Handles.TwoWay.get?_erase_self r.handles id)
    · rw [get?_receivers_closed_of_ne r hother, ← h.handle_eq other]
      exact congrArg Option.isSome (Handles.TwoWay.get?_erase_of_ne r.handles hother)
  · rw [hassigned, h.size_assigned, ← hsize, Nat.add_sub_cancel]
  · have hfilled := h.size_add_vacant
    rw [hwindows] at hsize ⊢
    simp only [List.length_cons]
    omega
  · rw [hwindows]
    exact h.positions_le

/-! ### The other steps -/

theorem Agrees.step (h : r.Agrees) (hstep : r.Step r') : r'.Agrees := by
  have hsame (id : WindowId) : (r.receivers.get? id).isSome = (r.receivers.get? id).isSome := rfl
  cases hstep with
  | stay => exact h
  | pointer id p =>
    exact h.congr (inStep_modifyReceiver h.toInStep id _)
      (fun other ↦ isSome_get?_modify r.receivers id other _) rfl rfl rfl rfl
  | scrolling id s =>
    exact h.congr (inStep_modifyReceiver h.toInStep id _)
      (fun other ↦ isSome_get?_modify r.receivers id other _) rfl rfl rfl rfl
  | rescaled id scale hscale =>
    exact h.congr (inStep_modifyWindow h.toInStep id _) hsame rfl
      (IdMap.size_modify r.windows.live id _) rfl rfl
  | closed hreceiver => exact h.closed hreceiver
  | announced patch =>
    obtain ⟨-, hsize, hvacant, hpositions⟩ := windows_announceWith r.windows patch.apply
    exact h.congr (inStep_announceWith h.toInStep _) hsame rfl hsize hvacant hpositions
  | hosted host => exact h.congr (inStep_attachHost h.toInStep host) hsame rfl rfl rfl rfl

end Router

/-! ### Runs -/

namespace Roster

/-- If the act opens a window, the router in the seat has room for it. -/
def hasRoomFor (s : Roster C) : Act C σ → Bool
  | .request (.create _ _) =>
    s.current.all fun found ↦ decide (found.2.windows.size < OpenWindows.capacity)
  | _ => true

/-- The rosters that acts lead to, whatever the worlds do in which they are performed. A router that
has no room for another window cannot be made to open one, so nothing is left out. -/
inductive Reachable : Roster C → Prop
  | empty : Reachable .empty
  | act {s : Roster C} {σ : Type} (hs : Reachable s) (W : World C σ) (w : σ) (a : Act C σ)
      (hroom : s.hasRoomFor a = true) : Reachable (a.perform W s w).1

variable {s : Roster C}

theorem mem_of_current {i : Nat} {r : Router C} (hcurrent : s.current = some (i, r)) :
    r ∈ s.routers :=
  List.mem_of_getElem? (current_eq_some_iff.mp hcurrent).2

theorem mem_of_seat {r : Router C} (hseat : s.seat = .taken r) : r ∈ s.routers := by
  unfold seat at hseat
  split at hseat
  case h_1 i found hcurrent =>
    obtain rfl := Seat.taken.inj hseat
    exact mem_of_current hcurrent
  case h_2 => exact nomatch hseat

theorem agrees_turn {a : Act C σ} {routers : List (Router C)}
    (hs : ∀ r ∈ s.routers, r.Agrees) (hroom : s.hasRoomFor a = true)
    (hturn : a.Turn s routers) : ∀ r ∈ routers, r.Agrees := by
  cases hturn with
  | installed config =>
    intro r hr
    rcases List.mem_append.mp hr with hold | hnew
    · exact hs r hold
    · rw [List.mem_singleton.mp hnew]
      exact Router.agrees_new config
  | unchanged => exact hs
  | stepped _ hcurrent hstep =>
    intro r hr
    rcases List.mem_or_eq_of_mem_set hr with hold | rfl
    · exact hs r hold
    · exact (hs _ (mem_of_current hcurrent)).step hstep
  | opened hcurrent d listener =>
    intro r hr
    rcases List.mem_or_eq_of_mem_set hr with hold | rfl
    · exact hs r hold
    · simp only [hasRoomFor, hcurrent, Option.all_some, decide_eq_true_eq] at hroom
      exact (hs _ (mem_of_current hcurrent)).opened hroom d listener

theorem Reachable.agrees (hs : s.Reachable) : ∀ r ∈ s.routers, r.Agrees := by
  induction hs with
  | empty => exact fun r hr ↦ absurd hr List.not_mem_nil
  | act hs W w a hroom ih => exact agrees_turn ih hroom (Act.turn_perform W _ w a)

end Roster

/-- Whatever was done with a router before, and whatever its client did, the same ids have a window,
a receiver and a handle; a window has a handle exactly if the handle refers to the window; no window
has the handle zero, and no two windows have the same handle. -/
theorem stores_agree {s : Roster C} (hs : s.Reachable) {r : Router C} (hr : r ∈ s.routers) :
    (∀ id, ((r.window? id).isSome ↔ (r.receivers.get? id).isSome) ∧
      ((r.window? id).isSome ↔ (r.handle? id).isSome)) ∧
    (∀ id h, r.handle? id = some h ↔ r.resolve h = .ok id) ∧
    (∀ id h, r.handle? id = some h → h ≠ 0) ∧
    ∀ id other h, r.handle? id = some h → r.handle? other = some h → id = other := by
  have hagrees := hs.agrees r hr
  refine ⟨fun id ↦ ⟨?_, ?_⟩, fun id h ↦ ?_, fun id h hid ↦ ?_, fun id other h hid hother ↦ ?_⟩
  · exact Bool.eq_iff_iff.mp (hagrees.open_eq id)
  · exact Bool.eq_iff_iff.mp ((hagrees.open_eq id).trans (hagrees.handle_eq id).symm)
  · exact (hagrees.twoWay.resolve_eq_ok_iff h id).symm
  · exact hagrees.twoWay.ne_zero hid
  · exact hagrees.twoWay.get?_injective hid hother

namespace Roster

/-- Nothing fails. -/
def quiet : World .bare Unit := .bare fun _ ↦ false

/-- A window was closed, and another one was opened at its position. -/
def reopened : Roster .bare :=
  ([.install default, .request (.create default ()), .request (.close ⟨1, 1⟩),
    .request (.create default ())] : List (Act .bare Unit)).foldl
      (fun s a ↦ (a.perform quiet s ()).1) .empty

theorem reachable_reopened : reopened.Reachable := by
  refine .act (.act (.act (.act .empty quiet () (.install default) ?_) quiet ()
    (.request (.create default ())) ?_) quiet () (.request (.close ⟨1, 1⟩)) ?_) quiet ()
    (.request (.create default ())) ?_
  all_goals decide +kernel

/-- The new window has a handle of its own, and the handle of the closed one refers to none. -/
theorem exists_reopened : ∃ r, reopened.current = some (0, r) ∧ r.handle? ⟨1, 3⟩ = some 2 ∧
    r.handle? ⟨1, 1⟩ = none ∧ (r.resolve 1).isOk = false := by
  have hany : (reopened.current.any fun found ↦ decide (found.1 = 0) &&
      decide (found.2.handle? ⟨1, 3⟩ = some 2) && decide (found.2.handle? ⟨1, 1⟩ = none) &&
        !(found.2.resolve 1).isOk) = true := by decide +kernel
  obtain ⟨⟨i, r⟩, hcurrent, hall⟩ := (Option.any_eq_true _ _).mp hany
  simp only [Bool.and_eq_true, decide_eq_true_eq, Bool.not_eq_true'] at hall
  obtain ⟨⟨⟨rfl, hnew⟩, hold⟩, hgiven⟩ := hall
  exact ⟨r, hcurrent, hnew, hold, hgiven⟩

end Roster

theorem reopened_stores_agree : Roster.reopened.Reachable ∧ ∃ r ∈ Roster.reopened.routers,
    r.resolve 2 = .ok ⟨1, 3⟩ ∧ (r.window? ⟨1, 3⟩).isSome ∧ r.window? ⟨1, 1⟩ = none := by
  obtain ⟨r, hcurrent, hnew, hold, -⟩ := Roster.exists_reopened
  have hr := Roster.mem_of_current hcurrent
  obtain ⟨hopen, hresolve, -, -⟩ := stores_agree Roster.reachable_reopened hr
  refine ⟨Roster.reachable_reopened, r, hr, (hresolve _ _).mp hnew, ?_, ?_⟩
  · rw [(hopen _).2, hnew, Option.isSome_some]
  · rw [← Option.not_isSome_iff_eq_none, (hopen _).2, Option.not_isSome_iff_eq_none]
    exact hold

end WindowRouting
