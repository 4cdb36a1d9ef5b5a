import Mathlib.Data.Finmap
import Mathlib.Data.List.TakeWhile
import WindowRouting.Proofs.Ids
import WindowRouting.Proofs.Stores

/-!
The open windows as a finite map. `OpenWindows.Op` lists what can be done with them, and
`WindowMap.Allows` what each operation answers and leaves if the windows are entries of a finite map
under keys that are not used twice: only a new window, a window that is closed and the windows that
an operation writes to differ afterwards. A run of operations with fewer than `2 ^ 31` creations is
allowed, answer by answer, and leaves the windows of the map (`open_windows_refine_map`).
-/

set_option autoImplicit false
set_option relaxedAutoImplicit false

namespace WindowRouting

namespace OpenWindows

/-- Changes every open window, each in its own way. -/
def modifyEach (ws : OpenWindows) (f : WindowId → Window → Window) : OpenWindows :=
  { ws with live := ⟨ws.live.entries.map fun i entry ↦ (entry.1, f ⟨i, entry.1⟩ entry.2)⟩ }

/-- All windows are changed alike. -/
theorem modifyEach_const (ws : OpenWindows) (f : Window → Window) :
    (ws.modifyEach fun _ ↦ f) = ws.modifyAll f := rfl

theorem get?_modifyEach (ws : OpenWindows) (f : WindowId → Window → Window) (id : WindowId) :
    (ws.modifyEach f).get? id = (ws.get? id).map (f id) := by
  simp only [get?, modifyEach, IdMap.get?, Std.ExtTreeMap.getElem?_map]
  cases ws.live.entries[id.index]? with
  | none => rfl
  | some entry =>
    simp only [Option.map_some]
    split
    case isTrue hversion => simp only [hversion, Option.map_some]
    case isFalse => rfl

/-- What is done with the windows. The function of a writing operation is what the caller makes of
the window that it is handed. -/
inductive Op
  | create (d : Descriptor)
  | close (id : WindowId)
  | size
  | isEmpty
  | contains (id : WindowId)
  | get (id : WindowId)
  | index (id : WindowId)
  | list
  | write (id : WindowId) (f : Window → Window)
  | writeIndex (id : WindowId) (f : Window → Window)
  | writeEach (f : WindowId → Window → Window)
  | announce (f : Window → Window)

/-- What is answered to an operation. -/
inductive Result
  | created (id : WindowId)
  | flag (flag : Bool)
  | count (n : Nat)
  | window (window : Option Window)
  | indexed (window : Except Fault Window)
  | listed (entries : List (WindowId × Window))
  | announced (entry : Option (WindowId × Window))

/-- The id of the window that was opened. -/
def Result.created? : Result → Option WindowId
  | .created id => some id
  | _ => none

/-- The id of the window that was announced. -/
def Result.announced? : Result → Option WindowId
  | .announced entry => entry.map (·.1)
  | _ => none

/-- The answer to an operation and the windows afterwards. -/
def perform (ws : OpenWindows) : Op → Result × OpenWindows
  | .create d => (.created (ws.create d).1, (ws.create d).2)
  | .close id => (.flag (ws.close id).1, (ws.close id).2)
  | .size => (.count ws.size, ws)
  | .isEmpty => (.flag ws.isEmpty, ws)
  | .contains id => (.flag (ws.contains id), ws)
  | .get id => (.window (ws.get? id), ws)
  | .index id => (.indexed (ws.get id), ws)
  | .list => (.listed ws.toList, ws)
  | .write id f => (.window (ws.get? id), ws.modify id f)
  | .writeIndex id f => (.indexed (ws.get id), ws.modify id f)
  | .writeEach f => (.listed ws.toList, ws.modifyEach f)
  | .announce f => (.announced (ws.announceWith f).1, (ws.announceWith f).2)

/-- The windows after some operations. -/
def performAll (ws : OpenWindows) (ops : List Op) : OpenWindows :=
  ops.foldl (fun ws op ↦ (ws.perform op).2) ws

/-- The operations with their answers. -/
def trace (ws : OpenWindows) : List Op → List (Op × Result)
  | [] => []
  | op :: ops => (op, (ws.perform op).1) :: (ws.perform op).2.trace ops

/-- The ids of the windows that were opened, in order. -/
def createdIds (ws : OpenWindows) (ops : List Op) : List WindowId :=
  (ws.trace ops).filterMap (·.2.created?)

theorem performAll_snoc (ws : OpenWindows) (ops : List Op) (op : Op) :
    ws.performAll (ops ++ [op]) = ((ws.performAll ops).perform op).2 := by
  rw [performAll, List.foldl_append]
  rfl

theorem trace_snoc (ws : OpenWindows) (ops : List Op) (op : Op) :
    ws.trace (ops ++ [op]) = ws.trace ops ++ [(op, ((ws.performAll ops).perform op).1)] := by
  induction ops generalizing ws with
  | nil => rfl
  | cons first ops ih =>
    rw [List.cons_append, trace, trace, ih]
    rfl

theorem createdIds_snoc (ws : OpenWindows) (ops : List Op) (op : Op) :
    ws.createdIds (ops ++ [op]) =
      ws.createdIds ops ++ ((ws.performAll ops).perform op).1.created?.toList := by
  rw [createdIds, trace_snoc, List.filterMap_append]
  cases ((ws.performAll ops).perform op).1 <;> rfl

/-! ### What an operation changes -/

/-- What an operation can do to the windows that are open and to those that are to be announced,
with the id that it gives out and the id that it announces. -/
inductive Change (ws : OpenWindows) : Option WindowId → Option WindowId → OpenWindows → Prop
  | opened (d : Descriptor) : Change ws (some ws.nextId) none (ws.create d).2
  | closed (id : WindowId) : Change ws none none (ws.close id).2
  | rewritten {ws' : OpenWindows} (hopen : ∀ id, (ws'.get? id).isSome = (ws.get? id).isSome)
    (hvacant : ws'.vacant = ws.vacant) (hpositions : ws'.positions = ws.positions)
    (hcreated : ws'.created = ws.created) : Change ws none none ws'
  | announced (f : Window → Window) :
    Change ws none ((ws.announceWith f).1.map (·.1)) (ws.announceWith f).2

theorem Change.refl (ws : OpenWindows) : ws.Change none none ws :=
  .rewritten (fun _ ↦ rfl) rfl rfl rfl

theorem change_modify (ws : OpenWindows) (id : WindowId) (f : Window → Window) :
    ws.Change none none (ws.modify id f) :=
  .rewritten (fun other ↦ Router.isSome_get?_modify ws.live id other f) rfl rfl rfl

/-- The windows that were closed are passed over, and the next one is taken if there is one. -/
theorem announceWith_cases (ws : OpenWindows) (f : Window → Window) :
    ((∀ id ∈ ws.created, ws.get? id = none) ∧
      ws.announceWith f = (none, { ws with created := [] })) ∨
    ∃ gone id rest w, ws.created = gone ++ id :: rest ∧ (∀ old ∈ gone, ws.get? old = none) ∧
      ws.get? id = some w ∧
        ws.announceWith f =
          (some (id, f w), ({ ws with created := rest } : OpenWindows).modify id f) := by
  have hclosed {id : WindowId} (h : (!ws.contains id) = true) : ws.get? id = none := by
    rw [Bool.not_eq_true', contains, IdMap.contains, Option.isSome_eq_false_iff,
      Option.isNone_iff_eq_none] at h
    exact h
  have hsplit := List.takeWhile_append_dropWhile (p := fun id ↦ !ws.contains id) (l := ws.created)
  simp only [announceWith, announce]
  cases hdrop : ws.created.dropWhile fun id ↦ !ws.contains id with
  | nil => exact Or.inl ⟨fun id hid ↦ hclosed (List.dropWhile_eq_nil_iff.mp hdrop id hid), rfl⟩
  | cons id rest =>
    have hopen : ws.contains id = true := by
      have hhead := List.head?_dropWhile_not (fun id ↦ !ws.contains id) ws.created
      rw [hdrop] at hhead
      exact Bool.not_eq_eq_eq_not.mp hhead
    obtain ⟨w, hw⟩ := Option.isSome_iff_exists.mp hopen
    rw [hdrop] at hsplit
    refine Or.inr ⟨_, id, rest, w, hsplit.symm,
      fun old hold ↦ hclosed (List.mem_takeWhile_imp (p := fun id ↦ !ws.contains id) hold), hw, ?_⟩
    have hget : (({ ws with created := rest } : OpenWindows).modify id f).get? id = some (f w) := by
      refine (IdMap.get?_modify_self ws.live id f).trans ?_
      rw [show ws.live.get? id = some w from hw, Option.map_some]
    simp only [hget, Option.map_some]

theorem change_perform (ws : OpenWindows) (op : Op) :
    ws.Change (ws.perform op).1.created? (ws.perform op).1.announced? (ws.perform op).2 := by
  cases op with
  | create d => exact .opened d
  | close id => exact .closed id
  | write id f | writeIndex id f => exact change_modify ws id f
  | writeEach f =>
    refine .rewritten (fun id ↦ ?_) rfl rfl rfl
    exact (congrArg _ (ws.get?_modifyEach f id)).trans Option.isSome_map
  | announce f => exact .announced f
  | _ => exact .refl ws

section Issued

variable {ws ws' : OpenWindows} {l : List WindowId} {new announced : Option WindowId}

theorem Issued.change (h : ws.Issued l) (hfew : l.length < 2 ^ 31)
    (hchange : ws.Change new announced ws') : ws'.Issued (l ++ new.toList) := by
  cases hchange with
  | opened d => exact h.create d
  | closed id =>
    rw [Option.toList_none, List.append_nil]
    exact h.close hfew id
  | rewritten hopen hvacant hpositions hcreated =>
    rw [Option.toList_none, List.append_nil]
    exact h.congr hopen hvacant hpositions
  | announced f =>
    obtain ⟨hopen, -, hvacant, hpositions⟩ := Router.windows_announceWith ws f
    rw [Option.toList_none, List.append_nil]
    exact h.congr hopen hvacant hpositions

/-- The null id is far off. -/
theorem Issued.isNull_nextId (h : ws.Issued l) (hfew : l.length < 2 ^ 31) :
    ws.nextId.isNull = false := by
  obtain ⟨-, hindex, hpositions⟩ := h.positions_create default
  have hne : ws.nextId.index ≠ WindowId.nullIndex := by
    simp only [WindowId.nullIndex]
    omega
  exact beq_eq_false_iff_ne.mpr hne

theorem Issued.get?_create (h : ws.Issued l) (hfew : l.length < 2 ^ 31) (d : Descriptor)
    (id : WindowId) :
    (ws.create d).2.get? id = if id = ws.nextId then some ⟨d, false⟩ else ws.get? id := by
  refine (IdMap.get?_insert_of_vacant h.vacant_nextId _ id).trans ?_
  rw [h.isNull_nextId hfew]
  exact if_congr (and_iff_left rfl) rfl rfl

/-- The answer to closing a window is whether it was open. -/
theorem close_fst (ws : OpenWindows) (id : WindowId) : (ws.close id).1 = ws.contains id := by
  unfold close
  split
  case isTrue hopen => exact hopen.symm
  case isFalse hgone => exact (Bool.eq_false_iff.mpr hgone).symm

theorem get?_close (ws : OpenWindows) (id other : WindowId) :
    (ws.close id).2.get? other = if other = id then none else ws.get? other := by
  have herase : (ws.live.erase id).get? other = if other = id then none else ws.get? other := by
    split
    case isTrue heq => rw [heq, IdMap.get?_erase_self]
    case isFalse hne => exact IdMap.get?_erase_of_ne (Ne.symm hne)
  unfold close
  split
  case isTrue => exact herase
  case isFalse hgone =>
    split
    case isTrue heq => exact heq ▸ Option.not_isSome_iff_eq_none.mp hgone
    case isFalse => rfl

end Issued

end OpenWindows

/-! ### The finite map -/

/-- Windows under ids, and the ids that have been taken for them so far. -/
structure WindowMap where
  taken : List WindowId
  windows : Finmap fun _ : WindowId ↦ Window

namespace WindowMap

/-- No id was ever taken. -/
def empty : WindowMap := ⟨[], ∅⟩

/-- The window with an id. -/
def get? (m : WindowMap) (id : WindowId) : Option Window := m.windows.lookup id

/-- The window with an id is replaced, if there is one. -/
def rewrite (m : WindowMap) (id : WindowId) (f : Window → Window) : WindowMap :=
  match m.get? id with
  | some w => { m with windows := m.windows.insert id (f w) }
  | none => m

/-- The list has every window once, by index. -/
structure ListedBy (m : WindowMap) (l : List (WindowId × Window)) : Prop where
  sorted : l.Pairwise fun a b ↦ a.1.index < b.1.index
  mem_iff : ∀ id w, (id, w) ∈ l ↔ m.get? id = some w

/-- The answer to an operation and the map afterwards. -/
inductive Allows (m : WindowMap) : OpenWindows.Op → OpenWindows.Result → WindowMap → Prop
  | create {id : WindowId} (hnew : id ∉ m.taken) (d : Descriptor) :
    Allows m (.create d) (.created id) ⟨m.taken ++ [id], m.windows.insert id ⟨d, false⟩⟩
  | close (id : WindowId) :
    Allows m (.close id) (.flag (m.get? id).isSome) ⟨m.taken, m.windows.erase id⟩
  | size : Allows m .size (.count m.windows.keys.card) m
  | isEmpty : Allows m .isEmpty (.flag (decide (m.windows.keys = ∅))) m
  | contains (id : WindowId) : Allows m (.contains id) (.flag (m.get? id).isSome) m
  | get (id : WindowId) : Allows m (.get id) (.window (m.get? id)) m
  | index {id : WindowId} {w : Window} (hid : m.get? id = some w) :
    Allows m (.index id) (.indexed (.ok w)) m
  | indexDead {id : WindowId} (hid : m.get? id = none) :
    Allows m (.index id) (.indexed (.error .deadId)) m
  | list {l : List (WindowId × Window)} (hl : m.ListedBy l) : Allows m .list (.listed l) m
  | write (id : WindowId) (f : Window → Window) :
    Allows m (.write id f) (.window (m.get? id)) (m.rewrite id f)
  | writeIndex {id : WindowId} {w : Window} (hid : m.get? id = some w) (f : Window → Window) :
    Allows m (.writeIndex id f) (.indexed (.ok w)) (m.rewrite id f)
  | writeIndexDead {id : WindowId} (hid : m.get? id = none) (f : Window → Window) :
    Allows m (.writeIndex id f) (.indexed (.error .deadId)) m
  | writeEach {l : List (WindowId × Window)} (hl : m.ListedBy l) {f : WindowId → Window → Window}
    {m' : WindowMap} (htaken : m'.taken = m.taken)
    (hall : ∀ id, m'.get? id = (m.get? id).map (f id)) : Allows m (.writeEach f) (.listed l) m'
  | announce {id : WindowId} {w : Window} (hid : m.get? id = some w) (f : Window → Window) :
    Allows m (.announce f) (.announced (some (id, f w))) (m.rewrite id f)
  | announceNone (f : Window → Window) : Allows m (.announce f) (.announced none) m

/-- Operations with their answers, from an empty map on, and the map afterwards. -/
inductive Runs : List (OpenWindows.Op × OpenWindows.Result) → WindowMap → Prop
  | new : Runs [] empty
  | step {trace : List (OpenWindows.Op × OpenWindows.Result)} {m m' : WindowMap}
    {op : OpenWindows.Op} {result : OpenWindows.Result} (hruns : Runs trace m)
    (hallows : m.Allows op result m') : Runs (trace ++ [(op, result)]) m'

variable {m m' : WindowMap} {op : OpenWindows.Op} {result : OpenWindows.Result}

@[simp] theorem taken_rewrite (m : WindowMap) (id : WindowId) (f : Window → Window) :
    (m.rewrite id f).taken = m.taken := by
  unfold rewrite
  split <;> rfl

theorem get?_rewrite (m : WindowMap) (id other : WindowId) (f : Window → Window) :
    (m.rewrite id f).get? other =
      if other = id then (m.get? id).map f else m.get? other := by
  unfold rewrite
  split
  case h_1 w hid =>
    split
    case isTrue heq => rw [heq, hid, get?, Finmap.lookup_insert, Option.map_some]
    case isFalse hne => exact Finmap.lookup_insert_of_ne _ hne
  case h_2 hid =>
    split
    case isTrue heq => rw [heq, hid, Option.map_none]
    case isFalse => rfl

theorem Allows.taken_eq (h : m.Allows op result m') :
    m'.taken = m.taken ++ result.created?.toList := by
  cases h with
  | create hnew d => rfl
  | writeEach hl htaken hall => rw [htaken]; exact (List.append_nil _).symm
  | _ => simp [OpenWindows.Result.created?]

theorem ListedBy.card_keys {l : List (WindowId × Window)} (h : m.ListedBy l) :
    m.windows.keys.card = l.length := by
  have hkeys : m.windows.keys = (l.map (·.1)).toFinset := by
    ext id
    rw [Finmap.mem_keys, Finmap.mem_iff, List.mem_toFinset, List.mem_map]
    constructor
    · rintro ⟨w, hw⟩
      exact ⟨(id, w), (h.mem_iff id w).mpr hw, rfl⟩
    · rintro ⟨⟨_, w⟩, hw, rfl⟩
      exact ⟨w, (h.mem_iff _ w).mp hw⟩
  have hnodup : (l.map (·.1)).Nodup :=
    List.pairwise_map.mpr (h.sorted.imp fun hlt heq ↦ Nat.ne_of_lt hlt (congrArg _ heq))
  rw [hkeys, List.toFinset_card_of_nodup hnodup, List.length_map]

end WindowMap

/-! ### The open windows are such a map -/

namespace OpenWindows

/-- The map has the windows that are open, and the ids that were given out. -/
structure Refines (ws : OpenWindows) (m : WindowMap) : Prop where
  issued : ws.Issued m.taken
  get?_eq : ∀ id, ws.get? id = m.get? id

theorem refines_empty : empty.Refines .empty :=
  ⟨issued_empty, fun _ ↦ IdMap.get?_empty _⟩

variable {ws : OpenWindows} {m : WindowMap}

theorem Refines.listedBy (h : ws.Refines m) : m.ListedBy ws.toList where
  sorted := IdMap.pairwise_toList ws.live
  mem_iff id w := by
    rw [← h.get?_eq]
    exact IdMap.mem_toList

theorem Refines.size_eq (h : ws.Refines m) : ws.size = m.windows.keys.card := by
  rw [h.listedBy.card_keys]
  exact (IdMap.length_toList ws.live).symm

theorem Refines.isEmpty_eq (h : ws.Refines m) :
    ws.isEmpty = decide (m.windows.keys = ∅) := by
  rw [isEmpty, h.size_eq]
  simp [Finset.card_eq_zero, beq_eq_decide]

theorem Refines.contains_eq (h : ws.Refines m) (id : WindowId) :
    ws.contains id = (m.get? id).isSome :=
  congrArg Option.isSome (h.get?_eq id)

theorem Refines.get?_modify (h : ws.Refines m) (id other : WindowId) (f : Window → Window) :
    (ws.modify id f).get? other = (m.rewrite id f).get? other := by
  rw [WindowMap.get?_rewrite, ← h.get?_eq, ← h.get?_eq]
  split
  case isTrue heq => rw [heq]; exact IdMap.get?_modify_self ws.live id f
  case isFalse hne => exact IdMap.get?_modify_of_ne (Ne.symm hne) f

/-- An operation is answered as the map allows, and leaves the windows of the map. -/
theorem Refines.perform (h : ws.Refines m) (hfew : m.taken.length < 2 ^ 31) (op : Op) :
    ∃ m', m.Allows op (ws.perform op).1 m' ∧ (ws.perform op).2.Refines m' := by
  suffices hallows : ∃ m', m.Allows op (ws.perform op).1 m' ∧
      ∀ id, (ws.perform op).2.get? id = m'.get? id by
    obtain ⟨m', hallows, hget⟩ := hallows
    refine ⟨m', hallows, ?_, hget⟩
    rw [hallows.taken_eq]
    exact h.issued.change hfew (ws.change_perform op)
  cases op with
  | create d =>
    refine ⟨_, .create h.issued.nextId_not_mem d, fun id ↦ ?_⟩
    refine (h.issued.get?_create hfew d id).trans ?_
    split
    case isTrue heq => rw [heq]; exact (Finmap.lookup_insert m.windows).symm
    case isFalse hne =>
      rw [h.get?_eq]
      exact (Finmap.lookup_insert_of_ne _ hne).symm
  | close id =>
    rw [OpenWindows.perform, close_fst, h.contains_eq]
    refine ⟨_, .close id, fun other ↦ ?_⟩
    rw [get?_close]
    split
    case isTrue heq => rw [heq]; exact (Finmap.lookup_erase id m.windows).symm
    case isFalse hne =>
      rw [h.get?_eq]
      exact (Finmap.lookup_erase_ne hne).symm
  | size =>
    rw [OpenWindows.perform, h.size_eq]
    exact ⟨m, .size, h.get?_eq⟩
  | isEmpty =>
    rw [OpenWindows.perform, h.isEmpty_eq]
    exact ⟨m, .isEmpty, h.get?_eq⟩
  | contains id =>
    rw [OpenWindows.perform, h.contains_eq]
    exact ⟨m, .contains id, h.get?_eq⟩
  | get id =>
    rw [OpenWindows.perform, h.get?_eq]
    exact ⟨m, .get id, h.get?_eq⟩
  | index id =>
    rw [OpenWindows.perform, OpenWindows.get, h.get?_eq]
    cases hid : m.get? id with
    | none => exact ⟨m, .indexDead hid, h.get?_eq⟩
    | some w => exact ⟨m, .index hid, h.get?_eq⟩
  | list => exact ⟨m, .list h.listedBy, h.get?_eq⟩
  | write id f =>
    rw [OpenWindows.perform, h.get?_eq]
    exact ⟨_, .write id f, fun other ↦ h.get?_modify id other f⟩
  | writeIndex id f =>
    rw [OpenWindows.perform, OpenWindows.get, h.get?_eq]
    cases hid : m.get? id with
    | none =>
      refine ⟨m, .writeIndexDead hid f, fun other ↦ (h.get?_modify id other f).trans ?_⟩
      rw [WindowMap.rewrite, hid]
    | some w => exact ⟨_, .writeIndex hid f, fun other ↦ h.get?_modify id other f⟩
  | writeEach f =>
    let windows := Finmap.keysLookupEquiv.symm
      ⟨(m.windows.keys, fun id ↦ (m.windows.lookup id).map (f id)), fun id ↦ by
        rw [Option.isSome_map, Finmap.lookup_isSome, Finmap.mem_keys]⟩
    have hall (id : WindowId) : windows.lookup id = (m.windows.lookup id).map (f id) :=
      Finmap.keysLookupEquiv_symm_apply_lookup _ id
    refine ⟨⟨m.taken, windows⟩, .writeEach h.listedBy rfl hall, fun id ↦ ?_⟩
    refine (ws.get?_modifyEach f id).trans ?_
    rw [h.get?_eq]
    exact (hall id).symm
  | announce f =>
    rcases ws.announceWith_cases f with ⟨-, hnone⟩ | ⟨gone, id, rest, w, -, -, hid, hsome⟩
    · rw [OpenWindows.perform, hnone]
      exact ⟨m, .announceNone f, h.get?_eq⟩
    · rw [OpenWindows.perform, hsome]
      rw [h.get?_eq] at hid
      exact ⟨_, .announce hid f, fun other ↦ h.get?_modify id other f⟩

theorem Refines.performAll (ops : List Op) (hfew : (empty.createdIds ops).length < 2 ^ 31) :
    ∃ m, WindowMap.Runs (empty.trace ops) m ∧ m.taken = empty.createdIds ops ∧
      (empty.performAll ops).Refines m := by
  induction ops using List.reverseRecOn with
  | nil => exact ⟨.empty, .new, rfl, refines_empty⟩
  | append_singleton ops op ih =>
    rw [createdIds_snoc] at hfew ⊢
    rw [List.length_append] at hfew
    obtain ⟨m, hruns, htaken, hrefines⟩ := ih (by omega)
    obtain ⟨m', hallows, hrefines'⟩ := hrefines.perform (by rw [htaken]; omega) op
    rw [trace_snoc, performAll_snoc, ← htaken]
    exact ⟨m', hruns.step hallows, hallows.taken_eq, hrefines'⟩

end OpenWindows

/-- The windows that are open are a finite map under ids that are not used twice. If fewer than
`2 ^ 31` windows are opened in a run of operations, then every operation is answered as the map
allows, and the map that is left has the windows that are open. -/
theorem open_windows_refine_map (ops : List OpenWindows.Op)
    (hfew : (OpenWindows.empty.createdIds ops).length < 2 ^ 31) :
    ∃ m, WindowMap.Runs (OpenWindows.empty.trace ops) m ∧
      m.taken = OpenWindows.empty.createdIds ops ∧
        ∀ id, (OpenWindows.empty.performAll ops).get? id = m.get? id := by
  obtain ⟨m, hruns, htaken, hrefines⟩ := OpenWindows.Refines.performAll ops hfew
  exact ⟨m, hruns, htaken, hrefines.get?_eq⟩

/-- A position is used again, and the id of the window that was closed there is looked up. -/
theorem open_windows_refine_map_reused :
    ∃ m, WindowMap.Runs (OpenWindows.empty.trace
        [.create default, .close ⟨1, 1⟩, .create default, .get ⟨1, 1⟩, .list]) m ∧
      m.taken = [⟨1, 1⟩, ⟨1, 3⟩] ∧ m.get? ⟨1, 1⟩ = none := by
  obtain ⟨m, hruns, htaken, hget⟩ := open_windows_refine_map
    [.create default, .close ⟨1, 1⟩, .create default, .get ⟨1, 1⟩, .list] (by decide +kernel)
  refine ⟨m, hruns, htaken.trans (by decide +kernel), ?_⟩
  rw [← hget, ← Option.isNone_iff_eq_none]
  decide +kernel

end WindowRouting
