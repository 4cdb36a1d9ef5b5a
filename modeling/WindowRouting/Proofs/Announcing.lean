import WindowRouting.Proofs.Arena
import WindowRouting.Proofs.Creations
import WindowRouting.Proofs.Locality

/-!
Announcing the windows that were created. The queue of a store has the end of the list of all ids
that were given out; every open window that is not in the queue any more was announced, and no id in
the queue was (`OpenWindows.Announcing`). Each operation keeps this (`Announcing.change`), and in
such a store the window that is announced next is the one that was created first among those that
are open and were not announced (`Announcing.picksNext`). Whatever a router does is such a change of
its windows (`Watch.change_step`), so the same holds of the windows that a router announces
(`created_windows_announced_once`).
-/

set_option autoImplicit false
set_option relaxedAutoImplicit false

namespace WindowRouting

variable {C : Client} {σ : Type}

/-- The window is open and was not announced. -/
def isPending (isOpen : WindowId → Bool) (announced : List WindowId) (id : WindowId) : Bool :=
  isOpen id && !announced.contains id

/-- The window that is picked was created first among those that are open and were not announced. It
is missing exactly if all open windows were announced. -/
structure PicksNext (isOpen : WindowId → Bool) (created announced : List WindowId)
    (next : Option WindowId) : Prop where
  eq_find? : next = created.find? (isPending isOpen announced)
  isOpen_of_mem : ∀ id ∈ next, isOpen id
  not_mem_of_mem : ∀ id ∈ next, id ∉ announced
  eq_none_iff : next = none ↔ ∀ id, isOpen id → id ∈ announced

section

variable {isOpen : WindowId → Bool} {created announced : List WindowId} {id : WindowId}

theorem isPending_iff : isPending isOpen announced id ↔ isOpen id ∧ id ∉ announced := by
  simp [isPending]

theorem picksNext_find? (hopen : ∀ id, isOpen id → id ∈ created) :
    PicksNext isOpen created announced (created.find? (isPending isOpen announced)) where
  eq_find? := rfl
  isOpen_of_mem id hid :=
    (isPending_iff.mp (List.find?_some (Option.mem_def.mp hid))).1
  not_mem_of_mem id hid :=
    (isPending_iff.mp (List.find?_some (Option.mem_def.mp hid))).2
  eq_none_iff := by
    simp only [List.find?_eq_none, isPending_iff, not_and_not_right]
    exact ⟨fun hall id hid ↦ hall id (hopen id hid) hid, fun hall id _ ↦ hall id⟩

end

namespace OpenWindows

/-- The ids of the windows that were announced, in order. -/
def announcedIds (ws : OpenWindows) (ops : List Op) : List WindowId :=
  (ws.trace ops).filterMap (·.2.announced?)

theorem announcedIds_snoc (ws : OpenWindows) (ops : List Op) (op : Op) :
    ws.announcedIds (ops ++ [op]) =
      ws.announcedIds ops ++ ((ws.performAll ops).perform op).1.announced?.toList := by
  rw [announcedIds, trace_snoc, List.filterMap_append, List.filterMap_cons]
  cases ((ws.performAll ops).perform op).1.announced? <;> rfl

/-- The ids in `created` were given out, and of these windows the ones in `announced` have been
announced. The queue has the last ids that were given out. -/
structure Announcing (ws : OpenWindows) (created announced : List WindowId) : Prop where
  issued : ws.Issued created
  queue : ∃ passed, created = passed ++ ws.created ∧ announced ⊆ passed ∧
    ∀ id ∈ passed, (ws.get? id).isSome → id ∈ announced
  nodup : announced.Nodup

theorem announcing_empty : empty.Announcing [] [] :=
  ⟨issued_empty, ⟨[], rfl, List.Subset.refl _, nofun⟩, List.nodup_nil⟩

section

variable {ws ws' : OpenWindows} {created announced : List WindowId} {new next : Option WindowId}

/-- An id in the queue was not announced. -/
theorem Announcing.not_mem_of_queued (h : ws.Announcing created announced) {id : WindowId}
    (hid : id ∈ ws.created) : id ∉ announced := by
  obtain ⟨passed, hcreated, hsubset, -⟩ := h.queue
  have hnodup := h.issued.nodup
  rw [hcreated] at hnodup
  exact fun hmem ↦ List.disjoint_of_nodup_append hnodup (hsubset hmem) hid

/-- Announcing takes the first open window out of the queue, with those before it. -/
theorem Announcing.announceWith (h : ws.Announcing created announced)
    (hfew : created.length < 2 ^ 31) (f : Window → Window) :
    (ws.announceWith f).2.Announcing created
      (announced ++ ((ws.announceWith f).1.map (·.1)).toList) := by
  have hissued := h.issued.change hfew (.announced f)
  have hopen := (Router.windows_announceWith ws f).1
  rw [Option.toList_none, List.append_nil] at hissued
  obtain ⟨passed, hcreated, hsubset, hpassed⟩ := h.queue
  rcases ws.announceWith_cases f with ⟨hclosed, heq⟩ | ⟨gone, id, rest, w, hqueue, hgone, -, heq⟩
  · rw [heq] at hissued hopen ⊢
    rw [Option.map_none, Option.toList_none, List.append_nil]
    refine ⟨hissued, ⟨created, (List.append_nil _).symm, fun other hother ↦ ?_,
      fun other hother hsome ↦ ?_⟩, h.nodup⟩
    · exact hcreated ▸ List.mem_append_left _ (hsubset hother)
    · rw [hopen] at hsome
      rcases List.mem_append.mp (hcreated ▸ hother) with hold | hqueued
      · exact hpassed other hold hsome
      · rw [hclosed other hqueued] at hsome
        exact nomatch hsome
  · have hfresh : id ∉ announced := h.not_mem_of_queued (by rw [hqueue]; simp)
    rw [heq] at hissued hopen ⊢
    refine ⟨hissued, ⟨passed ++ (gone ++ [id]), ?_, ?_, fun other hother hsome ↦ ?_⟩, ?_⟩
    · rw [hcreated, hqueue, List.append_assoc, List.append_assoc]
      rfl
    · exact List.append_subset.mpr ⟨fun other hother ↦ List.mem_append_left _ (hsubset hother),
        fun other hother ↦ List.mem_append_right _ (List.mem_append_right _ hother)⟩
    · rw [hopen] at hsome
      rcases List.mem_append.mp hother with hold | hother
      · exact List.mem_append_left _ (hpassed other hold hsome)
      · rcases List.mem_append.mp hother with hskipped | hid
        · rw [hgone other hskipped] at hsome
          exact nomatch hsome
        · exact List.mem_append_right _ hid
    · rw [Option.map_some, Option.toList_some, ← List.concat_eq_append]
      exact .concat hfresh h.nodup

theorem Announcing.change (h : ws.Announcing created announced) (hfew : created.length < 2 ^ 31)
    (hchange : ws.Change new next ws') :
    ws'.Announcing (created ++ new.toList) (announced ++ next.toList) := by
  have hissued := h.issued.change hfew hchange
  obtain ⟨passed, hcreated, hsubset, hpassed⟩ := h.queue
  cases hchange with
  | opened d =>
    rw [Option.toList_none, List.append_nil]
    refine ⟨hissued, ⟨passed, ?_, hsubset, fun id hid hopen ↦ ?_⟩, h.nodup⟩
    · rw [hcreated, List.append_assoc]
      rfl
    · rcases h.issued.open_create hopen with rfl | hopen
      · exact absurd (hcreated ▸ List.mem_append_left _ hid) h.issued.nextId_not_mem
      · exact hpassed id hid hopen
  | closed id =>
    rw [Option.toList_none, List.append_nil] at hissued ⊢
    rw [List.append_nil]
    refine ⟨hissued, ⟨passed, ?_, hsubset, fun other hother hopen ↦ ?_⟩, h.nodup⟩
    · rw [hcreated]
      unfold close
      split <;> rfl
    · rw [get?_close] at hopen
      split at hopen
      case isTrue => exact nomatch hopen
      case isFalse => exact hpassed other hother hopen
  | rewritten hopen hvacant hpositions hqueue =>
    rw [Option.toList_none, List.append_nil] at hissued ⊢
    rw [List.append_nil]
    refine ⟨hissued, ⟨passed, hqueue ▸ hcreated, hsubset, fun id hid hsome ↦ ?_⟩, h.nodup⟩
    exact hpassed id hid (hopen id ▸ hsome)
  | announced f =>
    rw [Option.toList_none, List.append_nil]
    exact h.announceWith hfew f

/-- The window that is announced next. -/
theorem Announcing.picksNext (h : ws.Announcing created announced) (f : Window → Window) :
    PicksNext ws.contains created announced ((ws.announceWith f).1.map (·.1)) := by
  have hfind : (ws.announceWith f).1.map (·.1) =
      created.find? (isPending ws.contains announced) := by
    obtain ⟨passed, hcreated, -, hpassed⟩ := h.queue
    have hclosed {id : WindowId} (hid : ws.get? id = none) :
        ¬isPending ws.contains announced id := fun hpending ↦ by
      have hopen : (ws.get? id).isSome := (isPending_iff.mp hpending).1
      rw [hid] at hopen
      exact nomatch hopen
    have hbefore {id : WindowId} (hid : id ∈ passed) : ¬isPending ws.contains announced id :=
      fun hpending ↦ (isPending_iff.mp hpending).2 (hpassed id hid (isPending_iff.mp hpending).1)
    rw [eq_comm]
    rcases ws.announceWith_cases f with
      ⟨hqueue, heq⟩ | ⟨gone, id, rest, w, hqueue, hgone, hid, heq⟩
    · rw [heq]
      refine List.find?_eq_none.mpr fun id hid ↦ ?_
      rcases List.mem_append.mp (hcreated ▸ hid) with hold | hqueued
      · exact hbefore hold
      · exact hclosed (hqueue id hqueued)
    · have hpending : isPending ws.contains announced id :=
        isPending_iff.mpr ⟨congrArg Option.isSome hid, h.not_mem_of_queued (by rw [hqueue]; simp)⟩
      rw [heq]
      refine List.find?_eq_some_iff_append.mpr ⟨hpending, passed ++ gone, rest, ?_, ?_⟩
      · rw [hcreated, hqueue, List.append_assoc]
      · intro other hother
        rw [Bool.not_eq_true', ← Bool.not_eq_true]
        rcases List.mem_append.mp hother with hold | hskipped
        · exact hbefore hold
        · exact hclosed (hgone other hskipped)
  rw [hfind]
  exact picksNext_find? h.issued.mem_of_open

end

theorem Announcing.performAll (ops : List Op) (hfew : (empty.createdIds ops).length < 2 ^ 31) :
    (empty.performAll ops).Announcing (empty.createdIds ops) (empty.announcedIds ops) := by
  induction ops using List.reverseRecOn with
  | nil => exact announcing_empty
  | append_singleton ops op ih =>
    rw [createdIds_snoc, List.length_append] at hfew
    have hops : (empty.createdIds ops).length < 2 ^ 31 := by omega
    rw [createdIds_snoc, announcedIds_snoc, performAll_snoc]
    exact (ih hops).change hops (change_perform _ op)

end OpenWindows

/-! ### One router -/

/-- The id of the window that was created. -/
def Answer.created? : Answer → Option WindowId
  | .created new _ => some new
  | _ => none

/-- The id of the window that was announced. -/
def Answer.announced? : Answer → Option WindowId
  | .announced entry => entry.map (·.1)
  | _ => none

namespace Router

variable {r r' : Router C}

theorem change_of_deliver {id : WindowId} {e : Event} {plan : Plan C (Router C) Reply}
    (hplan : r.deliver id e = .ok plan) (hp : plan.Leaves r') :
    r.windows.Change none none r'.windows := by
  cases hfind : r.find? id with
  | none =>
    rw [deliver_of_none hfind] at hplan
    exact nomatch hplan
  | some found =>
    rw [deliver_of_find? hfind] at hplan
    obtain rfl := Except.ok.inj hplan
    obtain ⟨a, rfl, -⟩ := Plan.leaves_map hp
    cases a with
    | scale scale => exact OpenWindows.change_modify r.windows id _
    | _ => exact .refl r.windows

/-- What a request does to the windows, and the ids in its answer. -/
theorem change_of_serve {q : Request C} {plan : Plan C (Router C) Answer}
    (hplan : r.serve q = .ok plan) (W : World C σ) (w : σ) :
    r.windows.Change ((plan.run W w).1.bind Answer.created?)
      ((plan.run W w).1.bind Answer.announced?) (plan.run W w).2.1.windows := by
  -- A plan whose answers name no window.
  have hnone {α : Type} {inner : Plan C (Router C) α} {f : α → Answer}
      (hf : ∀ a, (f a).created? = none ∧ (f a).announced? = none)
      (hinner : ∀ r', inner.Leaves r' → r.windows.Change none none r'.windows) :
      r.windows.Change (((inner.mapAnswer f).run W w).1.bind Answer.created?)
        (((inner.mapAnswer f).run W w).1.bind Answer.announced?)
        ((inner.mapAnswer f).run W w).2.1.windows := by
    have hchange := hinner _ (Plan.leaves_run W inner w)
    rw [Plan.mapAnswer, Plan.run_map]
    simp only
    cases (inner.run W w).1 with
    | none => exact hchange
    | some a => simpa only [Option.map_some, Option.bind_some, hf] using hchange
  cases q with
  | create d listener =>
    obtain rfl := Except.ok.inj hplan
    exact .opened d
  | close id =>
    obtain ⟨inner, hinner, rfl⟩ := map_eq_ok hplan
    refine hnone (fun _ ↦ ⟨rfl, rfl⟩) fun r' hr' ↦ ?_
    obtain ⟨-, rfl⟩ := eq_closed_of_close hinner hr'
    exact .closed id
  | send id e =>
    obtain ⟨inner, hinner, rfl⟩ := map_eq_ok hplan
    exact hnone (fun _ ↦ ⟨rfl, rfl⟩) fun r' hr' ↦ change_of_deliver hinner hr'
  | announce patch =>
    obtain rfl := Except.ok.inj hplan
    exact .announced patch.apply
  | resolve h =>
    obtain ⟨_, -, rfl⟩ := map_eq_ok hplan
    exact .refl r.windows
  | attachHost | config | handle | window | windows =>
    obtain rfl := Except.ok.inj hplan
    exact .refl r.windows

theorem change_serve (r : Router C) (q : Request C) (W : World C σ) (w : σ) :
    ∃ r', ((Seat.taken r).serve W q w).2.1 = .taken r' ∧ r.windows.Change
      (((Seat.taken r).serve W q w).1.toOption.join.bind Answer.created?)
      (((Seat.taken r).serve W q w).1.toOption.join.bind Answer.announced?) r'.windows := by
  have hrouter : (Seat.taken r).router.bind (·.serve q) = r.serve q := rfl
  simp only [Seat.serve, hrouter]
  cases hserve : r.serve q with
  | error e => exact ⟨r, rfl, .refl r.windows⟩
  | ok plan => exact ⟨_, rfl, change_of_serve hserve W w⟩

theorem change_signal (r : Router C) (h : Handle) (q : Signal) (W : World C σ) (w : σ) :
    ∃ r', ((Seat.taken r).signal W h q w).2.1 = .taken r' ∧
      r.windows.Change none none r'.windows := by
  have hrouter : (Seat.taken r).router.bind (·.signal h q) = r.signal h q := rfl
  simp only [Seat.signal, hrouter]
  cases hsignal : r.signal h q with
  | error e => exact ⟨r, rfl, .refl r.windows⟩
  | ok plan =>
    obtain ⟨id, e, -, -, hdeliver⟩ := signal_eq_ok hsignal
    have hchange := change_of_deliver hdeliver (Plan.leaves_run W plan w)
    simp only
    split
    case h_1 heq => exact ⟨_, rfl, by rwa [heq] at hchange⟩
    case h_2 heq => exact ⟨_, rfl, by rwa [heq] at hchange⟩

end Router

/-! ### Runs -/

/-- The ids of the places of one router. -/
def idsIn (places : List Place) (router : Nat) : List WindowId :=
  (places.filter fun place ↦ place.router = router).map (·.id)

theorem idsIn_append (places places' : List Place) (i : Nat) :
    idsIn (places ++ places') i = idsIn places i ++ idsIn places' i := by
  rw [idsIn, List.filter_append, List.map_append]
  rfl

theorem idsIn_eq_nil {places : List Place} {i : Nat} (h : ∀ place ∈ places, place.router < i) :
    idsIn places i = [] := by
  rw [idsIn, List.filter_eq_nil_iff.mpr, List.map_nil]
  exact fun place hplace hrouter ↦ Nat.ne_of_lt (h place hplace) (of_decide_eq_true hrouter)

/-- The place of the window that was created. -/
def Creation.place (c : Creation) : Place := ⟨c.router, c.id⟩

theorem map_id_createdIn (log : List Creation) (i : Nat) :
    (createdIn log i).map (·.id) = idsIn (log.map Creation.place) i := by
  rw [idsIn, List.filter_map, List.map_map]
  rfl

namespace Watch

/-- The answer to a request, if there is one. -/
def answer? (W : World C σ) (s : Watch C σ) (q : Request C) : Option Answer :=
  (s.roster.seat.serve (W.watched s.acts) (q.ticketed s.acts) (s.world, s.history)).1.toOption.join

/-- The place of the window that an act announces. -/
def announcement? (W : World C σ) (s : Watch C σ) : Act C σ → Option Place
  | .request q => s.roster.installed.bind fun i ↦
      ((s.answer? W q).bind Answer.announced?).map (Place.mk i)
  | _ => none

variable {W : World C σ} {s : Watch C σ}

theorem creation?_request (q : Request C) :
    (s.creation? W (.request q)).map Creation.place = s.roster.installed.bind fun i ↦
      ((s.answer? W q).bind Answer.created?).map (Place.mk i) := by
  simp only [creation?, answer?]
  cases s.roster.installed with
  | none => rfl
  | some i =>
    cases (s.roster.seat.serve (W.watched s.acts) (q.ticketed s.acts) (s.world, s.history)).1 with
    | error e => rfl
    | ok answer =>
      cases answer with
      | none => rfl
      | some answer => cases answer <;> rfl

theorem idsIn_bind_of_current {i j : Nat} {r : Router C.ticketed}
    (hcurrent : s.roster.current = some (i, r)) (o : Option WindowId) :
    idsIn (s.roster.installed.bind fun i ↦ o.map (Place.mk i)).toList j =
      if i = j then o.toList else [] := by
  rw [(Roster.current_eq_some_iff.mp hcurrent).1, Option.bind_some]
  cases o with
  | none => exact (ite_self _).symm
  | some id =>
    by_cases hij : i = j
    · simp [idsIn, hij]
    · simp [idsIn, hij]

/-- What an act does to the windows of router number `j`, and the ids that it gives out and
announces there. -/
inductive Affects (W : World C σ) (s : Watch C σ) (a : Act C σ) (j : Nat) (r' : Router C.ticketed) :
    Prop
  | installed (hj : j = s.roster.routers.length) (hr' : r'.windows = .empty)
      (hcreation : s.creation? W a = none) (hannouncement : s.announcement? W a = none)
  | changed {r : Router C.ticketed} {new announced : Option WindowId}
      (hr : s.roster.routers[j]? = some r) (hchange : r.windows.Change new announced r'.windows)
      (hnew : idsIn ((s.creation? W a).map Creation.place).toList j = new.toList)
      (hannounced : idsIn (s.announcement? W a).toList j = announced.toList)

theorem affects_of_same {a : Act C σ} {j : Nat} {r : Router C.ticketed}
    (hr : s.roster.routers[j]? = some r) (hcreation : s.creation? W a = none)
    (hannouncement : s.announcement? W a = none) : s.Affects W a j r :=
  .changed hr (.refl r.windows) (by rw [hcreation]; rfl) (by rw [hannouncement]; rfl)

/-- The router in the seat has changed, and the others have not. -/
theorem affects_of_set {a : Act C σ} {i j : Nat} {r r₁ r' : Router C.ticketed}
    {new announced : Option WindowId} (hcurrent : s.roster.current = some (i, r))
    (hchange : r.windows.Change new announced r₁.windows)
    (hcreation : (s.creation? W a).map Creation.place =
      s.roster.installed.bind fun i ↦ new.map (Place.mk i))
    (hannouncement : s.announcement? W a =
      s.roster.installed.bind fun i ↦ announced.map (Place.mk i))
    (hr' : (s.roster.routers.set i r₁)[j]? = some r') : s.Affects W a j r' := by
  rw [Roster.getElem?_set_of_current hcurrent] at hr'
  by_cases hij : i = j
  · subst hij
    rw [if_pos rfl] at hr'
    obtain rfl := Option.some.inj hr'
    refine .changed (Roster.current_eq_some_iff.mp hcurrent).2 hchange ?_ ?_
    · rw [hcreation, idsIn_bind_of_current hcurrent, if_pos rfl]
    · rw [hannouncement, idsIn_bind_of_current hcurrent, if_pos rfl]
  · rw [if_neg hij] at hr'
    refine .changed hr' (OpenWindows.Change.refl r'.windows) ?_ ?_
    · rw [hcreation, idsIn_bind_of_current hcurrent, if_neg hij, Option.toList_none]
    · rw [hannouncement, idsIn_bind_of_current hcurrent, if_neg hij, Option.toList_none]

theorem affects_request (q : Request C) {j : Nat} {r' : Router C.ticketed}
    (hr' : (s.step W (.request q)).roster.routers[j]? = some r') :
    s.Affects W (.request q) j r' := by
  cases hcurrent : s.roster.current with
  | none =>
    have hseat := Roster.seat_of_none hcurrent
    have hanswer : s.answer? W q = none := by
      simp only [answer?, hseat]
      rfl
    have hrouters : (s.step W (.request q)).roster.routers = s.roster.routers := by
      change (s.roster.update _).routers = _
      rw [Roster.update_of_none hcurrent]
    refine affects_of_same (hrouters ▸ hr') ?_ ?_
    · rw [← Option.map_eq_none_iff, creation?_request, hanswer]
      cases s.roster.installed <;> rfl
    · rw [announcement?, hanswer]
      cases s.roster.installed <;> rfl
  | some found =>
    obtain ⟨i, r⟩ := found
    obtain ⟨r₁, hserve, hchange⟩ := Router.change_serve r (q.ticketed s.acts) (W.watched s.acts)
      (s.world, s.history)
    have hseat := Roster.seat_of_current hcurrent
    rw [← hseat] at hserve hchange
    have hrouters : (s.step W (.request q)).roster.routers = s.roster.routers.set i r₁ := by
      simp only [step, Act.ticketed, Act.perform, hserve, Roster.update_of_current hcurrent]
    exact affects_of_set hcurrent hchange (creation?_request q) rfl (hrouters ▸ hr')

theorem affects_signal (h : Handle) (q : Signal) {j : Nat} {r' : Router C.ticketed}
    (hr' : (s.step W (.signal h q)).roster.routers[j]? = some r') :
    s.Affects W (.signal h q) j r' := by
  cases hcurrent : s.roster.current with
  | none =>
    have hrouters : (s.step W (.signal h q)).roster.routers = s.roster.routers := by
      change (s.roster.update _).routers = _
      rw [Roster.update_of_none hcurrent]
    exact affects_of_same (hrouters ▸ hr') rfl rfl
  | some found =>
    obtain ⟨i, r⟩ := found
    obtain ⟨r₁, hsignal, hchange⟩ := Router.change_signal r h q (W.watched s.acts)
      (s.world, s.history)
    have hrouters : (s.step W (.signal h q)).roster.routers = s.roster.routers.set i r₁ := by
      simp only [step, Act.ticketed, Act.perform, Roster.seat_of_current hcurrent, hsignal,
        Roster.update_of_current hcurrent]
    refine affects_of_set hcurrent hchange ?_ ?_ (hrouters ▸ hr')
    all_goals cases s.roster.installed <;> rfl

theorem affects_step {a : Act C σ} {j : Nat} {r' : Router C.ticketed}
    (hr' : (s.step W a).roster.routers[j]? = some r') : s.Affects W a j r' := by
  cases a with
  | install config =>
    change (s.roster.routers ++ [.new config])[j]? = some r' at hr'
    rcases Nat.lt_or_ge j s.roster.routers.length with hlt | hge
    · rw [List.getElem?_append_left hlt] at hr'
      exact affects_of_same hr' rfl rfl
    · rw [List.getElem?_append_right hge, List.getElem?_singleton] at hr'
      split at hr'
      case isTrue hj =>
        obtain rfl := Option.some.inj hr'
        exact .installed (Nat.le_antisymm (Nat.sub_eq_zero_iff_le.mp hj) hge) rfl rfl rfl
      case isFalse => exact nomatch hr'
  | reinstall n =>
    have hrouters : (s.step W (.reinstall n)).roster.routers = s.roster.routers := by
      simp only [step, Act.ticketed, Act.perform]
      split <;> rfl
    exact affects_of_same (hrouters ▸ hr') rfl rfl
  | uninstall => exact affects_of_same hr' rfl rfl
  | request q => exact affects_request q hr'
  | signal h q => exact affects_signal h q hr'
  | elapse change => exact affects_of_same hr' rfl rfl

theorem router_lt_of_announcement? {a : Act C σ} {place : Place}
    (hplace : s.announcement? W a = some place) : place.router < s.roster.routers.length := by
  cases a with
  | request q =>
    obtain ⟨i, hinstalled, hid⟩ := Option.bind_eq_some_iff.mp hplace
    obtain ⟨id, hanswer, rfl⟩ := Option.map_eq_some_iff.mp hid
    cases hcurrent : s.roster.current with
    | none =>
      simp only [answer?, Roster.seat_of_none hcurrent] at hanswer
      exact nomatch hanswer
    | some found =>
      obtain ⟨j, r⟩ := found
      obtain ⟨hj, hr⟩ := Roster.current_eq_some_iff.mp hcurrent
      obtain rfl := Option.some.inj (hinstalled.symm.trans hj)
      exact (List.getElem?_eq_some_iff.mp hr).1
  | _ => exact nomatch hplace

theorem length_routers_step (a : Act C σ) :
    s.roster.routers.length ≤ (s.step W a).roster.routers.length :=
  (turn_step W s a).length_le

/-- The windows in `announced` are all that were announced. -/
structure Queued (s : Watch C σ) (log : List Creation) (announced : List Place) : Prop where
  router_lt : ∀ place ∈ announced, place.router < s.roster.routers.length
  announcing : ∀ i r, s.roster.routers[i]? = some r → (createdIn log i).length < 2 ^ 31 →
    r.windows.Announcing ((createdIn log i).map (·.id)) (idsIn announced i)

theorem Queued.step {log : List Creation} {announced : List Place} (hs : s.Queued log announced)
    (hlog : s.Logged log) (a : Act C σ) : (s.step W a).Queued (log ++ (s.creation? W a).toList)
      (announced ++ (s.announcement? W a).toList) where
  router_lt place hplace := by
    refine Nat.lt_of_lt_of_le ?_ (length_routers_step a)
    rcases List.mem_append.mp hplace with hold | hnew
    · exact hs.router_lt place hold
    · exact router_lt_of_announcement? (Option.mem_toList.mp hnew)
  announcing i r' hr' hfew := by
    rw [createdIn_append, List.length_append] at hfew
    have hold : (createdIn log i).length < 2 ^ 31 := by omega
    cases affects_step hr' with
    | installed hi hwindows hcreation hannouncement =>
      subst hi
      rw [hcreation, hannouncement, hwindows, Option.toList_none, Option.toList_none,
        List.append_nil, List.append_nil, hlog.createdIn_eq_nil, idsIn_eq_nil hs.router_lt]
      exact OpenWindows.announcing_empty
    | @changed r new next hr hchange hnew hannounced =>
      have hids : (createdIn (s.creation? W a).toList i).map (·.id) = new.toList := by
        rw [map_id_createdIn, ← Option.toList_map]
        exact hnew
      rw [createdIn_append, List.map_append, hids, idsIn_append, hannounced]
      exact (hs.announcing i _ hr hold).change (by rwa [List.length_map]) hchange

end Watch

/-- The windows that were announced in a run, the oldest announcement first. -/
def announcements (W : World C σ) (w : σ) (acts : List (Act C σ)) : List Place :=
  gather (fun before a ↦ (watch W w before).announcement? W a) acts

theorem queued_watch (W : World C σ) (w : σ) (acts : List (Act C σ)) :
    (watch W w acts).Queued (creations W w acts) (announcements W w acts) := by
  induction acts using List.reverseRecOn with
  | nil => exact ⟨nofun, nofun⟩
  | append_singleton acts a ih =>
    rw [watch_snoc, creations_snoc, announcements, gather_snoc]
    exact ih.step (logged_watch W w acts) a

/-- The windows that are created are announced once, in order of creation. In every run of
operations on the open windows that opens fewer than `2 ^ 31` of them, and in every run of routers
in which the router in the seat has opened fewer than `2 ^ 31` windows, the window that is announced
next was created first among those that are open and were not announced before; none is announced
exactly if all open windows have been. The windows that were announced all differ, and announcing
one opens no window and closes none. -/
theorem created_windows_announced_once :
    (∀ (ops : List OpenWindows.Op) (f : Window → Window),
      (OpenWindows.empty.createdIds ops).length < 2 ^ 31 →
      let ws := OpenWindows.empty.performAll ops
      PicksNext ws.contains (OpenWindows.empty.createdIds ops)
        (OpenWindows.empty.announcedIds ops) ((ws.announceWith f).1.map (·.1)) ∧
      (OpenWindows.empty.announcedIds ops).Nodup ∧
      (∀ id, (ws.announceWith f).2.contains id = ws.contains id)) ∧
    ∀ {C : Client} {σ : Type} (W : World C σ) (w : σ) (acts : List (Act C σ)) (i : Nat)
      (r : Router C.ticketed) (patch : WindowPatch),
      (watch W w acts).roster.current = some (i, r) →
      (createdIn (creations W w acts) i).length < 2 ^ 31 →
      ∃ entry r', (watch W w acts).answer? W (.announce patch) = some (.announced entry) ∧
        PicksNext r.windows.contains ((createdIn (creations W w acts) i).map (·.id))
          (idsIn (announcements W w acts) i) (entry.map (·.1)) ∧
        (idsIn (announcements W w acts) i).Nodup ∧
        (watch W w (acts ++ [.request (.announce patch)])).roster.current = some (i, r') ∧
        ∀ id, r'.windows.contains id = r.windows.contains id := by
  refine ⟨fun ops f hfew ↦ ?_, fun W w acts i r patch hcurrent hfew ↦ ?_⟩
  · have hannouncing := OpenWindows.Announcing.performAll ops hfew
    exact ⟨hannouncing.picksNext f, hannouncing.nodup, (Router.windows_announceWith _ f).1⟩
  · have hr := (Roster.current_eq_some_iff.mp hcurrent).2
    have hannouncing := (queued_watch W w acts).announcing i r hr hfew
    refine ⟨(r.windows.announceWith patch.apply).1, (r.announceWith patch.apply).2, ?_,
      hannouncing.picksNext patch.apply, hannouncing.nodup, ?_,
      (Router.windows_announceWith r.windows patch.apply).1⟩
    · rw [Watch.answer?, Roster.seat_of_current hcurrent]
      rfl
    · rw [watch_snoc]
      simp only [Watch.step, Act.ticketed, Act.perform, Roster.seat_of_current hcurrent]
      exact Roster.current_update hcurrent _

/-- The window that was created first is closed, so the second one is announced, and by then there
is none left. -/
theorem second_window_announced :
    (((OpenWindows.empty.performAll [.create default, .create default, .close ⟨1, 1⟩]).announceWith
      id).1.map (·.1) = some ⟨2, 1⟩) ∧
    ((OpenWindows.empty.performAll [.create default, .create default, .close ⟨1, 1⟩,
      .announce id]).announceWith id).1.map (·.1) = none := by
  obtain ⟨hfirst, -⟩ := created_windows_announced_once.1
    [.create default, .create default, .close ⟨1, 1⟩] id (by decide +kernel)
  obtain ⟨hsecond, -⟩ := created_windows_announced_once.1
    [.create default, .create default, .close ⟨1, 1⟩, .announce id] id (by decide +kernel)
  exact ⟨hfirst.eq_find?.trans (by decide +kernel), hsecond.eq_find?.trans (by decide +kernel)⟩

end WindowRouting
