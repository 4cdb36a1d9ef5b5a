import WindowRouting.Proofs.Agreement
import WindowRouting.Proofs.Ids

/-!
The windows that were created in a run. Each creation is the answer to one act, and it stands for
the id and the handle in it (`Creation`). A router with fewer than `2 ^ 31` creations never gives
out an id or a handle twice, and each of its open windows still has what it was created with
(`Router.Logged`); so it is in every run (`logged_watch`).
-/

set_option autoImplicit false
set_option relaxedAutoImplicit false

namespace WindowRouting

variable {C : Client} {σ : Type}

/-- What came of an act that created a window. -/
structure Creation where
  /-- The number of the act, which is the number of the window. -/
  act : Nat
  /-- The number of the router. -/
  router : Nat
  id : WindowId
  handle : Handle
deriving DecidableEq

/-- The creations of one router. -/
def createdIn (log : List Creation) (router : Nat) : List Creation :=
  log.filter fun c ↦ c.router = router

/-- What the act creates: the answer is the id and the handle of a window. -/
def Watch.creation? (W : World C σ) (s : Watch C σ) : Act C σ → Option Creation
  | .request q =>
    match s.roster.installed,
      (s.roster.seat.serve (W.watched s.acts) (q.ticketed s.acts) (s.world, s.history)).1 with
    | some i, .ok (some (.created id h)) => some ⟨s.acts, i, id, h⟩
    | _, _ => none
  | _ => none

/-- The creations of a run, the oldest first. -/
def creations (W : World C σ) (w : σ) (acts : List (Act C σ)) : List Creation :=
  (List.range acts.length).filterMap fun n ↦
    acts[n]?.bind fun a ↦ (watch W w (acts.take n)).creation? W a

theorem creations_snoc (W : World C σ) (w : σ) (acts : List (Act C σ)) (a : Act C σ) :
    creations W w (acts ++ [a]) =
      creations W w acts ++ ((watch W w acts).creation? W a).toList :=
  gather_snoc (fun before a ↦ (watch W w before).creation? W a) acts a

/-! ### Which acts create a window -/

/-- Only the request to open a window is answered by a new window. -/
theorem Router.create_of_created {r : Router C} {q : Request C} {W : World C σ} {w : σ}
    {plan : Plan C (Router C) Answer} (hplan : r.serve q = .ok plan) {id : WindowId} {h : Handle}
    (hanswer : (plan.run W w).1 = some (.created id h)) : ∃ d listener, q = .create d listener := by
  have hother {α : Type} {inner : Plan C (Router C) α} {f : α → Answer}
      (hf : ∀ a, f a ≠ .created id h)
      (hanswer : ((inner.mapAnswer f).run W w).1 = some (.created id h)) : False := by
    rw [Plan.mapAnswer, Plan.run_map] at hanswer
    obtain ⟨a, -, ha⟩ := Option.map_eq_some_iff.mp hanswer
    exact hf a ha
  cases q with
  | create d listener => exact ⟨d, listener, rfl⟩
  | close other =>
    obtain ⟨inner, -, rfl⟩ := map_eq_ok hplan
    exact (hother nofun hanswer).elim
  | send other e =>
    obtain ⟨inner, -, rfl⟩ := map_eq_ok hplan
    exact (hother nofun hanswer).elim
  | resolve given =>
    obtain ⟨_, -, rfl⟩ := map_eq_ok hplan
    cases hanswer
  | announce | attachHost | config | handle | window | windows =>
    obtain rfl := Except.ok.inj hplan
    cases hanswer

theorem created_of_serve {r : Router C} {q : Request C} {W : World C σ} {w : σ} {id : WindowId}
    {h : Handle} (hserve : ((Seat.taken r).serve W q w).1 = .ok (some (.created id h))) :
    ∃ d listener, q = .create d listener := by
  have hrouter : (Seat.taken r).router.bind (·.serve q) = r.serve q := rfl
  simp only [Seat.serve, hrouter] at hserve
  cases hplan : r.serve q with
  | error e =>
    rw [hplan] at hserve
    cases hserve
  | ok plan =>
    rw [hplan] at hserve
    exact Router.create_of_created hplan (Except.ok.inj hserve)

namespace Watch

variable {W : World C σ} {s : Watch C σ}

/-- A window is created by the request to open one, if there is a router. -/
theorem creation?_create {i : Nat} {r : Router C.ticketed}
    (hcurrent : s.roster.current = some (i, r)) (d : Descriptor) (listener : C.Listener) :
    s.creation? W (.request (.create d listener)) =
      some ⟨s.acts, i, r.windows.nextId, (r.handles.insert r.windows.nextId).1⟩ := by
  simp only [creation?, Roster.seat_of_current hcurrent, (Roster.current_eq_some_iff.mp hcurrent).1]
  rfl

/-- A window is created by nothing else. -/
theorem create_of_creation? {a : Act C σ} {c : Creation} (hc : s.creation? W a = some c) :
    ∃ i r d listener, s.roster.current = some (i, r) ∧ a = .request (.create d listener) := by
  cases a with
  | request q =>
    simp only [creation?] at hc
    split at hc
    case h_1 i id h hinstalled hserve =>
      cases hcurrent : s.roster.current with
      | none =>
        rw [Roster.seat_of_none hcurrent] at hserve
        exact nomatch hserve
      | some found =>
        obtain ⟨j, r⟩ := found
        rw [Roster.seat_of_current hcurrent] at hserve
        obtain ⟨d, listener, hcreate⟩ := created_of_serve hserve
        cases q with
        | create d listener => exact ⟨j, r, d, listener, rfl, rfl⟩
        | _ => exact nomatch hcreate
    case h_2 => exact nomatch hc
  | install config => exact nomatch hc
  | reinstall n => exact nomatch hc
  | uninstall => exact nomatch hc
  | signal h q => exact nomatch hc
  | elapse change => exact nomatch hc

end Watch

/-! ### One router -/

namespace Router

/-- The creations in `log` are all that there were in the router. -/
structure Logged (r : Router C.ticketed) (log : List Creation) : Prop extends Router.Agrees r where
  issued : r.windows.Issued (log.map (·.id))
  next_eq : r.handles.next.toNat = log.length + 1
  handles_eq : log.map (·.handle.toNat) = List.range' 1 log.length
  created : ∀ id receiver, r.receivers.get? id = some receiver →
    ∃ c ∈ log, c.id = id ∧ c.act = receiver.listener.number ∧ r.handle? id = some c.handle

theorem logged_new (config : Config) : (Router.new config : Router C.ticketed).Logged [] where
  toAgrees := agrees_new config
  issued := OpenWindows.issued_empty
  next_eq := rfl
  handles_eq := rfl
  created id receiver hreceiver := by simp [new] at hreceiver

section Step

variable {r r' : Router C}

/-- A window that is open after a step was open before, with the same listener and handle. -/
theorem Step.before (hstep : r.Step r') {id : WindowId} {receiver' : Receiver C}
    (hreceiver' : r'.receivers.get? id = some receiver') :
    ∃ receiver, r.receivers.get? id = some receiver ∧ receiver.listener = receiver'.listener ∧
      r'.handle? id = r.handle? id := by
  -- A change of what is going on in one window.
  have hmodified {other : WindowId} {f : Receiver C → Receiver C}
      (hreceiver' : (r.modifyReceiver other f).receivers.get? id = some receiver')
      (hf : ∀ receiver, (f receiver).listener = receiver.listener) :
      ∃ receiver, r.receivers.get? id = some receiver ∧
        receiver.listener = receiver'.listener := by
    by_cases hother : other = id
    · rw [← hother, get?_receivers_modifyReceiver_self] at hreceiver'
      obtain ⟨receiver, hreceiver, rfl⟩ := Option.map_eq_some_iff.mp hreceiver'
      exact ⟨receiver, hother ▸ hreceiver, (hf receiver).symm⟩
    · rw [get?_receivers_modifyReceiver_of_ne r hother] at hreceiver'
      exact ⟨receiver', hreceiver', rfl⟩
  cases hstep with
  | stay | rescaled | announced | hosted => exact ⟨receiver', hreceiver', rfl, rfl⟩
  | pointer | scrolling =>
    obtain ⟨receiver, hreceiver, hlistener⟩ := hmodified hreceiver' fun _ ↦ rfl
    exact ⟨receiver, hreceiver, hlistener, rfl⟩
  | @closed other receiver hreceiver =>
    have hother : other ≠ id := by
      rintro rfl
      rw [get?_receivers_closed_self] at hreceiver'
      exact nomatch hreceiver'
    rw [get?_receivers_closed_of_ne r hother] at hreceiver'
    exact ⟨receiver', hreceiver', rfl, Handles.TwoWay.get?_erase_of_ne r.handles hother⟩

/-- Only opening a window takes a handle from the counter. -/
theorem Step.next_eq (hstep : r.Step r') : r'.handles.next = r.handles.next := by
  cases hstep with
  | @closed id receiver hreceiver =>
    change (r.handles.erase id).2.next = _
    unfold Handles.erase
    split <;> rfl
  | _ => rfl

/-- Only opening a window gives out an id. -/
theorem Step.issued (hstep : r.Step r') {l : List WindowId} (h : r.windows.Issued l)
    (hfew : l.length < 2 ^ 31) : r'.windows.Issued l := by
  cases hstep with
  | rescaled id scale hscale =>
    exact h.congr (fun other ↦ isSome_get?_modify r.windows.live id other _) rfl rfl
  | @closed id receiver hreceiver => exact h.close hfew id
  | announced patch =>
    obtain ⟨hopen, -, hvacant, hpositions⟩ := windows_announceWith r.windows patch.apply
    exact h.congr hopen hvacant hpositions
  | _ => exact h

end Step

variable {r r' : Router C.ticketed} {log : List Creation}

theorem Logged.step (h : r.Logged log) (hfew : log.length < 2 ^ 31) (hstep : r.Step r') :
    r'.Logged log where
  toAgrees := h.toAgrees.step hstep
  issued := hstep.issued h.issued (by rwa [List.length_map])
  next_eq := by rw [hstep.next_eq, h.next_eq]
  handles_eq := h.handles_eq
  created id receiver' hreceiver' := by
    obtain ⟨receiver, hreceiver, hlistener, hhandle⟩ := hstep.before hreceiver'
    rw [← hlistener, hhandle]
    exact h.created id receiver hreceiver

/-- A window with a handle was created with it. -/
theorem Logged.created_of_handle (h : r.Logged log) {id : WindowId} {given : Handle}
    (hid : r.handle? id = some given) : ∃ c ∈ log, c.id = id ∧ c.handle = given := by
  obtain ⟨receiver, hreceiver⟩ := h.exists_receiver hid
  obtain ⟨c, hc, hcid, -, hhandle⟩ := h.created id receiver hreceiver
  exact ⟨c, hc, hcid, Option.some.inj (hhandle.symm.trans hid)⟩

/-- The handles that were given out are below the counter. -/
theorem Logged.handle_lt (h : r.Logged log) {c : Creation} (hc : c ∈ log) :
    0 < c.handle.toNat ∧ c.handle.toNat < r.handles.next.toNat := by
  have hmem : c.handle.toNat ∈ List.range' 1 log.length := by
    rw [← h.handles_eq]
    exact List.mem_map_of_mem hc
  rw [h.next_eq]
  rw [List.mem_range'_1] at hmem
  omega

/-- The next handle of the counter is not assigned. -/
theorem Logged.fresh_eq (h : r.Logged log) : r.handles.fresh = r.handles.next := by
  refine Handles.fresh_of_free (Bool.eq_false_iff.mpr fun hassigned ↦ ?_)
  rw [Std.ExtTreeMap.contains_eq_isSome_getElem?] at hassigned
  obtain ⟨id, hid⟩ := Option.isSome_iff_exists.mp hassigned
  obtain ⟨c, hc, -, hnext⟩ :=
    h.created_of_handle ((h.twoWay.get?_eq_some_iff id r.handles.next).mpr hid)
  have hlt := (h.handle_lt hc).2
  rw [hnext] at hlt
  exact Nat.lt_irrefl _ hlt

/-- A router with few creations has room for another window. -/
theorem Logged.hasRoom (h : r.Logged log) (hfew : log.length < 2 ^ 31) :
    r.windows.size < OpenWindows.capacity := by
  have hle := h.issued.positions_le
  have hfilled := h.size_add_vacant
  have hcapacity : 2 ^ 31 ≤ OpenWindows.capacity := by decide
  rw [List.length_map] at hle
  omega

/-- Opening a window takes the handle that is next. -/
theorem Logged.insert_eq (h : r.Logged log) :
    (r.handles.insert r.windows.nextId).1 = r.handles.next ∧
      (r.handles.insert r.windows.nextId).2.next = r.handles.next.next := by
  have hnone : r.handles.get? r.windows.nextId = none :=
    Handles.TwoWay.get?_of_vacant h.byWindow_vacant_nextId
  rw [Handles.insert_of_none hnone, h.fresh_eq]
  exact ⟨rfl, rfl⟩

theorem Logged.opened (h : r.Logged log) (hfew : log.length < 2 ^ 31) (d : Descriptor)
    (n i : Nat) (listener : C.Listener) : (r.opened d ⟨n, listener⟩).2.Logged
      (log ++ [⟨n, i, r.windows.nextId, (r.handles.insert r.windows.nextId).1⟩]) where
  toAgrees := h.toAgrees.opened (h.hasRoom hfew) d ⟨n, listener⟩
  issued := by
    rw [List.map_append]
    exact h.issued.create d
  next_eq := by
    change (r.handles.insert r.windows.nextId).2.next.toNat = _
    rw [h.insert_eq.2, Handle.toNat_next, h.next_eq, List.length_append, List.length_singleton]
    exact congrArg Nat.succ (Nat.mod_eq_of_lt (by omega))
  handles_eq := by
    rw [List.map_append, h.handles_eq, List.length_append, List.length_singleton,
      List.range'_concat, h.insert_eq.1]
    congr 1
    change [r.handles.next.toNat] = _
    rw [h.next_eq, Nat.one_mul, Nat.add_comm]
  created id receiver hreceiver := by
    rw [h.receivers_opened (h.hasRoom hfew)] at hreceiver
    rw [h.handle?_opened (h.hasRoom hfew)]
    by_cases hnew : id = r.windows.nextId
    · rw [if_pos hnew] at hreceiver ⊢
      obtain rfl := Option.some.inj hreceiver
      refine ⟨_, List.mem_append_right _ (List.mem_singleton_self _), hnew.symm, rfl, ?_⟩
      rw [h.fresh_eq, h.insert_eq.1]
    · rw [if_neg hnew] at hreceiver ⊢
      obtain ⟨c, hc, hcreated⟩ := h.created id receiver hreceiver
      exact ⟨c, List.mem_append_left _ hc, hcreated⟩

/-- No id was given out twice. -/
theorem Logged.eq_of_id (h : r.Logged log) {c c' : Creation} (hc : c ∈ log) (hc' : c' ∈ log)
    (hid : c.id = c'.id) : c = c' :=
  List.inj_on_of_nodup_map h.issued.nodup hc hc' hid

/-- No handle was given out twice. -/
theorem Logged.eq_of_handle (h : r.Logged log) {c c' : Creation} (hc : c ∈ log) (hc' : c' ∈ log)
    (hhandle : c.handle = c'.handle) : c = c' := by
  have hnodup : (log.map (·.handle.toNat)).Nodup := by
    rw [h.handles_eq]
    exact List.nodup_range'
  exact List.inj_on_of_nodup_map hnodup hc hc' (congrArg UInt64.toNat hhandle)

end Router

/-! ### Runs -/

theorem createdIn_append (log log' : List Creation) (i : Nat) :
    createdIn (log ++ log') i = createdIn log i ++ createdIn log' i :=
  List.filter_append log log'

theorem createdIn_self (c : Creation) : createdIn [c] c.router = [c] := by
  simp [createdIn]

theorem createdIn_of_ne {c : Creation} {i : Nat} (h : c.router ≠ i) : createdIn [c] i = [] := by
  simp [createdIn, h]

theorem mem_createdIn {log : List Creation} {i : Nat} {c : Creation} :
    c ∈ createdIn log i ↔ c ∈ log ∧ c.router = i := by
  rw [createdIn, List.mem_filter, decide_eq_true_eq]

namespace Watch

variable {W : World C σ} {s : Watch C σ} {log : List Creation}

/-- The creations in `log` are all that there were. -/
structure Logged (s : Watch C σ) (log : List Creation) : Prop where
  router_lt : ∀ c ∈ log, c.router < s.roster.routers.length
  routers : ∀ i r, s.roster.routers[i]? = some r → (createdIn log i).length < 2 ^ 31 →
    r.Logged (createdIn log i)

theorem routers_step_create {i : Nat} {r : Router C.ticketed}
    (hcurrent : s.roster.current = some (i, r)) (d : Descriptor) (listener : C.Listener) :
    (s.step W (.request (.create d listener))).roster.routers =
      s.roster.routers.set i (r.opened d ⟨s.acts, listener⟩).2 := by
  change (s.roster.update _).routers = _
  rw [Roster.seat_of_current hcurrent]
  exact congrArg Roster.routers (Roster.update_of_current hcurrent _)

theorem Logged.step_create (hs : s.Logged log) {i : Nat} {r : Router C.ticketed}
    (hcurrent : s.roster.current = some (i, r)) (d : Descriptor) (listener : C.Listener) :
    (s.step W (.request (.create d listener))).Logged
      (log ++ [⟨s.acts, i, r.windows.nextId, (r.handles.insert r.windows.nextId).1⟩]) := by
  have hr := (Roster.current_eq_some_iff.mp hcurrent).2
  have hlt : i < s.roster.routers.length := (List.getElem?_eq_some_iff.mp hr).1
  constructor
  · intro c hc
    rw [routers_step_create hcurrent, List.length_set]
    rcases List.mem_append.mp hc with hold | hnew
    · exact hs.router_lt c hold
    · rwa [List.mem_singleton.mp hnew]
  · intro j r' hr' hfew
    rw [routers_step_create hcurrent, Roster.getElem?_set_of_current hcurrent] at hr'
    rw [createdIn_append] at hfew ⊢
    by_cases hj : i = j
    · subst hj
      rw [if_pos rfl] at hr'
      obtain rfl := Option.some.inj hr'
      rw [createdIn_self, List.length_append] at hfew
      rw [createdIn_self]
      exact (hs.routers i r hr (by omega)).opened (by omega) d s.acts i listener
    · rw [if_neg hj] at hr'
      rw [createdIn_of_ne hj, List.append_nil] at hfew ⊢
      exact hs.routers j r' hr' hfew

/-- A router that will be added next is not in the log. -/
theorem Logged.createdIn_eq_nil (hs : s.Logged log) : createdIn log s.roster.routers.length = [] :=
  List.filter_eq_nil_iff.mpr fun c hc hrouter ↦
    Nat.ne_of_lt (hs.router_lt c hc) (of_decide_eq_true hrouter)

/-- What is left by an act that opens no window. -/
theorem Logged.of_turn (hs : s.Logged log) {b : Act C.ticketed (σ × History C)}
    {routers : List (Router C.ticketed)} (hturn : b.Turn s.roster routers)
    (hb : ∀ found d listener, s.roster.current = some found → b ≠ .request (.create d listener)) :
    (∀ c ∈ log, c.router < routers.length) ∧
      ∀ i r, routers[i]? = some r → (createdIn log i).length < 2 ^ 31 →
        r.Logged (createdIn log i) := by
  refine ⟨fun c hc ↦ Nat.lt_of_lt_of_le (hs.router_lt c hc) hturn.length_le, ?_⟩
  intro i r' hr' hfew
  rcases hturn.before hr' with
    ⟨rfl, config, rfl⟩ | ⟨r, hr, hstep⟩ | ⟨r, d, listener, hr, hcreate, -⟩
  · rw [hs.createdIn_eq_nil]
    exact Router.logged_new config
  · exact (hs.routers i r hr hfew).step hfew hstep
  · exact absurd hcreate (hb _ d listener hr)

/-- An act that creates nothing. -/
theorem Logged.step_none (hs : s.Logged log) {a : Act C σ} (hnone : s.creation? W a = none) :
    (s.step W a).Logged log := by
  obtain ⟨hlt, hrouters⟩ := hs.of_turn (turn_step W s a) fun ⟨i, r⟩ d listener hcurrent hcreate ↦ by
    cases a with
    | request q =>
      cases q with
      | create d' listener' =>
        rw [creation?_create hcurrent] at hnone
        exact nomatch hnone
      | _ => exact nomatch hcreate
    | _ => exact nomatch hcreate
  exact ⟨hlt, hrouters⟩

theorem Logged.step (hs : s.Logged log) (a : Act C σ) :
    (s.step W a).Logged (log ++ (s.creation? W a).toList) := by
  cases hc : s.creation? W a with
  | none =>
    rw [Option.toList_none, List.append_nil]
    exact hs.step_none hc
  | some c =>
    obtain ⟨i, r, d, listener, hcurrent, rfl⟩ := create_of_creation? hc
    rw [creation?_create hcurrent] at hc
    obtain rfl := Option.some.inj hc
    exact hs.step_create hcurrent d listener

end Watch

theorem logged_watch (W : World C σ) (w : σ) (acts : List (Act C σ)) :
    (watch W w acts).Logged (creations W w acts) := by
  induction acts using List.reverseRecOn with
  | nil => exact ⟨nofun, nofun⟩
  | append_singleton acts a ih =>
    rw [watch_snoc, creations_snoc]
    exact ih.step a

/-- What was created stays created. -/
theorem creations_append (W : World C σ) (w : σ) (acts later : List (Act C σ)) :
    ∃ more, creations W w (acts ++ later) = creations W w acts ++ more := by
  induction later using List.reverseRecOn with
  | nil => exact ⟨[], by rw [List.append_nil, List.append_nil]⟩
  | append_singleton later a ih =>
    obtain ⟨more, hmore⟩ := ih
    rw [← List.append_assoc, creations_snoc, hmore, List.append_assoc]
    exact ⟨_, rfl⟩

end WindowRouting
