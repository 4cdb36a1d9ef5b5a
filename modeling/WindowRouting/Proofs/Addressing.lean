import WindowRouting.Proofs.Closing
import WindowRouting.Proofs.Creations
import WindowRouting.Proofs.Steps.Names

/-!
Who is called when a window is addressed. An act addresses a window by the id or the handle that the
window was created with (`Act.Addresses`), and then only the window and what it opened is called
(`Call.BelongsTo`); once the window has been closed nobody is, although its position is used again
(`never_misdelivered`). Both rest on the fact that no other window of the router was ever created
with the same id or the same handle (`Creation.Alone`).
-/

set_option autoImplicit false
set_option relaxedAutoImplicit false

namespace WindowRouting

variable {C : Client} {σ : Type}

/-- The act names the window by the id or the handle that it was created with. -/
def Act.Addresses (a : Act C σ) (c : Creation) : Prop :=
  match a with
  | .request (.send id _) | .request (.close id) | .request (.handle id)
  | .request (.window id) => id = c.id
  | .request (.resolve h) | .signal h _ => h = c.handle
  | _ => False

/-- The call carries the id of the window, or its session or gesture was opened by the window. -/
def Call.BelongsTo (c : Creation) : Call C.ticketed → Prop
  | .window listener id _ _ => id = c.id ∧ listener.number = c.act
  | .drag session _ => session.ticket.window = c.act
  | .gesture g _ => g.ticket.window = c.act
  | .scaleFactor _ id => id = c.id

theorem Call.belongsTo_of {call : Call C.ticketed} {c : Creation}
    (hnamed : ∀ id, call.named? = some id → id = c.id)
    (howner : ∀ k, call.owner = some k → k = c.act) : call.BelongsTo c := by
  cases call with
  | window listener id w call => exact ⟨hnamed id rfl, howner _ rfl⟩
  | drag session call => exact howner _ rfl
  | gesture gesture call => exact howner _ rfl
  | scaleFactor host id => exact hnamed id rfl

/-- No other window in the log was created with the id or with the handle. -/
structure Creation.Alone (c : Creation) (log : List Creation) : Prop where
  few : log.length < 2 ^ 31
  of_id : ∀ c' ∈ log, c'.id = c.id → c' = c
  of_handle : ∀ c' ∈ log, c'.handle = c.handle → c' = c

namespace Watch

variable {W : World C σ} {s : Watch C σ} {log : List Creation} {c : Creation}

/-- An act that addresses a window finds this window, if it finds any. -/
theorem Logged.found (hs : s.Logged log) (hc : c.Alone (createdIn log c.router))
    (hinstalled : s.roster.installed = some c.router) {a : Act C σ} (ha : a.Addresses c)
    {place : Place} {cause : Cause C} (hmeans : s.Means a place cause)
    {receiver : Receiver C.ticketed} (hreceiver : s.receiver? place = some receiver) :
    place = ⟨c.router, c.id⟩ ∧ receiver.listener.number = c.act := by
  -- The window that is found was created in the router, and it is the one that is addressed.
  have hcreated {i : Nat} {r : Router C.ticketed} {id : WindowId}
      (hcurrent : s.roster.current = some (i, r)) (hreceiver : s.receiver? ⟨i, id⟩ = some receiver)
      (hsame : ∀ c' ∈ createdIn log c.router, c'.id = id → r.handle? id = some c'.handle → c' = c) :
      (⟨i, id⟩ : Place) = ⟨c.router, c.id⟩ ∧ receiver.listener.number = c.act := by
    obtain ⟨hi, hr⟩ := Roster.current_eq_some_iff.mp hcurrent
    obtain rfl : i = c.router := Option.some.inj (hi.symm.trans hinstalled)
    rw [receiver?_of_current hcurrent] at hreceiver
    obtain ⟨c', hc', hid, hact, hhandle⟩ := (hs.routers _ r hr hc.few).created id receiver hreceiver
    obtain rfl := hsame c' hc' hid hhandle
    exact ⟨by rw [hid], hact.symm⟩
  cases hmeans with
  | create => exact ha.elim
  | close hcurrent id =>
    exact hcreated hcurrent hreceiver fun c' hc' hid _ ↦ hc.of_id c' hc' (hid.trans ha)
  | send hcurrent id e =>
    exact hcreated hcurrent hreceiver fun c' hc' hid _ ↦ hc.of_id c' hc' (hid.trans ha)
  | @signal i r hcurrent h q id e hid he =>
    refine hcreated hcurrent hreceiver fun c' hc' _ hhandle ↦ hc.of_handle c' hc' ?_
    obtain ⟨hi, hr⟩ := Roster.current_eq_some_iff.mp hcurrent
    obtain rfl : i = c.router := Option.some.inj (hi.symm.trans hinstalled)
    have hgiven : r.handle? id = some h :=
      ((hs.routers _ r hr hc.few).twoWay.resolve_eq_ok_iff h id).mp hid
    exact (Option.some.inj (hhandle.symm.trans hgiven)).trans ha

/-- An act that addresses a window calls the window and what it opened, if it is open, and nobody
otherwise. -/
theorem Logged.belong (hs : s.Logged log) (horderly : s.Orderly)
    (hc : c.Alone (createdIn log c.router)) (hinstalled : s.roster.installed = some c.router)
    {a : Act C σ} (ha : a.Addresses c) :
    ∃ es, (s.step W a).history = s.history ++ es ∧ (∀ e ∈ es, e.call.BelongsTo c) ∧
      (s.receiver? ⟨c.router, c.id⟩ = none → es = []) := by
  obtain ⟨-, ⟨place, cause, hmeans, hmoves⟩ | hrests⟩ :=
    moves_or_rests (W := W) horderly.inStep a
  · obtain ⟨cfg, hchain⟩ := hmoves.steps
    cases hreceiver : s.receiver? place with
    | none =>
      rw [hreceiver] at hchain
      obtain ⟨hsame, -⟩ := Lasting.chain_of_vacant hchain
      exact ⟨[], by rw [hsame, List.append_nil], nofun, fun _ ↦ rfl⟩
    | some receiver =>
      obtain ⟨rfl, hact⟩ := hs.found hc hinstalled ha hmeans hreceiver
      obtain ⟨k, hk, hopening, -⟩ := horderly.number_of_means hmeans
      obtain rfl : c.act = k := hact.symm.trans (hk receiver hreceiver)
      obtain ⟨-, hextends⟩ := (horderly.tidy _ hk).chain hopening hchain
      obtain ⟨es, hh, hes⟩ := hextends.entries
      obtain ⟨es', hh', hes'⟩ := Receiver.names_of_chain hchain
      obtain rfl := List.append_cancel_left (hh.symm.trans hh')
      refine ⟨es, hh, fun e he ↦ Call.belongsTo_of (hes' e he) (hes e he).2.1, fun hnone ↦ ?_⟩
      exact nomatch hnone.symm.trans hreceiver
  · exact ⟨[], by rw [hrests.history, List.append_nil], nofun, fun _ ↦ rfl⟩

/-- Where no window is open, none is until one is opened. -/
theorem receiver?_step_of_none (hs : s.InStep) {place : Place} (hnone : s.receiver? place = none)
    {a : Act C σ} (hopening : ∀ l, ¬s.Means a place (.opening l)) :
    (s.step W a).receiver? place = none := by
  obtain ⟨-, ⟨other, cause, hmeans, hmoves⟩ | hrests⟩ := moves_or_rests (W := W) hs a
  · by_cases hother : other = place
    · subst hother
      obtain ⟨cfg, hchain⟩ := hmoves.steps
      rw [hnone] at hchain
      obtain ⟨-, hstill | ⟨l, rfl, -⟩⟩ := Lasting.chain_of_vacant hchain
      · exact hstill
      · exact absurd hmeans (hopening l)
    · rw [hmoves.others _ hother, hnone]
  · rw [hrests.receivers, hnone]

/-- A window that is not open any more does not come back. -/
theorem Logged.stays_closed (hs : s.Logged log) (hinStep : s.InStep) (hc : c ∈ log)
    (hfew : (createdIn log c.router).length < 2 ^ 31)
    (hnone : s.receiver? ⟨c.router, c.id⟩ = none) (a : Act C σ) :
    (s.step W a).receiver? ⟨c.router, c.id⟩ = none := by
  refine receiver?_step_of_none hinStep hnone fun l hmeans ↦ ?_
  -- The id of a window that is opened was not given out before.
  generalize hplace : (⟨c.router, c.id⟩ : Place) = place at hmeans
  cases hmeans with
  | @create i r hcurrent d listener =>
    obtain ⟨hrouter, hid⟩ := Place.mk.inj hplace
    subst hrouter
    obtain ⟨-, hr⟩ := Roster.current_eq_some_iff.mp hcurrent
    have hissued := (hs.routers _ r hr hfew).issued
    refine absurd ?_ hissued.nextId_not_mem
    rw [← hid]
    exact List.mem_map_of_mem (mem_createdIn.mpr ⟨hc, rfl⟩)

/-- A window is not open after it was closed. -/
theorem closed_of_close (hs : s.InStep) {i : Nat} {r : Router C.ticketed}
    (hcurrent : s.roster.current = some (i, r)) (id : WindowId) :
    (s.step W (.request (.close id))).receiver? ⟨i, id⟩ = none := by
  cases hreceiver : r.receivers.get? id with
  | some receiver => exact (step_close hcurrent hreceiver).2.1
  | none =>
    have hnone : s.receiver? ⟨i, id⟩ = none := (receiver?_of_current hcurrent id).trans hreceiver
    exact receiver?_step_of_none hs hnone nofun

end Watch

variable {W : World C σ} {w : σ} {c : Creation}

theorem createdIn_before (before later : List (Act C σ)) (i : Nat) :
    ∃ more, createdIn (creations W w (before ++ later)) i =
      createdIn (creations W w before) i ++ more := by
  obtain ⟨more, hmore⟩ := creations_append W w before later
  rw [hmore, createdIn_append]
  exact ⟨_, rfl⟩

/-- In a router with few creations, a window shares its id and its handle with no other. -/
theorem alone_of_mem (before later : List (Act C σ))
    (hc : c ∈ creations W w (before ++ later))
    (hfew : (createdIn (creations W w (before ++ later)) c.router).length < 2 ^ 31) :
    c.Alone (createdIn (creations W w before) c.router) := by
  have hlogged := logged_watch W w (before ++ later)
  have hlt := hlogged.router_lt c hc
  have hr := hlogged.routers c.router _ (List.getElem?_eq_getElem hlt) hfew
  have hmem := mem_createdIn.mpr ⟨hc, rfl⟩
  obtain ⟨more, hmore⟩ := createdIn_before (W := W) (w := w) before later c.router
  rw [hmore] at hr hmem hfew
  refine ⟨?_, fun c' hc' hid ↦ ?_, fun c' hc' hhandle ↦ ?_⟩
  · rw [List.length_append] at hfew
    exact Nat.lt_of_le_of_lt (Nat.le_add_right _ _) hfew
  · exact hr.eq_of_id (List.mem_append_left _ hc') hmem hid
  · exact hr.eq_of_handle (List.mem_append_left _ hc') hmem hhandle

theorem mem_creations_append {before : List (Act C σ)} (hc : c ∈ creations W w before)
    (later : List (Act C σ)) : c ∈ creations W w (before ++ later) := by
  obtain ⟨more, hmore⟩ := creations_append W w before later
  exact hmore ▸ List.mem_append_left more hc

/-- A window that was closed is not open, whatever is done after that. -/
theorem closed_watch (before later : List (Act C σ)) (hc : c ∈ creations W w before)
    (hinstalled : (watch W w before).roster.installed = some c.router)
    (hfew : (createdIn (creations W w (before ++ .request (.close c.id) :: later))
      c.router).length < 2 ^ 31) :
    (watch W w (before ++ .request (.close c.id) :: later)).receiver? ⟨c.router, c.id⟩ = none := by
  induction later using List.reverseRecOn with
  | nil =>
    have hlt := (logged_watch W w before).router_lt c hc
    have hcurrent : (watch W w before).roster.current = some (c.router, _) :=
      Roster.current_eq_some_iff.mpr ⟨hinstalled, List.getElem?_eq_getElem hlt⟩
    rw [watch_snoc]
    exact Watch.closed_of_close (inStep_watch before) hcurrent c.id
  | append_singleton later a ih =>
    rw [← List.cons_append, ← List.append_assoc] at hfew ⊢
    have hmem := mem_creations_append hc (.request (.close c.id) :: later)
    have halone := alone_of_mem _ [a] (mem_creations_append hmem [a]) hfew
    rw [watch_snoc]
    exact (logged_watch W w _).stays_closed (inStep_watch _) hmem halone.few (ih halone.few) a

/-- What is left of a window that is not open: no request finds it, and neither does its handle. -/
theorem Router.Logged.unknown {r : Router C.ticketed} {log : List Creation} (hr : r.Logged log)
    (hc : c ∈ log) (hnone : r.receivers.get? c.id = none) :
    (∀ e, r.serve (.send c.id e) = .error (.unknownWindow c.id)) ∧
      r.serve (.close c.id) = .error (.unknownWindow c.id) ∧ r.handle? c.id = none ∧
        r.resolve c.handle = .error (.unknownHandle c.handle) := by
  have hhandle : r.handle? c.id = none := by
    have hopen := hr.handle_eq c.id
    rwa [hnone, Option.isSome_none, Option.isSome_eq_false_iff, Option.isNone_iff_eq_none] at hopen
  have hfind : r.find? c.id = none := by
    unfold Router.find?
    rw [hnone]
    split
    case h_1 heq => cases heq
    case h_2 => rfl
  have hne : c.handle ≠ 0 := by
    rintro hzero
    have hpos := (hr.handle_lt hc).1
    rw [hzero] at hpos
    exact absurd hpos (Nat.lt_irrefl 0)
  refine ⟨fun e ↦ ?_, ?_, hhandle, hr.twoWay.resolve_of_unassigned hne fun id hid ↦ ?_⟩
  · simp only [Router.serve, Router.deliver, hfind]
    rfl
  · simp only [Router.serve, Router.close, hnone]
    rfl
  · -- Another window with the handle would have been created with it.
    obtain ⟨c', hc', hid', hgiven⟩ := hr.created_of_handle hid
    obtain rfl := hr.eq_of_handle hc' hc hgiven
    rw [Router.handle?, hid', show r.handles.get? id = some c'.handle from hid] at hhandle
    cases hhandle

/-- In a router with fewer than `2 ^ 31` creations, an act that names the id or the handle of a
window calls this window and what it opened, and nobody else. After the window has been closed it
calls nobody: requests for the window are refused, it has no handle, and the handle that it had
refers to no window, however often its position is used again. -/
theorem never_misdelivered (W : World C σ) (w : σ) (acts : List (Act C σ)) {c : Creation}
    (hc : c ∈ creations W w acts)
    (hfew : (createdIn (creations W w acts) c.router).length < 2 ^ 31) :
    (∀ before a later, acts = before ++ a :: later → a.Addresses c →
      (watch W w before).roster.installed = some c.router →
      ∃ es, (watch W w (before ++ [a])).history = (watch W w before).history ++ es ∧
        ∀ e ∈ es, e.call.BelongsTo c) ∧
    ∀ before later, acts = before ++ .request (.close c.id) :: later →
      c ∈ creations W w before → (watch W w before).roster.installed = some c.router →
      (∃ r, (watch W w acts).roster.routers[c.router]? = some r ∧
        (∀ e, r.serve (.send c.id e) = .error (.unknownWindow c.id)) ∧
        r.serve (.close c.id) = .error (.unknownWindow c.id) ∧ r.handle? c.id = none ∧
        r.resolve c.handle = .error (.unknownHandle c.handle)) ∧
      ∀ a, a.Addresses c → (watch W w acts).roster.installed = some c.router →
        (watch W w (acts ++ [a])).history = (watch W w acts).history := by
  refine ⟨?_, ?_⟩
  · rintro before a later rfl ha hinstalled
    have halone := alone_of_mem before (a :: later) hc hfew
    obtain ⟨es, hh, hes, -⟩ := (logged_watch W w before).belong (W := W)
      (orderly_watch W w before) halone hinstalled ha
    rw [watch_snoc]
    exact ⟨es, hh, hes⟩
  · intro before later hacts hold hinstalled
    have hclosed : (watch W w acts).receiver? ⟨c.router, c.id⟩ = none := by
      subst hacts
      exact closed_watch before later hold hinstalled hfew
    have hlogged := logged_watch W w acts
    refine ⟨?_, fun a ha hinstalled' ↦ ?_⟩
    · have hr := List.getElem?_eq_getElem (hlogged.router_lt c hc)
      refine ⟨_, hr, (hlogged.routers c.router _ hr hfew).unknown (mem_createdIn.mpr ⟨hc, rfl⟩) ?_⟩
      rwa [Watch.receiver?, hr, Option.bind_some] at hclosed
    · have halone := alone_of_mem (W := W) (w := w) acts [] (c := c)
      rw [List.append_nil] at halone
      obtain ⟨es, hh, -, hes⟩ := hlogged.belong (W := W) (orderly_watch W w acts)
        (halone hc hfew) hinstalled' ha
      rw [watch_snoc, hh, hes hclosed, List.append_nil]

/-- A window is closed while a button is held in it, and another one is opened at its position. -/
def closedWhileHeld : List (Act .bare Unit) :=
  [.install default, .request (.create default ()),
    .request (.send ⟨1, 1⟩ (.button .zero true .left)), .request (.close ⟨1, 1⟩),
    .request (.create default ())]

theorem closed_while_held :
    creations Roster.quiet () closedWhileHeld = [⟨1, 0, ⟨1, 1⟩, 1⟩, ⟨4, 0, ⟨1, 3⟩, 2⟩] ∧
    (∃ es, (watch Roster.quiet () (closedWhileHeld.take 3)).history =
        (watch Roster.quiet () (closedWhileHeld.take 2)).history ++ es ∧ es.length = 2 ∧
      ∀ e ∈ es, e.call.BelongsTo ⟨1, 0, ⟨1, 1⟩, 1⟩) ∧
    (∃ r, (watch Roster.quiet () closedWhileHeld).roster.routers[0]? = some r ∧
      r.handle? ⟨1, 1⟩ = none ∧ r.resolve 1 = .error (.unknownHandle 1)) ∧
    (watch Roster.quiet () (closedWhileHeld ++ [.signal 1 .leave])).history =
      (watch Roster.quiet () closedWhileHeld).history := by
  have hcreations : creations Roster.quiet () closedWhileHeld =
      [⟨1, 0, ⟨1, 1⟩, 1⟩, ⟨4, 0, ⟨1, 3⟩, 2⟩] := by decide +kernel
  have hc : (⟨1, 0, ⟨1, 1⟩, 1⟩ : Creation) ∈ creations Roster.quiet () closedWhileHeld := by
    rw [hcreations]
    exact List.mem_cons_self
  have hfew : (createdIn (creations Roster.quiet () closedWhileHeld) 0).length < 2 ^ 31 := by
    rw [hcreations]
    decide
  obtain ⟨hopen, hclosed⟩ := never_misdelivered Roster.quiet () closedWhileHeld hc hfew
  refine ⟨hcreations, ?_, ?_⟩
  · obtain ⟨es, hh, hes⟩ :=
      hopen (closedWhileHeld.take 2) _ (closedWhileHeld.drop 3) rfl rfl (by decide +kernel)
    refine ⟨es, hh, ?_, hes⟩
    have hlength : (watch Roster.quiet () (closedWhileHeld.take 3)).history.length =
        (watch Roster.quiet () (closedWhileHeld.take 2)).history.length + 2 := by decide +kernel
    exact Nat.add_left_cancel ((List.length_append.symm.trans (congrArg _ hh.symm)).trans hlength)
  · have hbefore : (⟨1, 0, ⟨1, 1⟩, 1⟩ : Creation) ∈
        creations Roster.quiet () (closedWhileHeld.take 3) := by decide +kernel
    obtain ⟨⟨r, hr, -, -, hhandle, hresolve⟩, hquiet⟩ :=
      hclosed (closedWhileHeld.take 3) (closedWhileHeld.drop 4) rfl hbefore (by decide +kernel)
    exact ⟨⟨r, hr, hhandle, hresolve⟩, hquiet (.signal 1 .leave) rfl (by decide +kernel)⟩

end WindowRouting
