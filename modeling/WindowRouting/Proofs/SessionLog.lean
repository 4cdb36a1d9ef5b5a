import WindowRouting.Proofs.Creations
import WindowRouting.Proofs.ScaleFactors
import WindowRouting.Proofs.SessionNotices

/-!
The log of sessions is a faithful record. What a router shows to the world in a run is its log
(`routerLog`). In every act a router shows notices about open windows only, and for the windows that
are still open afterwards these add up (`Router.Records`). A new window starts without notices,
since its id was never given out before. So after every run the notices about an open window tell
whether it has a drag session and a scroll gesture (`session_log_faithful`).
-/

set_option autoImplicit false
set_option relaxedAutoImplicit false

namespace WindowRouting

variable {C : Client} {S α σ : Type} {log new : List (Happening C)}

/-! ### Logs -/

/-- What a router in the seat shows in an act. -/
def Router.shown (W : World C σ) (r : Router C) (w : σ) : Act C σ → List (Happening C)
  | .request q => ((Seat.taken r).serve W.transcribed q (w, [])).2.2.2
  | .signal h q => ((Seat.taken r).signal W.transcribed h q (w, [])).2.2.2
  | _ => []

/-- What router `i` shows in an act. -/
def Roster.shown (W : World C σ) (i : Nat) (s : Roster C) (w : σ) (a : Act C σ) :
    List (Happening C) :=
  match s.current with
  | some (j, r) => if j = i then r.shown W w a else []
  | none => []

/-- What router `i` shows in a run from some routers and a world. -/
def routerLog (W : World C σ) (i : Nat) : Roster C × σ → List (Act C σ) → List (Happening C)
  | _, [] => []
  | s, a :: acts => s.1.shown W i s.2 a ++ routerLog W i (a.perform W s.1 s.2) acts

/-- How many windows were opened. -/
def openings (log : List (Happening C)) : Nat :=
  log.countP fun
    | .noted (.windowOpened _ _) => true
    | _ => false

theorem openings_append (log new : List (Happening C)) :
    openings (log ++ new) = openings log + openings new :=
  List.countP_append

/-- Keeping a transcript changes nothing about the course of the world. -/
theorem World.alike_transcribed (W : World C σ) : W.transcribed.Alike W fun v w ↦ v.1 = w where
  note hvw n := congrArg (W.note n) hvw
  answer := by
    rintro v w rfl c
    exact ⟨rfl, rfl⟩

/-- The transcript of a plan has what the plan shows when it leaves the state of its run. -/
theorem Plan.shows_transcript (W : World C σ) (p : Plan C S α) (w : σ) :
    p.Shows (p.run W w).2.1 (p.run W.transcribed (w, [])).2.2.2 := by
  obtain ⟨hs, heq, hshows⟩ := p.shows_run W w []
  obtain ⟨-, hstate, -⟩ := p.run_alike W.alike_transcribed (v := (w, [])) (w := w) rfl
  rw [heq, List.nil_append, ← hstate]
  exact hshows

theorem Notice.About.unique {n : Notice} {id other : WindowId} (h : n.About id)
    (hother : n.About other) : id = other :=
  Option.some.inj (h.symm.trans hother)

/-- A new window is nothing that is open in it. -/
theorem tally_windowOpened (kind : SessionKind) (id other : WindowId) (given : Handle) :
    tally id kind.opening [(.noted (.windowOpened other given) : Happening C)] = 0 ∧
      tally id kind.ending [(.noted (.windowOpened other given) : Happening C)] = 0 := by
  have hmessage : "new window" ∉ kind.opening ∧ "new window" ∉ kind.ending := by
    cases kind <;> decide
  exact ⟨tally_not_mem hmessage.1, tally_not_mem hmessage.2⟩

/-! ### One router -/

namespace Router

variable {r r' : Router C} {id other : WindowId}

/-- What a router shows while it becomes another one is about windows that were open, and for those
that are still open it adds up, if they got what they asked for. -/
structure Records (r : Router C) (new : List (Happening C)) (r' : Router C) : Prop where
  step : r.Step r'
  about : ∀ n id, .noted n ∈ new → n.About id → (r.receivers.get? id).isSome
  balanced : (∀ c, .called c false ∈ new → ¬c.Begins) →
    ∀ (kind : SessionKind) (id : WindowId) (x' : Receiver C), r'.receivers.get? id = some x' →
      ∃ x, r.receivers.get? id = some x ∧ tally id kind.opening new + (kind.stored x).toNat =
        tally id kind.ending new + (kind.stored x').toNat

/-- The router shows nothing. -/
theorem records_nil (hstep : r.Step r') (hsame : r'.receivers = r.receivers) :
    r.Records [] r' where
  step := hstep
  about := nofun
  balanced _ _ _ x' hx' := ⟨x', hsame ▸ hx', rfl⟩

/-- The router shows what is about one open window. -/
theorem records_of_about {x : Receiver C} (hx : r.receivers.get? id = some x) (hstep : r.Step r')
    (habout : ∀ n, .noted n ∈ new → n.About id)
    (hothers : ∀ other, id ≠ other → r'.receivers.get? other = r.receivers.get? other)
    (hbalanced : (∀ c, .called c false ∈ new → ¬c.Begins) →
      ∀ (kind : SessionKind) (x' : Receiver C), r'.receivers.get? id = some x' →
        tally id kind.opening new + (kind.stored x).toNat =
          tally id kind.ending new + (kind.stored x').toNat) : r.Records new r' where
  step := hstep
  about n other hn hother := by
    obtain rfl := (habout n hn).unique hother
    rw [hx, Option.isSome_some]
  balanced hbegins kind other x' hx' := by
    by_cases heq : id = other
    · subst heq
      exact ⟨x, hx, hbalanced hbegins kind x' hx'⟩
    · have hnone (n : Notice) (hn : .noted n ∈ new) : ¬n.About other :=
        fun hother ↦ heq ((habout n hn).unique hother)
      rw [tally_eq_zero hnone, tally_eq_zero hnone]
      exact ⟨x', hothers other heq ▸ hx', rfl⟩

/-- A notice that is about no window may follow. -/
theorem Records.append (h : r.Records new r') {n : Notice} (hn : n.window? = none) :
    r.Records (new ++ [.noted n]) r' where
  step := h.step
  about m id hm hid := by
    rcases List.mem_append.mp hm with hm | hm
    · exact h.about m id hm hid
    · obtain rfl := Happening.noted.inj (List.mem_singleton.mp hm)
      exact nomatch hn.symm.trans hid
  balanced hbegins kind id x' hx' := by
    obtain ⟨x, hx, hadds⟩ :=
      h.balanced (fun c hc ↦ hbegins c (List.mem_append_left _ hc)) kind id x' hx'
    have hnone (m : Notice) (hm : .noted m ∈ ([.noted n] : List (Happening C))) :
        ¬m.About id := by
      obtain rfl := Happening.noted.inj (List.mem_singleton.mp hm)
      exact fun hid ↦ nomatch hn.symm.trans hid
    rw [tally_append, tally_append, tally_eq_zero hnone, tally_eq_zero hnone]
    exact ⟨x, hx, hadds⟩

theorem get?_receivers_changed_self (r : Router C) (id : WindowId) (a : Change C) :
    (r.changed id a).receivers.get? id = (r.receivers.get? id).map a.receiver := by
  cases a with
  | none => exact Option.map_id_apply.symm
  | pointer p => exact get?_receivers_modifyReceiver_self r id _
  | scrolling s => exact get?_receivers_modifyReceiver_self r id _
  | scale scale => exact Option.map_id_apply.symm

theorem get?_receivers_changed_of_ne (r : Router C) (h : id ≠ other) (a : Change C) :
    (r.changed id a).receivers.get? other = r.receivers.get? other := by
  cases a with
  | none => rfl
  | pointer p => exact get?_receivers_modifyReceiver_of_ne r h _
  | scrolling s => exact get?_receivers_modifyReceiver_of_ne r h _
  | scale scale => rfl

theorem records_deliver {e : Event} {plan : Plan C (Router C) Reply}
    (hplan : r.deliver id e = .ok plan) (hshows : plan.Shows r' new) : r.Records new r' := by
  have hstep := step_of_deliver hplan hshows.leaves
  unfold deliver at hplan
  split at hplan
  case h_1 => exact nomatch hplan
  case h_2 t x hfind =>
    obtain rfl := Except.ok.inj hplan
    obtain ⟨-, hx, rfl, -⟩ := find?_eq_some_iff.mp hfind
    have habout (n : Notice) (hn : .noted n ∈ new) : n.About t.id :=
      (r.keeps_handle t x e).of_shows hshows hn
    rw [handle_eq_map] at hshows
    obtain ⟨a, rfl, ha⟩ := Plan.shows_map hshows
    refine records_of_about hx hstep habout
      (fun other hne ↦ get?_receivers_changed_of_ne r hne a) fun hbegins kind x' hx' ↦ ?_
    rw [get?_receivers_changed_self, hx] at hx'
    obtain rfl := Option.some.inj hx'
    exact (Event.balances_plan kind t x r.config r.host e).tally_eq ha habout hbegins

/-- The window is closed, so nothing has to add up for it any more. -/
theorem records_close {plan : Plan C (Router C) Unit} (hplan : r.close id = .ok plan)
    (hshows : plan.Shows r' new) : r.Records new r' := by
  obtain ⟨⟨x, hx⟩, rfl⟩ := eq_closed_of_close hplan hshows.leaves
  rw [close, hx] at hplan
  obtain rfl := Except.ok.inj hplan
  refine records_of_about hx (.closed hx)
    (fun n hn ↦ ((r.closed id).course_cancelAll id x).keeps.of_shows hshows hn)
    (fun other hne ↦ get?_receivers_closed_of_ne r hne) fun _ kind x' hx' ↦ ?_
  rw [get?_receivers_closed_self] at hx'
  exact absurd hx'.symm (Option.some_ne_none x')

/-- In a request a window is opened, or what the router shows adds up. -/
theorem records_serve {q : Request C} {plan : Plan C (Router C) Answer}
    (hplan : r.serve q = .ok plan) (hshows : plan.Shows r' new) :
    (∃ d listener given, r' = (r.opened d listener).2 ∧
      new = [.noted (.windowOpened r.windows.nextId given)]) ∨ r.Records new r' := by
  -- Most requests show nothing.
  have hsilent {state : Router C} (hdone : r' = state ∧ new = []) (hstep : r.Step state)
      (hsame : state.receivers = r.receivers) : r.Records new r' := by
    obtain ⟨rfl, rfl⟩ := hdone
    exact records_nil hstep hsame
  cases q with
  | create d listener =>
    obtain rfl := Except.ok.inj hplan
    obtain ⟨later, rfl, rfl, rfl⟩ := hshows
    exact .inl ⟨d, listener, _, rfl, rfl⟩
  | close id =>
    obtain ⟨inner, hinner, rfl⟩ := map_eq_ok hplan
    obtain ⟨_, rfl, hinnerShows⟩ := Plan.shows_map hshows
    exact .inr (records_close hinner hinnerShows)
  | send id e =>
    obtain ⟨inner, hinner, rfl⟩ := map_eq_ok hplan
    obtain ⟨_, rfl, hinnerShows⟩ := Plan.shows_map hshows
    exact .inr (records_deliver hinner hinnerShows)
  | resolve h =>
    obtain ⟨_, -, rfl⟩ := map_eq_ok hplan
    exact .inr (hsilent hshows .stay rfl)
  | announce patch =>
    obtain rfl := Except.ok.inj hplan
    exact .inr (hsilent hshows (.announced patch) rfl)
  | attachHost host =>
    obtain rfl := Except.ok.inj hplan
    exact .inr (hsilent hshows (.hosted host) rfl)
  | config | handle | window | windows =>
    obtain rfl := Except.ok.inj hplan
    exact .inr (hsilent hshows .stay rfl)

/-- The router has shown `log`: this is about windows whose ids were given out, and tells what the
open windows have. -/
structure Recorded (r : Router C) (log : List (Happening C)) : Prop where
  inStep : r.InStep
  issued : ∃ ids, r.windows.Issued ids ∧ ids.length ≤ openings log ∧
    ∀ n id, .noted n ∈ log → n.About id → id ∈ ids
  balanced : ∀ (kind : SessionKind) (id : WindowId) (x : Receiver C),
    r.receivers.get? id = some x →
      tally id kind.opening log = tally id kind.ending log + (kind.stored x).toNat

theorem recorded_new (config : Config) : (Router.new config : Router C).Recorded [] where
  inStep := inStep_new config
  issued := ⟨[], OpenWindows.issued_empty, Nat.le_refl 0, nofun⟩
  balanced _ id _ hx := nomatch (IdMap.get?_empty id).symm.trans hx

theorem Recorded.append (h : r.Recorded log) (hnew : r.Records new r')
    (hbegins : ∀ c, .called c false ∈ new → ¬c.Begins) (hfew : openings log < 2 ^ 31) :
    r'.Recorded (log ++ new) where
  inStep := h.inStep.of_step hnew.step
  issued := by
    obtain ⟨ids, hissued, hlength, hids⟩ := h.issued
    refine ⟨ids, hnew.step.issued hissued (Nat.lt_of_le_of_lt hlength hfew), ?_, ?_⟩
    · rw [openings_append]
      exact Nat.le_add_right_of_le hlength
    · intro n id hn hid
      rcases List.mem_append.mp hn with hn | hn
      · exact hids n id hn hid
      · exact hissued.mem_of_open id ((h.inStep.open_eq id).trans (hnew.about n id hn hid))
  balanced kind id x' hx' := by
    obtain ⟨x, hx, hadds⟩ := hnew.balanced hbegins kind id x' hx'
    have hbefore := h.balanced kind id x hx
    rw [tally_append, tally_append]
    omega

/-- No notice is about the new window but the one that it is opened. -/
theorem Recorded.opened (h : r.Recorded log) (d : Descriptor) (listener : C.Listener)
    (given : Handle) : (r.opened d listener).2.Recorded
      (log ++ [.noted (.windowOpened r.windows.nextId given)]) where
  inStep := inStep_opened h.inStep d listener
  issued := by
    obtain ⟨ids, hissued, hlength, hids⟩ := h.issued
    refine ⟨ids ++ [r.windows.nextId], hissued.create d, ?_, ?_⟩
    · rw [List.length_append, openings_append]
      exact Nat.add_le_add_right hlength 1
    · intro n id hn hid
      rw [OpenWindows.mem_issued_iff]
      rcases List.mem_append.mp hn with hn | hn
      · exact .inl (hids n id hn hid)
      · obtain rfl := Happening.noted.inj (List.mem_singleton.mp hn)
        exact .inr (Option.some.inj hid).symm
  balanced kind id x hx := by
    obtain ⟨hopening, hending⟩ := tally_windowOpened (C := C) kind id r.windows.nextId given
    rw [tally_append, tally_append, hopening, hending]
    rw [get?_receivers_opened h.inStep] at hx
    split at hx
    case isTrue hnew =>
      -- Notices about an earlier window at this position carry another id.
      obtain rfl := Option.some.inj hx
      obtain ⟨ids, hissued, -, hids⟩ := h.issued
      have hnone (n : Notice) (hn : .noted n ∈ log) : ¬n.About id :=
        fun hid ↦ hissued.nextId_not_mem (hnew.1 ▸ hids n id hn hid)
      rw [tally_eq_zero hnone, tally_eq_zero hnone]
      cases kind <;> rfl
    case isFalse => exact h.balanced kind id x hx

section Acts

variable (r) (W : World C σ) (w : σ) (hfew : openings log < 2 ^ 31)

include hfew

/-- In a request the router shows what adds up, whatever becomes of it. -/
theorem recorded_request (q : Request C) :
    ∃ r', ((Seat.taken r).serve W q w).2.1 = .taken r' ∧ (r.Recorded log →
      (∀ c, .called c false ∈ r.shown W w (.request q) → ¬c.Begins) →
        r'.Recorded (log ++ r.shown W w (.request q))) := by
  have hrouter : (Seat.taken r).router.bind (·.serve q) = r.serve q := rfl
  simp only [shown, Seat.serve, hrouter]
  cases hserve : r.serve q with
  | error e =>
    refine ⟨r, rfl, fun h _ ↦ ?_⟩
    rwa [List.append_nil]
  | ok plan =>
    refine ⟨(plan.run W w).2.1, rfl, fun h hbegins ↦ ?_⟩
    rcases records_serve hserve (plan.shows_transcript W w) with
      ⟨d, listener, given, hopened, hnew⟩ | hnew
    · rw [hopened]
      exact hnew ▸ h.opened d listener given
    · exact h.append hnew hbegins hfew

/-- So it does in a signal, which may leave a notice that is about no window. -/
theorem recorded_signal (hd : Handle) (q : Signal) :
    ∃ r', ((Seat.taken r).signal W hd q w).2.1 = .taken r' ∧ (r.Recorded log →
      (∀ c, .called c false ∈ r.shown W w (.signal hd q) → ¬c.Begins) →
        r'.Recorded (log ++ r.shown W w (.signal hd q))) := by
  have hrouter : (Seat.taken r).router.bind (·.signal hd q) = r.signal hd q := rfl
  simp only [shown, Seat.signal, hrouter]
  cases hsignal : r.signal hd q with
  | error e =>
    have hnew : r.Records ([] ++ [.noted (.dropped e q.entry hd)]) r :=
      (records_nil .stay rfl).append rfl
    exact ⟨r, rfl, fun h hbegins ↦ h.append hnew hbegins hfew⟩
  | ok plan =>
    obtain ⟨id, e, -, -, hdeliver⟩ := signal_eq_ok hsignal
    have hnew := records_deliver hdeliver (plan.shows_transcript W w)
    obtain ⟨hanswer, -, -⟩ := plan.run_alike W.alike_transcribed (v := (w, [])) (w := w) rfl
    simp only
    revert hnew hanswer
    rcases plan.run W w with ⟨_ | reply, r', w'⟩ <;>
      rcases plan.run W.transcribed (w, []) with ⟨_ | reply', r'', v', shown⟩ <;>
      intro hnew hanswer
    · exact ⟨r', rfl, fun h hbegins ↦ h.append (hnew.append rfl) hbegins hfew⟩
    · exact absurd hanswer (Option.some_ne_none reply')
    · exact absurd hanswer.symm (Option.some_ne_none reply)
    · exact ⟨r', rfl, fun h hbegins ↦ h.append hnew hbegins hfew⟩

end Acts

end Router

/-! ### Runs -/

namespace Roster

/-- What router `i` has shown is `log`, if it is there. -/
structure Recorded (s : Roster C) (i : Nat) (log : List (Happening C)) : Prop where
  absent : s.routers.length ≤ i → log = []
  present : ∀ r, s.routers[i]? = some r → r.Recorded log

variable {s : Roster C} {i : Nat}

theorem recorded_empty (i : Nat) : (Roster.empty : Roster C).Recorded i [] where
  absent _ := rfl
  present := nofun

/-- Only the router in the seat changes, and only it shows something. -/
theorem Recorded.update (hs : s.Recorded i log) {W : World C σ} {w : σ} {a : Act C σ}
    (outcome : Seat C → Seat C)
    (hbegins : ∀ c, .called c false ∈ s.shown W i w a → ¬c.Begins)
    (houtcome : ∀ r, ∃ r', outcome (.taken r) = .taken r' ∧ (r.Recorded log →
      (∀ c, .called c false ∈ r.shown W w a → ¬c.Begins) →
        r'.Recorded (log ++ r.shown W w a))) :
    (s.update (outcome s.seat)).Recorded i (log ++ s.shown W i w a) := by
  cases hcurrent : s.current with
  | none =>
    rw [update_of_none hcurrent, shown, hcurrent, List.append_nil]
    exact hs
  | some found =>
    obtain ⟨j, r⟩ := found
    obtain ⟨r', hr', hrecorded⟩ := houtcome r
    have hr := (current_eq_some_iff.mp hcurrent).2
    rw [seat_of_current hcurrent, hr', update_of_current hcurrent]
    simp only [shown, hcurrent] at hbegins ⊢
    constructor
    · intro hle
      rw [List.length_set] at hle
      have hlt : j < s.routers.length := (List.getElem?_eq_some_iff.mp hr).1
      rw [if_neg (Nat.ne_of_lt (Nat.lt_of_lt_of_le hlt hle)), List.append_nil]
      exact hs.absent hle
    · intro q hq
      rw [getElem?_set_of_current hcurrent] at hq
      by_cases hji : j = i
      · subst hji
        rw [if_pos rfl] at hq hbegins ⊢
        exact Option.some.inj hq ▸ hrecorded (hs.present r hr) hbegins
      · rw [if_neg hji] at hq ⊢
        rw [List.append_nil]
        exact hs.present q hq

/-- New routers have shown nothing. -/
theorem Recorded.install (hs : s.Recorded i log) (config : Config) :
    (⟨s.routers ++ [.new config], some s.routers.length⟩ : Roster C).Recorded i log := by
  constructor
  · intro hle
    rw [List.length_append] at hle
    exact hs.absent (Nat.le_trans (Nat.le_add_right _ 1) hle)
  · intro r hr
    rcases Nat.lt_or_ge i s.routers.length with hlt | hge
    · rw [List.getElem?_append_left hlt] at hr
      exact hs.present r hr
    · rw [List.getElem?_append_right hge] at hr
      obtain rfl := List.mem_singleton.mp (List.mem_of_getElem? hr)
      exact hs.absent hge ▸ Router.recorded_new config

theorem Recorded.perform (hs : s.Recorded i log) (hfew : openings log < 2 ^ 31) (W : World C σ)
    (w : σ) (a : Act C σ)
    (hbegins : ∀ c, .called c false ∈ s.shown W i w a → ¬c.Begins) :
    (a.perform W s w).1.Recorded i (log ++ s.shown W i w a) := by
  -- An act that comes to no router shows nothing.
  have hsilent (hacts : ∀ r, Router.shown W r w a = []) : s.shown W i w a = [] := by
    unfold shown
    split
    · rw [hacts, ite_self]
    · rfl
  cases a with
  | request q =>
    exact hs.update (fun seat ↦ (seat.serve W q w).2.1) hbegins fun r ↦
      r.recorded_request W w hfew q
  | signal h q =>
    exact hs.update (fun seat ↦ (seat.signal W h q w).2.1) hbegins fun r ↦
      r.recorded_signal W w hfew h q
  | install config =>
    rw [hsilent fun _ ↦ rfl, List.append_nil]
    exact hs.install config
  | reinstall n =>
    rw [hsilent fun _ ↦ rfl, List.append_nil]
    have hrouters : ((Act.reinstall n).perform W s w).1.routers = s.routers := by
      simp only [Act.perform]
      split <;> rfl
    exact ⟨hrouters ▸ hs.absent, hrouters ▸ hs.present⟩
  | uninstall =>
    rw [hsilent fun _ ↦ rfl, List.append_nil]
    exact ⟨hs.absent, hs.present⟩
  | elapse change =>
    rw [hsilent fun _ ↦ rfl, List.append_nil]
    exact hs

theorem Recorded.run {W : World C σ} {s : Roster C × σ} (hs : s.1.Recorded i log)
    (acts : List (Act C σ))
    (hbegins : ∀ c, .called c false ∈ routerLog W i s acts → ¬c.Begins)
    (hfew : openings (log ++ routerLog W i s acts) < 2 ^ 31) :
    (Roster.run W s acts).1.Recorded i (log ++ routerLog W i s acts) := by
  induction acts generalizing s log with
  | nil => exact (List.append_nil log).symm ▸ hs
  | cons a acts ih =>
    have hbefore : openings log < 2 ^ 31 := by
      rw [openings_append] at hfew
      exact Nat.lt_of_le_of_lt (Nat.le_add_right _ _) hfew
    rw [routerLog] at hbegins
    rw [routerLog, ← List.append_assoc] at hfew ⊢
    refine ih (hs.perform hbefore W s.2 a fun c hc ↦ ?_) (fun c hc ↦ ?_) hfew
    · exact hbegins c (List.mem_append_left _ hc)
    · exact hbegins c (List.mem_append_right _ hc)

end Roster

/-- In every run of routers, with whatever clients and whatever fails but the calls that ask for a
drag session or a scroll gesture: in the log of a router that opened fewer than `2 ^ 31` windows,
the notices about an open window that a drag session started are one more than those that one ended
if the window has a drag session, and as many otherwise; and so it is for the notices that a scroll
gesture started and those that one timed out, was interrupted or ended. -/
theorem session_log_faithful (W : World C σ) (w : σ) (acts : List (Act C σ)) (i : Nat)
    (hbegins : ∀ c, .called c false ∈ routerLog W i (.empty, w) acts → ¬c.Begins)
    (hfew : openings (routerLog W i (.empty, w) acts) < 2 ^ 31) {r : Router C} {id : WindowId}
    {window : Window} (hr : (Roster.run W (.empty, w) acts).1.routers[i]? = some r)
    (hid : r.window? id = some window) :
    ∃ x, r.receivers.get? id = some x ∧
      (tally id ["drag session started"] (routerLog W i (.empty, w) acts) : Int) -
          tally id ["drag session ended"] (routerLog W i (.empty, w) acts) =
        (if x.pointer.drag.isSome then 1 else 0) ∧
      (tally id ["scroll gesture started"] (routerLog W i (.empty, w) acts) : Int) -
          tally id ["scroll gesture timed out", "scroll gesture interrupted by discrete scroll",
            "scroll gesture ended"] (routerLog W i (.empty, w) acts) =
        if x.scrolling.isSome then 1 else 0 := by
  have hrecorded := ((Roster.recorded_empty i).run (W := W) (s := (.empty, w)) acts hbegins
    hfew).present r hr
  rw [List.nil_append] at hrecorded
  have hopen : (r.receivers.get? id).isSome := by
    rw [← hrecorded.inStep.open_eq id]
    exact Option.isSome_of_eq_some hid
  obtain ⟨x, hx⟩ := Option.isSome_iff_exists.mp hopen
  have hone (b : Bool) {m n : Nat} (h : m = n + b.toNat) :
      (m : Int) - n = if b then 1 else 0 := by
    cases b <;> simp [h]
  exact ⟨x, hx, hone _ (hrecorded.balanced .drag id x hx),
    hone _ (hrecorded.balanced .gesture id x hx)⟩

/-- The world in which drag sessions fail when a button is released, and scroll gestures when they
end. -/
def World.frayed : World .bare Unit := .bare fun
  | .drag _ (.up _ _) | .gesture _ .finish => true
  | _ => false

/-- A window is closed while a button is held in it, and another one is opened at its position. In
this one a button is pressed, released and pressed again, and the fingers scroll three times, with a
long pause after the first time. -/
def scrolledAndDragged : List (Act .bare Unit) :=
  [.install default, .request (.create default ()),
    .request (.send ⟨1, 1⟩ (.button .zero true .left)), .request (.close ⟨1, 1⟩),
    .request (.create default ()), .request (.send ⟨1, 3⟩ (.button .zero true .left)),
    .signal 2 (.button .zero 0 1), .request (.send ⟨1, 3⟩ (.button .zero true .left)),
    .request (.send ⟨1, 3⟩ (.smoothScroll .zero ⟨0, 1⟩ ⟨100⟩)),
    .request (.send ⟨1, 3⟩ (.smoothScroll .zero ⟨0, 1⟩ ⟨900⟩)),
    .signal 2 (.smoothScroll .zero ⟨0, 1⟩ 910)]

/-- The log tells of the session and the gesture that are left, although two calls failed. -/
theorem scrolled_and_dragged_logged :
    let log := routerLog World.frayed 0 (.empty, ()) scrolledAndDragged
    (log.countP fun
      | .called _ returned => !returned
      | _ => false) = 2 ∧
    tally ⟨1, 3⟩ ["drag session started"] log = 2 ∧ tally ⟨1, 3⟩ ["drag session ended"] log = 1 ∧
    ∃ r window x,
      (Roster.run World.frayed (.empty, ()) scrolledAndDragged).1.routers[0]? = some r ∧
      r.window? ⟨1, 3⟩ = some window ∧ r.receivers.get? ⟨1, 3⟩ = some x ∧
      x.pointer.drag.isSome ∧ x.scrolling.isSome := by
  have hcalls : ((routerLog World.frayed 0 (.empty, ()) scrolledAndDragged).all fun
      | .called c false => !decide c.Begins
      | _ => true) = true := by decide +kernel
  have hbegins (c : Call .bare)
      (hc : .called c false ∈ routerLog World.frayed 0 (.empty, ()) scrolledAndDragged) :
      ¬c.Begins := by simpa using List.all_eq_true.mp hcalls _ hc
  have hany : ((Roster.run World.frayed (.empty, ()) scrolledAndDragged).1.routers[0]?.any
      fun r ↦ (r.window? ⟨1, 3⟩).isSome) = true := by decide +kernel
  obtain ⟨r, hr, hopen⟩ := (Option.any_eq_true _ _).mp hany
  obtain ⟨window, hid⟩ := Option.isSome_iff_exists.mp hopen
  obtain ⟨x, hx, hdrag, hgesture⟩ := session_log_faithful World.frayed () scrolledAndDragged 0
    hbegins (by decide +kernel) hr hid
  have hstarted : tally ⟨1, 3⟩ ["drag session started"]
      (routerLog World.frayed 0 (.empty, ()) scrolledAndDragged) = 2 := by decide +kernel
  have hended : tally ⟨1, 3⟩ ["drag session ended"]
      (routerLog World.frayed 0 (.empty, ()) scrolledAndDragged) = 1 := by decide +kernel
  have hscrolls : tally ⟨1, 3⟩ ["scroll gesture started"]
        (routerLog World.frayed 0 (.empty, ()) scrolledAndDragged) = 2 ∧
      tally ⟨1, 3⟩ ["scroll gesture timed out", "scroll gesture interrupted by discrete scroll",
        "scroll gesture ended"]
        (routerLog World.frayed 0 (.empty, ()) scrolledAndDragged) = 1 := by decide +kernel
  rw [hstarted, hended] at hdrag
  rw [hscrolls.1, hscrolls.2] at hgesture
  have hone {b : Bool} (h : (2 : Int) - 1 = if b then 1 else 0) : b = true := by
    cases b
    · exact absurd h (by decide)
    · rfl
  exact ⟨by decide +kernel, hstarted, hended, r, window, x, hr, hid, hx, hone hdrag, hone hgesture⟩

end WindowRouting
