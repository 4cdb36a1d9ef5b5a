import WindowRouting.Proofs.Closing
import WindowRouting.Proofs.Creations
import WindowRouting.Proofs.ScrollCalls

/-!
Scroll calls in runs. An act is an input to the scrolling of a window if it closes the window or
delivers a scroll event to it (`Watch.scrollInput?`); any other act leaves the scrolling of the
window as it is and makes no scroll call for it. So after every act the calls and the scrolling of
the window are what the inputs so far come to (`Watch.Segmented`), and after a run the calls are
those of the segments of the inputs (`scroll_calls_eq_segments`).
-/

set_option autoImplicit false
set_option relaxedAutoImplicit false

namespace WindowRouting

open Relation

variable {C : Client} {σ : Type}

/-! ### Inputs -/

/-- The act delivers an event to window `id` of the router in the seat. -/
def Act.Delivers (r : Router C.ticketed) (id : WindowId) (e : Event) (a : Act C σ) : Prop :=
  a = .request (.send id e) ∨ ∃ h q, a = .signal h q ∧ r.resolve h = .ok id ∧ q.event = .ok e

/-- The id that an act is meant for in the router in the seat, and what the act is to the scrolling
of an open window with this id. -/
def Act.scrollInput? (r : Router C.ticketed) : Act C σ → Option (WindowId × ScrollInput)
  | .request (.close id) => some (id, .close)
  | .request (.send id e) => e.scrollInput?.map fun input ↦ (id, input)
  | .signal h q =>
    match r.resolve h, q.event with
    | .ok id, .ok e => e.scrollInput?.map fun input ↦ (id, input)
    | _, _ => none
  | _ => none

/-- An act that has to do with scrolling closes a window or delivers an event. -/
theorem Act.cases_of_scrollInput? {r : Router C.ticketed} {a : Act C σ} {id : WindowId}
    {input : ScrollInput} (ha : a.scrollInput? r = some (id, input)) :
    a = .request (.close id) ∧ input = .close ∨
      ∃ e, a.Delivers r id e ∧ e.scrollInput? = some input := by
  unfold scrollInput? at ha
  split at ha
  case h_1 closed =>
    obtain ⟨rfl, rfl⟩ := Prod.mk.inj (Option.some.inj ha)
    exact Or.inl ⟨rfl, rfl⟩
  case h_2 sent e =>
    obtain ⟨found, he, hfound⟩ := Option.map_eq_some_iff.mp ha
    obtain ⟨rfl, rfl⟩ := Prod.mk.inj hfound
    exact Or.inr ⟨e, Or.inl rfl, he⟩
  case h_3 h q =>
    split at ha
    case h_1 sent e hid hevent =>
      obtain ⟨found, he, hfound⟩ := Option.map_eq_some_iff.mp ha
      obtain ⟨rfl, rfl⟩ := Prod.mk.inj hfound
      exact Or.inr ⟨e, Or.inr ⟨h, q, rfl, hid, hevent⟩, he⟩
    case h_2 => exact nomatch ha
  case h_4 => exact nomatch ha

namespace Watch

/-- What `find` gives for the router in the seat, if it is meant for window number `k`. -/
def addressed? {β : Type} (s : Watch C σ) (k : Nat)
    (find : Router C.ticketed → Option (WindowId × β)) : Option β :=
  s.roster.current.bind fun found ↦ (find found.2).bind fun (id, b) ↦
    if (found.2.receivers.get? id).any (·.listener.number == k) then some b else none

/-- What an act is to the scrolling of window number `k`, if it finds this window. -/
def scrollInput? (s : Watch C σ) (k : Nat) (a : Act C σ) : Option ScrollInput :=
  s.addressed? k a.scrollInput?

variable {W : World C σ} {s : Watch C σ} {k : Nat} {a : Act C σ}

section Addressed

variable {β : Type} {find : Router C.ticketed → Option (WindowId × β)} {b : β}

theorem exists_of_addressed? (h : s.addressed? k find = some b) :
    ∃ i r id x, s.roster.current = some (i, r) ∧ find r = some (id, b) ∧
      r.receivers.get? id = some x ∧ x.listener.number = k := by
  obtain ⟨⟨i, r⟩, hcurrent, hfound⟩ := Option.bind_eq_some_iff.mp h
  obtain ⟨⟨id, b'⟩, hfind, hnumber⟩ := Option.bind_eq_some_iff.mp hfound
  simp only at hnumber
  split at hnumber
  case isTrue hany =>
    obtain rfl := Option.some.inj hnumber
    obtain ⟨x, hx, hk⟩ := (Option.any_eq_true _ _).mp hany
    exact ⟨i, r, id, x, hcurrent, hfind, hx, beq_iff_eq.mp hk⟩
  case isFalse => exact nomatch hnumber

theorem addressed?_of_receiver? {i : Nat} {r : Router C.ticketed} {id : WindowId}
    {x : Receiver C.ticketed} (hcurrent : s.roster.current = some (i, r))
    (hx : s.receiver? ⟨i, id⟩ = some x) (hk : x.listener.number = k)
    (hfind : find r = some (id, b)) : s.addressed? k find = some b := by
  rw [receiver?_of_current hcurrent] at hx
  simp [addressed?, hcurrent, hfind, hx, hk]

end Addressed

/-- An act for window number `k` that has nothing to do with scrolling. -/
theorem unscrolled_of_means {place : Place} {cause : Cause C} (hmeans : s.Means a place cause)
    {x : Receiver C.ticketed} (hx : s.receiver? place = some x) (hk : x.listener.number = k)
    (ha : s.scrollInput? k a = none) :
    cause ≠ .closing ∧ ∀ e, cause = .event e → e.scrollInput? = none := by
  rw [scrollInput?] at ha
  have hnone {i : Nat} {r : Router C.ticketed} {id : WindowId} {input : ScrollInput}
      (hcurrent : s.roster.current = some (i, r)) (hx : s.receiver? ⟨i, id⟩ = some x) :
      a.scrollInput? r ≠ some (id, input) := fun hact ↦
    Option.some_ne_none input ((addressed?_of_receiver? hcurrent hx hk hact).symm.trans ha)
  cases hmeans with
  | create => exact ⟨nofun, nofun⟩
  | close hcurrent id => exact absurd rfl (hnone hcurrent hx)
  | send hcurrent id e =>
    refine ⟨nofun, fun e' he' ↦ Option.eq_none_iff_forall_ne_some.mpr fun input hinput ↦ ?_⟩
    obtain rfl := Cause.event.inj he'
    exact hnone hcurrent hx (by rw [Act.scrollInput?, hinput]; rfl)
  | signal hcurrent hid he =>
    refine ⟨nofun, fun e' he' ↦ Option.eq_none_iff_forall_ne_some.mpr fun input hinput ↦ ?_⟩
    obtain rfl := Cause.event.inj he'
    exact hnone hcurrent hx (by simp only [Act.scrollInput?, hid, he, hinput]; rfl)

/-! ### One act -/

/-- A delivery follows the plan of the event. -/
theorem step_delivers {i : Nat} {r : Router C.ticketed} (hcurrent : s.roster.current = some (i, r))
    {id : WindowId} {e : Event} (ha : a.Delivers r id e)
    {plan : Plan C.ticketed (Router C.ticketed) Reply} (hplan : r.deliver id e = .ok plan) :
    ∃ r' w' h', s.step W a = ⟨s.roster.update (.taken r'), w', h', s.acts + 1⟩ ∧
      plan.Reaches s.acts s.history r' h' := by
  rcases ha with rfl | ⟨h, q, rfl, hid, he⟩
  · have hserve : r.serve ((Request.send id e : Request C).ticketed s.acts) =
        .ok (plan.mapAnswer .reply) := by
      simp only [Request.ticketed, Router.serve, hplan]
      rfl
    obtain ⟨r', w', h', hstep, ⟨plan', hplan', hp⟩ | ⟨⟨e', he'⟩, -⟩⟩ :=
      reaches_serve W s.acts r ((Request.send id e).ticketed s.acts) s.world s.history
    · obtain rfl := Except.ok.inj (hserve.symm.trans hplan')
      obtain ⟨_, rfl, hp⟩ := Plan.reaches_map hp
      refine ⟨r', w', h', ?_, hp⟩
      simp only [step, Act.ticketed, Act.perform, Roster.seat_of_current hcurrent, hstep]
    · cases hserve.symm.trans he'
  · have hsignal : r.signal h q = .ok plan := by
      simp only [Router.signal, hid, he, bind, Except.bind, hplan]
    obtain ⟨r', w', h', hstep, ⟨plan', hplan', hp⟩ | ⟨⟨e', he'⟩, -⟩⟩ :=
      reaches_signal W s.acts r h q s.world s.history
    · obtain rfl := Except.ok.inj (hsignal.symm.trans hplan')
      refine ⟨r', w', h', ?_, hp⟩
      simp only [step, Act.ticketed, Act.perform, Roster.seat_of_current hcurrent, hstep]
    · cases hsignal.symm.trans he'

/-- A delivery to an open window does what the event does in the window. -/
theorem Orderly.step_event (hs : s.Orderly) {i : Nat} {r : Router C.ticketed}
    (hcurrent : s.roster.current = some (i, r)) {id : WindowId} {x : Receiver C.ticketed}
    (hx : r.receivers.get? id = some x) {e : Event} (ha : a.Delivers r id e) :
    ∃ w change world h', s.step W a =
        ⟨s.roster.update (.taken (r.changed id change)), world, h', s.acts + 1⟩ ∧
      (s.step W a).receiver? ⟨i, id⟩ = some (change.receiver x) ∧
      (e.plan r.config r.host ⟨id, w, x.listener⟩ x).Reaches s.acts s.history change h' := by
  obtain ⟨w, hw⟩ := Option.isSome_iff_exists.mp
    (((inStep_of_current hs.inStep hcurrent).open_eq id).trans (congrArg Option.isSome hx))
  have hfind : r.find? id = some (⟨id, w, x.listener⟩, x) :=
    Router.find?_eq_some_iff.mpr ⟨hw, hx, rfl, rfl⟩
  obtain ⟨r', world, h', hstep, hp⟩ :=
    step_delivers (W := W) hcurrent ha (Router.deliver_of_find? hfind e)
  obtain ⟨change, rfl, hinner⟩ := Plan.reaches_map hp
  refine ⟨w, change, world, h', hstep, ?_, hinner⟩
  rw [hstep, receiver?_update hcurrent, if_pos rfl]
  exact (Router.find?_eq_some_iff.mp (Router.find?_changed_self hfind change)).2.1

theorem Orderly.ownedBy (hs : s.Orderly) {place : Place} {x : Receiver C.ticketed}
    (hx : s.receiver? place = some x) : x.scrolling.OwnedBy x.listener.number s.history :=
  fun y hy ↦ hs.held place x hx y ⟨x, rfl, Or.inr hy⟩

/-- An act that has to do with the scrolling of window number `k`. -/
theorem Orderly.responds_of_input (hs : s.Orderly) {input : ScrollInput}
    (ha : s.scrollInput? k a = some input) {cfg : Config}
    (hcfg : ∀ i r id x, s.roster.current = some (i, r) → r.receivers.get? id = some x →
      x.listener.number = k → r.config = cfg)
    (hreturned : ∀ e ∈ (s.step W a).history, e.returned = true) :
    ∃ o o', s.Shows k o ∧ (s.step W a).Shows k o' ∧
      Scrolling.Responds k s.history
        (((Receiver.scrollingOf o).stateIn s.history k).respond cfg input)
        (Receiver.scrollingOf o') (s.step W a).history := by
  rw [scrollInput?] at ha
  obtain ⟨i, r, id, x, hcurrent, hact, hx, hk⟩ := exists_of_addressed? ha
  have hplace : s.receiver? ⟨i, id⟩ = some x := (receiver?_of_current hcurrent id).trans hx
  have howned := hs.ownedBy hplace
  obtain rfl := hcfg i r id x hcurrent hx hk
  subst hk
  refine ⟨some x, ?_⟩
  rcases Act.cases_of_scrollInput? hact with ⟨rfl, rfl⟩ | ⟨e, hdelivers, he⟩
  · obtain ⟨⟨dragOk, gestureOk, hh⟩, hclosed, hothers⟩ := step_close (W := W) hcurrent hx
    rw [hh] at hreturned ⊢
    refine ⟨none, ⟨rfl, _, hplace⟩, fun other y hy hnumber ↦ ?_,
      x.responds_cancels howned fun e he ↦ hreturned e (List.mem_append_right _ he)⟩
    -- No other window has the number.
    by_cases hother : ⟨i, id⟩ = other
    · exact nomatch (hother ▸ hclosed).symm.trans hy
    · rw [hothers other hother] at hy
      exact hother (hs.distinct _ _ _ _ hplace hy hnumber.symm)
  · obtain ⟨w, change, world, h', hstep, hafter, hp⟩ :=
      hs.step_event (W := W) hcurrent hx hdelivers
    rw [hstep] at hreturned
    obtain ⟨s', rfl, hresponds⟩ := Event.responds_plan he rfl howned (hp.completes hreturned)
    refine ⟨some { x with scrolling := s' }, ⟨rfl, _, hplace⟩, ⟨rfl, ⟨i, id⟩, hafter⟩, ?_⟩
    rw [hstep]
    exact hresponds

/-- The scrolling of a window that is shown was opened by the window. -/
theorem Orderly.ownedBy_of_shows (hs : s.Orderly) {o : Option (Receiver C.ticketed)}
    (ho : s.Shows k o) : (Receiver.scrollingOf o).OwnedBy k s.history := by
  cases o with
  | none => exact fun y hy ↦ absurd hy (Scrolling.not_holds y)
  | some x =>
    obtain ⟨rfl, place, hx⟩ := ho
    exact hs.ownedBy hx

/-- An act that has nothing to do with the scrolling of window number `k`. -/
theorem Orderly.responds_of_none (hs : s.Orderly) (ha : s.scrollInput? k a = none)
    {o' : Option (Receiver C.ticketed)} (ho' : (s.step W a).Shows k o') :
    ∃ o, s.Shows k o ∧ Scrolling.Responds k s.history
      ([], (Receiver.scrollingOf o).stateIn s.history k) (Receiver.scrollingOf o')
      (s.step W a).history := by
  -- It is enough that the gesture stays and that no call for it is made.
  suffices hquiet : ∃ o, s.Shows k o ∧ Receiver.scrollingOf o' = Receiver.scrollingOf o ∧
      ∃ es, (s.step W a).history = s.history ++ es ∧
        ∀ e ∈ es, e.call.owner = some k → e.call.swipes = false by
    obtain ⟨o, ho, hsame, es, hh, hes⟩ := hquiet
    rw [hsame, hh]
    exact ⟨o, ho, Scrolling.responds_append (hs.ownedBy_of_shows ho) hes⟩
  rcases hs.chain_of_shows ho' with
    ⟨ho, es, hh, hes⟩ | ⟨place, cause, cfg, hmeans, hk, hnone, hchain⟩
  · -- Another window was called, or none.
    exact ⟨o', ho, rfl, es, hh, fun d hd howner ↦ absurd howner (hes d hd)⟩
  · cases hplace : s.receiver? place with
    | none =>
      -- No window had the number before, and a window that is opened has no gesture.
      rw [hplace] at hchain
      have hnew := hnone hplace
      obtain ⟨hh, hstate⟩ := Lasting.chain_of_vacant hchain
      refine ⟨none, fun other y hy hnumber ↦ ?_, ?_, [], by rw [hh, List.append_nil], nofun⟩
      · exact absurd (hs.number_lt other y hy) (by omega)
      · rcases hstate with hstill | ⟨l, -, hopened⟩
        · rw [hstill]
        · rw [hopened]
          rfl
    | some x =>
      obtain ⟨hclosing, hevent⟩ := unscrolled_of_means hmeans hplace (hk x hplace) ha
      cases cause with
      | opening l => exact nomatch hplace.symm.trans (hs.vacant_of_opening hmeans).1
      | closing => exact absurd rfl hclosing
      | event e =>
        rw [hplace] at hchain
        obtain ⟨hsame, es, hh, hes⟩ := Receiver.chain_of_unscrolled (hevent e rfl) hchain
        exact ⟨some x, ⟨hk x hplace, place, hplace⟩, hsame, es, hh, fun d hd _ ↦ hes d hd⟩

/-! ### Settings -/

/-- A window that is open after an act was open before, or was opened by the act. -/
theorem Orderly.before_step (hs : s.Orderly) {place : Place} {x' : Receiver C.ticketed}
    (hx' : (s.step W a).receiver? place = some x') :
    (∃ x, s.receiver? place = some x ∧ x.listener.number = x'.listener.number) ∨
      x'.listener.number = s.acts ∧ ∃ r, s.roster.current = some (place.router, r) := by
  obtain ⟨-, ⟨moved, cause, hmeans, hmoves⟩ | hrests⟩ := moves_or_rests (W := W) hs.inStep a
  · rcases hmoves.before hx' with rfl | ⟨-, hold⟩
    · obtain ⟨j, hj, hopening, -⟩ := hs.number_of_means hmeans
      obtain ⟨cfg, hchain⟩ := hmoves.steps
      have hj' := ((hs.tidy _ hj).chain hopening hchain).1.number x' hx'
      cases hplace : s.receiver? place with
      | some x => exact Or.inl ⟨x, rfl, (hj x hplace).trans hj'.symm⟩
      | none =>
        rw [hplace, hx'] at hchain
        obtain ⟨-, hgone | ⟨l, rfl, hopened⟩⟩ := Lasting.chain_of_vacant hchain
        · exact nomatch hgone
        · obtain rfl := Option.some.inj hopened
          refine Or.inr ⟨(hs.vacant_of_opening hmeans).2, ?_⟩
          cases hmeans with
          | create hcurrent d listener => exact ⟨_, hcurrent⟩
    · exact Or.inl ⟨x', hold, rfl⟩
  · exact Or.inl ⟨x', (hrests.receivers place).symm.trans hx', rfl⟩

/-- The routers keep their settings. -/
theorem config_step {i : Nat} {r : Router C.ticketed} (hr : s.roster.routers[i]? = some r)
    (a : Act C σ) : ∃ r', (s.step W a).roster.routers[i]? = some r' ∧ r'.config = r.config := by
  have hlt := (List.getElem?_eq_some_iff.mp hr).1
  have hr' := List.getElem?_eq_getElem (Nat.lt_of_lt_of_le hlt (turn_step W s a).length_le)
  refine ⟨_, hr', ?_⟩
  rcases (turn_step W s a).before hr' with
    ⟨hi, -⟩ | ⟨q, hq, hstep⟩ | ⟨q, d, listener, hcurrent, -, hopened⟩
  · exact absurd hi (Nat.ne_of_lt hlt)
  · obtain rfl := Option.some.inj (hr.symm.trans hq)
    exact hstep.config_eq
  · obtain rfl := Option.some.inj (hr.symm.trans (Roster.current_eq_some_iff.mp hcurrent).2)
    rw [hopened]
    rfl

/-- Window number `k` is in a router with the settings `cfg`, and its scroll calls and its scrolling
are what the inputs come to. -/
structure Segmented (s : Watch C σ) (k : Nat) (cfg : Config) (inputs : List ScrollInput) :
    Prop where
  config : ∀ place x r, s.receiver? place = some x → x.listener.number = k →
    s.roster.routers[place.router]? = some r → r.config = cfg
  responded : ∀ o, s.Shows k o → ScrollState.new.respondAll cfg inputs =
    (s.history.scrollCalls k, (Receiver.scrollingOf o).stateIn s.history k)

theorem Segmented.step {cfg : Config} {inputs : List ScrollInput}
    (h : s.Segmented k cfg inputs) (hs : s.Orderly)
    (hcreated : s.acts = k → ∀ i r, s.roster.current = some (i, r) → r.config = cfg)
    (hreturned : ∀ e ∈ (s.step W a).history, e.returned = true) :
    (s.step W a).Segmented k cfg (inputs ++ (s.scrollInput? k a).toList) where
  config place x' r' hx' hk hr' := by
    -- Before the act, there was the router, and it had its settings.
    have hsettings {r : Router C.ticketed} (hr : s.roster.routers[place.router]? = some r)
        (hconfig : r.config = cfg) : r'.config = cfg := by
      obtain ⟨r'', hr'', hsame⟩ := config_step (W := W) hr a
      obtain rfl := Option.some.inj (hr'.symm.trans hr'')
      exact hsame.trans hconfig
    rcases hs.before_step hx' with ⟨x, hx, hnumber⟩ | ⟨hnew, r, hcurrent⟩
    · obtain ⟨r, hr, -⟩ := Option.bind_eq_some_iff.mp hx
      exact hsettings hr (h.config place x r hx (hnumber.trans hk) hr)
    · exact hsettings (Roster.current_eq_some_iff.mp hcurrent).2
        (hcreated (hnew.symm.trans hk) _ r hcurrent)
  responded o' ho' := by
    have hresponds : ∃ o, s.Shows k o ∧ Scrolling.Responds k s.history
        (((Receiver.scrollingOf o).stateIn s.history k).respondAll cfg
          (s.scrollInput? k a).toList)
        (Receiver.scrollingOf o') (s.step W a).history := by
      cases ha : s.scrollInput? k a with
      | none => exact hs.responds_of_none ha ho'
      | some input =>
        have hcfg (i : Nat) (r : Router C.ticketed) (id : WindowId) (x : Receiver C.ticketed)
            (hcurrent : s.roster.current = some (i, r)) (hx : r.receivers.get? id = some x)
            (hk : x.listener.number = k) : r.config = cfg :=
          h.config ⟨i, id⟩ x r ((receiver?_of_current hcurrent id).trans hx) hk
            (Roster.current_eq_some_iff.mp hcurrent).2
        obtain ⟨o, o'', ho, ho'', hresponds⟩ := hs.responds_of_input ha hcfg hreturned
        obtain rfl := (hs.step a).shows_unique ho' ho''
        exact ⟨o, ho, by rwa [Option.toList_some, ScrollState.respondAll_singleton]⟩
    obtain ⟨o, ho, hcalls, hstate⟩ := hresponds
    rw [ScrollState.respondAll_append, h.responded o ho]
    exact Prod.ext hcalls.symm hstate.symm

end Watch

/-! ### Runs -/

/-- What happened to the scrolling of window number `k` in a run. -/
def scrollInputs (W : World C σ) (w : σ) (k : Nat) (acts : List (Act C σ)) : List ScrollInput :=
  gather (fun before a ↦ (watch W w before).scrollInput? k a) acts

variable {W : World C σ} {w : σ}

theorem config_watch {before : List (Act C σ)} {i : Nat} {r : Router C.ticketed}
    (hr : (watch W w before).roster.routers[i]? = some r) (later : List (Act C σ)) :
    ∃ r', (watch W w (before ++ later)).roster.routers[i]? = some r' ∧ r'.config = r.config := by
  induction later using List.reverseRecOn with
  | nil => exact ⟨r, by rwa [List.append_nil], rfl⟩
  | append_singleton later a ih =>
    obtain ⟨r', hr', hconfig⟩ := ih
    rw [← List.append_assoc, watch_snoc]
    obtain ⟨r'', hr'', hconfig'⟩ := Watch.config_step (W := W) hr' a
    exact ⟨r'', hr'', hconfig'.trans hconfig⟩

/-- A window was created by the router that was in the seat. -/
theorem current_of_creation {acts : List (Act C σ)} {c : Creation}
    (hc : c ∈ creations W w acts) : ∃ r,
      (watch W w (acts.take c.act)).roster.current = some (c.router, r) := by
  obtain ⟨n, hn, hfound⟩ := List.mem_filterMap.mp hc
  obtain ⟨a, -, hcreation⟩ := Option.bind_eq_some_iff.mp hfound
  obtain ⟨i, r, d, listener, hcurrent, rfl⟩ := Watch.create_of_creation? hcreation
  rw [Watch.creation?_create hcurrent] at hcreation
  obtain rfl := Option.some.inj hcreation
  rw [acts_watch, List.length_take_of_le (Nat.le_of_lt (List.mem_range.mp hn))]
  exact ⟨r, hcurrent⟩

theorem segmented_watch {acts : List (Act C σ)} {k : Nat} {cfg : Config}
    (hcreated : ∀ i r, (watch W w (acts.take k)).roster.current = some (i, r) → r.config = cfg)
    (hreturned : ∀ e ∈ (watch W w acts).history, e.returned = true) :
    (watch W w acts).Segmented k cfg (scrollInputs W w k acts) := by
  suffices hall : ∀ before after, acts = before ++ after →
      (watch W w before).Segmented k cfg (scrollInputs W w k before) from
    hall acts [] (List.append_nil acts).symm
  intro before
  induction before using List.reverseRecOn with
  | nil =>
    intro after hacts
    refine ⟨nofun, fun o ho ↦ ?_⟩
    cases o with
    | none => rfl
    | some x => exact nomatch ho.2
  | append_singleton before a ih =>
    intro after hacts
    have hbefore := ih (a :: after) (by rw [hacts, List.append_assoc, List.singleton_append])
    rw [scrollInputs, gather_snoc, watch_snoc]
    refine hbefore.step (orderly_watch W w before) (fun hk ↦ ?_) fun e he ↦ ?_
    · rw [acts_watch] at hk
      rwa [hacts, List.append_assoc, List.take_left' hk] at hcreated
    · obtain ⟨es, hes⟩ := history_append W w (before ++ [a]) after
      rw [← watch_snoc] at he
      exact hreturned e (by rw [hacts, hes]; exact List.mem_append_left _ he)

/-- Scroll calls follow from segments. In every run in which no call fails, the scroll calls of a
window are those of the segments of what happened to its scrolling, as the settings of its router
cut it; nothing else that happens matters. -/
theorem scroll_calls_eq_segments (W : World C σ) (w : σ) (acts : List (Act C σ)) {c : Creation}
    (hc : c ∈ creations W w acts)
    (hreturned : ∀ e ∈ (watch W w acts).history, e.returned = true) :
    ∃ r, (watch W w acts).roster.routers[c.router]? = some r ∧
      (watch W w acts).history.scrollCalls c.act =
        calls r.config 0 (segments r.config (scrollInputs W w c.act acts)) := by
  obtain ⟨r₀, hcurrent⟩ := current_of_creation hc
  obtain ⟨r, hr, hconfig⟩ := config_watch (Roster.current_eq_some_iff.mp hcurrent).2
    (acts.drop c.act)
  rw [List.take_append_drop] at hr
  have hsegmented : (watch W w acts).Segmented c.act r.config (scrollInputs W w c.act acts) := by
    refine segmented_watch (fun i q hq ↦ ?_) hreturned
    obtain ⟨-, rfl⟩ := Prod.mk.inj (Option.some.inj (hcurrent.symm.trans hq))
    exact hconfig.symm
  obtain ⟨o, ho⟩ := (watch W w acts).exists_shows c.act
  refine ⟨r, hr, ?_⟩
  rw [← (ScrollState.respondAll_eq r.config _).1 0]
  exact (congrArg Prod.fst (hsegmented.responded o ho)).symm

/-- A window is scrolled three times, the last time late. Then a wheel is turned, and the window is
closed. -/
def scrolledLate : List (Act .bare Unit) :=
  [.install default, .request (.create default ()),
    .request (.send ⟨1, 1⟩ (.smoothScroll .zero ⟨0, 1⟩ ⟨100⟩)),
    .signal 1 (.smoothScroll .zero ⟨0, 1⟩ 110),
    .request (.send ⟨1, 1⟩ (.smoothScroll .zero ⟨0, 1⟩ ⟨400⟩)),
    .request (.send ⟨1, 1⟩ (.discreteScroll .zero ⟨0, 1⟩)), .request (.close ⟨1, 1⟩)]

theorem scrolled_late_segmented :
    (watch Roster.quiet () scrolledLate).history.scrollCalls 1 =
      [.start 0 .zero, .gesture 0 (.motion ⟨⟨-0, -1⟩, true⟩ .zero),
        .gesture 0 (.motion ⟨⟨-0, -1⟩, true⟩ ⟨-0, -100⟩), .gesture 0 .finish,
        .start 1 .zero, .gesture 1 (.motion ⟨⟨-0, -1⟩, true⟩ .zero), .gesture 1 .cancel,
        .scroll .zero ⟨⟨-0, -1⟩, false⟩] ∧
    (scrollInputs Roster.quiet () 1 scrolledLate).length = 5 ∧
    ∃ r, (watch Roster.quiet () scrolledLate).roster.routers[0]? = some r ∧
      (watch Roster.quiet () scrolledLate).history.scrollCalls 1 =
        calls r.config 0 (segments r.config (scrollInputs Roster.quiet () 1 scrolledLate)) := by
  have hcreated : (⟨1, 0, ⟨1, 1⟩, 1⟩ : Creation) ∈ creations Roster.quiet () scrolledLate := by
    decide +kernel
  have hreturned : (watch Roster.quiet () scrolledLate).history.all (·.returned) = true := by
    decide +kernel
  exact ⟨by decide +kernel, by decide +kernel,
    scroll_calls_eq_segments Roster.quiet () scrolledLate hcreated (List.all_eq_true.mp hreturned)⟩

end WindowRouting
