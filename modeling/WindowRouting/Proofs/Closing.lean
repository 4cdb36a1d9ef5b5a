import WindowRouting.Proofs.DragSessions
import WindowRouting.Proofs.ScrollGestures

/-!
Closing a window. What no window has is never called again (`gone_watch`), so what is not cancelled
when its window is closed never is. The drag session of the window is cancelled, and its scroll
gesture is cancelled after it; the gesture is passed over when the session fails in that
(`closing_cancels`).
-/

set_option autoImplicit false
set_option relaxedAutoImplicit false

namespace WindowRouting

variable {C : Client} {σ : Type} {W : World C σ} {w : σ}

namespace Watch

variable {s : Watch C σ}

/-- The session or gesture was opened, and no window has it. -/
structure Gone (s : Watch C σ) (x : Ticket) : Prop where
  past : x.call < s.history.length
  unheld : ∀ place, ¬Receiver.Holds (s.receiver? place) x

/-- What no window has is not called, and no window gets it. -/
theorem Orderly.gone_step (hs : s.Orderly) {x : Ticket} (hx : s.Gone x) (a : Act C σ) :
    (s.step W a).Gone x ∧ ∃ es, (s.step W a).history = s.history ++ es ∧
      ∀ e ∈ es, e.call.ticket? ≠ some x := by
  obtain ⟨-, ⟨place, cause, hmeans, hmoves⟩ | hrests⟩ := moves_or_rests (W := W) hs.inStep a
  · obtain ⟨k, hk, hopening, -⟩ := hs.number_of_means hmeans
    obtain ⟨cfg, hchain⟩ := hmoves.steps
    obtain ⟨-, hextends⟩ := (hs.tidy place hk).chain hopening hchain
    refine ⟨⟨Nat.lt_of_lt_of_le hx.past hextends.length_le, fun other hheld ↦ ?_⟩, ?_⟩
    · by_cases hne : place = other
      · subst hne
        rcases hextends.tickets x hheld with hold | ⟨-, hge, -⟩
        · exact hx.unheld place hold
        · exact absurd hx.past (Nat.not_lt.mpr hge)
      · rw [hmoves.others other hne] at hheld
        exact hx.unheld other hheld
    · obtain ⟨es, hh, hes⟩ := hextends.entries
      refine ⟨es, hh, fun e he hticket ↦ ?_⟩
      rcases (hes e he).2.2 x hticket with hold | ⟨hge, -⟩
      · exact hx.unheld place hold
      · exact absurd hx.past (Nat.not_lt.mpr hge)
  · refine ⟨⟨hrests.history ▸ hx.past, fun place ↦ ?_⟩, [], ?_, nofun⟩
    · exact hrests.receivers place ▸ hx.unheld place
    · rw [hrests.history, List.append_nil]

end Watch

/-- What no window has is never called again. -/
theorem gone_watch {acts : List (Act C σ)} {x : Ticket} (hx : (watch W w acts).Gone x)
    (later : List (Act C σ)) : (watch W w (acts ++ later)).Gone x ∧
      ∃ es, (watch W w (acts ++ later)).history = (watch W w acts).history ++ es ∧
        ∀ e ∈ es, e.call.ticket? ≠ some x := by
  induction later using List.reverseRecOn with
  | nil => exact ⟨by rwa [List.append_nil], [], by rw [List.append_nil, List.append_nil], nofun⟩
  | append_singleton later a ih =>
    obtain ⟨hgone, es, hh, hes⟩ := ih
    rw [← List.append_assoc, watch_snoc]
    obtain ⟨hgone', es', hh', hes'⟩ := (orderly_watch W w (acts ++ later)).gone_step hgone a
    refine ⟨hgone', es ++ es', by rw [hh', hh, List.append_assoc], fun e he ↦ ?_⟩
    rcases List.mem_append.mp he with he | he
    · exact hes e he
    · exact hes' e he

theorem messages_of_gone {P : Protocol C} {acts : List (Act C σ)} {x : Ticket}
    (hx : (watch W w acts).Gone x) (later : List (Act C σ)) :
    P.messages (watch W w (acts ++ later)).history x =
      P.messages (watch W w acts).history x := by
  obtain ⟨-, es, hh, hes⟩ := gone_watch hx later
  have hnone : P.messages es x = [] :=
    Protocol.messages_eq_nil fun e he m hm ↦ hes e he (P.ticket_of_message hm)
  rw [hh, Protocol.messages_append, hnone, List.append_nil]

/-! ### What closing calls -/

/-- The session receives its cancellation and nothing else. -/
theorem dragCalls_cancels {receiver : Receiver C.ticketed} {session : Ticketed C.Drag}
    (hdrag : receiver.pointer.drag = some session) (act : Nat) (dragOk gestureOk : Bool) :
    (receiver.cancels act dragOk gestureOk).dragCalls session.ticket = [.cancel] := by
  have hrest : History.dragCalls (if dragOk then receiver.cancelsGesture act gestureOk else [])
      session.ticket = [] := by
    refine Protocol.messages_eq_nil fun e he m hm ↦ ?_
    have hconcerns := (dragProtocol C).concerns_of_message hm
    split at he
    case isTrue => exact nomatch (receiver.drags_cancelsGesture _ e he).symm.trans hconcerns
    case isFalse => exact nomatch he
  have hcancel : History.dragCalls [⟨act, .drag session .cancel, dragOk⟩] session.ticket =
      [.cancel] := Protocol.messages_singleton rfl
  rw [Receiver.cancels, hdrag]
  simp only
  rw [← List.singleton_append, History.dragCalls_append, hcancel, hrest, List.append_nil]

/-- The gesture receives its cancellation and nothing else, if it is not passed over. -/
theorem gestureCalls_cancels {receiver : Receiver C.ticketed} {swipe : Swipe C.ticketed}
    (hswipe : receiver.scrolling = some swipe) (act : Nat) (dragOk gestureOk : Bool) :
    (receiver.cancels act dragOk gestureOk).gestureCalls swipe.gesture.ticket =
      if receiver.pointer.drag.isSome && !dragOk then [] else [(.cancel, gestureOk)] := by
  have hgesture : (receiver.cancelsGesture act gestureOk).gestureCalls swipe.gesture.ticket =
      [(.cancel, gestureOk)] := by
    rw [Receiver.cancelsGesture, hswipe]
    exact Protocol.messages_singleton rfl
  rw [Receiver.cancels]
  cases hdrag : receiver.pointer.drag with
  | none => exact hgesture
  | some session =>
    have hquiet : History.gestureCalls [⟨act, .drag session .cancel, dragOk⟩]
        swipe.gesture.ticket = [] := rfl
    simp only
    rw [← List.singleton_append, History.gestureCalls_append, hquiet, List.nil_append]
    cases dragOk with
    | false => rfl
    | true => exact hgesture

/-! ### Closing in a run -/

namespace Watch

variable {s : Watch C σ} {i : Nat} {r : Router C.ticketed} {id : WindowId}
  {receiver : Receiver C.ticketed}

theorem step_close (hcurrent : s.roster.current = some (i, r))
    (hreceiver : r.receivers.get? id = some receiver) :
    (∃ dragOk gestureOk, (s.step W (.request (.close id))).history =
      s.history ++ receiver.cancels s.acts dragOk gestureOk) ∧
    (s.step W (.request (.close id))).receiver? ⟨i, id⟩ = none ∧
    ∀ other, ⟨i, id⟩ ≠ other →
      (s.step W (.request (.close id))).receiver? other = s.receiver? other := by
  obtain ⟨r', w', h', hserve, ⟨plan, hplan, hp⟩ | ⟨⟨e, he⟩, -⟩⟩ :=
    reaches_serve W s.acts r (.close id) s.world s.history
  · obtain ⟨inner, hinner, rfl⟩ := Router.map_eq_ok hplan
    obtain ⟨_, rfl, hp⟩ := Plan.reaches_map hp
    obtain ⟨rfl, dragOk, gestureOk, rfl⟩ := Router.reaches_close hreceiver hinner hp
    have hstep : s.step W (.request (.close id)) =
        ⟨s.roster.update (.taken (r.closed id)), w',
          s.history ++ receiver.cancels s.acts dragOk gestureOk, s.acts + 1⟩ := by
      simp only [step, Act.ticketed, Act.perform, Roster.seat_of_current hcurrent,
        Request.ticketed, hserve]
    rw [hstep]
    refine ⟨⟨dragOk, gestureOk, rfl⟩, ?_, fun other hother ↦ ?_⟩
    · rw [receiver?_update hcurrent, if_pos rfl, Router.get?_receivers_closed_self]
    · rw [receiver?_update hcurrent]
      split
      case isTrue hi =>
        obtain ⟨j, otherId⟩ := other
        obtain rfl : j = i := hi
        have hid : id ≠ otherId := fun hid ↦ hother (hid ▸ rfl)
        rw [Router.get?_receivers_closed_of_ne r hid, receiver?_of_current hcurrent]
      case isFalse => rfl
  · simp [Router.serve, Router.close, hreceiver, Except.map] at he

/-- What was going on in a window that was closed is gone. -/
theorem Orderly.gone_of_close (hs : s.Orderly) (hcurrent : s.roster.current = some (i, r))
    (hreceiver : r.receivers.get? id = some receiver) {x : Ticket}
    (hx : Receiver.Holds (some receiver) x) : (s.step W (.request (.close id))).Gone x := by
  obtain ⟨⟨dragOk, gestureOk, hh⟩, hclosed, hothers⟩ := step_close (W := W) hcurrent hreceiver
  have hplace : s.receiver? ⟨i, id⟩ = some receiver := by
    rw [receiver?_of_current hcurrent, hreceiver]
  obtain ⟨hwindow, hlt⟩ := hs.held _ receiver hplace x hx
  refine ⟨?_, fun other hheld ↦ ?_⟩
  · rw [hh, List.length_append]
    exact Nat.lt_add_right _ hlt
  · by_cases hne : ⟨i, id⟩ = other
    · obtain ⟨r', hr', -⟩ := hheld
      exact nomatch (hne ▸ hclosed).symm.trans hr'
    · rw [hothers other hne] at hheld
      obtain ⟨r', hr', hx'⟩ := hheld
      obtain ⟨hwindow', -⟩ := hs.held other r' hr' x ⟨r', rfl, hx'⟩
      exact hne (hs.distinct _ _ _ _ hplace hr' (hwindow.symm.trans hwindow'))

end Watch

/-- Closing an open window cancels its drag session, and then its scroll gesture; these are the only
calls. The session is cancelled exactly once, and the gesture is too, unless the session failed in
that: then the gesture is never cancelled, whatever is done later. -/
theorem closing_cancels (W : World C σ) (w : σ) (acts : List (Act C σ)) {i : Nat}
    {r : Router C.ticketed} {id : WindowId} {receiver : Receiver C.ticketed}
    (hcurrent : (watch W w acts).roster.current = some (i, r))
    (hreceiver : r.receivers.get? id = some receiver) :
    ∃ dragOk gestureOk,
      (watch W w (acts ++ [.request (.close id)])).history =
        (watch W w acts).history ++ receiver.cancels acts.length dragOk gestureOk ∧
      ∀ later, (∀ session, receiver.pointer.drag = some session →
        (watch W w (acts ++ [.request (.close id)] ++ later)).history.dragCalls session.ticket =
          (watch W w acts).history.dragCalls session.ticket ++ [.cancel]) ∧
      ∀ swipe, receiver.scrolling = some swipe →
        (watch W w (acts ++ [.request (.close id)] ++ later)).history.gestureCalls
            swipe.gesture.ticket =
          (watch W w acts).history.gestureCalls swipe.gesture.ticket ++
            if receiver.pointer.drag.isSome && !dragOk then [] else [(.cancel, gestureOk)] := by
  have hs := orderly_watch W w acts
  obtain ⟨⟨dragOk, gestureOk, hh⟩, -⟩ := Watch.step_close (W := W) hcurrent hreceiver
  have hgone {x : Ticket} (hx : Receiver.Holds (some receiver) x) :
      (watch W w (acts ++ [.request (.close id)])).Gone x :=
    watch_snoc acts _ ▸ hs.gone_of_close hcurrent hreceiver hx
  rw [← watch_snoc, acts_watch] at hh
  refine ⟨dragOk, gestureOk, hh, fun later ↦ ⟨?_, ?_⟩⟩
  · intro session hdrag
    refine (messages_of_gone (hgone ⟨receiver, rfl, Or.inl ⟨session, hdrag, rfl⟩⟩) later).trans ?_
    rw [hh]
    refine (History.dragCalls_append _ _ _).trans ?_
    rw [dragCalls_cancels hdrag]
  · intro swipe hswipe
    refine (messages_of_gone (hgone ⟨receiver, rfl, Or.inr ⟨swipe, hswipe, rfl⟩⟩) later).trans ?_
    rw [hh]
    refine (History.gestureCalls_append _ _ _).trans ?_
    rw [gestureCalls_cancels hswipe]

/-- Sessions fail when they are cancelled. -/
def stubborn : World .bare Unit := .bare fun | .drag _ .cancel => true | _ => false

/-- A button is held in a window that is being scrolled. -/
def scrolledWhileHeld : List (Act .bare Unit) :=
  [.install default, .request (.create default ()),
    .request (.send ⟨1, 1⟩ (.button .zero true .left)),
    .request (.send ⟨1, 1⟩ (.smoothScroll .zero ⟨0, 1⟩ ⟨100⟩))]

theorem gesture_passed_over : ∃ x y, (watch stubborn () scrolledWhileHeld).HoldsDrag x ∧
    (watch stubborn () scrolledWhileHeld).HoldsGesture y ∧
    (watch stubborn () (scrolledWhileHeld ++ [.request (.close ⟨1, 1⟩)])).history.dragCalls x =
      (watch stubborn () scrolledWhileHeld).history.dragCalls x ++ [.cancel] ∧
    (watch stubborn () (scrolledWhileHeld ++ [.request (.close ⟨1, 1⟩)])).history.gestureCalls y =
      (watch stubborn () scrolledWhileHeld).history.gestureCalls y := by
  have hany : ((watch stubborn () scrolledWhileHeld).roster.current.bind
      fun found ↦ found.2.receivers.get? ⟨1, 1⟩).any
      (fun receiver ↦ receiver.pointer.drag.isSome && receiver.scrolling.isSome) = true := by
    decide +kernel
  obtain ⟨receiver, hfound, hboth⟩ := (Option.any_eq_true _ _).mp hany
  obtain ⟨⟨i, r⟩, hcurrent, hreceiver⟩ := Option.bind_eq_some_iff.mp hfound
  obtain ⟨hsession, hgesture⟩ := Bool.and_eq_true_iff.mp hboth
  obtain ⟨session, hdrag⟩ := Option.isSome_iff_exists.mp hsession
  obtain ⟨swipe, hswipe⟩ := Option.isSome_iff_exists.mp hgesture
  obtain ⟨dragOk, gestureOk, hh, hlater⟩ :=
    closing_cancels stubborn () scrolledWhileHeld hcurrent hreceiver
  obtain ⟨hdragCalls, hgestureCalls⟩ := hlater []
  have hlength : (watch stubborn ()
      (scrolledWhileHeld ++ [.request (.close ⟨1, 1⟩)])).history.length =
        (watch stubborn () scrolledWhileHeld).history.length + 1 := by decide +kernel
  have hfailed : dragOk = false := by
    rw [hh, List.length_append, Receiver.cancels, hdrag, Receiver.cancelsGesture, hswipe] at hlength
    cases dragOk with
    | false => rfl
    | true => simp at hlength
  have hplace : (watch stubborn () scrolledWhileHeld).receiver? ⟨i, ⟨1, 1⟩⟩ = some receiver :=
    (Watch.receiver?_of_current hcurrent _).trans hreceiver
  refine ⟨session.ticket, swipe.gesture.ticket, ⟨_, receiver, hplace, session, hdrag, rfl⟩,
    ⟨_, receiver, hplace, swipe, hswipe, rfl⟩, ?_, ?_⟩
  · rw [List.append_nil] at hdragCalls
    exact hdragCalls session hdrag
  · rw [List.append_nil] at hgestureCalls
    have hcalls := hgestureCalls swipe hswipe
    rwa [hdrag, hfailed, Option.isSome_some, Bool.not_false, Bool.and_self, if_pos rfl,
      List.append_nil] at hcalls

end WindowRouting
