import WindowRouting.Proofs.Locality
import WindowRouting.Proofs.ScrollGestures
import WindowRouting.Proofs.Segments
import WindowRouting.Proofs.Steps.Courses

/-!
The scroll calls of a window. A history tells which calls had to do with the scrolling of a window,
and which of its gestures each of them was for (`History.scrollCalls`); together with the scrolling
of the window it says what has to be known of the inputs so far (`Scrolling.stateIn`). Seen so, each
event of the scrolling responds as one input, if no call fails (`Event.responds_plan`), and so does
the closing of the window (`Receiver.responds_cancels`); any other event makes no scroll call and
leaves the scrolling as it is (`Receiver.chain_of_unscrolled`).
-/

set_option autoImplicit false
set_option relaxedAutoImplicit false

namespace WindowRouting

open Relation

variable {C : Client} {σ : Type}

/-! ### The calls of a window -/

/-- The call asks window number `k` for a gesture. -/
def Call.asksGesture (k : Nat) : Call C.ticketed → Bool
  | .window l _ _ (.beginGesture _) => l.number == k
  | _ => false

namespace History

/-- How often window number `k` was asked for a gesture. -/
def gesturesBegun (h : History C) (k : Nat) : Nat := h.countP fun e ↦ e.call.asksGesture k

/-- The number of the gesture with ticket `x` among the gestures of its window. -/
def gestureNumber (h : History C) (x : Ticket) : Nat := gesturesBegun (h.take x.call) x.window

/-- What a call after those in `h` is to the scrolling of window number `k`. -/
def scrollCall? (k : Nat) (h : History C) : Call C.ticketed → Option ScrollCall
  | .window l _ _ (.beginGesture loc) =>
    if l.number = k then some (.start (h.gesturesBegun k) loc) else none
  | .window l _ _ (.scroll loc amount) => if l.number = k then some (.scroll loc amount) else none
  | .gesture g call =>
    if g.ticket.window = k then some (.gesture (h.gestureNumber g.ticket) call) else none
  | _ => none

/-- The calls that have to do with the scrolling of window number `k`. -/
def scrollCalls (h : History C) (k : Nat) : List ScrollCall :=
  gather (fun before e ↦ scrollCall? k before e.call) h

variable {h es : History C} {e : Entry C} {k : Nat}

theorem scrollCalls_snoc :
    scrollCalls (h ++ [e]) k = h.scrollCalls k ++ (h.scrollCall? k e.call).toList :=
  gather_snoc _ h e

theorem gesturesBegun_snoc :
    gesturesBegun (h ++ [e]) k = h.gesturesBegun k + if e.call.asksGesture k then 1 else 0 := by
  rw [gesturesBegun, List.countP_append, List.countP_singleton]
  rfl

section Calls

variable {act : Nat} {id : WindowId} {w : Window} {ok : Bool}

/-- The window is asked for a gesture. -/
theorem scrollCalls_asked {l : Numbered C.Listener} (hl : l.number = k) (loc : Vec) :
    scrollCalls (h ++ [⟨act, .window l id w (.beginGesture loc), ok⟩]) k =
        h.scrollCalls k ++ [.start (h.gesturesBegun k) loc] ∧
      gesturesBegun (h ++ [⟨act, .window l id w (.beginGesture loc), ok⟩]) k =
        h.gesturesBegun k + 1 := by
  subst hl
  rw [scrollCalls_snoc, gesturesBegun_snoc]
  simp only [scrollCall?, Call.asksGesture, if_true, beq_self_eq_true]
  exact ⟨rfl, trivial⟩

/-- The window is told of a step of a scroll wheel. -/
theorem scrollCalls_told {l : Numbered C.Listener} (hl : l.number = k) (loc : Vec)
    (amount : ScrollAmount) :
    scrollCalls (h ++ [⟨act, .window l id w (.scroll loc amount), ok⟩]) k =
        h.scrollCalls k ++ [.scroll loc amount] ∧
      gesturesBegun (h ++ [⟨act, .window l id w (.scroll loc amount), ok⟩]) k =
        h.gesturesBegun k := by
  rw [scrollCalls_snoc, gesturesBegun_snoc]
  simp only [scrollCall?, if_pos hl]
  exact ⟨rfl, rfl⟩

/-- A gesture of the window is called. -/
theorem scrollCalls_gesture {g : Ticketed C.Gesture} (hg : g.ticket.window = k)
    (call : GestureCall) :
    scrollCalls (h ++ [⟨act, .gesture g call, ok⟩]) k =
        h.scrollCalls k ++ [.gesture (h.gestureNumber g.ticket) call] ∧
      gesturesBegun (h ++ [⟨act, .gesture g call, ok⟩]) k = h.gesturesBegun k := by
  rw [scrollCalls_snoc, gesturesBegun_snoc]
  simp only [scrollCall?, if_pos hg]
  exact ⟨rfl, rfl⟩

end Calls

/-- The number of a gesture does not change. -/
theorem gestureNumber_append {x : Ticket} (hx : x.call ≤ h.length) (es : History C) :
    gestureNumber (h ++ es) x = h.gestureNumber x := by
  rw [gestureNumber, List.take_append_of_le_length hx, gestureNumber]

/-- The gesture that comes of a call has the number of gestures before the call. -/
theorem gestureNumber_new (h es : History C) (k : Nat) :
    gestureNumber (h ++ es) ⟨k, h.length⟩ = h.gesturesBegun k := by
  rw [gestureNumber, List.take_left' rfl]

/-- Calls that belong to other windows or have nothing to do with gestures. -/
theorem scrollCalls_append (hes : ∀ e ∈ es, e.call.owner = some k → e.call.swipes = false) :
    scrollCalls (h ++ es) k = h.scrollCalls k ∧
      gesturesBegun (h ++ es) k = h.gesturesBegun k := by
  induction es using List.reverseRecOn with
  | nil => exact ⟨by rw [List.append_nil], by rw [List.append_nil]⟩
  | append_singleton es e ih =>
    obtain ⟨hcalls, hbegun⟩ := ih fun d hd ↦ hes d (List.mem_append_left _ hd)
    have he := hes e (List.mem_append_right _ (List.mem_singleton_self e))
    have hquiet : scrollCall? k (h ++ es) e.call = none ∧ e.call.asksGesture k = false := by
      cases hcall : e.call with
      | window l id w call =>
        rw [hcall, Call.owner, Option.some_inj] at he
        cases call with
        | beginGesture loc =>
          have hne : l.number ≠ k := fun heq ↦ Bool.eq_false_iff.mp (he heq) rfl
          exact ⟨if_neg hne, beq_false_of_ne hne⟩
        | scroll loc amount => exact ⟨if_neg fun heq ↦ Bool.eq_false_iff.mp (he heq) rfl, rfl⟩
        | _ => exact ⟨rfl, rfl⟩
      | gesture g call =>
        rw [hcall, Call.owner, Option.some_inj] at he
        exact ⟨if_neg fun heq ↦ Bool.eq_false_iff.mp (he heq) rfl, rfl⟩
      | _ => exact ⟨rfl, rfl⟩
    rw [← List.append_assoc, scrollCalls_snoc, gesturesBegun_snoc, hquiet.1, hquiet.2]
    exact ⟨by rw [Option.toList_none, List.append_nil, hcalls], hbegun⟩

end History

/-! ### What is known of the scrolling -/

/-- What an event is to the scrolling of its window. -/
def Event.scrollInput? : Event → Option ScrollInput
  | smoothScroll loc native time => some (.smooth ⟨loc, native, time⟩)
  | discreteScroll loc native => some (.discrete loc native)
  | scrollStop time => some (.stop time)
  | _ => none

/-- An open gesture, by its number among the gestures of its window. -/
def Swipe.openGesture (h : History C) (swipe : Swipe C.ticketed) : OpenGesture :=
  ⟨h.gestureNumber swipe.gesture.ticket, swipe.lastTime, swipe.velocity⟩

namespace Scrolling

/-- What is known of the inputs so far from the scrolling of window number `k`. -/
def stateIn (h : History C) (k : Nat) (s : Scrolling C.ticketed) : ScrollState :=
  ⟨h.gesturesBegun k, s.map (Swipe.openGesture h)⟩

/-- After `h`, the scroll calls of window number `k` and the state that it came to are those in
`out`. -/
structure Responds (k : Nat) (h : History C) (out : List ScrollCall × ScrollState)
    (s' : Scrolling C.ticketed) (h' : History C) : Prop where
  calls : h'.scrollCalls k = h.scrollCalls k ++ out.1
  state : s'.stateIn h' k = out.2

/-- The gesture was opened by window number `k`. -/
def OwnedBy (k : Nat) (h : History C) (s : Scrolling C.ticketed) : Prop :=
  ∀ x, s.Holds x → x.window = k ∧ x.call < h.length

variable {act k : Nat} {cfg : Config} {t : Target C.ticketed} {s s' : Scrolling C.ticketed}
  {h h' : History C}

/-- Nothing happened to the scrolling. -/
theorem responds_append (hs : s.OwnedBy k h) {es : History C}
    (hes : ∀ e ∈ es, e.call.owner = some k → e.call.swipes = false) :
    Responds k h ([], s.stateIn h k) s (h ++ es) := by
  obtain ⟨hcalls, hbegun⟩ := History.scrollCalls_append (h := h) hes
  refine ⟨by rw [hcalls, List.append_nil], ?_⟩
  rw [stateIn, stateIn, hbegun]
  cases s with
  | none => rfl
  | some swipe =>
    have hlt := (hs _ ⟨swipe, rfl, rfl⟩).2
    rw [Option.map_some, Option.map_some, Swipe.openGesture, Swipe.openGesture,
      History.gestureNumber_append (Nat.le_of_lt hlt)]

theorem Responds.trans {calls : List ScrollCall} {state : ScrollState} {h₁ : History C}
    {s₁ : Scrolling C.ticketed} {out : List ScrollCall × ScrollState}
    (hfirst : Responds k h (calls, state) s₁ h₁) (hsecond : Responds k h₁ out s' h') :
    Responds k h (calls ++ out.1, out.2) s' h' where
  calls := by rw [hsecond.calls, hfirst.calls, List.append_assoc]
  state := hsecond.state

theorem Responds.begun {out : List ScrollCall × ScrollState} (hr : Responds k h out s' h') :
    h'.gesturesBegun k = out.2.begun :=
  congrArg ScrollState.begun hr.state

/-! ### Plans -/

/-- A gesture is called, and the window does not have it any more. -/
theorem responds_left {g : Ticketed C.Gesture} (hg : g.ticket.window = k) (call : GestureCall)
    {ok : Bool} :
    Responds k h ([.gesture (h.gestureNumber g.ticket) call], ⟨h.gesturesBegun k, none⟩) none
      (h ++ [⟨act, .gesture g call, ok⟩]) := by
  obtain ⟨hcalls, hbegun⟩ := History.scrollCalls_gesture hg call
  exact ⟨hcalls, by rw [stateIn, hbegun]; rfl⟩

/-- A gesture that the window was asked for is not there yet. -/
theorem responds_asked (ht : t.listener.number = k) (loc : Vec) :
    Responds k h ([.start (h.gesturesBegun k) loc], ⟨h.gesturesBegun k + 1, none⟩) none
      (h ++ [⟨act, t.call (.beginGesture loc), true⟩]) := by
  obtain ⟨hcalls, hbegun⟩ := History.scrollCalls_asked ht loc
  exact ⟨hcalls, by rw [stateIn, hbegun]; rfl⟩

/-- The window has no gesture when it is told of a step of a scroll wheel. -/
theorem responds_told (ht : t.listener.number = k) (loc : Vec) (amount : ScrollAmount) :
    Responds k h ([.scroll loc amount], ⟨h.gesturesBegun k, none⟩) none
      (h ++ [⟨act, t.call (.scroll loc amount), true⟩]) := by
  obtain ⟨hcalls, hbegun⟩ := History.scrollCalls_told ht loc amount
  exact ⟨hcalls, by rw [stateIn, hbegun]; rfl⟩

/-- A gesture is moved. -/
theorem responds_move {swipe : Swipe C.ticketed} {time : Timestamp} {amount : ScrollAmount}
    (hwindow : swipe.gesture.ticket.window = k) (hcall : swipe.gesture.ticket.call < h.length)
    (hp : (swipe.move time amount).Completes act h s' h') :
    let velocity := time.velocity swipe.lastTime amount.delta
    Responds k h ([.gesture (h.gestureNumber swipe.gesture.ticket) (.motion amount velocity)],
      ⟨h.gesturesBegun k, some ⟨h.gestureNumber swipe.gesture.ticket, time, velocity⟩⟩) s' h' := by
  obtain ⟨rfl, rfl⟩ := Plan.completes_lastly hp
  obtain ⟨hcalls, hbegun⟩ := History.scrollCalls_gesture hwindow
    (.motion amount (swipe.moved time amount).velocity)
  refine ⟨hcalls, ?_⟩
  rw [stateIn, hbegun, Option.map_some, Swipe.openGesture]
  rw [show (swipe.moved time amount).gesture = swipe.gesture from rfl,
    History.gestureNumber_append (Nat.le_of_lt hcall)]
  rfl

/-- A gesture starts with a smooth scroll. -/
theorem responds_start {loc native : Vec} {time : Timestamp} (ht : t.listener.number = k)
    (hp : (start t loc time (cfg.pixels native)).Completes act h s' h') :
    Responds k h (ScrollState.start cfg (h.gesturesBegun k) ⟨loc, native, time⟩) s' h' := by
  obtain ⟨gesture, hp⟩ := hp
  -- The ticket of the new gesture is the call by which the window is asked for it.
  let asked := h ++ [⟨act, t.call (.beginGesture loc), true⟩]
  let swipe : Swipe C.ticketed := ⟨⟨⟨t.listener.number, h.length⟩, gesture⟩, time, .zero⟩
  have hasked : Responds k h _ none asked := responds_asked ht loc
  have hlt : swipe.gesture.ticket.call < asked.length := by simp [asked, swipe]
  have hmoved := responds_move ht hlt hp
  have hnumber : asked.gestureNumber swipe.gesture.ticket = h.gesturesBegun k :=
    ht ▸ History.gestureNumber_new h _ _
  simp only [hnumber, hasked.begun, swipe, Timestamp.velocity_self] at hmoved
  exact hasked.trans hmoved

/-- The open gesture ends and another one starts. -/
theorem responds_restarted {g : Ticketed C.Gesture} (hg : g.ticket.window = k) {loc native : Vec}
    {time : Timestamp} (ht : t.listener.number = k)
    (hp : (start t loc time (cfg.pixels native)).Completes act
      (h ++ [⟨act, .gesture g .finish, true⟩]) s' h') :
    let started := ScrollState.start cfg (h.gesturesBegun k) ⟨loc, native, time⟩
    Responds k h (.gesture (h.gestureNumber g.ticket) .finish :: started.1, started.2) s' h' := by
  have hended : Responds k h _ none (h ++ [⟨act, .gesture g .finish, true⟩]) :=
    responds_left hg .finish
  have hstarted := responds_start ht hp
  rw [hended.begun] at hstarted
  exact hended.trans hstarted

/-- The open gesture is cancelled, and the window is told of a step of a scroll wheel. -/
theorem responds_interrupted {g : Ticketed C.Gesture} (hg : g.ticket.window = k)
    (ht : t.listener.number = k) (loc : Vec) (amount : ScrollAmount) :
    Responds k h ([.gesture (h.gestureNumber g.ticket) .cancel, .scroll loc amount],
        ⟨h.gesturesBegun k, none⟩) none
      (h ++ [⟨act, .gesture g .cancel, true⟩] ++ [⟨act, t.call (.scroll loc amount), true⟩]) := by
  have hcancelled : Responds k h _ none (h ++ [⟨act, .gesture g .cancel, true⟩]) :=
    responds_left hg .cancel
  have htold : Responds k _ _ none (h ++ [⟨act, .gesture g .cancel, true⟩] ++
      [⟨act, t.call (.scroll loc amount), true⟩]) := responds_told ht loc amount
  rw [hcancelled.begun] at htold
  exact hcancelled.trans htold

/-- The open gesture goes on by momentum and ends. -/
theorem responds_glided {g : Ticketed C.Gesture} (hg : g.ticket.window = k)
    (hcall : g.ticket.call < h.length) :
    Responds k h ([.gesture (h.gestureNumber g.ticket) .momentum,
        .gesture (h.gestureNumber g.ticket) .finish], ⟨h.gesturesBegun k, none⟩) none
      (h ++ [⟨act, .gesture g .momentum, true⟩] ++ [⟨act, .gesture g .finish, true⟩]) := by
  have hglided : Responds k h _ none (h ++ [⟨act, .gesture g .momentum, true⟩]) :=
    responds_left hg .momentum
  have hended : Responds k _ _ none (h ++ [⟨act, .gesture g .momentum, true⟩] ++
      [⟨act, .gesture g .finish, true⟩]) := responds_left hg .finish
  rw [hglided.begun, History.gestureNumber_append (Nat.le_of_lt hcall)] at hended
  exact hglided.trans hended

/-- The state of a window with an open gesture. -/
theorem stateIn_some (swipe : Swipe C.ticketed) :
    stateIn h k (some swipe) = ⟨h.gesturesBegun k, some (swipe.openGesture h)⟩ := rfl

/-- A gesture that glides goes on by momentum before it ends, and any other ends at once. -/
theorem stop_openGesture (swipe : Swipe C.ticketed) (time : Timestamp) :
    (swipe.openGesture h).stop cfg time =
      if swipe.glides cfg time then
        [.gesture (h.gestureNumber swipe.gesture.ticket) .momentum,
          .gesture (h.gestureNumber swipe.gesture.ticket) .finish]
      else [.gesture (h.gestureNumber swipe.gesture.ticket) .finish] := by
  rw [OpenGesture.stop, Config.inTime_eq, moving_eq, Config.timedOut_eq_not, Bool.not_not]
  rfl

/-- A course responds as its input. -/
theorem Course.responds {e : Event} {input : ScrollInput}
    {plan : Plan C.ticketed (Scrolling C.ticketed) Unit} (hcourse : s.Course cfg t e plan)
    (he : e.scrollInput? = some input) (ht : t.listener.number = k) (hs : s.OwnedBy k h)
    (hp : plan.Completes act h s' h') :
    Responds k h ((s.stateIn h k).respond cfg input) s' h' := by
  cases hcourse with
  | begun loc native time hnone =>
    obtain rfl := Option.some.inj he
    subst hnone
    exact responds_start ht hp
  | timedOut loc native time swipe hsome htime =>
    obtain rfl := Option.some.inj he
    subst hsome
    obtain ⟨_, hp⟩ := hp
    have hlate : ¬cfg.inTime time swipe.lastTime = true := by simp [Config.inTime_eq, htime]
    rw [stateIn_some, ScrollState.respond, Swipe.openGesture, if_neg hlate]
    exact responds_restarted (hs _ ⟨swipe, rfl, rfl⟩).1 ht hp
  | moved loc native time swipe hsome htime =>
    obtain rfl := Option.some.inj he
    subst hsome
    obtain ⟨hwindow, hcall⟩ := hs _ ⟨swipe, rfl, rfl⟩
    have hintime : cfg.inTime time swipe.lastTime = true := by simp [Config.inTime_eq, htime]
    rw [stateIn_some, ScrollState.respond, Swipe.openGesture, if_pos hintime]
    simp only [SmoothEvent.velocity_eq]
    exact responds_move hwindow hcall hp
  | scrolled loc native hnone =>
    obtain rfl := Option.some.inj he
    subst hnone
    obtain ⟨rfl, rfl⟩ := Plan.completes_lastly hp
    exact responds_told ht loc _
  | interrupted loc native swipe hsome =>
    obtain rfl := Option.some.inj he
    subst hsome
    obtain ⟨_, hp⟩ := hp
    obtain ⟨rfl, rfl⟩ := Plan.completes_lastly hp
    exact responds_interrupted (hs _ ⟨swipe, rfl, rfl⟩).1 ht loc _
  | idle time hnone =>
    obtain rfl := Option.some.inj he
    subst hnone
    obtain ⟨rfl, rfl⟩ := hp
    exact ⟨(List.append_nil _).symm, rfl⟩
  | stopped time swipe hsome hrest =>
    obtain rfl := Option.some.inj he
    subst hsome
    obtain ⟨rfl, rfl⟩ := Plan.completes_lastly hp
    rw [stateIn_some, ScrollState.respond, stop_openGesture, if_neg (by simp [hrest])]
    exact responds_left (hs _ ⟨swipe, rfl, rfl⟩).1 .finish
  | glided time swipe hsome hmoving =>
    obtain rfl := Option.some.inj he
    subst hsome
    obtain ⟨hwindow, hcall⟩ := hs _ ⟨swipe, rfl, rfl⟩
    obtain ⟨_, hp⟩ := hp
    obtain ⟨rfl, rfl⟩ := Plan.completes_lastly hp
    rw [stateIn_some, ScrollState.respond, stop_openGesture, if_pos hmoving]
    exact responds_glided hwindow hcall

end Scrolling

section Closing

variable {act k : Nat} {cfg : Config} {h : History C} {x : Receiver C.ticketed}

/-- The gesture of a closed window is cancelled. -/
theorem Receiver.responds_cancelsGesture (hs : x.scrolling.OwnedBy k h) (ok : Bool) :
    Scrolling.Responds k h ((x.scrolling.stateIn h k).respond cfg .close) none
      (h ++ x.cancelsGesture act ok) := by
  unfold cancelsGesture
  cases hswipe : x.scrolling with
  | none =>
    rw [List.append_nil]
    exact ⟨(List.append_nil _).symm, rfl⟩
  | some swipe => exact Scrolling.responds_left (hs _ ⟨swipe, hswipe, rfl⟩).1 .cancel

/-- A window is closed, and its drag session does not fail in that. -/
theorem Receiver.responds_cancels (hs : x.scrolling.OwnedBy k h) {dragOk gestureOk : Bool}
    (hreturned : ∀ e ∈ x.cancels act dragOk gestureOk, e.returned = true) :
    Scrolling.Responds k h ((x.scrolling.stateIn h k).respond cfg .close) none
      (h ++ x.cancels act dragOk gestureOk) := by
  unfold cancels at hreturned ⊢
  cases hdrag : x.pointer.drag with
  | none => exact responds_cancelsGesture hs gestureOk
  | some session =>
    rw [hdrag] at hreturned
    obtain rfl : dragOk = true := hreturned _ List.mem_cons_self
    let cancelled : History C := h ++ [⟨act, .drag session .cancel, true⟩]
    have hquiet : Scrolling.Responds k h ([], x.scrolling.stateIn h k) x.scrolling cancelled :=
      Scrolling.responds_append hs (by simp [Call.swipes])
    have howned : x.scrolling.OwnedBy k cancelled := fun y hy ↦
      ⟨(hs y hy).1, List.length_append ▸ Nat.lt_add_right _ (hs y hy).2⟩
    have hgesture : Scrolling.Responds k cancelled
        ((x.scrolling.stateIn cancelled k).respond cfg .close) none
        (cancelled ++ x.cancelsGesture act gestureOk) := responds_cancelsGesture howned gestureOk
    rw [hquiet.state] at hgesture
    have hboth := hquiet.trans hgesture
    rwa [List.append_assoc] at hboth

end Closing

/-! ### Events -/

/-- An event that has to do with scrolling. -/
theorem Event.responds_plan {act k : Nat} {cfg : Config} {host : Option C.ticketed.Host}
    {t : Target C.ticketed} {x : Receiver C.ticketed} {e : Event} {input : ScrollInput}
    {a : Change C.ticketed} {h h' : History C} (he : e.scrollInput? = some input)
    (ht : t.listener.number = k) (hs : x.scrolling.OwnedBy k h)
    (hp : (e.plan cfg host t x).Completes act h a h') : ∃ s', a = .scrolling s' ∧
      Scrolling.Responds k h ((x.scrolling.stateIn h k).respond cfg input) s' h' := by
  cases e with
  | smoothScroll loc native time =>
    obtain rfl := Option.some.inj he
    obtain ⟨s', rfl, hinner⟩ := Plan.completes_map hp
    exact ⟨s', rfl, (x.scrolling.course_smooth cfg t loc native time).responds rfl ht hs hinner⟩
  | discreteScroll loc native =>
    obtain rfl := Option.some.inj he
    obtain ⟨s', rfl, hinner⟩ := Plan.completes_map hp
    exact ⟨s', rfl, (x.scrolling.course_discrete cfg t loc native).responds rfl ht hs hinner⟩
  | scrollStop time =>
    obtain rfl := Option.some.inj he
    obtain ⟨s', rfl, hinner⟩ := Plan.completes_map hp
    exact ⟨s', rfl, (x.scrolling.course_stop cfg t time).responds rfl ht hs hinner⟩
  | _ => exact nomatch he

section Unscrolled

variable {act : Nat} {id : WindowId} {cfg : Config} {e : Event} {h h' : History C}

theorem Receiver.Step.unscrolled (he : e.scrollInput? = none)
    {o o' : Option (Receiver C.ticketed)} (hstep : Step act id cfg (.event e) (o, h) (o', h')) :
    scrollingOf o' = scrollingOf o ∧ ∃ es, h' = h ++ es ∧ ∀ d ∈ es, d.call.swipes = false := by
  cases hstep with
  | pointer hstep => exact ⟨rfl, hstep.swipes_eq_false⟩
  | scrolling hstep => cases hstep <;> exact nomatch he
  | told receiver h e w call hcall ok =>
    refine ⟨rfl, _, rfl, fun d hd ↦ ?_⟩
    rw [List.mem_singleton.mp hd]
    exact Call.swipes_of_passive hcall _ id w
  | asked receiver h host ok => exact ⟨rfl, _, rfl, by simp [Call.swipes]⟩

/-- An event that has nothing to do with scrolling. -/
theorem Receiver.chain_of_unscrolled (he : e.scrollInput? = none)
    {o o' : Option (Receiver C.ticketed)}
    (hchain : ReflTransGen (Step act id cfg (.event e)) (o, h) (o', h')) :
    scrollingOf o' = scrollingOf o ∧ ∃ es, h' = h ++ es ∧ ∀ d ∈ es, d.call.swipes = false := by
  generalize hend : (o', h') = last at hchain
  induction hchain generalizing o' h' with
  | refl =>
    obtain ⟨rfl, rfl⟩ := Prod.mk.inj hend
    exact ⟨rfl, [], (List.append_nil _).symm, nofun⟩
  | @tail mid _ hsteps hstep ih =>
    subst hend
    obtain ⟨hscrolling, es, hh, hes⟩ := ih (by rfl : (mid.1, mid.2) = _)
    obtain ⟨hscrolling', es', hh', hes'⟩ := hstep.unscrolled he
    refine ⟨hscrolling'.trans hscrolling, es ++ es', by rw [hh', hh, List.append_assoc], ?_⟩
    exact fun d hd ↦ (List.mem_append.mp hd).elim (hes d) (hes' d)

end Unscrolled

end WindowRouting
