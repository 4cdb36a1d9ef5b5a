import WindowRouting.Proofs.Segmentation

/-!
When a gesture goes on by momentum. What a stop decides can be read off the calls of the gesture and
a second act: the gesture goes on by momentum exactly if the velocity in its last motion is not zero
and a smooth scroll, done in place of the stop, would have been one more motion of it
(`momentum_of_last_motion`). What carries the proof is that an open gesture has the velocity of its
last motion and the time of the event that caused it, and that a velocity other than zero takes two
motions that were caused at different times (`Swipe.Recorded`).
-/

set_option autoImplicit false
set_option relaxedAutoImplicit false

namespace WindowRouting

variable {C : Client} {σ : Type}

/-! ### Motions -/

/-- A motion that a gesture received: the number of the act that it came from, and the velocity. -/
structure Moved where
  act : Nat
  velocity : Vec

/-- The motion that a call brings to the gesture with ticket `x`. -/
def Entry.motion? (x : Ticket) (e : Entry C) : Option Moved :=
  match e.call with
  | .gesture g (.motion _ velocity) => if g.ticket = x then some ⟨e.act, velocity⟩ else none
  | _ => none

/-- The motions of the gesture with ticket `x`, the oldest first. -/
def History.motions (h : History C) (x : Ticket) : List Moved := h.filterMap (Entry.motion? x)

/-- The call tells a gesture of momentum. -/
def Call.glides : Call C.ticketed → Bool
  | .gesture _ .momentum => true
  | _ => false

theorem Entry.motion?_of_owner {e : Entry C} {x : Ticket} (he : e.call.owner ≠ some x.window) :
    e.motion? x = none := by
  unfold motion?
  split
  case h_1 g amount velocity hcall =>
    refine if_neg fun hx ↦ he ?_
    rw [hcall, ← hx]
    rfl
  case h_2 => rfl

theorem Call.glides_of_swipes {c : Call C.ticketed} (hc : c.swipes = false) : c.glides = false := by
  unfold glides
  split
  case h_1 => exact nomatch hc
  case h_2 => rfl

theorem Entry.motion?_of_swipes {e : Entry C} {x : Ticket} (he : e.call.swipes = false) :
    e.motion? x = none := by
  unfold motion?
  split
  case h_1 g amount velocity hcall =>
    rw [hcall] at he
    exact nomatch he
  case h_2 => rfl

/-- There are two motions at least, and the last two came from smooth scrolls of window number `k`
at different times. -/
def Varied (caused : Nat → Nat → Cause C → Prop) (k : Nat) (motions : List Moved) : Prop :=
  ∃ rest m m' loc native time loc' native' time', motions = rest ++ [m, m'] ∧
    caused m.act k (.event (.smoothScroll loc native time)) ∧
    caused m'.act k (.event (.smoothScroll loc' native' time')) ∧ time ≠ time'

/-! ### The gesture of a window -/

/-- The gesture has the velocity of its last motion and the time of the event that this motion came
from. A velocity other than zero has come from events at different times. -/
structure Swipe.Recorded (caused : Nat → Nat → Cause C → Prop) (swipe : Swipe C.ticketed)
    (h : History C) : Prop where
  last : ∃ m loc native, (h.motions swipe.gesture.ticket).getLast? = some m ∧
    m.velocity = swipe.velocity ∧ caused m.act swipe.gesture.ticket.window
      (.event (.smoothScroll loc native swipe.lastTime))
  varied : swipe.velocity.isZero = false →
    Varied caused swipe.gesture.ticket.window (h.motions swipe.gesture.ticket)

/-- The gestures of window number `k` were told of momentum only after motions from events at
different times. -/
def History.MomentumVaried (caused : Nat → Nat → Cause C → Prop) (k : Nat) (h : History C) : Prop :=
  h.EachCall fun before e ↦ ∀ g, e.call = .gesture g .momentum → g.ticket.window = k →
    Varied caused k (before.motions g.ticket)

/-- What is recorded of the scrolling of window number `k`. -/
structure Scrolling.Recorded (caused : Nat → Nat → Cause C → Prop) (k : Nat)
    (s : Scrolling C.ticketed) (h : History C) : Prop where
  swipe : ∀ swipe, s = some swipe → swipe.gesture.ticket.window = k ∧ swipe.Recorded caused h
  momentum : h.MomentumVaried caused k

section Steps

variable {caused : Nat → Nat → Cause C → Prop} {act k : Nat} {id : WindowId}
  {l : Numbered C.Listener} {cfg : Config} {h h' : History C} {e : Entry C}

theorem History.motions_snoc (h : History C) (e : Entry C) (x : Ticket) :
    motions (h ++ [e]) x = h.motions x ++ (e.motion? x).toList := by
  rw [motions, List.filterMap_append, List.filterMap_cons, List.filterMap_nil]
  cases e.motion? x <;> rfl

theorem History.motions_motion (h : History C) (act : Nat) (g : Ticketed C.Gesture)
    (amount : ScrollAmount) (velocity : Vec) (ok : Bool) :
    motions (h ++ [⟨act, .gesture g (.motion amount velocity), ok⟩]) g.ticket =
      h.motions g.ticket ++ [⟨act, velocity⟩] := by
  have hmotion : Entry.motion? g.ticket
      (⟨act, .gesture g (.motion amount velocity), ok⟩ : Entry C) = some ⟨act, velocity⟩ :=
    if_pos rfl
  rw [motions_snoc, hmotion, Option.toList_some]

theorem Swipe.Recorded.other {swipe : Swipe C.ticketed} (hswipe : swipe.Recorded caused h)
    (he : e.motion? swipe.gesture.ticket = none) : swipe.Recorded caused (h ++ [e]) := by
  have hsame : History.motions (h ++ [e]) swipe.gesture.ticket =
      h.motions swipe.gesture.ticket := by
    rw [History.motions_snoc, he, Option.toList_none, List.append_nil]
  exact ⟨hsame ▸ hswipe.last, hsame ▸ hswipe.varied⟩

/-- Momentum takes time: a motion at the time of the event before it has no velocity. -/
theorem Timestamp.ne_of_velocity {time earlier : Timestamp} {displacement : Vec}
    (h : (time.velocity earlier displacement).isZero = false) : earlier ≠ time := by
  rintro rfl
  rw [velocity_self] at h
  exact Bool.false_ne_true h.symm

/-- A gesture that moves on. -/
theorem Swipe.Recorded.moved {swipe : Swipe C.ticketed} (hswipe : swipe.Recorded caused h)
    {loc native : Vec} {time : Timestamp} (hcaused : caused act swipe.gesture.ticket.window
      (.event (.smoothScroll loc native time))) (amount : ScrollAmount) (ok : Bool) :
    (swipe.moved time amount).Recorded caused (h ++ [⟨act, .gesture swipe.gesture
      (.motion amount (swipe.moved time amount).velocity), ok⟩]) := by
  have hmotions := h.motions_motion act swipe.gesture amount
    (swipe.moved time amount).velocity ok
  constructor
  · refine ⟨⟨act, (swipe.moved time amount).velocity⟩, loc, native, ?_, rfl, hcaused⟩
    exact hmotions ▸ List.getLast?_concat
  · -- The motion before this one came from the event that set the time of the gesture.
    intro hvelocity
    obtain ⟨m, loc', native', hlast, -, hcaused'⟩ := hswipe.last
    obtain ⟨rest, hrest⟩ := List.getLast?_eq_some_iff.mp hlast
    refine ⟨rest, m, ⟨act, (swipe.moved time amount).velocity⟩, loc', native', swipe.lastTime, loc,
      native, time, ?_, hcaused', hcaused, Timestamp.ne_of_velocity hvelocity⟩
    refine hmotions.trans ?_
    rw [hrest, List.append_assoc, List.singleton_append]

/-- A gesture that is opened. Its first motion has no velocity. -/
theorem Swipe.recorded_begun {loc native : Vec} {time : Timestamp} {ticket : Ticket}
    (hcaused : caused act ticket.window (.event (.smoothScroll loc native time)))
    (gesture : C.Gesture) (amount : ScrollAmount) (ok : Bool) :
    Swipe.Recorded caused (Swipe.moved ⟨⟨ticket, gesture⟩, time, .zero⟩ time amount)
      (h ++ [⟨act, .gesture ⟨ticket, gesture⟩ (.motion amount
        (time.velocity time amount.delta)), ok⟩]) := by
  constructor
  · refine ⟨⟨act, time.velocity time amount.delta⟩, loc, native, ?_, rfl, hcaused⟩
    exact (h.motions_motion act ⟨ticket, gesture⟩ _ _ ok) ▸ List.getLast?_concat
  · exact fun hvelocity ↦ absurd rfl (Timestamp.ne_of_velocity hvelocity)

theorem History.MomentumVaried.snoc (hh : MomentumVaried caused k h)
    (he : e.call.owner ≠ some k ∨ e.call.glides = false) : MomentumVaried caused k (h ++ [e]) := by
  refine eachCall_snoc.mpr ⟨hh, fun g hg hk ↦ ?_⟩
  rw [hg] at he
  rcases he with howner | hglides
  · exact absurd (congrArg some hk) howner
  · exact nomatch hglides

namespace Scrolling.Recorded

variable {s s' : Scrolling C.ticketed}

theorem of_unused (hunused : ∀ e ∈ h, e.call.owner ≠ some k) :
    Recorded caused k (none : Scrolling C.ticketed) h where
  swipe := nofun
  momentum before e after hh g hg hk := by
    refine absurd ?_ (hunused e (by simp [hh]))
    rw [hg, ← hk]
    rfl

/-- A call of another window, or one that has nothing to do with motions and momentum. -/
theorem other (hs : Recorded caused k s h)
    (he : e.call.owner ≠ some k ∨ e.call.swipes = false) : Recorded caused k s (h ++ [e]) where
  swipe swipe hswipe := by
    obtain ⟨rfl, hrecorded⟩ := hs.swipe swipe hswipe
    exact ⟨rfl, hrecorded.other (he.elim Entry.motion?_of_owner Entry.motion?_of_swipes)⟩
  momentum := hs.momentum.snoc (he.imp_right Call.glides_of_swipes)

theorem others (hs : Recorded caused k s h) {es : History C}
    (hes : ∀ e ∈ es, e.call.swipes = false) : Recorded caused k s (h ++ es) := by
  induction es using List.reverseRecOn with
  | nil => rwa [List.append_nil]
  | append_singleton es e ih =>
    rw [← List.append_assoc]
    exact (ih fun d hd ↦ hes d (List.mem_append_left _ hd)).other (Or.inr (hes e (by simp)))

/-- The gesture leaves its window, and the last call does not tell it of momentum. -/
theorem gone (hs : Recorded caused k s h) (he : e.call.glides = false) :
    Recorded caused k none (h ++ [e]) where
  swipe := nofun
  momentum := hs.momentum.snoc (Or.inr he)

/-- The gesture leaves its window and is told of momentum. -/
theorem glides {swipe : Swipe C.ticketed} (hs : Recorded caused k (some swipe) h)
    {time : Timestamp} (hglides : swipe.glides cfg time = true) (ok : Bool) :
    Recorded caused k none (h ++ [⟨act, .gesture swipe.gesture .momentum, ok⟩]) where
  swipe := nofun
  momentum := by
    obtain ⟨rfl, hswipe⟩ := hs.swipe swipe rfl
    refine History.eachCall_snoc.mpr ⟨hs.momentum, fun g hg _ ↦ ?_⟩
    obtain ⟨rfl, -⟩ := Call.gesture.inj hg
    exact hswipe.varied (Swipe.glides_iff.mp hglides).1

end Scrolling.Recorded

theorem Scrolling.Step.recorded {s s' : Scrolling C.ticketed} {event : Event}
    (hstep : Step act id l cfg s h event s' h') (hl : l.number = k)
    (hcaused : caused act k (.event event)) (hs : s.Recorded caused k h) :
    s'.Recorded caused k h' := by
  cases hstep with
  | moved loc native time swipe ok hswipe htime =>
    subst hswipe
    obtain ⟨rfl, hrecorded⟩ := hs.swipe swipe rfl
    refine ⟨?_, hs.momentum.snoc (Or.inr rfl)⟩
    rintro _ ⟨⟩
    exact ⟨rfl, hrecorded.moved hcaused _ ok⟩
  | begun loc native time w gesture ok hnone =>
    subst hl
    refine ⟨?_, (hs.momentum.snoc (Or.inr rfl)).snoc (Or.inr rfl)⟩
    rintro _ ⟨⟩
    exact ⟨rfl, Swipe.recorded_begun hcaused gesture _ ok⟩
  | timedOut loc native time swipe ok hswipe htime => exact hs.gone rfl
  | refused loc native time w hnone => exact hs.gone rfl
  | interrupted loc native swipe ok hswipe => exact hs.gone rfl
  | scrolled loc native w ok hnone => exact hs.gone rfl
  | idle time hnone => exact hnone ▸ hs
  | stopped time swipe ok hswipe hglides => exact hs.gone rfl
  | broken time swipe hswipe hglides =>
    subst hswipe
    exact hs.glides hglides false
  | glided time swipe ok hswipe hglides =>
    subst hswipe
    exact (hs.glides hglides true).gone rfl

theorem Receiver.recorded_cancelsGesture {receiver : Receiver C.ticketed}
    (hs : receiver.scrolling.Recorded caused k h) (ok : Bool) :
    Scrolling.Recorded caused k none (h ++ receiver.cancelsGesture act ok) := by
  unfold cancelsGesture
  cases hscrolling : receiver.scrolling with
  | none => rwa [List.append_nil, ← hscrolling]
  | some swipe => exact hs.gone rfl

theorem Receiver.recorded_closed {receiver : Receiver C.ticketed}
    (hs : receiver.scrolling.Recorded caused k h) (dragOk gestureOk : Bool) :
    Scrolling.Recorded caused k none (h ++ receiver.cancels act dragOk gestureOk) := by
  unfold cancels
  cases receiver.pointer.drag with
  | none => exact receiver.recorded_cancelsGesture hs gestureOk
  | some session =>
    cases dragOk with
    | false => exact hs.gone rfl
    | true =>
      have hcancelled := hs.other (e := ⟨act, .drag session .cancel, true⟩) (Or.inr rfl)
      simpa using receiver.recorded_cancelsGesture hcancelled gestureOk

theorem Scrolling.lasting_recorded : Lasting caused fun k o h ↦
    Recorded caused k (Receiver.scrollingOf o) (h : History C) where
  fresh k h hunused := .of_unused hunused
  opened l h hunused := .of_unused hunused
  other k o h d howner hs := hs.other (Or.inl howner)
  step act id cfg cause k r h o h' hcaused htidy hstep hs := by
    cases hstep with
    | pointer hstep =>
      obtain ⟨es, rfl, hes⟩ := hstep.swipes_eq_false
      exact hs.others hes
    | scrolling hstep => exact hstep.recorded (htidy.number r rfl) hcaused hs
    | told receiver h e w call hcall ok =>
      exact hs.other (Or.inr (Call.swipes_of_passive hcall _ id w))
    | asked receiver h host ok => exact hs.other (Or.inr rfl)
    | closed receiver h dragOk gestureOk => exact r.recorded_closed hs dragOk gestureOk

end Steps

/-! ### Acts -/

namespace Watch.Orderly

variable {W : World C σ} {s : Watch C σ} {a : Act C σ} {i : Nat} {r : Router C.ticketed}
  {id : WindowId} {x : Receiver C.ticketed} {swipe : Swipe C.ticketed} {time : Timestamp}

/-- A stop tells the gesture of momentum if it glides, and not otherwise. -/
theorem momentum_made_iff (hs : s.Orderly) (hcurrent : s.roster.current = some (i, r))
    (hx : r.receivers.get? id = some x) (hswipe : x.scrolling = some swipe)
    (ha : a.Delivers r id (.scrollStop time)) :
    (∃ ok, ⟨s.acts, .gesture swipe.gesture .momentum, ok⟩ ∈ s.made W a) ↔
      swipe.glides r.config time = true := by
  obtain ⟨w, change, world, h', hstep, -, hp⟩ := hs.step_event (W := W) hcurrent hx ha
  obtain ⟨s', rfl, hstop⟩ := Plan.reaches_map hp
  have hmade {es : History C} (hh : h' = s.history ++ es) : s.made W a = es :=
    made_of_append (by rw [hstep, hh])
  have hcourse := x.scrolling.course_stop r.config ⟨id, w, x.listener⟩ time
  generalize x.scrolling.stop r.config _ time = plan at hcourse hstop
  cases hcourse with
  | idle _ hnone => exact nomatch hnone.symm.trans hswipe
  | stopped _ other hother hglides =>
    obtain rfl := Option.some.inj (hswipe.symm.trans hother)
    obtain ⟨-, ok, hh⟩ := Plan.reaches_lastly hstop
    rw [hmade hh, hglides]
    simp
  | glided _ other hother hglides =>
    obtain rfl := Option.some.inj (hswipe.symm.trans hother)
    rcases hstop with ⟨-, hh⟩ | ⟨_, hfinish⟩
    · rw [hmade hh, hglides]
      simp
    · obtain ⟨-, ok, hh⟩ := Plan.reaches_lastly hfinish
      rw [hmade (hh.trans (List.append_assoc _ _ _)), hglides]
      simp

/-- A smooth scroll is one more motion of the gesture if the gesture has not timed out, and none
otherwise. -/
theorem motion_made_iff (hs : s.Orderly) (hcurrent : s.roster.current = some (i, r))
    (hx : r.receivers.get? id = some x) (hswipe : x.scrolling = some swipe) {loc native : Vec}
    (ha : a.Delivers r id (.smoothScroll loc native time)) :
    (∃ amount velocity ok,
        ⟨s.acts, .gesture swipe.gesture (.motion amount velocity), ok⟩ ∈ s.made W a) ↔
      r.config.timedOut time swipe.lastTime = false := by
  obtain ⟨w, change, world, h', hstep, -, hp⟩ := hs.step_event (W := W) hcurrent hx ha
  obtain ⟨s', rfl, hsmooth⟩ := Plan.reaches_map hp
  have hmade {es : History C} (hh : h' = s.history ++ es) : s.made W a = es :=
    made_of_append (by rw [hstep, hh])
  have hcourse := x.scrolling.course_smooth r.config ⟨id, w, x.listener⟩ loc native time
  generalize x.scrolling.smooth r.config _ loc native time = plan at hcourse hsmooth
  cases hcourse with
  | begun _ _ _ hnone => exact nomatch hnone.symm.trans hswipe
  | moved _ _ _ other hother htime =>
    obtain rfl := Option.some.inj (hswipe.symm.trans hother)
    obtain ⟨-, ok, hh⟩ := Plan.reaches_lastly hsmooth
    rw [hmade hh]
    exact iff_of_true ⟨_, _, ok, List.mem_singleton_self _⟩ htime
  | timedOut _ _ _ other hother htime =>
    obtain rfl := Option.some.inj (hswipe.symm.trans hother)
    rw [htime]
    refine iff_of_false ?_ nofun
    rintro ⟨amount, velocity, ok, hmem⟩
    rcases hsmooth with ⟨-, hh⟩ | ⟨_, ⟨-, hh⟩ | ⟨gesture, hmove⟩⟩
    · rw [hmade hh] at hmem
      simp at hmem
    · rw [hmade (hh.trans (List.append_assoc _ _ _))] at hmem
      simp at hmem
    · obtain ⟨-, ok', hh⟩ := Plan.reaches_lastly hmove
      rw [List.append_assoc, List.append_assoc] at hh
      rw [hmade hh] at hmem
      -- The one motion goes to a gesture that is opened after the old one has timed out.
      have hpast : swipe.gesture.ticket.call < s.history.length :=
        (hs.held _ x ((receiver?_of_current hcurrent id).trans hx) _
          ⟨x, rfl, Or.inr ⟨swipe, hswipe, rfl⟩⟩).2
      rcases List.mem_cons.mp hmem with hfinish | hmem
      · cases hfinish
      · rcases List.mem_cons.mp hmem with hbegin | hmotion
        · cases hbegin
        · have hcall : some swipe.gesture.ticket.call = some (s.history ++
              [(⟨s.acts, .gesture swipe.gesture .finish, true⟩ : Entry C)]).length :=
            congrArg (fun e ↦ e.call.ticket?.map Ticket.call) (List.mem_singleton.mp hmotion)
          rw [Option.some.injEq, List.length_append, List.length_singleton] at hcall
          omega

end Watch.Orderly

/-! ### Runs -/

theorem recorded_watch {W : World C σ} {w : σ} {acts : List (Act C σ)} {k : Nat}
    {o : Option (Receiver C.ticketed)} (ho : (watch W w acts).Shows k o) :
    (Receiver.scrollingOf o).Recorded (Caused W w acts) k (watch W w acts).history :=
  fits_watch Scrolling.lasting_recorded ho

/-- Momentum is decided by what the gesture last received. In every run, a stop of an open gesture
tells it of momentum exactly if the velocity in the last motion that was made of it, whether the
motion returned or not, is not zero and a smooth scroll at the time of the stop would have been one
more motion of it. So a gesture is told of momentum only after two motions at least, of which the
last two came from smooth scrolls at different times. -/
theorem momentum_of_last_motion (W : World C σ) (w : σ) (acts : List (Act C σ)) :
    (∀ i r id x swipe, (watch W w acts).roster.current = some (i, r) →
      r.receivers.get? id = some x → x.scrolling = some swipe →
      ∃ last, ((watch W w acts).history.motions swipe.gesture.ticket).getLast? = some last ∧
        ∀ time stop scroll loc native, stop.Delivers r id (.scrollStop time) →
          scroll.Delivers r id (.smoothScroll loc native time) →
          ((∃ ok, ⟨acts.length, .gesture swipe.gesture .momentum, ok⟩ ∈
              (watch W w acts).made W stop) ↔
            last.velocity.isZero = false ∧ ∃ amount velocity ok,
              ⟨acts.length, .gesture swipe.gesture (.motion amount velocity), ok⟩ ∈
                (watch W w acts).made W scroll)) ∧
    ∀ (before : History C) e after g, (watch W w acts).history = before ++ e :: after →
      e.call = .gesture g .momentum →
      Varied (Caused W w acts) g.ticket.window (before.motions g.ticket) := by
  have hs := orderly_watch W w acts
  refine ⟨fun i r id x swipe hcurrent hx hswipe ↦ ?_, fun before e after g hh hg ↦ ?_⟩
  · have hplace := (Watch.receiver?_of_current hcurrent id).trans hx
    have hshows : (watch W w acts).Shows x.listener.number (some x) := ⟨rfl, _, hplace⟩
    obtain ⟨-, hrecorded⟩ := (recorded_watch hshows).swipe swipe hswipe
    obtain ⟨last, -, -, hlast, hvelocity, -⟩ := hrecorded.last
    refine ⟨last, hlast, fun time stop scroll loc native hstop hscroll ↦ ?_⟩
    have hmomentum := hs.momentum_made_iff (W := W) hcurrent hx hswipe hstop
    have hmotion := hs.motion_made_iff (W := W) hcurrent hx hswipe hscroll
    rw [acts_watch] at hmomentum hmotion
    rw [hmomentum, hmotion, hvelocity, Swipe.glides_iff]
  · obtain ⟨o, ho⟩ := (watch W w acts).exists_shows g.ticket.window
    exact (recorded_watch ho).momentum before e after hh g hg rfl

/-- A window is scrolled twice, and the scroll goes on. -/
def scrolledTwice : List (Act .bare Unit) :=
  [.install default, .request (.create default ()),
    .request (.send ⟨1, 1⟩ (.smoothScroll .zero ⟨0, 1⟩ ⟨100⟩)),
    .signal 1 (.smoothScroll .zero ⟨0, 1⟩ 110)]

theorem scrolled_twice_glides :
    ((watch Roster.quiet () scrolledTwice).made Roster.quiet
      (.signal 1 (.scrollStop 120))).any (·.call.glides) = true ∧
    ∃ (swipe : Swipe Client.bare.ticketed) (last : Moved),
      ((watch Roster.quiet () scrolledTwice).history.motions swipe.gesture.ticket).getLast? =
        some last ∧
      ((∃ ok, ⟨4, .gesture swipe.gesture .momentum, ok⟩ ∈
          (watch Roster.quiet () scrolledTwice).made Roster.quiet (.signal 1 (.scrollStop 120))) ↔
        last.velocity.isZero = false ∧ ∃ amount velocity ok,
          ⟨4, .gesture swipe.gesture (.motion amount velocity), ok⟩ ∈
            (watch Roster.quiet () scrolledTwice).made Roster.quiet
              (.request (.send ⟨1, 1⟩ (.smoothScroll .zero .zero ⟨120⟩)))) := by
  have hany : ((watch Roster.quiet () scrolledTwice).roster.current.bind fun found ↦
      (found.2.receivers.get? ⟨1, 1⟩).bind Receiver.scrolling).isSome = true := by decide +kernel
  obtain ⟨swipe, hfound⟩ := Option.isSome_iff_exists.mp hany
  obtain ⟨⟨i, r⟩, hcurrent, hreceiver⟩ := Option.bind_eq_some_iff.mp hfound
  obtain ⟨x, hx, hswipe⟩ := Option.bind_eq_some_iff.mp hreceiver
  have hresolve : ((watch Roster.quiet () scrolledTwice).roster.current.map fun found ↦
      found.2.resolve 1) = some (.ok ⟨1, 1⟩) := by decide +kernel
  rw [hcurrent] at hresolve
  obtain ⟨last, hlast, hdecided⟩ := (momentum_of_last_motion Roster.quiet () scrolledTwice).1
    i r ⟨1, 1⟩ x swipe hcurrent hx hswipe
  refine ⟨by decide +kernel, swipe, last, hlast, ?_⟩
  exact hdecided ⟨120⟩ _ _ .zero .zero (Or.inr ⟨1, _, rfl, Option.some.inj hresolve, rfl⟩)
    (Or.inl rfl)

end WindowRouting
