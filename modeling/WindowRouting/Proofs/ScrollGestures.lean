import WindowRouting.Proofs.Protocol

/-!
Scroll gestures. A gesture is opened and moved at once; after its motions it is finished, with or
without momentum before, or cancelled. A gesture that fails when it is told of momentum receives
nothing more. Every gesture of every run keeps to this, whatever fails, and a window has at most
one that is open (`scroll_gestures_proper`). A gesture that its window has no more is over, unless
the window was closed and the drag session of the window failed when it was cancelled, so that the
gesture was passed over (`History.DropsGesture`).
-/

set_option autoImplicit false
set_option relaxedAutoImplicit false

namespace WindowRouting

variable {C : Client} {σ : Type}

/-- How far a scroll gesture has gone. -/
inductive GesturePhase
  /-- It has received no message. -/
  | opened
  | moving
  /-- It goes on by momentum. -/
  | gliding
  | finished
  | cancelled
  /-- It failed when it was told of momentum. -/
  | broken
deriving DecidableEq

/-- The gesture receives no more messages. -/
def GesturePhase.Over (phase : GesturePhase) : Prop :=
  phase = finished ∨ phase = cancelled ∨ phase = broken

/-- The phase after a message, of which it is known whether it returned. -/
def GesturePhase.next : GesturePhase → GestureCall × Bool → Option GesturePhase
  | opened, (.motion _ _, _) | moving, (.motion _ _, _) => some moving
  | moving, (.finish, _) | gliding, (.finish, _) => some finished
  | moving, (.cancel, _) => some cancelled
  | moving, (.momentum, true) => some gliding
  | moving, (.momentum, false) => some broken
  | _, _ => none

/-- The call asks for a gesture, is a message to one or is a step of a scroll wheel. -/
def Call.swipes : Call C.ticketed → Bool
  | .gesture _ _ | .window _ _ _ (.beginGesture _) | .window _ _ _ (.scroll _ _) => true
  | _ => false

theorem Call.swipes_of_passive {call : WindowCall} (hcall : call.passive = true)
    (l : Numbered C.Listener) (id : WindowId) (w : Window) :
    (Call.window l id w call : Call C.ticketed).swipes = false := by
  cases call with
  | beginGesture loc => exact nomatch hcall
  | scroll loc amount => exact nomatch hcall
  | _ => rfl

/-- The protocol of scroll gestures. A step of a scroll wheel goes to a window without a gesture. -/
def gestureProtocol (C : Client) : Protocol C where
  Phase := GesturePhase
  Message := GestureCall × Bool
  opening? e :=
    match e.call, e.returned with
    | .window l _ _ (.beginGesture _), true => some (l.number, .opened)
    | _, _ => none
  asking? e :=
    match e.call with
    | .window l _ _ (.beginGesture _) | .window l _ _ (.scroll _ _) => some l.number
    | _ => none
  message? e :=
    match e.call with
    | .gesture g c => some (g.ticket, c, e.returned)
    | _ => none
  concerns := Call.swipes
  next := GesturePhase.next
  Over := GesturePhase.Over
  asking_of_opening {e k φ} h := by
    split at h
    case h_1 l id w loc hcall hreturned =>
      rw [← (Prod.mk.inj (Option.some.inj h)).1, hcall]
    case h_2 => exact nomatch h
  owner_of_asking {e k} h := by
    split at h
    case h_1 l id w loc hcall => rw [hcall, ← h]; rfl
    case h_2 l id w loc amount hcall => rw [hcall, ← h]; rfl
    case h_3 => exact nomatch h
  owner_of_message {e x m} h := by
    split at h
    case h_1 g c hcall => rw [hcall, ← (Prod.mk.inj (Option.some.inj h)).1]; rfl
    case h_2 => exact nomatch h
  ticket_of_message {e x m} h := by
    split at h
    case h_1 g c hcall => rw [hcall, ← (Prod.mk.inj (Option.some.inj h)).1]; rfl
    case h_2 => exact nomatch h
  concerns_of_asking {e k} h := by
    split at h
    case h_1 l id w loc hcall => rw [hcall]; rfl
    case h_2 l id w loc amount hcall => rw [hcall]; rfl
    case h_3 => exact nomatch h
  concerns_of_message {e x m} h := by
    split at h
    case h_1 g c hcall => rw [hcall]; rfl
    case h_2 => exact nomatch h
  message_of_asking {e k} h := by
    split at h
    case h_1 l id w loc hcall => rw [hcall]
    case h_2 l id w loc amount hcall => rw [hcall]
    case h_3 => exact nomatch h
  next_of_over {φ} h m := by
    rcases h with rfl | rfl | rfl
    all_goals rfl

/-- The calls of the gesture with ticket `x`, and whether they returned. -/
abbrev History.gestureCalls (h : History C) (x : Ticket) : List (GestureCall × Bool) :=
  (gestureProtocol C).messages h x

theorem History.gestureCalls_append (h es : History C) (x : Ticket) :
    gestureCalls (h ++ es) x = h.gestureCalls x ++ es.gestureCalls x :=
  Protocol.messages_append es

/-! ### What gestures receive -/

def GestureCall.isMotion : GestureCall → Bool
  | motion _ _ => true
  | _ => false

/-- What a gesture has received after its motions. -/
def GesturePhase.Ending : GesturePhase → List (GestureCall × Bool) → Prop
  | opened, tail | moving, tail => tail = []
  | gliding, tail => tail = [(.momentum, true)]
  | finished, tail =>
    ∃ ok, tail = [(.finish, ok)] ∨ tail = [(.momentum, true), (.finish, ok)]
  | cancelled, tail => ∃ ok, tail = [(.cancel, ok)]
  | broken, tail => tail = [(.momentum, false)]

/-- A message is one more motion, or comes after the motions. -/
theorem GesturePhase.Ending.snoc {before phase : GesturePhase} {tail : List (GestureCall × Bool)}
    {m : GestureCall × Bool} (hending : before.Ending tail) (hnext : before.next m = some phase) :
    m.1.isMotion = true ∧ tail = [] ∧ phase = .moving ∨
      before ≠ .opened ∧ phase ≠ .opened ∧ phase.Ending (tail ++ [m]) := by
  unfold next at hnext
  split at hnext
  case h_1 | h_2 =>
    obtain rfl := Option.some.inj hnext
    exact Or.inl ⟨rfl, hending, rfl⟩
  case h_3 ok =>
    obtain rfl := Option.some.inj hnext
    obtain rfl : tail = [] := hending
    exact Or.inr ⟨nofun, nofun, ok, Or.inl rfl⟩
  case h_4 ok =>
    obtain rfl := Option.some.inj hnext
    obtain rfl : tail = [(.momentum, true)] := hending
    exact Or.inr ⟨nofun, nofun, ok, Or.inr rfl⟩
  case h_5 ok =>
    obtain rfl := Option.some.inj hnext
    obtain rfl : tail = [] := hending
    exact Or.inr ⟨nofun, nofun, ok, rfl⟩
  case h_6 | h_7 =>
    obtain rfl := Option.some.inj hnext
    obtain rfl : tail = [] := hending
    exact Or.inr ⟨nofun, nofun, rfl⟩
  case h_8 => exact nomatch hnext

/-- A gesture that kept to the protocol received motions and then what goes with its phase. -/
theorem exists_ending {messages : List (GestureCall × Bool)} {phase : GesturePhase}
    (hfold : messages.foldlM GesturePhase.next .opened = some phase) :
    ∃ motions tail, messages = motions ++ tail ∧ (∀ m ∈ motions, m.1.isMotion = true) ∧
      (motions = [] ↔ phase = .opened) ∧ phase.Ending tail := by
  induction messages using List.reverseRecOn generalizing phase with
  | nil =>
    obtain rfl := Option.some.inj hfold
    exact ⟨[], [], rfl, nofun, ⟨fun _ ↦ rfl, fun _ ↦ rfl⟩, rfl⟩
  | append_singleton messages m ih =>
    rw [List.foldlM_append] at hfold
    cases hsofar : messages.foldlM GesturePhase.next .opened with
    | none =>
      rw [hsofar] at hfold
      exact nomatch hfold
    | some before =>
      obtain ⟨motions, tail, rfl, hmotions, hnil, hending⟩ := ih hsofar
      have hnext : before.next m = some phase := by
        rw [hsofar] at hfold
        simpa using hfold
      rcases hending.snoc hnext with ⟨hm, rfl, rfl⟩ | ⟨hbefore, hphase, hending'⟩
      · refine ⟨motions ++ [m], [], by simp, fun n hn ↦ ?_, by simp, rfl⟩
        rcases List.mem_append.mp hn with hold | hnew
        · exact hmotions n hold
        · rwa [List.mem_singleton.mp hnew]
      · refine ⟨motions, tail ++ [m], by simp, hmotions, ?_, hending'⟩
        exact iff_of_false (fun h ↦ hbefore (hnil.mp h)) hphase

/-! ### Steps -/

/-- The gesture of a window, which is moving. -/
def Scrolling.session? (s : Scrolling C.ticketed) : Option (Ticket × GesturePhase) :=
  s.map fun swipe ↦ (swipe.gesture.ticket, .moving)

/-- What a message to a gesture of window number `k` must have come from: the gesture goes on by
momentum when the fingers are lifted over its window. -/
def gestureAllowed (caused : Nat → Nat → Cause C → Prop) (k act : Nat) (m : GestureCall × Bool) :
    Prop :=
  m.1 = .momentum → ∃ time, caused act k (.event (.scrollStop time))

/-- A drag session of window number `k` failed when it was cancelled. -/
def History.DropsGesture (k : Nat) (h : History C) : Prop :=
  ∃ e ∈ h, ∃ session, e.call = .drag session .cancel ∧ session.ticket.window = k ∧
    e.returned = false

section Steps

variable {caused : Nat → Nat → Cause C → Prop} {act k : Nat} {id : WindowId}
  {l : Numbered C.Listener} {cfg : Config} {h h' : History C} {e : Event}

/-- The gestures of window number `k` go with its scrolling. -/
abbrev Scrolling.Fits (caused : Nat → Nat → Cause C → Prop) (k : Nat) (s : Scrolling C.ticketed)
    (lost : Prop) (h : History C) : Prop :=
  (gestureProtocol C).Fits (gestureAllowed caused k) k s.session? lost h

theorem Scrolling.Step.fits {s s' : Scrolling C.ticketed} (hstep : Step act id l cfg s h e s' h')
    (hl : l.number = k) (hpast : ∀ d ∈ h, ∀ x, d.call.ticket? = some x → x.call < h.length)
    (hcaused : caused act k (.event e)) (hfits : Fits caused k s False h) :
    Fits caused k s' False h' := by
  cases hstep with
  | moved loc native time swipe ok hswipe htime =>
    subst hswipe
    exact hfits.message (ψ := GesturePhase.moving) rfl rfl nofun (Or.inl rfl)
  | timedOut loc native time swipe ok hswipe htime =>
    subst hswipe
    exact hfits.message (ψ := GesturePhase.finished) rfl rfl nofun (Or.inr ⟨rfl, Or.inl rfl⟩)
  | refused loc native time w hnone =>
    subst hnone
    exact hfits.asked not_false (congrArg some hl) rfl
  | begun loc native time w gesture ok hnone =>
    subst hnone hl
    exact hfits.begun not_false hpast (φ := GesturePhase.opened) rfl rfl rfl rfl nofun
  | interrupted loc native swipe ok hswipe =>
    subst hswipe
    exact hfits.message (ψ := GesturePhase.cancelled) rfl rfl nofun
      (Or.inr ⟨rfl, Or.inr (Or.inl rfl)⟩)
  | scrolled loc native w ok hnone =>
    subst hnone
    exact hfits.asked not_false (congrArg some hl) rfl
  | idle time hnone =>
    subst hnone
    exact hfits
  | stopped time swipe ok hswipe hglides =>
    subst hswipe
    exact hfits.message (ψ := GesturePhase.finished) rfl rfl nofun (Or.inr ⟨rfl, Or.inl rfl⟩)
  | broken time swipe hswipe hglides =>
    subst hswipe
    exact hfits.message (ψ := GesturePhase.broken) rfl rfl (fun _ ↦ ⟨time, hcaused⟩)
      (Or.inr ⟨rfl, Or.inr (Or.inr rfl)⟩)
  | glided time swipe ok hswipe hglides =>
    subst hswipe
    have hgliding := hfits.message (e := ⟨act, .gesture swipe.gesture .momentum, true⟩)
      (ψ := GesturePhase.gliding) rfl rfl (fun _ ↦ ⟨time, hcaused⟩) (Or.inl rfl)
    exact hgliding.message (ψ := GesturePhase.finished) rfl rfl nofun (Or.inr ⟨rfl, Or.inl rfl⟩)

/-- The pointer has nothing to do with scroll gestures. -/
theorem Pointer.Step.swipes_eq_false {p p' : Pointer C.ticketed}
    (hstep : Step act id l p h e p' h') :
    ∃ es, h' = h ++ es ∧ ∀ d ∈ es, d.call.swipes = false := by
  cases hstep with
  | ignored loc pressed b => exact ⟨[], by simp, by simp⟩
  | kept session hdrag => exact ⟨[], by simp, by simp⟩
  | freed loc b mask hmask hheld hdrag => exact ⟨[], by simp, by simp⟩
  | begun loc b mask w session ok hmask hfree hdrag =>
    exact ⟨_, List.append_assoc _ _ _, by simp [Call.swipes]⟩
  | refused loc b mask w hmask hfree hdrag => exact ⟨_, rfl, by simp [Call.swipes]⟩
  | pressed loc b mask session ok hmask hfree hdrag => exact ⟨_, rfl, by simp [Call.swipes]⟩
  | released loc b mask session ok hmask hheld hrest hdrag =>
    exact ⟨_, rfl, by simp [Call.swipes]⟩
  | ended loc b mask session ok hmask hheld hrest hdrag => exact ⟨_, rfl, by simp [Call.swipes]⟩
  | moved loc session ok hdrag => exact ⟨_, rfl, by simp [Call.swipes]⟩
  | passed loc w ok hdrag => exact ⟨_, rfl, by simp [Call.swipes]⟩
  | left w ok hdrag => exact ⟨_, rfl, by simp [Call.swipes]⟩

/-- The scrolling of a window, which has no gesture when the window is not open. -/
def Receiver.scrollingOf (o : Option (Receiver C.ticketed)) : Scrolling C.ticketed :=
  o.bind Receiver.scrolling

theorem Receiver.fits_cancelsGesture {receiver : Receiver C.ticketed} {lost : Prop}
    (hfits : receiver.scrolling.Fits caused k lost h) (ok : Bool) :
    Scrolling.Fits caused k none lost (h ++ receiver.cancelsGesture act ok) := by
  unfold cancelsGesture
  cases hs : receiver.scrolling with
  | none =>
    rw [hs] at hfits
    rwa [List.append_nil]
  | some swipe =>
    rw [hs] at hfits
    exact hfits.message (ψ := GesturePhase.cancelled) rfl rfl nofun
      (Or.inr ⟨rfl, Or.inr (Or.inl rfl)⟩)

/-- Closing a window cancels its gesture, unless the gesture is passed over. -/
theorem Receiver.scrolling_fits_closed {receiver : Receiver C.ticketed}
    (hwindow : ∀ x, Holds (some receiver) x → x.window = k)
    (hfits : receiver.scrolling.Fits caused k False h) (dragOk gestureOk : Bool) :
    Scrolling.Fits caused k none
      (History.DropsGesture k (h ++ receiver.cancels act dragOk gestureOk))
      (h ++ receiver.cancels act dragOk gestureOk) := by
  unfold cancels
  cases hdrag : receiver.pointer.drag with
  | none => exact (receiver.fits_cancelsGesture hfits gestureOk).mono False.elim
  | some session =>
    have hquiet (lost : Prop) : receiver.scrolling.Fits caused k lost
        (h ++ [⟨act, .drag session .cancel, dragOk⟩]) :=
      hfits.other (Or.inr rfl) False.elim
    cases dragOk with
    | false =>
      refine (hquiet False).dropped
        ⟨⟨act, .drag session .cancel, false⟩, by simp, session, rfl, ?_, rfl⟩
      exact hwindow _ ⟨receiver, rfl, Or.inl ⟨session, hdrag, rfl⟩⟩
    | true => simpa using receiver.fits_cancelsGesture (hquiet _) gestureOk

theorem Scrolling.lasting_fits : Lasting caused fun k o h ↦
    Fits caused k (Receiver.scrollingOf o) (o = none ∧ History.DropsGesture k h)
      (h : History C) where
  fresh k h hunused := .of_unused hunused
  opened l h hunused := .of_unused hunused
  other k o h d howner hfits := by
    refine hfits.other (Or.inl howner) ?_
    rintro ⟨hnone, e, he, hdrops⟩
    exact ⟨hnone, e, List.mem_append_left _ he, hdrops⟩
  step act id cfg cause k r h o h' hcaused htidy hstep hfits := by
    have hfits' : r.scrolling.Fits caused k False h := hfits.mono fun h ↦ nomatch h.1
    cases hstep with
    | pointer hstep =>
      obtain ⟨es, rfl, hes⟩ := hstep.swipes_eq_false
      exact (hfits'.others hes).mono False.elim
    | scrolling hstep =>
      exact (hstep.fits (htidy.number r rfl) htidy.past hcaused hfits').mono False.elim
    | told receiver h e w call hcall ok =>
      exact hfits'.other (Or.inr (Call.swipes_of_passive hcall _ id w)) False.elim
    | asked receiver h host ok => exact hfits'.other (Or.inr rfl) False.elim
    | closed receiver h dragOk gestureOk =>
      refine (r.scrolling_fits_closed (fun x hx ↦ (htidy.held x hx).1) hfits' dragOk
        gestureOk).mono ?_
      exact fun h ↦ ⟨rfl, h⟩

end Steps

/-! ### Runs -/

/-- An open window has the gesture with ticket `x`. -/
def Watch.HoldsGesture (s : Watch C σ) (x : Ticket) : Prop :=
  ∃ place r, s.receiver? place = some r ∧ r.scrolling.Holds x

theorem Scrolling.session?_eq_some_iff {s : Scrolling C.ticketed} {x : Ticket}
    {phase : GesturePhase} : s.session? = some (x, phase) ↔ s.Holds x ∧ phase = .moving := by
  unfold Holds session?
  cases s with
  | none => simp
  | some swipe => simp [eq_comm]

theorem Watch.Orderly.holdsGesture_iff {s : Watch C σ} (hs : s.Orderly) {x : Ticket}
    {o : Option (Receiver C.ticketed)} (ho : s.Shows x.window o) :
    s.HoldsGesture x ↔ (Receiver.scrollingOf o).Holds x := by
  refine (hs.exists_place_iff ho fun r hx ↦ ⟨r, rfl, Or.inr hx⟩).trans ?_
  cases o with
  | none => exact iff_of_false nofun (Scrolling.not_holds x)
  | some r => exact ⟨fun ⟨_, hr, hx⟩ ↦ Option.some.inj hr ▸ hx, fun hx ↦ ⟨r, rfl, hx⟩⟩

variable (W : World C σ) (w : σ) (acts : List (Act C σ))

/-- What is said of the gestures of a window holds after every run. -/
theorem exists_gesture_fits (k : Nat) : ∃ o, (watch W w acts).Shows k o ∧
    (Receiver.scrollingOf o).Fits (Caused W w acts) k
      (o = none ∧ (watch W w acts).history.DropsGesture k) (watch W w acts).history := by
  obtain ⟨o, ho⟩ := (watch W w acts).exists_shows k
  exact ⟨o, ho, fits_watch Scrolling.lasting_fits ho⟩

/-- Every gesture has kept to the protocol so far. -/
theorem exists_gesture_at {x : Ticket}
    (hopened : (gestureProtocol C).Opened (watch W w acts).history x) :
    ∃ phase, (gestureProtocol C).At (watch W w acts).history x phase ∧
      ((watch W w acts).HoldsGesture x ∧ phase = GesturePhase.moving ∨
        ¬(watch W w acts).HoldsGesture x ∧
          (GesturePhase.Over phase ∨ (watch W w acts).history.DropsGesture x.window)) := by
  obtain ⟨o, ho, hfits⟩ := exists_gesture_fits W w acts x.window
  rw [(orderly_watch W w acts).holdsGesture_iff ho]
  by_cases hx : (Receiver.scrollingOf o).Holds x
  · have hat := (hfits.holding x _ (Scrolling.session?_eq_some_iff.mpr ⟨hx, rfl⟩)).2
    exact ⟨_, hat, Or.inl ⟨hx, rfl⟩⟩
  · obtain ⟨phase, hat, hover⟩ := hfits.finished x rfl hopened fun φ hφ ↦
      hx (Scrolling.session?_eq_some_iff.mp hφ).1
    exact ⟨phase, hat, Or.inr ⟨hx, hover.imp_right fun h ↦ h.2⟩⟩

/-- The messages of a gesture are motions, of which there is one at least, and what goes with its
phase. -/
theorem exists_motions {x : Ticket} {phase : GesturePhase}
    (hat : (gestureProtocol C).At (watch W w acts).history x phase) :
    ∃ motions tail, (watch W w acts).history.gestureCalls x = motions ++ tail ∧
      motions ≠ [] ∧ (∀ m ∈ motions, m.1.isMotion = true) ∧ phase.Ending tail := by
  obtain ⟨o, -, hfits⟩ := exists_gesture_fits W w acts x.window
  obtain ⟨-, -, first, -, -, -, -, hfirst⟩ := hfits.starts x rfl hat.opened
  obtain ⟨φ, ⟨e, -, hφ⟩, hfold⟩ := hat
  obtain rfl : φ = GesturePhase.opened := by
    simp only [gestureProtocol] at hφ
    split at hφ
    case h_1 => exact (Prod.mk.inj (Option.some.inj hφ)).2.symm
    case h_2 => exact nomatch hφ
  obtain ⟨motions, tail, hmessages, hmotions, hnil, hending⟩ := exists_ending hfold
  refine ⟨motions, tail, hmessages, fun hempty ↦ ?_, hmotions, hending⟩
  rw [hmessages, hempty] at hfirst
  rw [hnil.mp hempty] at hending
  obtain rfl : tail = [] := hending
  exact nomatch hfirst

/-- Scroll gestures keep to the protocol in every run. A gesture is moved right after it was
opened; it receives motions, and then it is finished, cancelled or goes on by momentum, and is
finished if it did not fail in that. Only gestures that were opened receive messages, and they go
on by momentum only when the fingers are lifted over their window. A window asks for a gesture and
is told of a step of a scroll wheel only when its gestures are over, so that at every moment at
most one of them is open. -/
theorem scroll_gestures_proper :
    (∀ x, (gestureProtocol C).Opened (watch W w acts).history x →
      (gestureProtocol C).StartsAtOnce (watch W w acts).history x ∧
      ∃ motions tail, (watch W w acts).history.gestureCalls x = motions ++ tail ∧
        motions ≠ [] ∧ (∀ m ∈ motions, m.1.isMotion = true) ∧
        (tail = [] ∨ ∃ ok, tail = [(.finish, ok)] ∨ tail = [(.cancel, ok)] ∨
          tail = [(.momentum, ok)] ∨ tail = [(.momentum, true), (.finish, ok)])) ∧
    (∀ e ∈ (watch W w acts).history, ∀ gesture c, e.call = .gesture gesture c →
      (gestureProtocol C).Opened (watch W w acts).history gesture.ticket ∧
      (c = .momentum →
        ∃ time, Caused W w acts e.act gesture.ticket.window (.event (.scrollStop time)))) ∧
    (∀ k, (gestureProtocol C).Apart k (watch W w acts).history) ∧
    ∀ before after, (watch W w acts).history = before ++ after → ∀ x y, x.window = y.window →
      (gestureProtocol C).Open before x → (gestureProtocol C).Open before y → x = y := by
  refine ⟨?_, ?_, ?_, ?_⟩
  · intro x hopened
    obtain ⟨o, -, hfits⟩ := exists_gesture_fits W w acts x.window
    obtain ⟨phase, hat, -⟩ := exists_gesture_at W w acts hopened
    obtain ⟨motions, tail, hmessages, hne, hmotions, hending⟩ := exists_motions W w acts hat
    refine ⟨hfits.starts x rfl hopened, motions, tail, hmessages, hne, hmotions, ?_⟩
    cases phase with
    | opened | moving => exact Or.inl hending
    | gliding => exact Or.inr ⟨true, Or.inr (Or.inr (Or.inl hending))⟩
    | finished =>
      obtain ⟨ok, hfinish | hfinish⟩ := hending
      · exact Or.inr ⟨ok, Or.inl hfinish⟩
      · exact Or.inr ⟨ok, Or.inr (Or.inr (Or.inr hfinish))⟩
    | cancelled =>
      obtain ⟨ok, hcancel⟩ := hending
      exact Or.inr ⟨ok, Or.inr (Or.inl hcancel)⟩
    | broken => exact Or.inr ⟨false, Or.inr (Or.inr (Or.inl hending))⟩
  · intro e he gesture c hc
    obtain ⟨o, -, hfits⟩ := exists_gesture_fits W w acts gesture.ticket.window
    exact hfits.called e he _ (c, e.returned) (by simp [gestureProtocol, hc]) rfl
  · intro k
    obtain ⟨o, -, hfits⟩ := exists_gesture_fits W w acts k
    exact hfits.apart
  · intro before after hh x y hxy hx hy
    obtain ⟨o, -, hfits⟩ := exists_gesture_fits W w acts y.window
    refine Protocol.open_unique hfits.apart (fun z _ hz ↦ ?_) hh hxy rfl hx hy
    obtain ⟨phase, hat, -⟩ := exists_gesture_at W w acts hz
    exact ⟨phase, hat⟩

/-- The message is the last one of its gesture. -/
def GestureCall.isLast : GestureCall → Bool
  | finish | cancel => true
  | _ => false

theorem countP_isLast_append {motions : List (GestureCall × Bool)}
    (hmotions : ∀ m ∈ motions, m.1.isMotion = true) (tail : List (GestureCall × Bool)) :
    (motions ++ tail).countP (fun m ↦ m.1.isLast) = tail.countP fun m ↦ m.1.isLast := by
  have hnone : motions.countP (fun m ↦ m.1.isLast) = 0 := by
    refine List.countP_eq_zero.mpr fun m hm hlast ↦ ?_
    obtain ⟨c, ok⟩ := m
    have hmotion := hmotions _ hm
    cases c <;> simp_all [GestureCall.isMotion, GestureCall.isLast]
  rw [List.countP_append, hnone, Nat.zero_add]

/-- What the gesture received ends it exactly once, and momentum is followed by the end. -/
def EndedOnce (messages : List (GestureCall × Bool)) : Prop :=
  messages.countP (fun m ↦ m.1.isLast) = 1 ∧
    ∀ ok, (.momentum, ok) ∈ messages → ∃ ok', [(.momentum, ok), (.finish, ok')] <:+ messages

/-- A gesture that is over was ended once, unless it failed when it was told of momentum. -/
theorem endedOnce_of_over {motions tail : List (GestureCall × Bool)} {phase : GesturePhase}
    (hmotions : ∀ m ∈ motions, m.1.isMotion = true) (hending : phase.Ending tail)
    (hover : phase.Over) :
    (.momentum, false) ∉ motions ++ tail ∧ EndedOnce (motions ++ tail) ∨
      (.momentum, false) ∈ motions ++ tail ∧
        (motions ++ tail).countP (fun m ↦ m.1.isLast) = 0 := by
  have hmomentum (ok : Bool) : (GestureCall.momentum, ok) ∉ motions := fun hm ↦
    nomatch hmotions _ hm
  rw [EndedOnce, countP_isLast_append hmotions]
  rcases hover with rfl | rfl | rfl
  · obtain ⟨ok, rfl | rfl⟩ := hending
    · refine Or.inl ⟨by simp [hmomentum], rfl, fun ok' hm ↦ ?_⟩
      simp [hmomentum] at hm
    · refine Or.inl ⟨by simp [hmomentum], rfl, fun ok' hm ↦ ⟨ok, ?_⟩⟩
      obtain rfl : ok' = true := by simpa [hmomentum] using hm
      exact List.suffix_append _ _
  · obtain ⟨ok, rfl⟩ := hending
    refine Or.inl ⟨by simp [hmomentum], rfl, fun ok' hm ↦ ?_⟩
    simp [hmomentum] at hm
  · obtain rfl : tail = [(.momentum, false)] := hending
    exact Or.inr ⟨by simp, rfl⟩

/-- A gesture that no window has any more was ended exactly once, unless it failed when it was told
of momentum: then it was not ended. This holds of every run in which no drag session fails when it
is cancelled. -/
theorem gestures_ended_once
    (hdrags : ∀ e ∈ (watch W w acts).history, ∀ session, e.call = .drag session .cancel →
      e.returned = true)
    {x : Ticket} (hopened : (gestureProtocol C).Opened (watch W w acts).history x)
    (hgone : ¬(watch W w acts).HoldsGesture x) :
    (.momentum, false) ∉ (watch W w acts).history.gestureCalls x ∧
        EndedOnce ((watch W w acts).history.gestureCalls x) ∨
      (.momentum, false) ∈ (watch W w acts).history.gestureCalls x ∧
        ((watch W w acts).history.gestureCalls x).countP (fun m ↦ m.1.isLast) = 0 := by
  obtain ⟨phase, hat, ⟨hheld, -⟩ | ⟨-, hover⟩⟩ := exists_gesture_at W w acts hopened
  · exact absurd hheld hgone
  · have hkept : ¬(watch W w acts).history.DropsGesture x.window := by
      rintro ⟨e, he, session, hc, -, hfailed⟩
      exact nomatch (hdrags e he session hc).symm.trans hfailed
    obtain ⟨motions, tail, hmessages, -, hmotions, hending⟩ := exists_motions W w acts hat
    rw [hmessages]
    exact endedOnce_of_over hmotions hending (hover.resolve_right hkept)

/-- A window is scrolled twice and the fingers are lifted at once. Momentum fails. -/
def flick : Watch .bare Unit :=
  watch (.bare fun | .gesture _ .momentum => true | _ => false) ()
    [.install default, .request (.create default ()),
      .request (.send ⟨1, 1⟩ (.smoothScroll .zero ⟨0, 1⟩ ⟨100⟩)),
      .request (.send ⟨1, 1⟩ (.smoothScroll .zero ⟨0, 1⟩ ⟨110⟩)),
      .request (.send ⟨1, 1⟩ (.scrollStop ⟨115⟩))]

theorem flick_not_ended :
    (gestureProtocol .bare).Opened flick.history ⟨1, 0⟩ ∧ ¬flick.HoldsGesture ⟨1, 0⟩ ∧
      (.momentum, false) ∈ flick.history.gestureCalls ⟨1, 0⟩ ∧
      (flick.history.gestureCalls ⟨1, 0⟩).countP (fun m ↦ m.1.isLast) = 0 := by
  have hdrags : ∀ e ∈ flick.history, ∀ session, e.call = .drag session .cancel →
      e.returned = true := by
    intro e he session hc
    have hall : flick.history.all (fun e ↦ e.call.swipes) = true := by decide +kernel
    have hnone := List.all_eq_true.mp hall e he
    rw [hc] at hnone
    exact nomatch hnone
  have hopened : (gestureProtocol .bare).Opened flick.history ⟨1, 0⟩ := by
    have hentry : ((flick.history[0]?.bind (gestureProtocol .bare).opening? :
        Option (Nat × GesturePhase))) = some (1, .opened) := by decide +kernel
    exact ⟨GesturePhase.opened, Option.bind_eq_some_iff.mp hentry⟩
  have hgone : ¬flick.HoldsGesture ⟨1, 0⟩ := by
    have hany : (flick.receiver? ⟨0, ⟨1, 1⟩⟩).any
        (fun r ↦ r.listener.number == 1 && r.scrolling.isNone) = true := by decide +kernel
    obtain ⟨r, hr, hboth⟩ := Option.any_eq_true _ _ |>.mp hany
    obtain ⟨hnumber, hnone⟩ := Bool.and_eq_true_iff.mp hboth
    have hshows : flick.Shows 1 (some r) := ⟨beq_iff_eq.mp hnumber, _, hr⟩
    have horderly : flick.Orderly := orderly_watch _ _ _
    rw [horderly.holdsGesture_iff (x := ⟨1, 0⟩) hshows]
    rintro ⟨swipe, hswipe, -⟩
    rw [Receiver.scrollingOf, Option.bind_some, Option.isNone_iff_eq_none.mp hnone] at hswipe
    exact nomatch hswipe
  refine ⟨hopened, hgone, ?_⟩
  rcases gestures_ended_once _ _ _ hdrags hopened hgone with ⟨-, hended, -⟩ | hbroken
  · have hzero : (flick.history.gestureCalls ⟨1, 0⟩).countP (fun m ↦ m.1.isLast) = 0 := by
      decide +kernel
    exact nomatch hzero.symm.trans hended
  · exact hbroken

end WindowRouting
