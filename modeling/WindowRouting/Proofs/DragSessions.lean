import WindowRouting.Proofs.HeldButtons
import WindowRouting.Proofs.Protocol

/-!
Drag sessions. A session is opened with a button and told at once that the button is down; it goes
on as long as buttons are held, and ends with the release of the last of them or is cancelled when
its window is closed (`DragPhase.next`). Every session of every run keeps to this, whatever fails
(`drag_sessions_proper`). What carries the proof is that the word of held buttons of a window is
not zero exactly while the window has a session, and holds the buttons of that session
(`Pointer.Fits`).
-/

set_option autoImplicit false
set_option relaxedAutoImplicit false

namespace WindowRouting

variable {C : Client} {σ : Type}

/-- How far a drag session has gone. -/
inductive DragPhase
  /-- It was opened with a button and has received no message. -/
  | opened (button : Button)
  /-- The buttons with these native numbers are held. -/
  | holding (buttons : Finset Nat)
  /-- The last button went up. -/
  | released
  /-- Its window was closed. -/
  | cancelled
deriving DecidableEq

/-- The phase after a message, if the session can receive it. -/
def DragPhase.next : DragPhase → DragCall → Option DragPhase
  | opened b, .down _ b' => if b' = b then some (holding {b.native.toNat}) else none
  | holding buttons, .motion _ => some (holding buttons)
  | holding buttons, .down _ b =>
    if b.native.toNat ∈ buttons then none else some (holding (insert b.native.toNat buttons))
  | holding buttons, .up _ b =>
    if b.native.toNat ∉ buttons then none
    else if buttons.erase b.native.toNat = ∅ then some released
    else some (holding (buttons.erase b.native.toNat))
  | holding _, .cancel => some cancelled
  | _, _ => none

/-- The call is a message to a drag session or asks for one. -/
def Call.drags : Call C.ticketed → Bool
  | .drag _ _ | .window _ _ _ (.beginDrag _ _) => true
  | _ => false

/-- The protocol of drag sessions. -/
def dragProtocol (C : Client) : Protocol C where
  Phase := DragPhase
  Message := DragCall
  opening? e :=
    match e.call, e.returned with
    | .window l _ _ (.beginDrag _ b), true => some (l.number, .opened b)
    | _, _ => none
  asking? e :=
    match e.call with
    | .window l _ _ (.beginDrag _ _) => some l.number
    | _ => none
  message? e :=
    match e.call with
    | .drag session c => some (session.ticket, c)
    | _ => none
  concerns := Call.drags
  next := DragPhase.next
  Over phase := phase = .released ∨ phase = .cancelled
  asking_of_opening {e k φ} h := by
    split at h
    case h_1 l id w loc b hcall hreturned =>
      rw [← (Prod.mk.inj (Option.some.inj h)).1, hcall]
    case h_2 => exact nomatch h
  owner_of_asking {e k} h := by
    split at h
    case h_1 l id w loc b hcall => rw [hcall, ← h]; rfl
    case h_2 => exact nomatch h
  owner_of_message {e x m} h := by
    split at h
    case h_1 session c hcall => rw [hcall, ← (Prod.mk.inj (Option.some.inj h)).1]; rfl
    case h_2 => exact nomatch h
  ticket_of_message {e x m} h := by
    split at h
    case h_1 session c hcall => rw [hcall, ← (Prod.mk.inj (Option.some.inj h)).1]; rfl
    case h_2 => exact nomatch h
  concerns_of_asking {e k} h := by
    split at h
    case h_1 l id w loc b hcall => rw [hcall]; rfl
    case h_2 => exact nomatch h
  concerns_of_message {e x m} h := by
    split at h
    case h_1 session c hcall => rw [hcall]; rfl
    case h_2 => exact nomatch h
  message_of_asking {e k} h := by
    split at h
    case h_1 l id w loc b hcall => rw [hcall]
    case h_2 => exact nomatch h
  next_of_over {φ} h m := by
    rcases h with rfl | rfl
    all_goals rfl

/-- The calls of the drag session with ticket `x`. -/
abbrev History.dragCalls (h : History C) (x : Ticket) : List DragCall :=
  (dragProtocol C).messages h x

theorem History.dragCalls_append (h es : History C) (x : Ticket) :
    dragCalls (h ++ es) x = h.dragCalls x ++ es.dragCalls x :=
  Protocol.messages_append es

/-- The session of a pointer, with its phase. -/
def Pointer.session? (p : Pointer C.ticketed) : Option (Ticket × DragPhase) :=
  p.drag.map fun session ↦ (session.ticket, .holding (heldButtons p.held))

/-- What a message to a session of window number `k` must have come from: a session is cancelled by
the closing of its window only. -/
def dragAllowed (caused : Nat → Nat → Cause C → Prop) (k act : Nat) (c : DragCall) : Prop :=
  c = .cancel → caused act k .closing

/-- The sessions of window number `k` go with its pointer. -/
structure Pointer.Fits (caused : Nat → Nat → Cause C → Prop) (k : Nat) (p : Pointer C.ticketed)
    (h : History C) : Prop where
  held : p.held = 0 ↔ p.drag = none
  sessions : (dragProtocol C).Fits (dragAllowed caused k) k p.session? False h

namespace Pointer.Fits

variable {caused : Nat → Nat → Cause C → Prop} {k : Nat} {p p' : Pointer C.ticketed}
  {h : History C} {e : Entry C}

theorem of_unused (hunused : ∀ e ∈ h, e.call.owner ≠ some k) :
    Fits caused k (Pointer.idle : Pointer C.ticketed) h where
  held := ⟨fun _ ↦ rfl, fun _ ↦ rfl⟩
  sessions := .of_unused hunused

/-- A call that has nothing to do with the sessions of the window. -/
theorem other (hfits : Fits caused k p h) (hother : e.call.owner ≠ some k ∨ e.call.drags = false) :
    Fits caused k p (h ++ [e]) where
  held := hfits.held
  sessions := hfits.sessions.other hother fun h ↦ h

theorem others (hfits : Fits caused k p h) {es : History C}
    (hes : ∀ e ∈ es, e.call.drags = false) : Fits caused k p (h ++ es) where
  held := hfits.held
  sessions := hfits.sessions.others hes

variable {act : Nat}

theorem session?_of_none (hdrag : p.drag = none) : p.session? = none := by
  rw [session?, hdrag]
  rfl

/-- The listener fails when it is asked for a session. -/
theorem refused (hfits : Fits caused k p h) {l : Numbered C.Listener} (hl : l.number = k)
    {id : WindowId} {w : Window} {loc : Vec} {b : Button} (hdrag : p.drag = none) :
    Fits caused k p (h ++ [⟨act, .window l id w (.beginDrag loc b), false⟩]) where
  held := hfits.held
  sessions := by
    have hsessions := hfits.sessions
    rw [session?_of_none hdrag] at hsessions ⊢
    exact hsessions.asked not_false (congrArg some hl) rfl

variable {session : Ticketed C.Drag} {c : DragCall} {ok : Bool}

/-- A message after which buttons are held. -/
theorem goes_on (hfits : Fits caused k p h) (hdrag : p.drag = some session) {held : UInt32}
    (hheld : held ≠ 0) (hnext : (DragPhase.holding (heldButtons p.held)).next c =
      some (.holding (heldButtons held))) :
    Fits caused k ⟨held, some session⟩ (h ++ [⟨act, .drag session c, ok⟩]) where
  held := ⟨fun hzero ↦ absurd hzero hheld, nofun⟩
  sessions := by
    have hsessions := hfits.sessions
    rw [session?, hdrag] at hsessions
    refine hsessions.message rfl hnext ?_ (Or.inl rfl)
    rintro rfl
    exact nomatch hnext

/-- A last message. -/
theorem ends (hfits : Fits caused k p h) (hdrag : p.drag = some session) {phase : DragPhase}
    (hover : (dragProtocol C).Over phase)
    (hnext : (DragPhase.holding (heldButtons p.held)).next c = some phase)
    (hallowed : c = .cancel → caused act k .closing) :
    Fits caused k ⟨0, none⟩ (h ++ [⟨act, .drag session c, ok⟩]) where
  held := ⟨fun _ ↦ rfl, fun _ ↦ rfl⟩
  sessions := by
    have hsessions := hfits.sessions
    rw [session?, hdrag] at hsessions
    exact hsessions.message rfl hnext hallowed (Or.inr ⟨rfl, hover⟩)

/-- A session is opened and told that the button is down. -/
theorem begun (hfits : Fits caused k p h)
    (hpast : ∀ d ∈ h, ∀ x, d.call.ticket? = some x → x.call < h.length) (hdrag : p.drag = none)
    {l : Numbered C.Listener} (hl : l.number = k) {id : WindowId} {w : Window} {loc : Vec}
    {b : Button} {session : C.Drag} {held : UInt32} (hheld : heldButtons held = {b.native.toNat}) :
    Fits caused k ⟨held, some ⟨⟨l.number, h.length⟩, session⟩⟩
      (h ++ [⟨act, .window l id w (.beginDrag loc b), true⟩] ++
        [⟨act, .drag ⟨⟨l.number, h.length⟩, session⟩ (.down loc b), ok⟩]) where
  held := by
    refine ⟨fun hzero ↦ ?_, nofun⟩
    rw [heldButtons_eq_empty_iff.mpr hzero] at hheld
    exact absurd hheld.symm (Finset.singleton_ne_empty _)
  sessions := by
    subst hl
    have hsessions := hfits.sessions
    rw [session?_of_none hdrag] at hsessions
    rw [session?, Option.map_some, hheld]
    refine hsessions.begun not_false hpast (φ := DragPhase.opened b) rfl
      (m := DragCall.down loc b) rfl rfl ?_ nofun
    exact if_pos rfl

end Pointer.Fits

/-! ### Steps -/

section Steps

variable {caused : Nat → Nat → Cause C → Prop} {act k : Nat} {id : WindowId}
  {l : Numbered C.Listener} {cfg : Config} {h h' : History C} {e : Event}

theorem Pointer.Step.fits {p p' : Pointer C.ticketed} (hstep : Step act id l p h e p' h')
    (hl : l.number = k) (hpast : ∀ d ∈ h, ∀ x, d.call.ticket? = some x → x.call < h.length)
    (hfits : Fits caused k p h) : Fits caused k p' h' := by
  cases hstep with
  | ignored loc pressed b => exact hfits
  | refused loc b mask w hmask hfree hdrag => exact hfits.refused hl hdrag
  | begun loc b mask w session ok hmask hfree hdrag =>
    refine hfits.begun hpast hdrag hl ?_
    rw [heldButtons_or hmask, heldButtons_eq_empty_iff.mpr (hfits.held.mpr hdrag)]
    rfl
  | pressed loc b mask session ok hmask hfree hdrag =>
    have hbuttons : heldButtons (p.held ||| mask) = _ := heldButtons_or hmask
    refine hfits.goes_on hdrag (fun hzero ↦ ?_) ?_
    · rw [← heldButtons_eq_empty_iff, hbuttons] at hzero
      exact Finset.insert_ne_empty _ _ hzero
    · rw [hbuttons]
      exact if_neg ((and_mask_eq_zero_iff hmask).mp hfree)
  | released loc b mask session ok hmask hheld hrest hdrag =>
    refine hfits.goes_on hdrag hrest ?_
    rw [heldButtons_and_not hmask]
    refine (if_neg ?_).trans (if_neg ?_)
    · rwa [← and_mask_eq_zero_iff hmask]
    · rwa [← heldButtons_and_not hmask, heldButtons_eq_empty_iff]
  | ended loc b mask session ok hmask hheld hrest hdrag =>
    rw [hrest]
    refine hfits.ends hdrag (Or.inl rfl) ?_ nofun
    refine (if_neg ?_).trans (if_pos ?_)
    · rwa [← and_mask_eq_zero_iff hmask]
    · rwa [← heldButtons_and_not hmask, heldButtons_eq_empty_iff]
  | freed loc b mask hmask hheld hdrag =>
    rw [hfits.held.mpr hdrag] at hheld
    exact absurd UInt32.zero_and hheld
  | moved loc session ok hdrag =>
    obtain ⟨held, drag⟩ := p
    obtain rfl : drag = some session := hdrag
    refine hfits.goes_on rfl (fun hzero ↦ ?_) rfl
    exact nomatch hfits.held.mp hzero
  | passed loc w ok hdrag => exact hfits.other (Or.inr rfl)
  | kept session hdrag => exact hfits
  | left w ok hdrag => exact hfits.other (Or.inr rfl)

/-- Scrolling has nothing to do with drag sessions. -/
theorem Scrolling.Step.drags_eq_false {s s' : Scrolling C.ticketed}
    (hstep : Step act id l cfg s h e s' h') :
    ∃ es, h' = h ++ es ∧ ∀ d ∈ es, d.call.drags = false := by
  cases hstep with
  | idle time hnone => exact ⟨[], by simp, by simp⟩
  | begun loc native time w gesture ok hnone =>
    exact ⟨_, List.append_assoc _ _ _, by simp [Call.drags]⟩
  | glided time swipe ok hswipe hglides =>
    exact ⟨_, List.append_assoc _ _ _, by simp [Call.drags]⟩
  | moved loc native time swipe ok hswipe htime => exact ⟨_, rfl, by simp [Call.drags]⟩
  | timedOut loc native time swipe ok hswipe htime => exact ⟨_, rfl, by simp [Call.drags]⟩
  | refused loc native time w hnone => exact ⟨_, rfl, by simp [Call.drags]⟩
  | interrupted loc native swipe ok hswipe => exact ⟨_, rfl, by simp [Call.drags]⟩
  | scrolled loc native w ok hnone => exact ⟨_, rfl, by simp [Call.drags]⟩
  | stopped time swipe ok hswipe hglides => exact ⟨_, rfl, by simp [Call.drags]⟩
  | broken time swipe hswipe hglides => exact ⟨_, rfl, by simp [Call.drags]⟩

theorem Receiver.drags_cancelsGesture (receiver : Receiver C.ticketed) (ok : Bool) :
    ∀ d ∈ receiver.cancelsGesture act ok, d.call.drags = false := by
  unfold cancelsGesture
  intro d hd
  split at hd
  case h_1 => exact nomatch hd
  case h_2 => rw [List.mem_singleton.mp hd]; rfl

/-- The pointer over a window, which is idle when the window is not open. -/
def Receiver.pointerOf (o : Option (Receiver C.ticketed)) : Pointer C.ticketed :=
  o.elim .idle Receiver.pointer

theorem Receiver.fits_closed {receiver : Receiver C.ticketed} (hcaused : caused act k .closing)
    (hfits : receiver.pointer.Fits caused k h) (dragOk gestureOk : Bool) :
    Pointer.Fits caused k (Pointer.idle : Pointer C.ticketed)
      (h ++ receiver.cancels act dragOk gestureOk) := by
  unfold cancels
  cases hdrag : receiver.pointer.drag with
  | none =>
    have hidle : receiver.pointer = .idle := by
      rw [Pointer.idle, ← hfits.held.mpr hdrag, ← hdrag]
    rw [← hidle]
    exact hfits.others (receiver.drags_cancelsGesture gestureOk)
  | some session =>
    have hcancelled : Pointer.Fits caused k (Pointer.idle : Pointer C.ticketed)
        (h ++ [⟨act, .drag session .cancel, dragOk⟩]) :=
      hfits.ends hdrag (Or.inr rfl) rfl fun _ ↦ hcaused
    cases dragOk with
    | false => exact hcancelled
    | true => simpa using hcancelled.others (receiver.drags_cancelsGesture gestureOk)

theorem Pointer.lasting_fits : Lasting caused fun k o h ↦
    Fits caused k (Receiver.pointerOf o) (h : History C) where
  fresh k h hunused := .of_unused hunused
  opened l h hunused := .of_unused hunused
  other k o h d howner hfits := hfits.other (Or.inl howner)
  step act id cfg cause k r h o h' hcaused htidy hstep hfits := by
    cases hstep with
    | pointer hstep => exact hstep.fits (htidy.number r rfl) htidy.past hfits
    | scrolling hstep =>
      obtain ⟨es, rfl, hes⟩ := hstep.drags_eq_false
      exact hfits.others hes
    | told receiver h e w call hcall ok =>
      refine hfits.other (Or.inr ?_)
      cases call with
      | beginDrag loc b => exact nomatch hcall
      | _ => rfl
    | asked receiver h host ok => exact hfits.other (Or.inr rfl)
    | closed receiver h dragOk gestureOk => exact r.fits_closed hcaused hfits dragOk gestureOk

end Steps

/-! ### Runs -/

/-- An open window has the session with ticket `x`. -/
def Watch.HoldsDrag (s : Watch C σ) (x : Ticket) : Prop :=
  ∃ place r, s.receiver? place = some r ∧ r.pointer.Holds x

theorem Pointer.session?_eq_some_iff {p : Pointer C.ticketed} {x : Ticket} {phase : DragPhase} :
    p.session? = some (x, phase) ↔ p.Holds x ∧ phase = .holding (heldButtons p.held) := by
  unfold Holds session?
  cases p.drag with
  | none => simp
  | some session => simp [eq_comm]

theorem Watch.Orderly.holdsDrag_iff {s : Watch C σ} (hs : s.Orderly) {x : Ticket}
    {o : Option (Receiver C.ticketed)} (ho : s.Shows x.window o) :
    s.HoldsDrag x ↔ (Receiver.pointerOf o).Holds x := by
  refine (hs.exists_place_iff ho fun r hx ↦ ⟨r, rfl, Or.inl hx⟩).trans ?_
  cases o with
  | none => exact iff_of_false nofun (Pointer.not_holds rfl x)
  | some r => exact ⟨fun ⟨_, hr, hx⟩ ↦ Option.some.inj hr ▸ hx, fun hx ↦ ⟨r, rfl, hx⟩⟩

variable (W : World C σ) (w : σ) (acts : List (Act C σ))

/-- What is said of the sessions of a window holds after every run. -/
theorem exists_drag_fits (k : Nat) : ∃ o, (watch W w acts).Shows k o ∧
    (Receiver.pointerOf o).Fits (Caused W w acts) k (watch W w acts).history := by
  obtain ⟨o, ho⟩ := (watch W w acts).exists_shows k
  exact ⟨o, ho, fits_watch Pointer.lasting_fits ho⟩

/-- Drag sessions keep to the protocol in every run. A session received its first message right
after it was opened; a window has it as long as it holds buttons, and it is over when no window has
it. Only sessions that were opened receive messages, and they are cancelled by the closing of their
window only. A window asks for a session only when those that it had are over. -/
theorem drag_sessions_proper :
    (∀ x, (dragProtocol C).Opened (watch W w acts).history x →
      (dragProtocol C).StartsAtOnce (watch W w acts).history x ∧
      ∃ phase, (dragProtocol C).At (watch W w acts).history x phase ∧
        ((watch W w acts).HoldsDrag x ∧ (∃ buttons, phase = DragPhase.holding buttons) ∨
          ¬(watch W w acts).HoldsDrag x ∧ (phase = DragPhase.released ∨ phase = .cancelled))) ∧
    (∀ e ∈ (watch W w acts).history, ∀ session c, e.call = .drag session c →
      (dragProtocol C).Opened (watch W w acts).history session.ticket ∧
      (c = .cancel → Caused W w acts e.act session.ticket.window .closing)) ∧
    ∀ k, (dragProtocol C).Apart k (watch W w acts).history := by
  refine ⟨?_, ?_, ?_⟩
  · intro x hopened
    obtain ⟨o, ho, hfits⟩ := exists_drag_fits W w acts x.window
    refine ⟨hfits.sessions.starts x rfl hopened, ?_⟩
    rw [(orderly_watch W w acts).holdsDrag_iff ho]
    by_cases hx : (Receiver.pointerOf o).Holds x
    · have hat := (hfits.sessions.holding x _ (Pointer.session?_eq_some_iff.mpr ⟨hx, rfl⟩)).2
      exact ⟨_, hat, Or.inl ⟨hx, _, rfl⟩⟩
    · obtain ⟨phase, hat, hover⟩ := hfits.sessions.finished x rfl hopened fun φ hφ ↦
        hx (Pointer.session?_eq_some_iff.mp hφ).1
      exact ⟨phase, hat, Or.inr ⟨hx, hover.resolve_right not_false⟩⟩
  · intro e he session c hc
    obtain ⟨o, -, hfits⟩ := exists_drag_fits W w acts session.ticket.window
    exact hfits.sessions.called e he _ c (by simp [dragProtocol, hc]) rfl
  · intro k
    obtain ⟨o, -, hfits⟩ := exists_drag_fits W w acts k
    exact hfits.sessions.apart

end WindowRouting
