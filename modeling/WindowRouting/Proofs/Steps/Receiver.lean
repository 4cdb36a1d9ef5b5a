import Mathlib.Logic.Relation
import WindowRouting.Router.Request
import WindowRouting.Proofs.Steps.Pointer
import WindowRouting.Proofs.Steps.Scrolling
import WindowRouting.Proofs.Stores

/-!
What can happen to a window and its receiver. `Receiver.Step` puts the steps of the pointer and of
the scrolling together with the opening and the closing of the window, each under its cause.
Whatever a router is asked for, and whatever its client does, only the receiver of one window
changes, and it changes by a chain of these steps under one cause (`changes_of_deliver`,
`changes_of_serve`).
-/

set_option autoImplicit false
set_option relaxedAutoImplicit false

namespace WindowRouting

open Relation

variable {C : Client}

/-- Why something happens to a window. -/
inductive Cause (C : Client)
  | opening (listener : Numbered C.Listener)
  | event (e : Event)
  | closing

/-- A call that opens nothing and belongs neither to the pointer nor to scrolling. -/
def WindowCall.passive : WindowCall → Bool
  | .draw _ | .scaleChanged | .hitTest _ | .keyDown _ | .keyUp _ => true
  | _ => false

/-- The calls by which the gesture of a closed window is cancelled. -/
def Receiver.cancelsGesture (act : Nat) (receiver : Receiver C.ticketed) (ok : Bool) : History C :=
  match receiver.scrolling with
  | none => []
  | some swipe => [⟨act, .gesture swipe.gesture .cancel, ok⟩]

/-- The calls by which what is going on in a closed window is cancelled. The gesture is passed over
when the session fails. -/
def Receiver.cancels (act : Nat) (receiver : Receiver C.ticketed) (dragOk gestureOk : Bool) :
    History C :=
  match receiver.pointer.drag with
  | none => receiver.cancelsGesture act gestureOk
  | some session => ⟨act, .drag session .cancel, dragOk⟩ ::
      if dragOk then receiver.cancelsGesture act gestureOk else []

/-- The steps of a window with its receiver, which is there as long as the window is open. -/
inductive Receiver.Step (act : Nat) (id : WindowId) (cfg : Config) :
    Cause C → Option (Receiver C.ticketed) × History C →
      Option (Receiver C.ticketed) × History C → Prop
  | opened (l : Numbered C.Listener) (h : History C) :
      Step act id cfg (.opening l) (none, h) (some (.idle l), h)
  | pointer {receiver : Receiver C.ticketed} {h : History C} {e : Event} {p : Pointer C.ticketed}
      {h' : History C} (hstep : Pointer.Step act id receiver.listener receiver.pointer h e p h') :
      Step act id cfg (.event e) (some receiver, h) (some { receiver with pointer := p }, h')
  | scrolling {receiver : Receiver C.ticketed} {h : History C} {e : Event}
      {s : Scrolling C.ticketed} {h' : History C}
      (hstep : Scrolling.Step act id receiver.listener cfg receiver.scrolling h e s h') :
      Step act id cfg (.event e) (some receiver, h) (some { receiver with scrolling := s }, h')
  | told (receiver : Receiver C.ticketed) (h : History C) (e : Event) (w : Window)
      (call : WindowCall) (hcall : call.passive = true) (ok : Bool) :
      Step act id cfg (.event e) (some receiver, h)
        (some receiver, h ++ [⟨act, .window receiver.listener id w call, ok⟩])
  | asked (receiver : Receiver C.ticketed) (h : History C) (host : C.Host) (ok : Bool) :
      Step act id cfg (.event .scale) (some receiver, h)
        (some receiver, h ++ [⟨act, .scaleFactor host id, ok⟩])
  | closed (receiver : Receiver C.ticketed) (h : History C) (dragOk gestureOk : Bool) :
      Step act id cfg .closing (some receiver, h)
        (none, h ++ receiver.cancels act dragOk gestureOk)

namespace Router

variable {act : Nat} {r r' : Router C.ticketed} {h h' : History C}

/-- From `r` and `h` to `r'` and `h'`, window `id` went through a chain of steps, and no other
window did. -/
structure Changes (act : Nat) (id : WindowId) (cause : Cause C) (r : Router C.ticketed)
    (h : History C) (r' : Router C.ticketed) (h' : History C) : Prop where
  steps : ReflTransGen (Receiver.Step act id r.config cause) (r.receivers.get? id, h)
    (r'.receivers.get? id, h')
  others : ∀ other, id ≠ other → r'.receivers.get? other = r.receivers.get? other
  inStep : r'.InStep

/-! ### Events -/

theorem changes_of_same {id : WindowId} {cause : Cause C}
    (hsame : ∀ id, r'.receivers.get? id = r.receivers.get? id) (hr' : r'.InStep)
    (hsteps : ReflTransGen (Receiver.Step act id r.config cause) (r.receivers.get? id, h)
      (r.receivers.get? id, h')) : r.Changes act id cause h r' h' where
  steps := by rwa [hsame id]
  others other _ := hsame other
  inStep := hr'

theorem changes_of_onPointer (hr : r.InStep) {id : WindowId} {receiver : Receiver C.ticketed}
    (hreceiver : r.receivers.get? id = some receiver) {e : Event}
    {p : Plan C.ticketed (Pointer C.ticketed) Unit}
    {w : Window} (hcourse : receiver.pointer.Course ⟨id, w, receiver.listener⟩ e p)
    (hp : (r.onPointer id p).Reaches act h r' h') : r.Changes act id (.event e) h r' h' := by
  obtain ⟨p', rfl, hinner⟩ := Plan.reaches_map hp
  constructor
  · rw [get?_receivers_modifyReceiver_self, hreceiver]
    exact .single (.pointer (hcourse.step hinner))
  · intro other hother
    exact get?_receivers_modifyReceiver_of_ne r hother _
  · exact inStep_modifyReceiver hr id _

/-- Steps of the scrolling are steps of the window. -/
theorem chain_of_scrolling {id : WindowId} {cfg : Config} {receiver : Receiver C.ticketed}
    {e : Event} {s : Scrolling C.ticketed}
    (hsteps : Scrolling.Step act id receiver.listener cfg receiver.scrolling h e s h' ∨
      ∃ h₁, Scrolling.Step act id receiver.listener cfg receiver.scrolling h e none h₁ ∧
        Scrolling.Step act id receiver.listener cfg none h₁ e s h') :
    ReflTransGen (Receiver.Step act id cfg (.event e)) (some receiver, h)
      (some { receiver with scrolling := s }, h') := by
  rcases hsteps with hone | ⟨h₁, hfirst, hsecond⟩
  · exact .single (.scrolling hone)
  · have hlast : Receiver.Step act id cfg (.event e) (some { receiver with scrolling := none }, h₁)
        (some { receiver with scrolling := s }, h') := .scrolling hsecond
    exact .tail (.single (.scrolling hfirst)) hlast

theorem changes_of_onScrolling (hr : r.InStep) {id : WindowId} {receiver : Receiver C.ticketed}
    (hreceiver : r.receivers.get? id = some receiver) {e : Event}
    {p : Plan C.ticketed (Scrolling C.ticketed) Unit}
    {w : Window} (hcourse : receiver.scrolling.Course r.config ⟨id, w, receiver.listener⟩ e p)
    (hp : (r.onScrolling id p).Reaches act h r' h') : r.Changes act id (.event e) h r' h' := by
  obtain ⟨s', rfl, hinner⟩ := Plan.reaches_map hp
  constructor
  · rw [get?_receivers_modifyReceiver_self, hreceiver]
    exact chain_of_scrolling (hcourse.steps hinner)
  · intro other hother
    exact get?_receivers_modifyReceiver_of_ne r hother _
  · exact inStep_modifyReceiver hr id _

theorem changes_of_told {id : WindowId} {receiver : Receiver C.ticketed}
    (hreceiver : r.receivers.get? id = some receiver) {e : Event} {w : Window}
    {call : WindowCall} (hcall : call.passive = true) {ok : Bool} (hr : r.InStep) :
    r.Changes act id (.event e) h r (h ++ [⟨act, .window receiver.listener id w call, ok⟩]) := by
  refine changes_of_same (fun _ ↦ rfl) hr ?_
  rw [hreceiver]
  exact .single (.told receiver h e w call hcall ok)

/-- After the host was asked, the listener is told. -/
theorem changes_of_asked {id : WindowId} {receiver : Receiver C.ticketed}
    (hreceiver : r.receivers.get? id = some receiver) {host : C.Host} {w : Window} {ok : Bool}
    (hsame : ∀ id, r'.receivers.get? id = r.receivers.get? id) (hr' : r'.InStep) :
    r.Changes act id (.event .scale) h r' (h ++ [⟨act, .scaleFactor host id, true⟩] ++
      [⟨act, .window receiver.listener id w .scaleChanged, ok⟩]) := by
  refine changes_of_same hsame hr' ?_
  rw [hreceiver]
  exact .tail (.single (.asked receiver h host true)) (.told receiver _ .scale w _ rfl ok)

theorem Answered.changes (hr : r.InStep) {id : WindowId} {receiver : Receiver C.ticketed}
    (hreceiver : r.receivers.get? id = some receiver) {w : Window} {answer : Option Float32}
    {plan : Plan C.ticketed (Router C.ticketed) Reply}
    (hanswered : r.Answered ⟨id, w, receiver.listener⟩ answer plan) {host : C.Host}
    (hp : plan.Reaches act (h ++ [⟨act, .scaleFactor host id, true⟩]) r' h') :
    r.Changes act id (.event .scale) h r' h' := by
  cases hanswered with
  | unknown =>
    obtain ⟨rfl, ok, rfl⟩ := Plan.reaches_lastly hp
    exact changes_of_asked hreceiver (fun _ ↦ rfl) hr
  | rescaled scale =>
    obtain ⟨rfl, ok, rfl⟩ := Plan.reaches_lastly hp
    exact changes_of_asked hreceiver (fun _ ↦ rfl) (inStep_modifyWindow hr id _)
  | refused scale =>
    obtain ⟨rfl, ok, rfl⟩ := Plan.reaches_lastly hp
    exact changes_of_asked hreceiver (fun _ ↦ rfl) hr

theorem Rescaling.changes (hr : r.InStep) {id : WindowId} {receiver : Receiver C.ticketed}
    (hreceiver : r.receivers.get? id = some receiver) {w : Window}
    {plan : Plan C.ticketed (Router C.ticketed) Reply}
    (hcourse : r.Rescaling ⟨id, w, receiver.listener⟩ plan) (hp : plan.Reaches act h r' h') :
    r.Changes act id (.event .scale) h r' h' := by
  cases hcourse with
  | unasked =>
    obtain ⟨rfl, ok, rfl⟩ := Plan.reaches_lastly hp
    exact changes_of_told hreceiver rfl hr
  | asked host _ resume hresume =>
    rcases hp with ⟨rfl, rfl⟩ | ⟨answer, hp⟩
    · refine changes_of_same (fun _ ↦ rfl) hr ?_
      rw [hreceiver]
      exact .single (.asked receiver h host false)
    · exact (hresume answer).changes hr hreceiver hp

/-- The delivery of an event to an open window. -/
theorem changes_of_handle (hr : r.InStep) {id : WindowId} {receiver : Receiver C.ticketed}
    (hreceiver : r.receivers.get? id = some receiver) {w : Window} {e : Event}
    (hp : (r.handle ⟨id, w, receiver.listener⟩ receiver e).Reaches act h r' h') :
    r.Changes act id (.event e) h r' h' := by
  cases e with
  | draw context =>
    obtain ⟨rfl, ok, rfl⟩ := Plan.reaches_lastly hp
    exact changes_of_told hreceiver rfl hr
  | scale => exact (r.course_rescale _).changes hr hreceiver hp
  | hitTest loc =>
    rcases hp with ⟨rfl, rfl⟩ | ⟨_, rfl, rfl⟩
    all_goals exact changes_of_told hreceiver rfl hr
  | keyPress key =>
    rcases hp with ⟨rfl, rfl⟩ | ⟨_, rfl, rfl⟩
    all_goals exact changes_of_told hreceiver rfl hr
  | keyRelease key =>
    rcases hp with ⟨rfl, rfl⟩ | ⟨_, rfl, rfl⟩
    all_goals exact changes_of_told hreceiver rfl hr
  | button loc pressed b =>
    exact changes_of_onPointer hr hreceiver (Pointer.course_button _ _ loc pressed b) hp
  | motion loc =>
    exact changes_of_onPointer hr hreceiver (Pointer.course_motion _ _ loc) hp
  | leave => exact changes_of_onPointer hr hreceiver (Pointer.course_leave _ _) hp
  | discreteScroll loc native =>
    exact changes_of_onScrolling hr hreceiver (Scrolling.course_discrete _ _ _ loc native) hp
  | smoothScroll loc native time =>
    exact changes_of_onScrolling hr hreceiver (Scrolling.course_smooth _ _ _ loc native time) hp
  | scrollStop time =>
    exact changes_of_onScrolling hr hreceiver (Scrolling.course_stop _ _ _ time) hp

theorem find?_eq_some {id : WindowId} {t : Target C.ticketed} {receiver : Receiver C.ticketed}
    (hfind : r.find? id = some (t, receiver)) :
    r.receivers.get? id = some receiver ∧ ∃ w, t = ⟨id, w, receiver.listener⟩ := by
  unfold find? at hfind
  split at hfind
  case h_1 w receiver' hw hreceiver =>
    simp only [Option.some.injEq, Prod.mk.injEq] at hfind
    obtain ⟨rfl, rfl⟩ := hfind
    exact ⟨hreceiver, w, rfl⟩
  case h_2 => exact absurd hfind nofun

theorem changes_of_deliver (hr : r.InStep) {id : WindowId} {e : Event}
    {plan : Plan C.ticketed (Router C.ticketed) Reply} (hplan : r.deliver id e = .ok plan)
    (hp : plan.Reaches act h r' h') : r.Changes act id (.event e) h r' h' := by
  unfold deliver at hplan
  cases hfind : r.find? id with
  | none => simp [hfind] at hplan
  | some found =>
    obtain ⟨t, receiver⟩ := found
    simp only [hfind, Except.ok.injEq] at hplan
    subst hplan
    obtain ⟨hreceiver, w, rfl⟩ := find?_eq_some hfind
    exact changes_of_handle hr hreceiver hp

/-! ### Opening and closing -/

theorem changes_of_create (hr : r.InStep) {d : Descriptor} {l : Numbered C.Listener}
    (hp : (r.create d l).Reaches act h r' h') :
    r.Changes act r.windows.nextId (.opening l) h r' h' := by
  obtain ⟨rfl, rfl⟩ : r' = (r.opened d l).2 ∧ h' = h := hp
  have hvacant := vacant_nextId hr r.windows.nextId rfl
  constructor
  · rw [get?_receivers_opened hr, hvacant]
    split
    · exact .single (.opened l _)
    · exact .refl
  · intro other hother
    rw [get?_receivers_opened hr, if_neg fun hnew ↦ hother hnew.1.symm]
  · exact inStep_opened hr d l

/-- Closing cancels the session and then the gesture, unless the session fails. -/
theorem Cancelling.reaches {id : WindowId} {receiver : Receiver C.ticketed}
    {plan : Plan C.ticketed (Router C.ticketed) Unit} (hcourse : r.Cancelling id receiver plan)
    (hp : plan.Reaches act h r' h') :
    r' = r ∧ ∃ dragOk gestureOk, h' = h ++ receiver.cancels act dragOk gestureOk := by
  unfold Receiver.cancels Receiver.cancelsGesture
  cases hcourse with
  | idle hdrag hs =>
    obtain ⟨rfl, rfl⟩ := hp
    exact ⟨rfl, true, true, by simp [hdrag, hs]⟩
  | swiping swipe hdrag hs =>
    rcases hp with ⟨rfl, rfl⟩ | ⟨_, rfl, rfl⟩
    · exact ⟨rfl, true, false, by simp [hdrag, hs]⟩
    · exact ⟨rfl, true, true, by simp [hdrag, hs]⟩
  | dragging session hdrag hs =>
    rcases hp with ⟨rfl, rfl⟩ | ⟨_, rfl, rfl⟩
    · exact ⟨rfl, false, true, by simp [hdrag]⟩
    · exact ⟨rfl, true, true, by simp [hdrag, hs]⟩
  | both session swipe hdrag hs =>
    rcases hp with ⟨rfl, rfl⟩ | ⟨_, ⟨rfl, rfl⟩ | ⟨_, rfl, rfl⟩⟩
    · exact ⟨rfl, false, true, by simp [hdrag]⟩
    · exact ⟨rfl, true, false, by simp [hdrag, hs]⟩
    · exact ⟨rfl, true, true, by simp [hdrag, hs]⟩

/-- An open window is closed, and what is going on in it is cancelled. -/
theorem reaches_close {id : WindowId} {receiver : Receiver C.ticketed}
    (hreceiver : r.receivers.get? id = some receiver)
    {plan : Plan C.ticketed (Router C.ticketed) Unit} (hplan : r.close id = .ok plan)
    (hp : plan.Reaches act h r' h') : r' = r.closed id ∧
      ∃ dragOk gestureOk, h' = h ++ receiver.cancels act dragOk gestureOk := by
  simp only [close, hreceiver, Except.ok.injEq] at hplan
  subst hplan
  exact ((r.closed id).course_cancelAll id receiver).reaches hp

theorem changes_of_close (hr : r.InStep) {id : WindowId}
    {plan : Plan C.ticketed (Router C.ticketed) Unit} (hplan : r.close id = .ok plan)
    (hp : plan.Reaches act h r' h') : r.Changes act id .closing h r' h' := by
  cases hreceiver : r.receivers.get? id with
  | none => simp [close, hreceiver] at hplan
  | some receiver =>
    obtain ⟨rfl, dragOk, gestureOk, rfl⟩ := reaches_close hreceiver hplan hp
    constructor
    · rw [get?_receivers_closed_self, hreceiver]
      exact .single (.closed receiver h dragOk gestureOk)
    · intro other hother
      exact get?_receivers_closed_of_ne r hother
    · exact inStep_closed hr hreceiver

/-! ### Requests -/

/-- What a request means for a window. -/
inductive Meant (r : Router C.ticketed) : Request C.ticketed → WindowId → Cause C → Prop
  | create (d : Descriptor) (l : Numbered C.Listener) :
      Meant r (.create d l) r.windows.nextId (.opening l)
  | close (id : WindowId) : Meant r (.close id) id .closing
  | send (id : WindowId) (e : Event) : Meant r (.send id e) id (.event e)

theorem map_eq_ok {α β ε : Type} {f : α → β} {x : Except ε α} {b : β} (h : x.map f = .ok b) :
    ∃ a, x = .ok a ∧ f a = b := by
  cases x with
  | error e => exact absurd h nofun
  | ok a => exact ⟨a, rfl, Except.ok.inj h⟩

/-- A request changes the window that it is meant for, or nothing that receives calls. -/
theorem changes_of_serve (hr : r.InStep) {request : Request C.ticketed}
    {plan : Plan C.ticketed (Router C.ticketed) Answer} (hplan : r.serve request = .ok plan)
    (hp : plan.Reaches act h r' h') :
    (∃ id cause, r.Meant request id cause ∧ r.Changes act id cause h r' h') ∨
      (r'.receivers = r.receivers ∧ h' = h ∧ r'.InStep) := by
  cases request with
  | create d l =>
    obtain rfl := Except.ok.inj hplan
    obtain ⟨_, rfl, hp⟩ := Plan.reaches_map hp
    exact Or.inl ⟨_, _, .create d l, changes_of_create hr hp⟩
  | close id =>
    obtain ⟨inner, hinner, rfl⟩ := map_eq_ok hplan
    obtain ⟨_, rfl, hp⟩ := Plan.reaches_map hp
    exact Or.inl ⟨_, _, .close id, changes_of_close hr hinner hp⟩
  | send id e =>
    obtain ⟨inner, hinner, rfl⟩ := map_eq_ok hplan
    obtain ⟨_, rfl, hp⟩ := Plan.reaches_map hp
    exact Or.inl ⟨_, _, .send id e, changes_of_deliver hr hinner hp⟩
  | announce patch =>
    obtain rfl := Except.ok.inj hplan
    obtain ⟨rfl, rfl⟩ := hp
    exact Or.inr ⟨rfl, rfl, inStep_announceWith hr _⟩
  | attachHost host =>
    obtain rfl := Except.ok.inj hplan
    obtain ⟨rfl, rfl⟩ := hp
    exact Or.inr ⟨rfl, rfl, inStep_attachHost hr host⟩
  | resolve handle =>
    obtain ⟨inner, hinner, rfl⟩ := map_eq_ok hplan
    obtain ⟨rfl, rfl⟩ := hp
    exact Or.inr ⟨rfl, rfl, hr⟩
  | config =>
    obtain rfl := Except.ok.inj hplan
    obtain ⟨rfl, rfl⟩ := hp
    exact Or.inr ⟨rfl, rfl, hr⟩
  | handle id =>
    obtain rfl := Except.ok.inj hplan
    obtain ⟨rfl, rfl⟩ := hp
    exact Or.inr ⟨rfl, rfl, hr⟩
  | window id =>
    obtain rfl := Except.ok.inj hplan
    obtain ⟨rfl, rfl⟩ := hp
    exact Or.inr ⟨rfl, rfl, hr⟩
  | windows =>
    obtain rfl := Except.ok.inj hplan
    obtain ⟨rfl, rfl⟩ := hp
    exact Or.inr ⟨rfl, rfl, hr⟩

end Router

end WindowRouting
