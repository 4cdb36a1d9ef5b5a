import WindowRouting.Router.Request
import WindowRouting.Proofs.Steps.Courses
import WindowRouting.Proofs.Transcript

/-!
What the delivery of an event can show. Its notices are all about the window of the event, and the
reply is of the kind that the event asks for, whatever the client does (`Router.keeps_handle`). The
notices of any other request are about windows too (`Router.keeps_of_serve`).
-/

set_option autoImplicit false
set_option relaxedAutoImplicit false

namespace WindowRouting

variable {C : Client}

/-- The window that a notice is about. -/
def Notice.window? : Notice → Option WindowId
  | windowOpened id _ | windowClosed id | drawing id | scaleChanged id _ | scaleRefused id _
  | scaleUnknown id | keyPressed id _ _ | keyReleased id _ _ | buttonUntracked id _
  | buttonHeld id _ | buttonNotHeld id _ | dragStarted id _ | dragEnded id | dragCancelled id
  | leftWhileDragging id | gestureStarted id | gestureTimedOut id | gestureInterrupted id
  | gestureEnded id _ _ | gestureCancelled id | noGestureToStop id => some id
  | dropped _ _ _ | clientFailed _ _ => none

/-- The notice is about a window. -/
def Notice.About (id : WindowId) (n : Notice) : Prop := n.window? = some id

/-- The replies that an event can get. -/
def Event.Expects : Event → Reply → Prop
  | hitTest _, reply => ∃ hit, reply = .hit hit
  | keyPress _, reply | keyRelease _, reply => ∃ consumed, reply = .handled consumed
  | _, reply => reply = .nothing

variable {t : Target C}

/-! ### The pointer and the scrolling -/

theorem Pointer.Course.keeps {p : Pointer C} {e : Event} {plan : Plan C (Pointer C) Unit}
    (h : p.Course t e plan) : plan.Keeps (Notice.About t.id) fun _ ↦ True := by
  cases h with
  | untracked => exact ⟨rfl, trivial⟩
  | held => exact ⟨rfl, trivial⟩
  | begun => exact ⟨rfl, fun _ _ ↦ trivial⟩
  | pressed => exact fun _ ↦ trivial
  | notHeld => exact ⟨rfl, trivial⟩
  | freed => exact trivial
  | ended => exact ⟨rfl, fun _ ↦ trivial⟩
  | released => exact fun _ ↦ trivial
  | moved => exact fun _ ↦ trivial
  | passed => exact fun _ ↦ trivial
  | kept => exact ⟨rfl, trivial⟩
  | left => exact fun _ ↦ trivial

theorem Scrolling.Course.keeps {s : Scrolling C} {cfg : Config} {e : Event}
    {plan : Plan C (Scrolling C) Unit} (h : s.Course cfg t e plan) :
    plan.Keeps (Notice.About t.id) fun _ ↦ True := by
  cases h with
  | begun => exact ⟨rfl, fun _ _ ↦ trivial⟩
  | timedOut => exact ⟨rfl, fun _ ↦ ⟨rfl, fun _ _ ↦ trivial⟩⟩
  | moved => exact fun _ ↦ trivial
  | scrolled => exact fun _ ↦ trivial
  | interrupted => exact ⟨rfl, fun _ _ ↦ trivial⟩
  | idle => exact ⟨rfl, trivial⟩
  | stopped => exact ⟨rfl, fun _ ↦ trivial⟩
  | glided => exact ⟨rfl, fun _ _ ↦ trivial⟩

/-! ### Events -/

namespace Router

theorem keeps_onPointer {p : Pointer C} {e : Event} {plan : Plan C (Pointer C) Unit}
    (hcourse : p.Course t e plan) (r : Router C) :
    (r.onPointer t.id plan).Keeps (Notice.About t.id) fun reply ↦ reply = .nothing := by
  refine hcourse.keeps.map ?_ _
  exact fun _ _ ↦ rfl

theorem keeps_onScrolling {s : Scrolling C} {cfg : Config} {e : Event}
    {plan : Plan C (Scrolling C) Unit} (hcourse : s.Course cfg t e plan) (r : Router C) :
    (r.onScrolling t.id plan).Keeps (Notice.About t.id) fun reply ↦ reply = .nothing := by
  refine hcourse.keeps.map ?_ _
  exact fun _ _ ↦ rfl

theorem Answered.keeps {r : Router C} {answer : Option Float32} {plan : Plan C (Router C) Reply}
    (hanswered : r.Answered t answer plan) :
    plan.Keeps (Notice.About t.id) fun reply ↦ reply = .nothing := by
  cases hanswered with
  | unknown => exact ⟨rfl, fun _ ↦ rfl⟩
  | rescaled scale => exact ⟨rfl, fun _ ↦ rfl⟩
  | refused scale => exact ⟨rfl, fun _ ↦ rfl⟩

theorem Rescaling.keeps {r : Router C} {plan : Plan C (Router C) Reply}
    (hcourse : r.Rescaling t plan) :
    plan.Keeps (Notice.About t.id) fun reply ↦ reply = .nothing := by
  cases hcourse with
  | unasked => exact fun _ ↦ rfl
  | asked host _ resume hresume => exact fun answer ↦ (hresume answer).keeps

/-- The notices of an event are about its window, and its reply is one that the event expects. -/
theorem keeps_handle (r : Router C) (t : Target C) (receiver : Receiver C) (e : Event) :
    (r.handle t receiver e).Keeps (Notice.About t.id) e.Expects := by
  cases e with
  | draw context => exact ⟨rfl, fun _ ↦ rfl⟩
  | scale => exact (r.course_rescale t).keeps
  | hitTest loc => exact fun hit ↦ ⟨hit, rfl⟩
  | keyPress key => exact fun consumed ↦ ⟨rfl, consumed, rfl⟩
  | keyRelease key => exact fun consumed ↦ ⟨rfl, consumed, rfl⟩
  | button loc pressed b => exact keeps_onPointer (receiver.pointer.course_button t loc pressed b) r
  | motion loc => exact keeps_onPointer (receiver.pointer.course_motion t loc) r
  | leave => exact keeps_onPointer (receiver.pointer.course_leave t) r
  | discreteScroll loc native =>
    exact keeps_onScrolling (receiver.scrolling.course_discrete r.config t loc native) r
  | smoothScroll loc native time =>
    exact keeps_onScrolling (receiver.scrolling.course_smooth r.config t loc native time) r
  | scrollStop time => exact keeps_onScrolling (receiver.scrolling.course_stop r.config t time) r

theorem keeps_of_deliver {r : Router C} {id : WindowId} {e : Event}
    {plan : Plan C (Router C) Reply} (hplan : r.deliver id e = .ok plan) :
    ∃ other, plan.Keeps (Notice.About other) e.Expects := by
  unfold deliver at hplan
  split at hplan
  case h_1 => exact nomatch hplan
  case h_2 t receiver _ =>
    obtain rfl := Except.ok.inj hplan
    exact ⟨t.id, r.keeps_handle t receiver e⟩

/-! ### Requests -/

theorem Cancelling.keeps {r : Router C} {id : WindowId} {receiver : Receiver C}
    {plan : Plan C (Router C) Unit} (hcourse : r.Cancelling id receiver plan) :
    plan.Keeps (Notice.About id) fun _ ↦ True := by
  cases hcourse with
  | idle => exact ⟨rfl, trivial⟩
  | swiping swipe => exact ⟨rfl, fun _ ↦ ⟨rfl, trivial⟩⟩
  | dragging session => exact ⟨rfl, fun _ ↦ ⟨rfl, trivial⟩⟩
  | both session swipe => exact ⟨rfl, fun _ ↦ ⟨rfl, fun _ ↦ ⟨rfl, trivial⟩⟩⟩

/-- The notices of a request are all about windows. -/
theorem keeps_of_serve {r : Router C} {q : Request C} {plan : Plan C (Router C) Answer}
    (hplan : r.serve q = .ok plan) :
    plan.Keeps (fun n ↦ n.window?.isSome) fun _ ↦ True := by
  have habout {id : WindowId} (n : Notice) (hn : n.About id) : n.window?.isSome = true := by
    rw [hn, Option.isSome_some]
  cases q with
  | create d listener =>
    obtain rfl := Except.ok.inj hplan
    exact ⟨rfl, trivial⟩
  | close id =>
    simp only [serve, close] at hplan
    cases hreceiver : r.receivers.get? id with
    | none => simp [hreceiver, Except.map] at hplan
    | some receiver =>
      simp only [hreceiver, Except.map, Except.ok.injEq] at hplan
      subst hplan
      have hcancels := ((r.closed id).course_cancelAll id receiver).keeps.mono habout fun _ h ↦ h
      exact hcancels.map (fun _ _ ↦ trivial) _
  | send id e =>
    simp only [serve] at hplan
    cases hdeliver : r.deliver id e with
    | error e' => simp [hdeliver, Except.map] at hplan
    | ok inner =>
      simp only [hdeliver, Except.map, Except.ok.injEq] at hplan
      subst hplan
      obtain ⟨other, hkeeps⟩ := keeps_of_deliver hdeliver
      exact (hkeeps.mono habout fun _ _ ↦ trivial).map (fun _ h ↦ h) _
  | resolve h =>
    simp only [serve] at hplan
    cases hresolve : r.resolve h with
    | error e => simp [hresolve, Except.map] at hplan
    | ok id =>
      simp only [hresolve, Except.map, Except.ok.injEq] at hplan
      exact hplan ▸ trivial
  | announce patch => exact Except.ok.inj hplan ▸ trivial
  | attachHost host => exact Except.ok.inj hplan ▸ trivial
  | config => exact Except.ok.inj hplan ▸ trivial
  | handle id => exact Except.ok.inj hplan ▸ trivial
  | window id => exact Except.ok.inj hplan ▸ trivial
  | windows => exact Except.ok.inj hplan ▸ trivial

end Router

end WindowRouting
