import WindowRouting.Proofs.Seconds
import WindowRouting.Router.Delivery

/-!
The courses of events in a window. The plan of an event is one of a few, and which one depends on
what is going on in the window: `Pointer.Course` and `Scrolling.Course` list the plans, each with
the case that it stands for. Every event takes one of these courses (`Pointer.course_button` and so
on), and no other (`Pointer.Course.eq_button` and so on). A change of scale and a closing have their
courses too (`Router.Rescaling`, `Router.Cancelling`). What is to be known of the plans is proved by
cases on the courses, so the definitions of the events are opened here only.
-/

set_option autoImplicit false
set_option relaxedAutoImplicit false

namespace WindowRouting

variable {C : Client}

/-! ### The pointer -/

/-- The courses of the pointer of a window: the plans that its events can have. -/
inductive Pointer.Course (p : Pointer C) (t : Target C) : Event → Plan C (Pointer C) Unit → Prop
  | untracked (loc : Vec) (pressed : Bool) (b : Button) (hmask : b.mask? = none) :
      Course p t (.button loc pressed b) (.note (.buttonUntracked t.id b) (.done () p))
  | held (loc : Vec) (b : Button) (mask : UInt32) (hmask : b.mask? = some mask)
      (hheld : p.held &&& mask ≠ 0) :
      Course p t (.button loc true b) (.note (.buttonHeld t.id b) (.done () p))
  /-- A session is asked for. -/
  | begun (loc : Vec) (b : Button) (mask : UInt32) (hmask : b.mask? = some mask)
      (hfree : p.held &&& mask = 0) (hdrag : p.drag = none) :
      Course p t (.button loc true b)
        (.note (.dragStarted t.id b) <|
          .call p (t.call (.beginDrag loc b)) fun session ↦ p.hold loc b mask session)
  | pressed (loc : Vec) (b : Button) (mask : UInt32) (session : C.Drag)
      (hmask : b.mask? = some mask) (hfree : p.held &&& mask = 0)
      (hdrag : p.drag = some session) :
      Course p t (.button loc true b) (p.hold loc b mask session)
  | notHeld (loc : Vec) (b : Button) (mask : UInt32) (hmask : b.mask? = some mask)
      (hfree : p.held &&& mask = 0) :
      Course p t (.button loc false b) (.note (.buttonNotHeld t.id b) (.done () p))
  /-- A button goes up although there is no session. -/
  | freed (loc : Vec) (b : Button) (mask : UInt32) (hmask : b.mask? = some mask)
      (hheld : p.held &&& mask ≠ 0) (hdrag : p.drag = none) :
      Course p t (.button loc false b) (.done () ⟨p.held &&& ~~~mask, none⟩)
  /-- The last button goes up. -/
  | ended (loc : Vec) (b : Button) (mask : UInt32) (session : C.Drag)
      (hmask : b.mask? = some mask) (hheld : p.held &&& mask ≠ 0)
      (hrest : p.held &&& ~~~mask = 0) (hdrag : p.drag = some session) :
      Course p t (.button loc false b)
        (.note (.dragEnded t.id) <|
          .lastly () ⟨p.held &&& ~~~mask, none⟩ (.drag session (.up loc b)))
  | released (loc : Vec) (b : Button) (mask : UInt32) (session : C.Drag)
      (hmask : b.mask? = some mask) (hheld : p.held &&& mask ≠ 0)
      (hrest : p.held &&& ~~~mask ≠ 0) (hdrag : p.drag = some session) :
      Course p t (.button loc false b)
        (.lastly () ⟨p.held &&& ~~~mask, some session⟩ (.drag session (.up loc b)))
  | moved (loc : Vec) (session : C.Drag) (hdrag : p.drag = some session) :
      Course p t (.motion loc) (.lastly () p (.drag session (.motion loc)))
  | passed (loc : Vec) (hdrag : p.drag = none) :
      Course p t (.motion loc) (.lastly () p (t.call (.motion loc)))
  /-- The session keeps the pointer. -/
  | kept (session : C.Drag) (hdrag : p.drag = some session) :
      Course p t .leave (.note (.leftWhileDragging t.id) (.done () p))
  | left (hdrag : p.drag = none) : Course p t .leave (.lastly () p (t.call .leave))

namespace Pointer

variable (p : Pointer C) (t : Target C) (loc : Vec)

theorem course_press {b : Button} {mask : UInt32} (hmask : b.mask? = some mask) :
    p.Course t (.button loc true b) (p.press t loc b mask) := by
  unfold press
  split
  case isTrue hheld => exact .held loc b mask hmask hheld
  case isFalse hfree =>
    have hzero : p.held &&& mask = 0 := Decidable.not_not.mp hfree
    split
    case h_1 session hdrag => exact .pressed loc b mask session hmask hzero hdrag
    case h_2 hdrag => exact .begun loc b mask hmask hzero hdrag

theorem course_release {b : Button} {mask : UInt32} (hmask : b.mask? = some mask) :
    p.Course t (.button loc false b) (p.release t loc b mask) := by
  unfold release
  split
  case isTrue hfree => exact .notHeld loc b mask hmask hfree
  case isFalse hheld =>
    simp only
    split
    case h_1 hdrag => exact .freed loc b mask hmask hheld hdrag
    case h_2 session hdrag =>
      split
      case isTrue hrest => exact .ended loc b mask session hmask hheld hrest hdrag
      case isFalse hrest => exact .released loc b mask session hmask hheld hrest hdrag

theorem course_button (pressed : Bool) (b : Button) :
    p.Course t (.button loc pressed b) (p.button t loc pressed b) := by
  unfold button
  split
  case h_1 hmask => exact .untracked loc pressed b hmask
  case h_2 mask hmask =>
    cases pressed with
    | true => exact p.course_press t loc hmask
    | false => exact p.course_release t loc hmask

theorem course_motion : p.Course t (.motion loc) (p.motion t loc) := by
  unfold motion
  split
  case h_1 session hdrag => exact .moved loc session hdrag
  case h_2 hdrag => exact .passed loc hdrag

theorem course_leave : p.Course t .leave (p.leave t) := by
  unfold leave
  split
  case h_1 session hdrag => exact .kept session hdrag
  case h_2 hdrag => exact .left hdrag

section Unique

variable {p : Pointer C} {t : Target C} {loc : Vec} {plan : Plan C (Pointer C) Unit}

theorem Course.eq_button {pressed : Bool} {b : Button}
    (h : p.Course t (.button loc pressed b) plan) : plan = p.button t loc pressed b := by
  cases h with
  | untracked _ _ _ hmask => rw [button, hmask]
  | held _ _ mask hmask hheld =>
    rw [button, hmask]
    exact (if_pos hheld).symm
  | begun _ _ mask hmask hfree hdrag =>
    rw [button, hmask]
    exact ((if_neg (not_not_intro hfree)).trans (by rw [hdrag])).symm
  | pressed _ _ mask session hmask hfree hdrag =>
    rw [button, hmask]
    exact ((if_neg (not_not_intro hfree)).trans (by rw [hdrag])).symm
  | notHeld _ _ mask hmask hfree =>
    rw [button, hmask]
    exact (if_pos hfree).symm
  | freed _ _ mask hmask hheld hdrag =>
    rw [button, hmask]
    exact ((if_neg hheld).trans (by rw [hdrag])).symm
  | ended _ _ mask session hmask hheld hrest hdrag =>
    rw [button, hmask]
    exact ((if_neg hheld).trans (by simp only [hdrag, if_pos hrest])).symm
  | released _ _ mask session hmask hheld hrest hdrag =>
    rw [button, hmask]
    exact ((if_neg hheld).trans (by simp only [hdrag, if_neg hrest])).symm

theorem Course.eq_motion (h : p.Course t (.motion loc) plan) : plan = p.motion t loc := by
  cases h with
  | moved _ session hdrag => rw [motion, hdrag]
  | passed _ hdrag => rw [motion, hdrag]

theorem Course.eq_leave (h : p.Course t .leave plan) : plan = p.leave t := by
  cases h with
  | kept session hdrag => rw [leave, hdrag]
  | left hdrag => rw [leave, hdrag]

end Unique

end Pointer

/-! ### The scrolling -/

/-- A gesture goes on by momentum when it is stopped at `time`. -/
def Swipe.glides (cfg : Config) (time : Timestamp) (swipe : Swipe C) : Bool :=
  !swipe.velocity.isZero && decide (time.millisSince swipe.lastTime ≤ cfg.gestureTimeout)

/-- A gesture goes on by momentum if it was moving and would not be over for a smooth scroll. -/
theorem Swipe.glides_iff {cfg : Config} {time : Timestamp} {swipe : Swipe C} :
    swipe.glides cfg time = true ↔
      swipe.velocity.isZero = false ∧ cfg.timedOut time swipe.lastTime = false := by
  rw [glides, cfg.timedOut_eq_not, Bool.and_eq_true, Bool.not_eq_true', Bool.not_eq_false']

/-- The courses of the scrolling of a window: the plans that its events can have. -/
inductive Scrolling.Course (s : Scrolling C) (cfg : Config) (t : Target C) :
    Event → Plan C (Scrolling C) Unit → Prop
  | begun (loc native : Vec) (time : Timestamp) (hs : s = none) :
      Course s cfg t (.smoothScroll loc native time) (start t loc time (cfg.pixels native))
  | timedOut (loc native : Vec) (time : Timestamp) (swipe : Swipe C) (hs : s = some swipe)
      (htime : cfg.timedOut time swipe.lastTime = true) :
      Course s cfg t (.smoothScroll loc native time)
        (.note (.gestureTimedOut t.id) <|
          .call none (.gesture swipe.gesture .finish) fun _ ↦
            start t loc time (cfg.pixels native))
  | moved (loc native : Vec) (time : Timestamp) (swipe : Swipe C) (hs : s = some swipe)
      (htime : cfg.timedOut time swipe.lastTime = false) :
      Course s cfg t (.smoothScroll loc native time) (swipe.move time (cfg.pixels native))
  | scrolled (loc native : Vec) (hs : s = none) :
      Course s cfg t (.discreteScroll loc native)
        (.lastly () none (t.call (.scroll loc (.lines native.neg))))
  | interrupted (loc native : Vec) (swipe : Swipe C) (hs : s = some swipe) :
      Course s cfg t (.discreteScroll loc native)
        (.note (.gestureInterrupted t.id) <|
          .call none (.gesture swipe.gesture .cancel) fun _ ↦
            .lastly () none (t.call (.scroll loc (.lines native.neg))))
  /-- There is no gesture to stop. -/
  | idle (time : Timestamp) (hs : s = none) :
      Course s cfg t (.scrollStop time) (.note (.noGestureToStop t.id) (.done () none))
  | stopped (time : Timestamp) (swipe : Swipe C) (hs : s = some swipe)
      (hglides : swipe.glides cfg time = false) :
      Course s cfg t (.scrollStop time)
        (.note (.gestureEnded t.id (time.millisSince swipe.lastTime) false) <|
          .lastly () none (.gesture swipe.gesture .finish))
  | glided (time : Timestamp) (swipe : Swipe C) (hs : s = some swipe)
      (hglides : swipe.glides cfg time = true) :
      Course s cfg t (.scrollStop time)
        (.note (.gestureEnded t.id (time.millisSince swipe.lastTime) true) <|
          .call none (.gesture swipe.gesture .momentum) fun _ ↦
            .lastly () none (.gesture swipe.gesture .finish))

namespace Scrolling

variable (s : Scrolling C) (cfg : Config) (t : Target C) (loc native : Vec) (time : Timestamp)

theorem course_smooth :
    s.Course cfg t (.smoothScroll loc native time) (s.smooth cfg t loc native time) := by
  cases s with
  | none => exact .begun loc native time rfl
  | some swipe =>
    simp only [smooth]
    split
    case isTrue htime => exact .timedOut loc native time swipe rfl htime
    case isFalse htime => exact .moved loc native time swipe rfl (Bool.eq_false_iff.mpr htime)

theorem course_discrete :
    s.Course cfg t (.discreteScroll loc native) (s.discrete t loc native) := by
  cases s with
  | none => exact .scrolled loc native rfl
  | some swipe => exact .interrupted loc native swipe rfl

theorem stop_some (swipe : Swipe C) : stop (some swipe) cfg t time =
    .note (.gestureEnded t.id (time.millisSince swipe.lastTime) (swipe.glides cfg time))
      (if swipe.glides cfg time then
        .call none (.gesture swipe.gesture .momentum) fun _ ↦
          .lastly () none (.gesture swipe.gesture .finish)
      else .lastly () none (.gesture swipe.gesture .finish)) := rfl

theorem course_stop : s.Course cfg t (.scrollStop time) (s.stop cfg t time) := by
  cases s with
  | none => exact .idle time rfl
  | some swipe =>
    rw [stop_some]
    cases hglides : swipe.glides cfg time with
    | false => exact .stopped time swipe rfl hglides
    | true => exact .glided time swipe rfl hglides

section Unique

variable {s : Scrolling C} {cfg : Config} {t : Target C} {loc native : Vec} {time : Timestamp}
  {plan : Plan C (Scrolling C) Unit}

theorem Course.eq_smooth (h : s.Course cfg t (.smoothScroll loc native time) plan) :
    plan = s.smooth cfg t loc native time := by
  cases h with
  | begun _ _ _ hs => rw [hs, smooth]
  | timedOut _ _ _ swipe hs htime =>
    rw [hs]
    exact (if_pos htime).symm
  | moved _ _ _ swipe hs htime =>
    rw [hs]
    exact (if_neg (Bool.eq_false_iff.mp htime)).symm

theorem Course.eq_discrete (h : s.Course cfg t (.discreteScroll loc native) plan) :
    plan = s.discrete t loc native := by
  cases h with
  | scrolled _ _ hs => rw [hs, discrete]
  | interrupted _ _ swipe hs => rw [hs, discrete]

theorem Course.eq_stop (h : s.Course cfg t (.scrollStop time) plan) :
    plan = s.stop cfg t time := by
  cases h with
  | idle _ hs => rw [hs, stop]
  | stopped _ swipe hs hglides => rw [hs, stop_some, hglides, if_neg Bool.false_ne_true]
  | glided _ swipe hs hglides => rw [hs, stop_some, hglides, if_pos rfl]

end Unique

end Scrolling

/-! ### The router -/

namespace Router

/-- What follows the host's answer to the question for the scale factor of a window. -/
inductive Answered (r : Router C) (t : Target C) :
    Option Float32 → Plan C (Router C) Reply → Prop
  | unknown : Answered r t none
      (.note (.scaleUnknown t.id) <| .lastly .nothing r (t.call .scaleChanged))
  | rescaled (scale : Float32) (hscale : validScale scale = true) : Answered r t (some scale)
      (.note (.scaleChanged t.id scale) <|
        .lastly .nothing (r.modifyWindow t.id (·.withScale scale))
          (Target.call { t with window := t.window.withScale scale } .scaleChanged))
  | refused (scale : Float32) (hscale : validScale scale = false) : Answered r t (some scale)
      (.note (.scaleRefused t.id scale) <| .lastly .nothing r (t.call .scaleChanged))

/-- The courses of a change of scale. -/
inductive Rescaling (r : Router C) (t : Target C) : Plan C (Router C) Reply → Prop
  | unasked (hhost : r.host = none) :
      Rescaling r t (.lastly .nothing r (t.call .scaleChanged))
  | asked (host : C.Host) (hhost : r.host = some host)
      (resume : Option Float32 → Plan C (Router C) Reply)
      (hresume : ∀ answer, r.Answered t answer (resume answer)) :
      Rescaling r t (.call r (.scaleFactor host t.id) resume)

theorem course_rescale (r : Router C) (t : Target C) : r.Rescaling t (r.rescale t) := by
  unfold rescale
  simp only
  split
  case h_1 hhost => exact .unasked hhost
  case h_2 host hhost =>
    refine .asked host hhost _ fun answer ↦ ?_
    cases answer with
    | none => exact .unknown
    | some scale =>
      simp only
      split
      case isTrue hscale => exact .rescaled scale hscale
      case isFalse hscale => exact .refused scale (Bool.eq_false_iff.mpr hscale)

/-- The courses of what follows on the closing of a window: what is going on in it is cancelled, the
session before the gesture. -/
inductive Cancelling (r : Router C) (id : WindowId) (x : Receiver C) :
    Plan C (Router C) Unit → Prop
  | idle (hdrag : x.pointer.drag = none) (hs : x.scrolling = none) :
      Cancelling r id x (.note (.windowClosed id) (.done () r))
  | swiping (swipe : Swipe C) (hdrag : x.pointer.drag = none) (hs : x.scrolling = some swipe) :
      Cancelling r id x
        (.note (.gestureCancelled id) <|
          .call r (.gesture swipe.gesture .cancel) fun _ ↦
            .note (.windowClosed id) (.done () r))
  | dragging (session : C.Drag) (hdrag : x.pointer.drag = some session) (hs : x.scrolling = none) :
      Cancelling r id x
        (.note (.dragCancelled id) <|
          .call r (.drag session .cancel) fun _ ↦ .note (.windowClosed id) (.done () r))
  | both (session : C.Drag) (swipe : Swipe C) (hdrag : x.pointer.drag = some session)
      (hs : x.scrolling = some swipe) :
      Cancelling r id x
        (.note (.dragCancelled id) <|
          .call r (.drag session .cancel) fun _ ↦
            .note (.gestureCancelled id) <|
              .call r (.gesture swipe.gesture .cancel) fun _ ↦
                .note (.windowClosed id) (.done () r))

theorem course_cancelAll (r : Router C) (id : WindowId) (x : Receiver C) :
    r.Cancelling id x (r.cancelAll id x) := by
  cases hdrag : x.pointer.drag with
  | none =>
    cases hs : x.scrolling with
    | none =>
      simp only [cancelAll, cancelScrolling, hdrag, hs]
      exact .idle hdrag hs
    | some swipe =>
      simp only [cancelAll, cancelScrolling, hdrag, hs]
      exact .swiping swipe hdrag hs
  | some session =>
    cases hs : x.scrolling with
    | none =>
      simp only [cancelAll, cancelScrolling, hdrag, hs]
      exact .dragging session hdrag hs
    | some swipe =>
      simp only [cancelAll, cancelScrolling, hdrag, hs]
      exact .both session swipe hdrag hs

end Router

end WindowRouting
