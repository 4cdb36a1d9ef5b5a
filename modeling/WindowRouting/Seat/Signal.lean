import WindowRouting.Router.Delivery
import WindowRouting.Seat.Basic

/-!
Signals of the native side. A signal names its window by a handle and carries native arguments; it
enters at the entry point of its kind and is delivered as an event of the window. Nothing goes back
but a number: a signal that cannot be delivered and one in which the client fails are reported by a
notice and answered by the neutral number (`Seat.signal`).
-/

set_option autoImplicit false
set_option relaxedAutoImplicit false

namespace WindowRouting

/-- The arguments of a signal. -/
inductive Signal
  /-- The address of a drawing context. -/
  | draw (context : UInt64)
  | scale
  | hitTest (loc : Vec)
  /-- A key event, or a null pointer. -/
  | keyPress (key : Option NativeKeyEvent)
  /-- A key event, or a null pointer. -/
  | keyRelease (key : Option NativeKeyEvent)
  /-- Every number but zero says that the button was pressed. -/
  | button (loc : Vec) (pressed button : Int32)
  | motion (loc : Vec)
  | leave
  | discreteScroll (loc native : Vec)
  | smoothScroll (loc native : Vec) (time : UInt32)
  | scrollStop (time : UInt32)

namespace Signal

/-- The name of the entry point of a signal. -/
def entry : Signal → String
  | draw _ => "draw"
  | scale => "dpi_scale_changed"
  | hitTest _ => "nc_hit_test"
  | keyPress _ => "key_press"
  | keyRelease _ => "key_release"
  | button _ _ _ => "button"
  | motion _ => "motion"
  | leave => "leave"
  | discreteScroll _ _ => "discrete_scroll"
  | smoothScroll _ _ _ => "smooth_scroll"
  | scrollStop _ => "smooth_scroll_stop"

/-- The event of a signal, whose pointers must not be null. -/
def event : Signal → Except Error Event
  | draw context => if context = 0 then .error (.nullPointer "cr") else .ok (.draw context)
  | scale => .ok .scale
  | hitTest loc => .ok (.hitTest loc)
  | keyPress none | keyRelease none => .error (.nullPointer "event")
  | keyPress (some key) => .ok (.keyPress (.ofNative key))
  | keyRelease (some key) => .ok (.keyRelease (.ofNative key))
  | button loc pressed number => .ok (.button loc (pressed ≠ 0) (.ofWord number))
  | motion loc => .ok (.motion loc)
  | leave => .ok .leave
  | discreteScroll loc native => .ok (.discreteScroll loc native)
  | smoothScroll loc native time => .ok (.smoothScroll loc native ⟨time⟩)
  | scrollStop time => .ok (.scrollStop ⟨time⟩)

/-- The answer to a signal that is not served: the code of content for a hit test, not consumed for
a key, and nothing for any other. -/
def neutral : Signal → Reply
  | hitTest _ => .hit .client
  | keyPress _ | keyRelease _ => .handled false
  | _ => .nothing

end Signal

/-- The number that goes back to the native side, if one does. -/
def Reply.code : Reply → Option Nat
  | nothing => none
  | hit h => some h.code
  | handled consumed => some consumed.toNat

/-- Delivers a signal to the window of a handle. -/
def Router.signal {C : Client} (r : Router C) (h : Handle) (s : Signal) :
    Except Error (Plan C (Router C) Reply) := do
  let id ← r.resolve h
  let e ← s.event
  r.deliver id e

/-- The course of a signal that enters at a seat: the number that goes back, the seat afterwards and
the world afterwards. -/
def Seat.signal {C : Client} {σ : Type} (W : World C σ) (seat : Seat C) (h : Handle) (s : Signal)
    (w : σ) : Option Nat × Seat C × σ :=
  match seat.router.bind (·.signal h s) with
  | .error e => (s.neutral.code, seat, W.note (.dropped e s.entry h) w)
  | .ok plan =>
    match plan.run W w with
    | (some reply, r, w) => (reply.code, .taken r, w)
    | (none, r, w) => (s.neutral.code, .taken r, W.note (.clientFailed s.entry h) w)

end WindowRouting
