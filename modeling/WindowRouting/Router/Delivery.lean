import WindowRouting.Router.Basic

/-!
Events of open windows and their delivery. An event is delivered to an open window only; the pointer
and the scrolling of the window are each changed by events of their own (`Router.deliver`).
-/

set_option autoImplicit false
set_option relaxedAutoImplicit false

namespace WindowRouting

/-- An event of a window. -/
inductive Event
  /-- The window has to be drawn in a context. -/
  | draw (context : UInt64)
  /-- The scale factor of the widget may have changed. -/
  | scale
  /-- Somebody wants to know what a point is for. -/
  | hitTest (loc : Vec)
  | keyPress (key : KeyEvent)
  | keyRelease (key : KeyEvent)
  | button (loc : Vec) (pressed : Bool) (button : Button)
  | motion (loc : Vec)
  | leave
  /-- A step of a scroll wheel, with the orientation of the native side. -/
  | discreteScroll (loc native : Vec)
  /-- A smooth scroll, with the orientation of the native side. -/
  | smoothScroll (loc native : Vec) (time : Timestamp)
  /-- The fingers were lifted. -/
  | scrollStop (time : Timestamp)

/-- What is answered to an event. -/
inductive Reply
  | nothing
  | hit (hit : HitTest)
  | handled (consumed : Bool)
deriving DecidableEq, Repr

/-- A scale factor that a window can have: finite and above zero. -/
def validScale (scale : Float32) : Bool := scale.isFinite && decide (0 < scale)

namespace Router

variable {C : Client}

/-- A plan for the pointer of a window as a plan for the router. -/
def onPointer (r : Router C) (id : WindowId) (p : Plan C (Pointer C) Unit) :
    Plan C (Router C) Reply :=
  p.map (fun _ ↦ .nothing) fun pointer ↦
    r.modifyReceiver id fun receiver ↦ { receiver with pointer := pointer }

/-- A plan for the scrolling of a window as a plan for the router. -/
def onScrolling (r : Router C) (id : WindowId) (p : Plan C (Scrolling C) Unit) :
    Plan C (Router C) Reply :=
  p.map (fun _ ↦ .nothing) fun scrolling ↦
    r.modifyReceiver id fun receiver ↦ { receiver with scrolling := scrolling }

/-- The host is asked for the scale factor of a window, and the listener is told. A factor that no
window can have is refused. -/
def rescale (r : Router C) (t : Target C) : Plan C (Router C) Reply :=
  let told := .lastly .nothing r (t.call .scaleChanged)
  match r.host with
  | none => told
  | some host =>
    .call r (.scaleFactor host t.id) fun
      | none => .note (.scaleUnknown t.id) told
      | some scale =>
        if validScale scale then
          let scaled := { t with window := t.window.withScale scale }
          .note (.scaleChanged t.id scale) <|
            .lastly .nothing (r.modifyWindow t.id (·.withScale scale)) (scaled.call .scaleChanged)
        else .note (.scaleRefused t.id scale) told

/-- The delivery of an event to an open window. -/
def handle (r : Router C) (t : Target C) (receiver : Receiver C) :
    Event → Plan C (Router C) Reply
  | .draw context => .note (.drawing t.id) (.lastly .nothing r (t.call (.draw context)))
  | .scale => r.rescale t
  | .hitTest loc => .call r (t.call (.hitTest loc)) fun hit ↦ .done (.hit hit) r
  | .keyPress key => .call r (t.call (.keyDown key)) fun consumed ↦
      .note (.keyPressed t.id key.keyval consumed) (.done (.handled consumed) r)
  | .keyRelease key => .call r (t.call (.keyUp key)) fun consumed ↦
      .note (.keyReleased t.id key.keyval consumed) (.done (.handled consumed) r)
  | .button loc pressed button => r.onPointer t.id (receiver.pointer.button t loc pressed button)
  | .motion loc => r.onPointer t.id (receiver.pointer.motion t loc)
  | .leave => r.onPointer t.id (receiver.pointer.leave t)
  | .discreteScroll loc native => r.onScrolling t.id (receiver.scrolling.discrete t loc native)
  | .smoothScroll loc native time =>
    r.onScrolling t.id (receiver.scrolling.smooth r.config t loc native time)
  | .scrollStop time => r.onScrolling t.id (receiver.scrolling.stop r.config t time)

/-- Delivers an event to the window with an id. -/
def deliver (r : Router C) (id : WindowId) (e : Event) : Except Error (Plan C (Router C) Reply) :=
  match r.find? id with
  | none => .error (.unknownWindow id)
  | some (t, receiver) => .ok (r.handle t receiver e)

end Router

end WindowRouting
