import WindowRouting.Config
import WindowRouting.Store.Handles
import WindowRouting.Store.OpenWindows
import WindowRouting.Receiver.Pointer
import WindowRouting.Receiver.Scrolling

/-!
Routers. A router keeps the open windows, their handles and their receivers: a receiver is the
listener of a window with what is going on in it. Windows are opened, announced and closed here;
events are delivered in `Router.Delivery`.
-/

set_option autoImplicit false
set_option relaxedAutoImplicit false

namespace WindowRouting

/-- The listener of a window and what is going on in the window. -/
structure Receiver (C : Client) where
  listener : C.Listener
  pointer : Pointer C
  scrolling : Scrolling C

/-- A listener of a window in which nothing is going on. -/
def Receiver.idle {C : Client} (listener : C.Listener) : Receiver C := ⟨listener, .idle, none⟩

/-- Routes events to the listeners of the open windows. -/
structure Router (C : Client) where
  windows : OpenWindows
  handles : Handles
  receivers : IdMap (Receiver C)
  config : Config
  host : Option C.Host

namespace Router

variable {C : Client}

/-- A router without windows and without a host. -/
def new (config : Config) : Router C := ⟨.empty, .empty, .empty, config, none⟩

/-- The open window with an id. -/
def window? (r : Router C) (id : WindowId) : Option Window := r.windows.get? id

/-- The handle of an open window. -/
def handle? (r : Router C) (id : WindowId) : Option Handle := r.handles.get? id

/-- The open window that a handle refers to. -/
def resolve (r : Router C) (h : Handle) : Except Error WindowId := r.handles.resolve h

/-- The open windows with their handles, by index. -/
def listing (r : Router C) : List (WindowId × Option Handle × Window) :=
  r.windows.toList.map fun (id, w) ↦ (id, r.handle? id, w)

/-- The router with a window opened, and the id of the window. -/
def opened (r : Router C) (d : Descriptor) (listener : C.Listener) : WindowId × Router C :=
  let (id, windows) := r.windows.create d
  (id,
    { r with
      windows := windows
      handles := (r.handles.insert id).2
      receivers := r.receivers.insert id (.idle listener) })

/-- The router with a window closed. -/
def closed (r : Router C) (id : WindowId) : Router C :=
  { r with
    windows := (r.windows.close id).2
    handles := (r.handles.erase id).2
    receivers := r.receivers.erase id }

/-- Opens a window. -/
def create (r : Router C) (d : Descriptor) (listener : C.Listener) :
    Plan C (Router C) (WindowId × Handle) :=
  let handle := (r.handles.insert r.windows.nextId).1
  let (id, r) := r.opened d listener
  .note (.windowOpened id handle) (.done (id, handle) r)

/-- The scroll gesture of a window that has been closed is cancelled, and the window is gone. -/
def cancelScrolling (r : Router C) (id : WindowId) (receiver : Receiver C) :
    Plan C (Router C) Unit :=
  let gone := .note (.windowClosed id) (.done () r)
  match receiver.scrolling with
  | none => gone
  | some swipe =>
    .note (.gestureCancelled id) (.call r (.gesture swipe.gesture .cancel) fun _ ↦ gone)

/-- What is going on in a window that has been closed is cancelled: first its drag session, then
its scroll gesture. -/
def cancelAll (r : Router C) (id : WindowId) (receiver : Receiver C) : Plan C (Router C) Unit :=
  match receiver.pointer.drag with
  | none => r.cancelScrolling id receiver
  | some session =>
    .note (.dragCancelled id) <|
      .call r (.drag session .cancel) fun _ ↦ r.cancelScrolling id receiver

/-- Closes a window. -/
def close (r : Router C) (id : WindowId) : Except Error (Plan C (Router C) Unit) :=
  match r.receivers.get? id with
  | none => .error (.unknownWindow id)
  | some receiver => .ok ((r.closed id).cancelAll id receiver)

/-- Takes the next window to be announced, and changes it. -/
def announceWith (r : Router C) (f : Window → Window) :
    Option (WindowId × Window) × Router C :=
  let (announced, windows) := r.windows.announceWith f
  (announced, { r with windows := windows })

/-- Changes a window. -/
def modifyWindow (r : Router C) (id : WindowId) (f : Window → Window) : Router C :=
  { r with windows := r.windows.modify id f }

/-- Changes what is going on in a window. -/
def modifyReceiver (r : Router C) (id : WindowId) (f : Receiver C → Receiver C) : Router C :=
  { r with receivers := r.receivers.modify id f }

/-- The open window with an id, with what is going on in it. -/
def find? (r : Router C) (id : WindowId) : Option (Target C × Receiver C) :=
  match r.windows.get? id, r.receivers.get? id with
  | some w, some receiver => some (⟨id, w, receiver.listener⟩, receiver)
  | _, _ => none

end Router

end WindowRouting
