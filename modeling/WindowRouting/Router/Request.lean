import WindowRouting.Router.Delivery

/-!
Requests of the application. Besides sending events to its windows, an application opens and closes
windows, picks up the windows that were created, attaches the host and asks what is there. A request
that needs an open window is refused without one (`Router.serve`).
-/

set_option autoImplicit false
set_option relaxedAutoImplicit false

namespace WindowRouting

/-- What an application asks of a router. -/
inductive Request (C : Client)
  | create (d : Descriptor) (listener : C.Listener)
  | close (id : WindowId)
  /-- Picks up the next created window, to change it before it is shown. -/
  | announce (patch : WindowPatch)
  | attachHost (host : C.Host)
  | send (id : WindowId) (event : Event)
  | config
  | handle (id : WindowId)
  | resolve (handle : Handle)
  | window (id : WindowId)
  | windows

/-- What a router answers to a request. -/
inductive Answer
  | nothing
  | reply (reply : Reply)
  | created (id : WindowId) (handle : Handle)
  | announced (window : Option (WindowId × Window))
  | config (config : Config) (hasHost : Bool)
  | handle (handle : Option Handle)
  | id (id : WindowId)
  | window (window : Option Window)
  | windows (windows : List (WindowId × Option Handle × Window))

namespace Router

variable {C : Client}

/-- The plan that serves a request. -/
def serve (r : Router C) : Request C → Except Error (Plan C (Router C) Answer)
  | .create d listener => .ok <| (r.create d listener).mapAnswer fun (id, h) ↦ .created id h
  | .close id => (r.close id).map (·.mapAnswer fun _ ↦ .nothing)
  | .announce patch => .ok <|
      let (announced, r) := r.announceWith patch.apply
      .done (.announced announced) r
  | .attachHost host => .ok (.done .nothing { r with host := some host })
  | .send id event => (r.deliver id event).map (·.mapAnswer .reply)
  | .config => .ok (.done (.config r.config r.host.isSome) r)
  | .handle id => .ok (.done (.handle (r.handle? id)) r)
  | .resolve h => (r.resolve h).map fun id ↦ .done (.id id) r
  | .window id => .ok (.done (.window (r.window? id)) r)
  | .windows => .ok (.done (.windows r.listing) r)

end Router

end WindowRouting
