import WindowRouting.Router.Basic

/-!
The seat of a router. At most one router is installed in a seat, and it serves one request at a
time: while its client is called the seat is busy, and every request to it is turned away.
-/

set_option autoImplicit false
set_option relaxedAutoImplicit false

namespace WindowRouting

/-- Where a router is installed. -/
inductive Seat (C : Client)
  | vacant
  | taken (router : Router C)
  /-- The router is serving a request. -/
  | busy

namespace Seat

variable {C : Client}

/-- The router that can serve a request. -/
def router : Seat C → Except Error (Router C)
  | vacant => .error .notInstalled
  | taken r => .ok r
  | busy => .error .reentrant

/-- The router in a seat that is not busy, if there is one. -/
def occupant : Seat C → Except Error (Option (Router C))
  | vacant => .ok none
  | taken r => .ok (some r)
  | busy => .error .reentrant

/-- Installs a router, in place of the one that is there; the answer is the one replaced. A busy
seat stays as it is. -/
def install (s : Seat C) (r : Router C) : Except Error (Option (Router C)) × Seat C :=
  match s.occupant with
  | .ok old => (.ok old, .taken r)
  | .error e => (.error e, s)

/-- Takes the router away; the answer is the one that was there. -/
def uninstall (s : Seat C) : Except Error (Option (Router C)) × Seat C :=
  match s.occupant with
  | .ok old => (.ok old, .vacant)
  | .error e => (.error e, s)

end Seat

/-- The message of a refused installation. -/
def installMessage (e : Error) : String :=
  "cannot install the widget dispatcher: " ++ e.message

end WindowRouting
