import WindowRouting.Router.Request
import WindowRouting.Seat.Basic

/-!
Requests at a seat. The request goes to the router that is there; it is refused when there is none
and when the router is busy, and the seat stays as it is then (`Seat.serve`).
-/

set_option autoImplicit false
set_option relaxedAutoImplicit false

namespace WindowRouting

/-- The course of a request at a seat: what comes of it, the seat afterwards and the world
afterwards. The answer is missing when the client failed. -/
def Seat.serve {C : Client} {σ : Type} (W : World C σ) (seat : Seat C) (request : Request C)
    (w : σ) : Except Error (Option Answer) × Seat C × σ :=
  match seat.router.bind (·.serve request) with
  | .error e => (.error e, seat, w)
  | .ok plan =>
    match plan.run W w with
    | (answer, r, w) => (.ok answer, .taken r, w)

end WindowRouting
