import WindowRouting.Store.IdMap
import WindowRouting.Error

/-!
The handles of the open windows. Handles are taken from a counter that wraps and leaves out zero;
a handle that is assigned is passed over, so a handle that was given up is not assigned again before
the counter comes round. Both directions are kept: `assigned` from handles to ids, and `byWindow`
from ids to handles.
-/

set_option autoImplicit false
set_option relaxedAutoImplicit false

namespace WindowRouting

open Std

/-- The handle after `h`; after the last one comes the handle one. -/
def Handle.next (h : Handle) : Handle := if h + 1 = 0 then 1 else h + 1

/-- The first handle from `h` on that is not taken, after at most `n` that are. -/
def Handle.firstFree (taken : Handle → Bool) : Nat → Handle → Handle
  | 0, h => h
  | n + 1, h => if taken h then firstFree taken n h.next else h

/-- Handles and the windows they refer to. -/
structure Handles where
  /-- The handle that is tried first for the next window. -/
  next : Handle
  assigned : ExtTreeMap Handle WindowId
  byWindow : IdMap Handle

namespace Handles

/-- No handle was ever assigned. -/
def empty : Handles := ⟨1, ∅, .empty⟩

/-- The handle of a window. -/
def get? (t : Handles) (id : WindowId) : Option Handle := t.byWindow.get? id

/-- The handle that a window without one is given. The search passes over assigned handles only,
so no more than there are. -/
def fresh (t : Handles) : Handle :=
  Handle.firstFree t.assigned.contains t.assigned.size t.next

/-- Gives a window a handle, or finds the one it has. -/
def insert (t : Handles) (id : WindowId) : Handle × Handles :=
  match t.get? id with
  | some h => (h, t)
  | none =>
    (t.fresh,
      { next := t.fresh.next
        assigned := t.assigned.insert t.fresh id
        byWindow := t.byWindow.insert id t.fresh })

/-- Takes the handle of a window away. The answer is the handle, if the window had one. -/
def erase (t : Handles) (id : WindowId) : Option Handle × Handles :=
  match t.get? id with
  | some h => (some h, { t with assigned := t.assigned.erase h, byWindow := t.byWindow.erase id })
  | none => (none, t)

/-- The window that a handle refers to. -/
def resolve (t : Handles) (h : Handle) : Except Error WindowId :=
  if h = 0 then .error (.invalidHandle h)
  else
    match t.assigned[h]? with
    | some id => .ok id
    | none => .error (.unknownHandle h)

end Handles

end WindowRouting
