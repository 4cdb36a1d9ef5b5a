import WindowRouting.Store.IdMap
import WindowRouting.Store.Window
import WindowRouting.Error

/-!
The windows that are open. A new window takes the position that was vacated last, under the
successor of the id that was closed there, or else a position that no window has had before.
Created windows are announced once, in order of creation (`announce`); those that were closed in
the meantime are passed over.
-/

set_option autoImplicit false
set_option relaxedAutoImplicit false

namespace WindowRouting

/-- The open windows. -/
structure OpenWindows where
  live : IdMap Window
  /-- The ids that the vacant positions are used under next, those vacated last first. -/
  vacant : List WindowId
  /-- The number of positions that have been used; they are counted from one. -/
  positions : Nat
  /-- The created windows that have not been announced, in order of creation. -/
  created : List WindowId

namespace OpenWindows

/-- No window was ever created. -/
def empty : OpenWindows := ⟨.empty, [], 0, []⟩

/-- The id of the next window. -/
def nextId (ws : OpenWindows) : WindowId :=
  ws.vacant.headD ⟨ws.positions + 1, 1⟩

/-- Opens a window. -/
def create (ws : OpenWindows) (d : Descriptor) : WindowId × OpenWindows :=
  (ws.nextId,
    { live := ws.live.insert ws.nextId ⟨d, false⟩
      vacant := ws.vacant.tail
      positions := if ws.vacant.isEmpty then ws.positions + 1 else ws.positions
      created := ws.created ++ [ws.nextId] })

/-- The number of open windows. -/
def size (ws : OpenWindows) : Nat := ws.live.size

/-- No window is open. -/
def isEmpty (ws : OpenWindows) : Bool := ws.size == 0

/-- The window is open. -/
def contains (ws : OpenWindows) (id : WindowId) : Bool := ws.live.contains id

/-- The open window with an id. -/
def get? (ws : OpenWindows) (id : WindowId) : Option Window := ws.live.get? id

/-- The open window with an id, for a caller that knows it to be open. -/
def get (ws : OpenWindows) (id : WindowId) : Except Fault Window :=
  match ws.get? id with
  | some w => .ok w
  | none => .error .deadId

/-- Changes the open window with an id. -/
def modify (ws : OpenWindows) (id : WindowId) (f : Window → Window) : OpenWindows :=
  { ws with live := ws.live.modify id f }

/-- Changes every open window. -/
def modifyAll (ws : OpenWindows) (f : Window → Window) : OpenWindows :=
  { ws with live := ws.live.map f }

/-- Closes a window; nothing changes if it is not open. The answer is whether it was. -/
def close (ws : OpenWindows) (id : WindowId) : Bool × OpenWindows :=
  if ws.contains id then
    (true, { ws with live := ws.live.erase id, vacant := id.successor :: ws.vacant })
  else (false, ws)

/-- Takes the earliest created window that is open and was not announced before. -/
def announce (ws : OpenWindows) : Option WindowId × OpenWindows :=
  match ws.created.dropWhile fun id ↦ !ws.contains id with
  | [] => (none, { ws with created := [] })
  | id :: rest => (some id, { ws with created := rest })

/-- Takes the next window to be announced, and changes it before anybody else sees it. -/
def announceWith (ws : OpenWindows) (f : Window → Window) :
    Option (WindowId × Window) × OpenWindows :=
  match ws.announce with
  | (none, ws) => (none, ws)
  | (some id, ws) => (((ws.modify id f).get? id).map (id, ·), ws.modify id f)

/-- The open windows, by index. -/
def toList (ws : OpenWindows) : List (WindowId × Window) := ws.live.toList

end OpenWindows

end WindowRouting
