import WindowRouting.Plan.Basic

/-!
The pointer over a window. The tracked buttons that are held are kept as bits of a word. The first
press opens a drag session on the listener of the window; the session receives all further button
and motion events, and it is over with the release that leaves no button held.
-/

set_option autoImplicit false
set_option relaxedAutoImplicit false

namespace WindowRouting

/-- The held buttons of a window and its drag session. -/
structure Pointer (C : Client) where
  /-- Bit `n` is set while the button with native number `n` is held. -/
  held : UInt32
  drag : Option C.Drag

namespace Pointer

variable {C : Client}

/-- No button is held. -/
def idle : Pointer C := ⟨0, none⟩

/-- A tracked button goes down in a session. -/
def hold (p : Pointer C) (loc : Vec) (button : Button) (mask : UInt32) (session : C.Drag) :
    Plan C (Pointer C) Unit :=
  .lastly () ⟨p.held ||| mask, some session⟩ (.drag session (.down loc button))

/-- A tracked button was pressed. A session is asked for if there is none; should the listener fail
then, nothing was pressed. -/
def press (p : Pointer C) (t : Target C) (loc : Vec) (button : Button) (mask : UInt32) :
    Plan C (Pointer C) Unit :=
  if p.held &&& mask ≠ 0 then .note (.buttonHeld t.id button) (.done () p)
  else
    match p.drag with
    | some session => p.hold loc button mask session
    | none =>
      .note (.dragStarted t.id button) <|
        .call p (t.call (.beginDrag loc button)) fun session ↦ p.hold loc button mask session

/-- A tracked button was released. -/
def release (p : Pointer C) (t : Target C) (loc : Vec) (button : Button) (mask : UInt32) :
    Plan C (Pointer C) Unit :=
  if p.held &&& mask = 0 then .note (.buttonNotHeld t.id button) (.done () p)
  else
    let held := p.held &&& ~~~mask
    match p.drag with
    | none => .done () ⟨held, none⟩
    | some session =>
      if held = 0 then
        .note (.dragEnded t.id) (.lastly () ⟨held, none⟩ (.drag session (.up loc button)))
      else .lastly () ⟨held, some session⟩ (.drag session (.up loc button))

/-- A button was pressed or released. -/
def button (p : Pointer C) (t : Target C) (loc : Vec) (pressed : Bool) (button : Button) :
    Plan C (Pointer C) Unit :=
  match button.mask? with
  | none => .note (.buttonUntracked t.id button) (.done () p)
  | some mask => if pressed then p.press t loc button mask else p.release t loc button mask

/-- The pointer moved. -/
def motion (p : Pointer C) (t : Target C) (loc : Vec) : Plan C (Pointer C) Unit :=
  match p.drag with
  | some session => .lastly () p (.drag session (.motion loc))
  | none => .lastly () p (t.call (.motion loc))

/-- The pointer left the window. A drag session keeps it. -/
def leave (p : Pointer C) (t : Target C) : Plan C (Pointer C) Unit :=
  match p.drag with
  | some _ => .note (.leftWhileDragging t.id) (.done () p)
  | none => .lastly () p (t.call .leave)

end Pointer

end WindowRouting
