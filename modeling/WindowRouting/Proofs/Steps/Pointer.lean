import WindowRouting.Proofs.History
import WindowRouting.Proofs.Steps.Courses

/-!
What can happen to the pointer of a window. `Pointer.Step` lists the steps that an event can come
to, with the calls that each of them adds to the history, whatever the client does; each course of
an event comes to one step (`Course.step`). Facts about drag sessions are proved by cases on the
steps and look at no plan again.
-/

set_option autoImplicit false
set_option relaxedAutoImplicit false

namespace WindowRouting

variable {C : Client}

/-- The steps of the pointer of window `id`, whose listener is `l`. -/
inductive Pointer.Step (act : Nat) (id : WindowId) (l : Numbered C.Listener)
    (p : Pointer C.ticketed) (h : History C) : Event → Pointer C.ticketed → History C → Prop
  /-- The button is untracked, or pressed while held, or released while not held. -/
  | ignored (loc : Vec) (pressed : Bool) (b : Button) :
      Step act id l p h (.button loc pressed b) p h
  /-- The listener fails when it is asked for a session. -/
  | refused (loc : Vec) (b : Button) (mask : UInt32) (w : Window)
      (hmask : b.mask? = some mask) (hfree : p.held &&& mask = 0) (hdrag : p.drag = none) :
      Step act id l p h (.button loc true b) p
        (h ++ [⟨act, .window l id w (.beginDrag loc b), false⟩])
  /-- A session is opened. -/
  | begun (loc : Vec) (b : Button) (mask : UInt32) (w : Window) (session : C.Drag) (ok : Bool)
      (hmask : b.mask? = some mask) (hfree : p.held &&& mask = 0) (hdrag : p.drag = none) :
      Step act id l p h (.button loc true b)
        ⟨p.held ||| mask, some ⟨⟨l.number, h.length⟩, session⟩⟩
        (h ++ [⟨act, .window l id w (.beginDrag loc b), true⟩] ++
          [⟨act, .drag ⟨⟨l.number, h.length⟩, session⟩ (.down loc b), ok⟩])
  /-- A further button goes down. -/
  | pressed (loc : Vec) (b : Button) (mask : UInt32) (session : Ticketed C.Drag) (ok : Bool)
      (hmask : b.mask? = some mask) (hfree : p.held &&& mask = 0)
      (hdrag : p.drag = some session) :
      Step act id l p h (.button loc true b) ⟨p.held ||| mask, some session⟩
        (h ++ [⟨act, .drag session (.down loc b), ok⟩])
  /-- A button goes up, and others are still held. -/
  | released (loc : Vec) (b : Button) (mask : UInt32) (session : Ticketed C.Drag) (ok : Bool)
      (hmask : b.mask? = some mask) (hheld : p.held &&& mask ≠ 0)
      (hrest : p.held &&& ~~~mask ≠ 0) (hdrag : p.drag = some session) :
      Step act id l p h (.button loc false b) ⟨p.held &&& ~~~mask, some session⟩
        (h ++ [⟨act, .drag session (.up loc b), ok⟩])
  /-- The last button goes up. -/
  | ended (loc : Vec) (b : Button) (mask : UInt32) (session : Ticketed C.Drag) (ok : Bool)
      (hmask : b.mask? = some mask) (hheld : p.held &&& mask ≠ 0)
      (hrest : p.held &&& ~~~mask = 0) (hdrag : p.drag = some session) :
      Step act id l p h (.button loc false b) ⟨p.held &&& ~~~mask, none⟩
        (h ++ [⟨act, .drag session (.up loc b), ok⟩])
  /-- A button goes up although there is no session. -/
  | freed (loc : Vec) (b : Button) (mask : UInt32)
      (hmask : b.mask? = some mask) (hheld : p.held &&& mask ≠ 0) (hdrag : p.drag = none) :
      Step act id l p h (.button loc false b) ⟨p.held &&& ~~~mask, none⟩ h
  | moved (loc : Vec) (session : Ticketed C.Drag) (ok : Bool) (hdrag : p.drag = some session) :
      Step act id l p h (.motion loc) p (h ++ [⟨act, .drag session (.motion loc), ok⟩])
  | passed (loc : Vec) (w : Window) (ok : Bool) (hdrag : p.drag = none) :
      Step act id l p h (.motion loc) p (h ++ [⟨act, .window l id w (.motion loc), ok⟩])
  /-- The session keeps the pointer. -/
  | kept (session : Ticketed C.Drag) (hdrag : p.drag = some session) : Step act id l p h .leave p h
  | left (w : Window) (ok : Bool) (hdrag : p.drag = none) :
      Step act id l p h .leave p (h ++ [⟨act, .window l id w .leave, ok⟩])

namespace Pointer

variable {act : Nat} {t : Target C.ticketed} {p p' : Pointer C.ticketed} {h h' : History C}

/-- A course comes to one step. -/
theorem Course.step {e : Event} {plan : Plan C.ticketed (Pointer C.ticketed) Unit}
    (hcourse : p.Course t e plan) (hp : plan.Reaches act h p' h') :
    Step act t.id t.listener p h e p' h' := by
  cases hcourse with
  | untracked loc pressed b hmask =>
    obtain ⟨rfl, rfl⟩ := hp
    exact .ignored loc pressed b
  | held loc b mask hmask hheld =>
    obtain ⟨rfl, rfl⟩ := hp
    exact .ignored loc true b
  | begun loc b mask hmask hfree hdrag =>
    rcases hp with ⟨rfl, rfl⟩ | ⟨session, hp⟩
    · exact .refused loc b mask t.window hmask hfree hdrag
    · obtain ⟨rfl, ok, rfl⟩ := Plan.reaches_lastly hp
      exact .begun loc b mask t.window session ok hmask hfree hdrag
  | pressed loc b mask session hmask hfree hdrag =>
    obtain ⟨rfl, ok, rfl⟩ := Plan.reaches_lastly hp
    exact .pressed loc b mask session ok hmask hfree hdrag
  | notHeld loc b mask hmask hfree =>
    obtain ⟨rfl, rfl⟩ := hp
    exact .ignored loc false b
  | freed loc b mask hmask hheld hdrag =>
    obtain ⟨rfl, rfl⟩ := hp
    exact .freed loc b mask hmask hheld hdrag
  | ended loc b mask session hmask hheld hrest hdrag =>
    obtain ⟨rfl, ok, rfl⟩ := Plan.reaches_lastly hp
    exact .ended loc b mask session ok hmask hheld hrest hdrag
  | released loc b mask session hmask hheld hrest hdrag =>
    obtain ⟨rfl, ok, rfl⟩ := Plan.reaches_lastly hp
    exact .released loc b mask session ok hmask hheld hrest hdrag
  | moved loc session hdrag =>
    obtain ⟨rfl, ok, rfl⟩ := Plan.reaches_lastly hp
    exact .moved loc session ok hdrag
  | passed loc hdrag =>
    obtain ⟨rfl, ok, rfl⟩ := Plan.reaches_lastly hp
    exact .passed loc t.window ok hdrag
  | kept session hdrag =>
    obtain ⟨rfl, rfl⟩ := hp
    exact .kept session hdrag
  | left hdrag =>
    obtain ⟨rfl, ok, rfl⟩ := Plan.reaches_lastly hp
    exact .left t.window ok hdrag

end Pointer

end WindowRouting
