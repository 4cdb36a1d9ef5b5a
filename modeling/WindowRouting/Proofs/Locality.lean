import WindowRouting.Proofs.Steps.Router

/-!
What an event of a window can read and change. The events of a window form three channels: those of
its pointer, those of its scrolling and the others. An event changes nothing but the part of the
window that its channel has (`Change`), and what it does follows from the settings, the host and
what is known of the window (`Event.plan`, `Router.handle_eq_map`). Changes of different parts can
be made in any order (`Router.changed_comm`), and a change of one window leaves the others as they
are (`Router.find?_changed_of_ne`).
-/

set_option autoImplicit false
set_option relaxedAutoImplicit false

namespace WindowRouting

open Std

variable {C : Client}

/-! ### Channels and changes -/

/-- The parts of a window that events come for. -/
inductive Channel
  | pointer
  | scrolling
  | other
deriving DecidableEq

/-- The channel of an event. -/
def Event.channel : Event → Channel
  | button _ _ _ | motion _ | leave => .pointer
  | discreteScroll _ _ | smoothScroll _ _ _ | scrollStop _ => .scrolling
  | draw _ | scale | hitTest _ | keyPress _ | keyRelease _ => .other

/-- What an event changes in its window. -/
inductive Change (C : Client)
  | none
  | pointer (pointer : Pointer C)
  | scrolling (scrolling : Scrolling C)
  | scale (scale : Float32)

namespace Change

/-- The change is one that events of a channel make. -/
def Within : Channel → Change C → Prop
  | _, none => True
  | channel, pointer _ => channel = .pointer
  | channel, scrolling _ => channel = .scrolling
  | channel, scale _ => channel = .other

/-- The open window after a change. -/
def target : Change C → Target C → Target C
  | scale x, t => { t with window := t.window.withScale x }
  | _, t => t

/-- What is going on in the window after a change. -/
def receiver : Change C → Receiver C → Receiver C
  | pointer p, x => { x with pointer := p }
  | scrolling s, x => { x with scrolling := s }
  | _, x => x

end Change

/-! ### Plans for one window -/

/-- The host is asked for the scale factor of a window, and the listener is told. -/
def Target.rescale (t : Target C) (host : Option C.Host) : Plan C (Change C) Reply :=
  let told := .lastly .nothing .none (t.call .scaleChanged)
  match host with
  | none => told
  | some host =>
    .call .none (.scaleFactor host t.id) fun
      | none => .note (.scaleUnknown t.id) told
      | some scale =>
        if validScale scale then
          .note (.scaleChanged t.id scale) <| .lastly .nothing (.scale scale)
            (Target.call { t with window := t.window.withScale scale } .scaleChanged)
        else .note (.scaleRefused t.id scale) told

/-- What an event does in its window. -/
def Event.plan (cfg : Config) (host : Option C.Host) (t : Target C) (x : Receiver C) :
    Event → Plan C (Change C) Reply
  | draw context => .note (.drawing t.id) (.lastly .nothing .none (t.call (.draw context)))
  | scale => t.rescale host
  | hitTest loc => .call .none (t.call (.hitTest loc)) fun hit ↦ .done (.hit hit) .none
  | keyPress key => .call .none (t.call (.keyDown key)) fun consumed ↦
      .note (.keyPressed t.id key.keyval consumed) (.done (.handled consumed) .none)
  | keyRelease key => .call .none (t.call (.keyUp key)) fun consumed ↦
      .note (.keyReleased t.id key.keyval consumed) (.done (.handled consumed) .none)
  | button loc pressed b => (x.pointer.button t loc pressed b).map (fun _ ↦ .nothing) .pointer
  | motion loc => (x.pointer.motion t loc).map (fun _ ↦ .nothing) .pointer
  | leave => (x.pointer.leave t).map (fun _ ↦ .nothing) .pointer
  | discreteScroll loc native =>
    (x.scrolling.discrete t loc native).map (fun _ ↦ .nothing) .scrolling
  | smoothScroll loc native time =>
    (x.scrolling.smooth cfg t loc native time).map (fun _ ↦ .nothing) .scrolling
  | scrollStop time => (x.scrolling.stop cfg t time).map (fun _ ↦ .nothing) .scrolling

namespace Router

/-- The router after a change of one window. -/
def changed (r : Router C) (id : WindowId) : Change C → Router C
  | .none => r
  | .pointer p => r.modifyReceiver id fun receiver ↦ { receiver with pointer := p }
  | .scrolling s => r.modifyReceiver id fun receiver ↦ { receiver with scrolling := s }
  | .scale x => r.modifyWindow id (·.withScale x)

/-- A router delivers an event by doing what the event does in its window. -/
theorem handle_eq_map (r : Router C) (t : Target C) (x : Receiver C) (e : Event) :
    r.handle t x e = (e.plan r.config r.host t x).map (fun a ↦ a) (r.changed t.id) := by
  have hpointer (p : Plan C (Pointer C) Unit) : r.onPointer t.id p =
      (p.map (fun _ ↦ .nothing) .pointer).map (fun a ↦ a) (r.changed t.id) := by
    rw [Plan.map_map]
    rfl
  have hscrolling (p : Plan C (Scrolling C) Unit) : r.onScrolling t.id p =
      (p.map (fun _ ↦ .nothing) .scrolling).map (fun a ↦ a) (r.changed t.id) := by
    rw [Plan.map_map]
    rfl
  cases e with
  | scale =>
    obtain ⟨windows, handles, receivers, config, host⟩ := r
    cases host with
    | none => rfl
    | some host =>
      simp only [handle, rescale, Event.plan, Target.rescale, Plan.map]
      congr 1
      funext scale
      cases scale with
      | none => rfl
      | some scale =>
        simp only
        split <;> rfl
  | draw context => rfl
  | hitTest loc => rfl
  | keyPress key => rfl
  | keyRelease key => rfl
  | button loc pressed b => exact hpointer _
  | motion loc => exact hpointer _
  | leave => exact hpointer _
  | discreteScroll loc native => exact hscrolling _
  | smoothScroll loc native time => exact hscrolling _
  | scrollStop time => exact hscrolling _

end Router

/-- An event changes nothing outside its channel. -/
theorem Event.within_plan {cfg : Config} {host : Option C.Host} {t : Target C} {x : Receiver C}
    {e : Event} {a : Change C} (ha : (e.plan cfg host t x).Leaves a) : a.Within e.channel := by
  have hnone {c : Call C} {resume : c.Answer → Plan C (Change C) Reply}
      (ha : (Plan.call .none c resume).Leaves a)
      (hresume : ∀ answer, (resume answer).Leaves a → a = .none) : a.Within e.channel := by
    rcases ha with rfl | ⟨answer, ha⟩
    · exact trivial
    · exact hresume answer ha ▸ trivial
  have hpointer {p : Plan C (Pointer C) Unit} {f : Unit → Reply}
      (ha : (p.map f .pointer).Leaves a) (he : e.channel = .pointer) : a.Within e.channel := by
    obtain ⟨pointer, rfl, -⟩ := Plan.leaves_map ha
    exact he
  have hscrolling {p : Plan C (Scrolling C) Unit} {f : Unit → Reply}
      (ha : (p.map f .scrolling).Leaves a) (he : e.channel = .scrolling) :
      a.Within e.channel := by
    obtain ⟨scrolling, rfl, -⟩ := Plan.leaves_map ha
    exact he
  cases e with
  | scale =>
    cases host with
    | none => exact Plan.eq_of_leaves_lastly ha ▸ trivial
    | some host =>
      rcases ha with rfl | ⟨scale, ha⟩
      · exact trivial
      · cases scale with
        | none => exact Plan.eq_of_leaves_lastly ha ▸ trivial
        | some scale =>
          simp only at ha
          split at ha
          · exact Plan.eq_of_leaves_lastly ha ▸ rfl
          · exact Plan.eq_of_leaves_lastly ha ▸ trivial
  | draw context => exact Plan.eq_of_leaves_lastly ha ▸ trivial
  | hitTest loc => exact hnone ha fun _ h ↦ h
  | keyPress key => exact hnone ha fun _ h ↦ h
  | keyRelease key => exact hnone ha fun _ h ↦ h
  | button loc pressed b => exact hpointer ha rfl
  | motion loc => exact hpointer ha rfl
  | leave => exact hpointer ha rfl
  | discreteScroll loc native => exact hscrolling ha rfl
  | smoothScroll loc native time => exact hscrolling ha rfl
  | scrollStop time => exact hscrolling ha rfl

/-! ### Changes of a router -/

namespace Router

variable {r : Router C} {id other : WindowId}

theorem find?_eq_some_iff {t : Target C} {x : Receiver C} : r.find? id = some (t, x) ↔
    r.windows.get? id = some t.window ∧ r.receivers.get? id = some x ∧ t.id = id ∧
      t.listener = x.listener := by
  obtain ⟨tid, w, l⟩ := t
  unfold find?
  cases r.windows.get? id with
  | none => simp
  | some w' =>
    cases r.receivers.get? id with
    | none => simp
    | some x' =>
      simp only [Option.some.injEq, Prod.mk.injEq, Target.mk.injEq]
      constructor
      · rintro ⟨⟨rfl, rfl, rfl⟩, rfl⟩
        exact ⟨rfl, rfl, rfl, rfl⟩
      · rintro ⟨rfl, rfl, rfl, rfl⟩
        exact ⟨⟨rfl, rfl, rfl⟩, rfl⟩

theorem deliver_of_find? {t : Target C} {x : Receiver C} (h : r.find? id = some (t, x))
    (e : Event) : r.deliver id e =
      .ok ((e.plan r.config r.host t x).map (fun a ↦ a) (r.changed id)) := by
  obtain ⟨-, -, rfl, -⟩ := find?_eq_some_iff.mp h
  rw [deliver, h]
  exact congrArg Except.ok (r.handle_eq_map t x e)

theorem deliver_of_none (h : r.find? id = none) (e : Event) :
    r.deliver id e = .error (.unknownWindow id) := by
  rw [deliver, h]

@[simp] theorem config_changed (a : Change C) : (r.changed id a).config = r.config := by
  cases a <;> rfl

@[simp] theorem host_changed (a : Change C) : (r.changed id a).host = r.host := by
  cases a <;> rfl

@[simp] theorem handles_changed (a : Change C) : (r.changed id a).handles = r.handles := by
  cases a <;> rfl

/-- What is known of a window after it was changed. -/
theorem find?_changed_self {t : Target C} {x : Receiver C} (h : r.find? id = some (t, x))
    (a : Change C) : (r.changed id a).find? id = some (a.target t, a.receiver x) := by
  obtain ⟨hwindow, hreceiver, hid, hlistener⟩ := find?_eq_some_iff.mp h
  have hreceivers (f : Receiver C → Receiver C) :
      (r.modifyReceiver id f).receivers.get? id = some (f x) := by
    rw [get?_receivers_modifyReceiver_self, hreceiver, Option.map_some]
  have hwindows (f : Window → Window) :
      (r.modifyWindow id f).windows.get? id = some (f t.window) :=
    (IdMap.get?_modify_self r.windows.live id f).trans (congrArg (Option.map f) hwindow)
  rw [find?_eq_some_iff]
  cases a with
  | none => exact ⟨hwindow, hreceiver, hid, hlistener⟩
  | pointer p => exact ⟨hwindow, hreceivers _, hid, hlistener⟩
  | scrolling s => exact ⟨hwindow, hreceivers _, hid, hlistener⟩
  | scale scale => exact ⟨hwindows _, hreceiver, hid, hlistener⟩

/-- Changing one window leaves the others as they are. -/
theorem find?_changed_of_ne (h : id ≠ other) (a : Change C) :
    (r.changed id a).find? other = r.find? other := by
  cases a with
  | none => rfl
  | pointer p =>
    simp only [find?, changed, get?_receivers_modifyReceiver_of_ne r h]
    rfl
  | scrolling s =>
    simp only [find?, changed, get?_receivers_modifyReceiver_of_ne r h]
    rfl
  | scale scale =>
    have hwindows : (r.modifyWindow id (·.withScale scale)).windows.get? other =
        r.windows.get? other := IdMap.get?_modify_of_ne h _
    simp only [find?, changed, hwindows]
    rfl

theorem isSome_find? (r : Router C) (id : WindowId) : (r.find? id).isSome =
    ((r.windows.get? id).isSome && (r.receivers.get? id).isSome) := by
  unfold find?
  cases r.windows.get? id with
  | none => rfl
  | some w => cases r.receivers.get? id <;> rfl

/-- A change opens no window and closes none. -/
theorem isSome_find?_changed (other : WindowId) (a : Change C) :
    ((r.changed other a).find? id).isSome = (r.find? id).isSome := by
  rw [isSome_find?, isSome_find?]
  cases a with
  | none => rfl
  | pointer p => exact congrArg (_ && ·) (isSome_get?_modify r.receivers other id _)
  | scrolling s => exact congrArg (_ && ·) (isSome_get?_modify r.receivers other id _)
  | scale x => exact congrArg (· && _) (isSome_get?_modify r.windows.live other id _)

/-- Changes of different windows or channels can be made in any order. -/
theorem changed_comm {channel channel' : Channel} (h : id ≠ other ∨ channel ≠ channel')
    {a b : Change C} (ha : a.Within channel) (hb : b.Within channel') :
    (r.changed id a).changed other b = (r.changed other b).changed id a := by
  have hreceivers {f g : Receiver C → Receiver C} (hfg : id = other → ∀ x, f (g x) = g (f x)) :
      (r.modifyReceiver id f).modifyReceiver other g =
        (r.modifyReceiver other g).modifyReceiver id f :=
    congrArg (fun receivers ↦ ({ r with receivers := receivers } : Router C))
      (IdMap.modify_comm hfg)
  have hwindows {f g : Window → Window} (hne : id ≠ other) :
      (r.modifyWindow id f).modifyWindow other g = (r.modifyWindow other g).modifyWindow id f :=
    congrArg (fun live ↦ ({ r with windows := { r.windows with live := live } } : Router C))
      (IdMap.modify_comm fun heq ↦ absurd heq hne)
  have hne (hchannel : channel = channel') : id ≠ other :=
    h.resolve_right fun hne ↦ hne hchannel
  cases a with
  | none => rfl
  | pointer p =>
    cases b with
    | none => rfl
    | pointer p' => exact hreceivers fun heq ↦ absurd heq (hne (ha.trans hb.symm))
    | scrolling s => exact hreceivers fun _ _ ↦ rfl
    | scale scale => rfl
  | scrolling s =>
    cases b with
    | none => rfl
    | pointer p => exact hreceivers fun _ _ ↦ rfl
    | scrolling s' => exact hreceivers fun heq ↦ absurd heq (hne (ha.trans hb.symm))
    | scale scale => rfl
  | scale scale =>
    cases b with
    | none => rfl
    | pointer p => rfl
    | scrolling s => rfl
    | scale scale' => exact hwindows (hne (ha.trans hb.symm))

end Router

end WindowRouting
