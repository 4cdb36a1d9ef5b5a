import WindowRouting.Proofs.Steps.Receiver

/-!
The ids that calls carry. A call to a listener and a query to the host name a window
(`Call.named?`); what happens to a window adds calls that name this window or none
(`Receiver.Step.names`).
-/

set_option autoImplicit false
set_option relaxedAutoImplicit false

namespace WindowRouting

open Relation

variable {C : Client}

/-- The window that a call names. -/
def Call.named? : Call C → Option WindowId
  | .window _ id _ _ | .scaleFactor _ id => some id
  | .drag _ _ | .gesture _ _ => none

/-- From `h` to `h'`, calls were added that name window `id` or none. -/
def Names (id : WindowId) (h h' : History C) : Prop :=
  ∃ es, h' = h ++ es ∧ ∀ e ∈ es, ∀ other, e.call.named? = some other → other = id

namespace Names

variable {act : Nat} {id : WindowId} {h h' h'' : History C}

theorem refl (h : History C) : Names id h h := ⟨[], by simp, nofun⟩

theorem trans (hfirst : Names id h h') (hsecond : Names id h' h'') : Names id h h'' := by
  obtain ⟨es, rfl, hes⟩ := hfirst
  obtain ⟨es', rfl, hes'⟩ := hsecond
  refine ⟨es ++ es', List.append_assoc _ _ _, fun e he ↦ ?_⟩
  rcases List.mem_append.mp he with he | he
  · exact hes e he
  · exact hes' e he

theorem of_entry {e : Entry C} (he : ∀ other, e.call.named? = some other → other = id) :
    Names id h (h ++ [e]) :=
  ⟨[e], rfl, fun _ hd ↦ List.mem_singleton.mp hd ▸ he⟩

theorem of_told (l : Numbered C.Listener) (w : Window) (call : WindowCall) (ok : Bool) :
    Names id h (h ++ [⟨act, .window l id w call, ok⟩]) :=
  of_entry fun _ hother ↦ (Option.some.inj hother).symm

theorem of_drag (session : Ticketed C.Drag) (call : DragCall) (ok : Bool) :
    Names id h (h ++ [⟨act, .drag session call, ok⟩]) :=
  of_entry nofun

theorem of_gesture (gesture : Ticketed C.Gesture) (call : GestureCall) (ok : Bool) :
    Names id h (h ++ [⟨act, .gesture gesture call, ok⟩]) :=
  of_entry nofun

end Names

variable {act : Nat} {id : WindowId} {l : Numbered C.Listener} {cfg : Config} {h h' : History C}
  {e : Event}

theorem Pointer.Step.names {p p' : Pointer C.ticketed} (hstep : Step act id l p h e p' h') :
    Names id h h' := by
  cases hstep with
  | ignored | freed | kept => exact .refl h
  | refused | passed | left => exact .of_told _ _ _ _
  | begun => exact .trans (.of_told _ _ _ _) (.of_drag _ _ _)
  | pressed | released | ended | moved => exact .of_drag _ _ _

theorem Scrolling.Step.names {s s' : Scrolling C.ticketed}
    (hstep : Step act id l cfg s h e s' h') : Names id h h' := by
  cases hstep with
  | idle => exact .refl h
  | refused | scrolled => exact .of_told _ _ _ _
  | begun => exact .trans (.of_told _ _ _ _) (.of_gesture _ _ _)
  | moved | timedOut | interrupted | stopped | broken => exact .of_gesture _ _ _
  | glided => exact .trans (.of_gesture _ _ _) (.of_gesture _ _ _)

/-- Cancelling calls sessions and gestures only. -/
theorem Receiver.names_cancels (receiver : Receiver C.ticketed) (dragOk gestureOk : Bool) :
    Names id h (h ++ receiver.cancels act dragOk gestureOk) := by
  have hgesture (h : History C) : Names id h (h ++ receiver.cancelsGesture act gestureOk) := by
    unfold cancelsGesture
    split
    · rw [List.append_nil]
      exact .refl h
    · exact .of_gesture _ _ _
  unfold cancels
  split
  · exact hgesture h
  · cases dragOk with
    | false => exact .of_drag _ _ _
    | true => simpa using Names.trans (.of_drag _ _ _) (hgesture _)

theorem Receiver.Step.names {cause : Cause C} {o o' : Option (Receiver C.ticketed)}
    (hstep : Step act id cfg cause (o, h) (o', h')) : Names id h h' := by
  cases hstep with
  | opened l h => exact .refl h
  | pointer hstep => exact hstep.names
  | scrolling hstep => exact hstep.names
  | told => exact .of_told _ _ _ _
  | asked => exact .of_entry fun _ hother ↦ (Option.some.inj hother).symm
  | closed receiver h dragOk gestureOk => exact receiver.names_cancels dragOk gestureOk

/-- A chain of steps of a window adds calls that name this window or none. -/
theorem Receiver.names_of_chain {cause : Cause C} {o o' : Option (Receiver C.ticketed)}
    (hchain : ReflTransGen (Step act id cfg cause) (o, h) (o', h')) : Names id h h' := by
  generalize hend : (o', h') = last at hchain
  induction hchain generalizing o' h' with
  | refl =>
    obtain ⟨rfl, rfl⟩ := Prod.mk.inj hend
    exact .refl h'
  | @tail mid _ _ hstep ih =>
    subst hend
    exact (ih rfl).trans hstep.names

end WindowRouting
