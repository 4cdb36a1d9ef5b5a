import WindowRouting.Proofs.Steps.Receiver

/-!
The tickets of a window. Each call belongs to at most one window (`Call.owner`), and what happens to
a window adds calls of its own only, on sessions that it had or that are new (`Extends`). Each kind
of step is such an extension (`Receiver.Step.extends`), and so is a chain of steps of a window whose
tickets are in order (`Receiver.Tidy.chain`).
-/

set_option autoImplicit false
set_option relaxedAutoImplicit false

namespace WindowRouting

open Relation

variable {C : Client}

/-- The session or gesture that is called. -/
def Call.ticket? : Call C.ticketed → Option Ticket
  | .drag session _ => some session.ticket
  | .gesture g _ => some g.ticket
  | .window _ _ _ _ | .scaleFactor _ _ => none

/-- The number of the window that a call belongs to. -/
def Call.owner : Call C.ticketed → Option Nat
  | .window listener _ _ _ => some listener.number
  | .drag session _ => some session.ticket.window
  | .gesture g _ => some g.ticket.window
  | .scaleFactor _ _ => none

/-- A session of the pointer has the ticket. -/
def Pointer.Holds (p : Pointer C.ticketed) (x : Ticket) : Prop :=
  ∃ session, p.drag = some session ∧ session.ticket = x

/-- An open gesture has the ticket. -/
def Scrolling.Holds (s : Scrolling C.ticketed) (x : Ticket) : Prop :=
  ∃ swipe, s = some swipe ∧ swipe.gesture.ticket = x

/-- A session or gesture that is going on in a window has the ticket. -/
def Receiver.Holds (receiver : Option (Receiver C.ticketed)) (x : Ticket) : Prop :=
  ∃ r, receiver = some r ∧ (r.pointer.Holds x ∨ r.scrolling.Holds x)

/-- What happened to window number `k` in an act, when `held` were its tickets before and `held'`
are its tickets now. -/
structure Extends (act k : Nat) (held : Ticket → Prop) (h : History C) (held' : Ticket → Prop)
    (h' : History C) : Prop where
  entries : ∃ es, h' = h ++ es ∧ ∀ e ∈ es, e.act = act ∧ (∀ j, e.call.owner = some j → j = k) ∧
    ∀ x, e.call.ticket? = some x → held x ∨ h.length ≤ x.call ∧ x.call < h'.length
  tickets : ∀ x, held' x → held x ∨ x.window = k ∧ h.length ≤ x.call ∧ x.call < h'.length

namespace Extends

variable {act k : Nat} {held held' held'' : Ticket → Prop} {h h' h'' : History C}

theorem of_same (hheld : ∀ x, held' x → held x) : Extends act k held h held' h where
  entries := ⟨[], by simp, by simp⟩
  tickets x hx := Or.inl (hheld x hx)

/-- One more call. -/
theorem of_entry {c : Call C.ticketed} {ok : Bool} (howner : ∀ j, c.owner = some j → j = k)
    (hticket : ∀ x, c.ticket? = some x → held x) (hheld : ∀ x, held' x → held x) :
    Extends act k held h held' (h ++ [⟨act, c, ok⟩]) where
  entries := by
    refine ⟨_, rfl, fun e he ↦ ?_⟩
    rw [List.mem_singleton.mp he]
    exact ⟨rfl, howner, fun x hx ↦ Or.inl (hticket x hx)⟩
  tickets x hx := Or.inl (hheld x hx)

/-- One more call of the listener. -/
theorem of_told {l : Numbered C.Listener} {id : WindowId} {w : Window} {call : WindowCall}
    {ok : Bool} (hl : l.number = k) (hheld : ∀ x, held' x → held x) :
    Extends act k held h held' (h ++ [⟨act, .window l id w call, ok⟩]) := by
  refine of_entry (fun j hj ↦ ?_) (fun x hx ↦ ?_) hheld
  · simp only [Call.owner, Option.some.injEq] at hj
    exact hj.symm.trans hl
  · simp only [Call.ticket?, reduceCtorEq] at hx

/-- One more call of a session. -/
theorem of_drag {session : Ticketed C.Drag} {call : DragCall} {ok : Bool}
    (hsession : held session.ticket) (hk : session.ticket.window = k)
    (hheld : ∀ x, held' x → held x) :
    Extends act k held h held' (h ++ [⟨act, .drag session call, ok⟩]) := by
  refine of_entry (fun j hj ↦ ?_) (fun x hx ↦ ?_) hheld
  · simp only [Call.owner, Option.some.injEq] at hj
    exact hj.symm.trans hk
  · simp only [Call.ticket?, Option.some.injEq] at hx
    exact hx ▸ hsession

/-- One more call of a gesture. -/
theorem of_gesture {gesture : Ticketed C.Gesture} {call : GestureCall} {ok : Bool}
    (hgesture : held gesture.ticket) (hk : gesture.ticket.window = k)
    (hheld : ∀ x, held' x → held x) :
    Extends act k held h held' (h ++ [⟨act, .gesture gesture call, ok⟩]) := by
  refine of_entry (fun j hj ↦ ?_) (fun x hx ↦ ?_) hheld
  · simp only [Call.owner, Option.some.injEq] at hj
    exact hj.symm.trans hk
  · simp only [Call.ticket?, Option.some.injEq] at hx
    exact hx ▸ hgesture

/-- The call of the listener that opens a session or gesture. -/
theorem of_opening {l : Numbered C.Listener} {id : WindowId} {w : Window} {call : WindowCall}
    (hl : l.number = k) (hheld : ∀ x, held' x → held x ∨ x = ⟨l.number, h.length⟩) :
    Extends act k held h held' (h ++ [⟨act, .window l id w call, true⟩]) where
  entries := (of_told hl fun _ hx ↦ hx).entries
  tickets x hx := by
    rcases hheld x hx with hold | rfl
    · exact Or.inl hold
    · exact Or.inr ⟨hl, Nat.le_refl _, by simp⟩

theorem length_le (he : Extends act k held h held' h') : h.length ≤ h'.length := by
  obtain ⟨es, rfl, -⟩ := he.entries
  simp

theorem trans (he : Extends act k held h held' h') (he' : Extends act k held' h' held'' h'') :
    Extends act k held h held'' h'' where
  entries := by
    have hle := he'.length_le
    have htickets := he.tickets
    obtain ⟨es, rfl, hes⟩ := he.entries
    obtain ⟨es', rfl, hes'⟩ := he'.entries
    refine ⟨es ++ es', List.append_assoc _ _ _, fun e hmem ↦ ?_⟩
    rcases List.mem_append.mp hmem with hmem | hmem
    · obtain ⟨hact, howner, hticket⟩ := hes e hmem
      refine ⟨hact, howner, fun x hx ↦ ?_⟩
      rcases hticket x hx with hheld | ⟨hge, hlt⟩
      · exact Or.inl hheld
      · exact Or.inr ⟨hge, by omega⟩
    · obtain ⟨hact, howner, hticket⟩ := hes' e hmem
      refine ⟨hact, howner, fun x hx ↦ ?_⟩
      rcases hticket x hx with hheld | ⟨hge, hlt⟩
      · rcases htickets x hheld with hheld | ⟨-, hge, hlt⟩
        · exact Or.inl hheld
        · exact Or.inr ⟨hge, by omega⟩
      · exact Or.inr ⟨Nat.le_trans (by simp) hge, hlt⟩
  tickets x hx := by
    have hle := he.length_le
    have hle' := he'.length_le
    rcases he'.tickets x hx with hheld | ⟨hk, hge, hlt⟩
    · rcases he.tickets x hheld with hheld | ⟨hk, hge, hlt⟩
      · exact Or.inl hheld
      · exact Or.inr ⟨hk, hge, by omega⟩
    · exact Or.inr ⟨hk, by omega, hlt⟩

/-- The same with other tickets before and now. -/
theorem mono {before now : Ticket → Prop} (he : Extends act k held h held' h')
    (hbefore : ∀ x, held x → before x) (hnow : ∀ x, now x → before x ∨ held' x) :
    Extends act k before h now h' where
  entries := by
    obtain ⟨es, hh, hes⟩ := he.entries
    refine ⟨es, hh, fun e hmem ↦ ?_⟩
    obtain ⟨hact, howner, hticket⟩ := hes e hmem
    exact ⟨hact, howner, fun x hx ↦ (hticket x hx).imp_left (hbefore x)⟩
  tickets x hx := by
    rcases hnow x hx with hx | hx
    · exact Or.inl hx
    · exact (he.tickets x hx).imp_left (hbefore x)

end Extends

/-! ### Steps -/

section Steps

variable {act k : Nat} {id : WindowId} {l : Numbered C.Listener} {cfg : Config} {h h' : History C}
  {e : Event}

theorem Pointer.not_holds {p : Pointer C.ticketed} (hdrag : p.drag = none) (x : Ticket) :
    ¬p.Holds x := by
  rintro ⟨session, hsession, -⟩
  exact nomatch hdrag.symm.trans hsession

theorem Pointer.holds_iff {p : Pointer C.ticketed} {session : Ticketed C.Drag}
    (hdrag : p.drag = some session) {x : Ticket} : p.Holds x ↔ session.ticket = x := by
  simp [Holds, hdrag]

theorem Pointer.Step.extends {p p' : Pointer C.ticketed} (hstep : Step act id l p h e p' h')
    (hl : l.number = k) (hp : ∀ x, p.Holds x → x.window = k) :
    Extends act k p.Holds h p'.Holds h' := by
  -- A call of the session, after which the pointer has the same session or none.
  have hcall {session : Ticketed C.Drag} (hdrag : p.drag = some session) (call : DragCall)
      (ok : Bool) {held : UInt32} {drag : Option (Ticketed C.Drag)}
      (hkeep : ∀ d, drag = some d → d = session) :
      Extends act k p.Holds h (⟨held, drag⟩ : Pointer C.ticketed).Holds
        (h ++ [⟨act, .drag session call, ok⟩]) := by
    have hsession : p.Holds session.ticket := (holds_iff hdrag).mpr rfl
    refine .of_drag hsession (hp _ hsession) ?_
    rintro x ⟨d, hd, rfl⟩
    exact hkeep d hd ▸ hsession
  cases hstep with
  | ignored loc pressed b => exact .of_same fun _ hx ↦ hx
  | refused loc b mask w hmask hfree hdrag => exact .of_told hl fun _ hx ↦ hx
  | begun loc b mask w session ok hmask hfree hdrag =>
    have hopened : Pointer.Holds (⟨p.held ||| mask, some ⟨⟨l.number, h.length⟩, session⟩⟩ :
        Pointer C.ticketed) ⟨l.number, h.length⟩ := ⟨_, rfl, rfl⟩
    refine .trans (.of_opening hl ?_) (.of_drag hopened hl fun _ hx ↦ hx)
    rintro x ⟨_, hd, rfl⟩
    exact Or.inr (congrArg Ticketed.ticket (Option.some.inj hd).symm)
  | pressed loc b mask session ok hmask hfree hdrag =>
    exact hcall hdrag _ ok fun d hd ↦ (Option.some.inj hd).symm
  | released loc b mask session ok hmask hheld hrest hdrag =>
    exact hcall hdrag _ ok fun d hd ↦ (Option.some.inj hd).symm
  | ended loc b mask session ok hmask hheld hrest hdrag => exact hcall hdrag _ ok nofun
  | freed loc b mask hmask hheld hdrag =>
    exact .of_same fun x hx ↦ absurd hx (not_holds rfl x)
  | moved loc session ok hdrag =>
    exact hcall hdrag _ ok fun d hd ↦ Option.some.inj (hd.symm.trans hdrag)
  | passed loc w ok hdrag => exact .of_told hl fun _ hx ↦ hx
  | kept session hdrag => exact .of_same fun _ hx ↦ hx
  | left w ok hdrag => exact .of_told hl fun _ hx ↦ hx

theorem Scrolling.not_holds (x : Ticket) :
    ¬Scrolling.Holds (none : Option (Swipe C.ticketed)) x := by
  rintro ⟨_, hswipe, -⟩
  exact nomatch hswipe

theorem Scrolling.holds_iff {swipe : Swipe C.ticketed} {x : Ticket} :
    Scrolling.Holds (some swipe) x ↔ swipe.gesture.ticket = x := by
  simp [Holds]

theorem Scrolling.Step.extends {s s' : Scrolling C.ticketed} (hstep : Step act id l cfg s h e s' h')
    (hl : l.number = k) (hs : ∀ x, s.Holds x → x.window = k) :
    Extends act k s.Holds h s'.Holds h' := by
  -- A last call of the gesture.
  have hlast {swipe : Swipe C.ticketed} (hswipe : s = some swipe) (call : GestureCall) (ok : Bool) :
      Extends act k s.Holds h (Scrolling.Holds (none : Option (Swipe C.ticketed)))
        (h ++ [⟨act, .gesture swipe.gesture call, ok⟩]) := by
    have hgesture : s.Holds swipe.gesture.ticket := hswipe ▸ holds_iff.mpr rfl
    exact .of_gesture hgesture (hs _ hgesture) fun x hx ↦ absurd hx (not_holds x)
  cases hstep with
  | moved loc native time swipe ok hswipe htime =>
    have hgesture : s.Holds swipe.gesture.ticket := hswipe ▸ holds_iff.mpr rfl
    refine .of_gesture hgesture (hs _ hgesture) fun x hx ↦ ?_
    have hmoved := holds_iff.mp hx
    rw [hswipe, holds_iff]
    exact hmoved
  | timedOut loc native time swipe ok hswipe htime => exact hlast hswipe _ ok
  | refused loc native time w hnone => exact .of_told hl fun x hx ↦ absurd hx (not_holds x)
  | begun loc native time w gesture ok hnone =>
    refine .trans (.of_opening hl ?_) (.of_gesture (holds_iff.mpr rfl) hl fun _ hx ↦ hx)
    intro x hx
    exact Or.inr (holds_iff.mp hx).symm
  | interrupted loc native swipe ok hswipe => exact hlast hswipe _ ok
  | scrolled loc native w ok hnone => exact .of_told hl fun x hx ↦ absurd hx (not_holds x)
  | idle time hnone => exact .of_same fun x hx ↦ absurd hx (not_holds x)
  | stopped time swipe ok hswipe hglides => exact hlast hswipe _ ok
  | broken time swipe hswipe hglides => exact hlast hswipe _ false
  | glided time swipe ok hswipe hglides =>
    have hgesture : s.Holds swipe.gesture.ticket := hswipe ▸ holds_iff.mpr rfl
    have hmomentum : Extends act k s.Holds h s.Holds
        (h ++ [⟨act, .gesture swipe.gesture .momentum, true⟩]) :=
      .of_gesture hgesture (hs _ hgesture) fun _ hx ↦ hx
    exact hmomentum.trans
      (.of_gesture hgesture (hs _ hgesture) fun x hx ↦ absurd hx (not_holds x))

/-- Cancelling what is going on in a window calls what was there before. -/
theorem Receiver.extends_cancels {receiver : Receiver C.ticketed} {held' : Ticket → Prop}
    (hticket : ∀ x, Holds (some receiver) x → x.window = k)
    (hheld : ∀ x, held' x → Holds (some receiver) x) (dragOk gestureOk : Bool) :
    Extends act k (Holds (some receiver)) h held'
      (h ++ receiver.cancels act dragOk gestureOk) := by
  have hgesture (h : History C) : Extends act k (Holds (some receiver)) h held'
      (h ++ receiver.cancelsGesture act gestureOk) := by
    unfold cancelsGesture
    cases hs : receiver.scrolling with
    | none => simpa using Extends.of_same hheld
    | some swipe =>
      have hswipe : Holds (some receiver) swipe.gesture.ticket :=
        ⟨receiver, rfl, Or.inr ⟨swipe, hs, rfl⟩⟩
      exact .of_gesture hswipe (hticket _ hswipe) hheld
  unfold cancels
  cases hd : receiver.pointer.drag with
  | none => exact hgesture h
  | some session =>
    have hsession : Holds (some receiver) session.ticket :=
      ⟨receiver, rfl, Or.inl ⟨session, hd, rfl⟩⟩
    cases dragOk with
    | false => exact .of_drag hsession (hticket _ hsession) hheld
    | true =>
      have hdrag : Extends act k (Holds (some receiver)) h (Holds (some receiver))
          (h ++ [⟨act, .drag session .cancel, true⟩]) :=
        .of_drag hsession (hticket _ hsession) fun _ hx ↦ hx
      simpa using hdrag.trans (hgesture _)

theorem Receiver.Step.extends {cause : Cause C} {o o' : Option (Receiver C.ticketed)}
    (hstep : Step act id cfg cause (o, h) (o', h'))
    (hnumber : ∀ r, o = some r → r.listener.number = k)
    (hticket : ∀ x, Holds o x → x.window = k) : Extends act k (Holds o) h (Holds o') h' := by
  cases hstep with
  | opened l h =>
    refine .of_same ?_
    rintro x ⟨_, hr, hx⟩
    obtain rfl := Option.some.inj hr
    rcases hx with hx | hx
    · exact absurd hx (Pointer.not_holds rfl x)
    · exact absurd hx (Scrolling.not_holds x)
  | @pointer receiver h e p h' hstep =>
    have hinner := hstep.extends (hnumber _ rfl) fun x hx ↦ hticket x ⟨receiver, rfl, Or.inl hx⟩
    refine hinner.mono (fun x hx ↦ ⟨receiver, rfl, Or.inl hx⟩) ?_
    rintro x ⟨_, hr, hx⟩
    obtain rfl := Option.some.inj hr
    rcases hx with hx | hx
    · exact Or.inr hx
    · exact Or.inl ⟨receiver, rfl, Or.inr hx⟩
  | @scrolling receiver h e s h' hstep =>
    have hinner := hstep.extends (hnumber _ rfl) fun x hx ↦ hticket x ⟨receiver, rfl, Or.inr hx⟩
    refine hinner.mono (fun x hx ↦ ⟨receiver, rfl, Or.inr hx⟩) ?_
    rintro x ⟨_, hr, hx⟩
    obtain rfl := Option.some.inj hr
    rcases hx with hx | hx
    · exact Or.inl ⟨receiver, rfl, Or.inl hx⟩
    · exact Or.inr hx
  | told receiver h e w call hcall ok => exact .of_told (hnumber _ rfl) fun _ hx ↦ hx
  | asked receiver h host ok => exact .of_entry nofun nofun fun _ hx ↦ hx
  | closed receiver h dragOk gestureOk =>
    refine receiver.extends_cancels hticket ?_ dragOk gestureOk
    rintro x ⟨_, hr, -⟩
    exact nomatch hr

/-- The window keeps its number. -/
theorem Receiver.Step.number {cause : Cause C} {o o' : Option (Receiver C.ticketed)}
    (hstep : Step act id cfg cause (o, h) (o', h'))
    (hnumber : ∀ r, o = some r → r.listener.number = k)
    (hopening : ∀ l, cause = .opening l → l.number = k) :
    ∀ r, o' = some r → r.listener.number = k := by
  rintro r rfl
  cases hstep with
  | opened l h => exact hopening l rfl
  | @pointer receiver h e p h' hstep => exact hnumber receiver rfl
  | @scrolling receiver h e s h' hstep => exact hnumber receiver rfl
  | told receiver h e w call hcall ok => exact hnumber r rfl
  | asked receiver h host ok => exact hnumber r rfl

/-- Window number `k`, as it is now, and the history go together. -/
structure Receiver.Tidy (k : Nat) (o : Option (Receiver C.ticketed)) (h : History C) : Prop where
  number : ∀ r, o = some r → r.listener.number = k
  held : ∀ x, Holds o x → x.window = k ∧ x.call < h.length
  past : ∀ d ∈ h, ∀ x, d.call.ticket? = some x → x.call < h.length

theorem Receiver.Tidy.step {cause : Cause C} {o o' : Option (Receiver C.ticketed)}
    (htidy : Tidy k o h) (hopening : ∀ l, cause = .opening l → l.number = k)
    (hstep : Step act id cfg cause (o, h) (o', h')) : Tidy k o' h' := by
  have hextends := hstep.extends htidy.number fun x hx ↦ (htidy.held x hx).1
  have hle := hextends.length_le
  refine ⟨hstep.number htidy.number hopening, fun x hx ↦ ?_, ?_⟩
  · rcases hextends.tickets x hx with hold | ⟨hk, -, hlt⟩
    · exact ⟨(htidy.held x hold).1, Nat.lt_of_lt_of_le (htidy.held x hold).2 hle⟩
    · exact ⟨hk, hlt⟩
  · obtain ⟨es, rfl, hes⟩ := hextends.entries
    intro d hd x hx
    rcases List.mem_append.mp hd with hold | hnew
    · exact Nat.lt_of_lt_of_le (htidy.past d hold x hx) hle
    · rcases (hes d hnew).2.2 x hx with hheld | ⟨-, hlt⟩
      · exact Nat.lt_of_lt_of_le (htidy.held x hheld).2 hle
      · exact hlt

/-- What a chain of steps of a window adds. -/
theorem Receiver.Tidy.chain {cause : Cause C} {o o' : Option (Receiver C.ticketed)}
    (htidy : Tidy k o h) (hopening : ∀ l, cause = .opening l → l.number = k)
    (hchain : ReflTransGen (Step act id cfg cause) (o, h) (o', h')) :
    Tidy k o' h' ∧ Extends act k (Holds o) h (Holds o') h' := by
  generalize hend : (o', h') = last at hchain
  induction hchain generalizing o' h' with
  | refl =>
    obtain ⟨rfl, rfl⟩ := Prod.mk.inj hend
    exact ⟨htidy, .of_same fun _ hx ↦ hx⟩
  | @tail mid _ _ hstep ih =>
    obtain ⟨hmid, hextends⟩ := ih (by rfl : (mid.1, mid.2) = _)
    subst hend
    refine ⟨hmid.step hopening hstep, hextends.trans ?_⟩
    exact hstep.extends hmid.number fun x hx ↦ (hmid.held x hx).1

end Steps

end WindowRouting
