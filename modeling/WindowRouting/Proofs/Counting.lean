import WindowRouting.Proofs.Locality
import WindowRouting.Proofs.Steps.Courses
import WindowRouting.Scenario.Recorder

/-!
Clients whose sessions and gestures are counted. The answers of such a client depend on nothing but
the arguments of the call (`Manner`), and what it opens is named by the next number
(`Manner.world`). So it makes no difference which numbers were given out before, nor under which id
a window is open: an event that finds its part of a window the same up to a renaming comes to the
same up to the renaming (`Event.parallel_plan`, `Plan.Parallel.run`).
-/

set_option autoImplicit false
set_option relaxedAutoImplicit false

namespace WindowRouting

open Scenario (opensSession)

/-- A client whose sessions and gestures are numbers. -/
abbrev Client.counted (L H : Type) : Client := ⟨L, Nat, Nat, H⟩

variable {L H S S' T T' α β : Type}

/-! ### Answers by arguments -/

/-- How the listeners and the hosts of a client answer: by the arguments of the call alone. -/
structure Manner (L H : Type) where
  hit : L → WindowId → Window → Vec → HitTest
  keyDown : L → WindowId → Window → KeyEvent → Bool
  keyUp : L → WindowId → Window → KeyEvent → Bool
  scale : H → WindowId → Option Float32

namespace Manner

variable (m : Manner L H)

/-- The answer of a listener; a new session or gesture gets the number `serial`. -/
def listen (serial : Nat) (l : L) (id : WindowId) (w : Window) :
    (call : WindowCall) → call.Answer (.counted L H)
  | .hitTest loc => m.hit l id w loc
  | .keyDown key => m.keyDown l id w key
  | .keyUp key => m.keyUp l id w key
  | .beginDrag _ _ | .beginGesture _ => serial
  | .draw _ | .scaleChanged | .motion _ | .leave | .scroll _ _ => ()

/-- The answer to a call. -/
def answer (serial : Nat) : (c : Call (.counted L H)) → c.Answer
  | .window l id w call => m.listen serial l id w call
  | .drag _ _ | .gesture _ _ => ()
  | .scaleFactor host id => m.scale host id

/-- The answers do not tell the ids apart that `f` changes. -/
structure BlindTo (f : WindowId → WindowId) : Prop where
  hit : ∀ l id w loc, m.hit l (f id) w loc = m.hit l id w loc
  keyDown : ∀ l id w key, m.keyDown l (f id) w key = m.keyDown l id w key
  keyUp : ∀ l id w key, m.keyUp l (f id) w key = m.keyUp l id w key
  scale : ∀ host id, m.scale host (f id) = m.scale host id

theorem blindTo_id : m.BlindTo fun id ↦ id :=
  ⟨fun _ _ _ _ ↦ rfl, fun _ _ _ _ ↦ rfl, fun _ _ _ _ ↦ rfl, fun _ _ ↦ rfl⟩

/-- Every point is content, no key is consumed and no scale factor is known. -/
def dull : Manner Unit Unit :=
  ⟨fun _ _ _ _ ↦ .client, fun _ _ _ _ ↦ false, fun _ _ _ _ ↦ false, fun _ _ ↦ none⟩

theorem blindTo_dull (f : WindowId → WindowId) : dull.BlindTo f :=
  ⟨fun _ _ _ _ ↦ rfl, fun _ _ _ _ ↦ rfl, fun _ _ _ _ ↦ rfl, fun _ _ ↦ rfl⟩

end Manner

/-! ### What is written down of a call -/

/-- The channel of the events that lead to a call. -/
def WindowCall.channel : WindowCall → Channel
  | motion _ | leave | beginDrag _ _ => .pointer
  | scroll _ _ | beginGesture _ => .scrolling
  | draw _ | scaleChanged | hitTest _ | keyDown _ | keyUp _ => .other

/-- What is written down of a call. -/
inductive Callback (L H : Type)
  /-- The window may be left out; a session or gesture that was asked for has a number. -/
  | window (listener : L) (id : WindowId) (window : Option Window) (call : WindowCall)
      (serial : Option Nat)
  | drag (session : Nat) (call : DragCall)
  | gesture (gesture : Nat) (call : GestureCall)
  | scaleFactor (host : H) (id : WindowId)

/-- What is written down of a call, where the window is shown in the calls of some channels. -/
def Call.callback (shows : Channel → Bool) (serial : Nat) :
    Call (.counted L H) → Callback L H
  | .window l id w call => .window l id (if shows call.channel then some w else none) call
      (if opensSession call then some serial else none)
  | .drag session call => .drag session call
  | .gesture swipe call => .gesture swipe call
  | .scaleFactor host id => .scaleFactor host id

/-- The calls so far: how many there were, how many sessions and gestures were opened, and what was
written down. -/
structure Tally (L H : Type) where
  calls : Nat
  serial : Nat
  seen : List (Callback L H)

/-- The call asks for a session or a gesture. -/
def Call.opens : Call (.counted L H) → Bool
  | window _ _ _ call => opensSession call
  | _ => false

/-- The tally with one more call. -/
def Tally.after (shows : Channel → Bool) (w : Tally L H) (c : Call (.counted L H)) : Tally L H :=
  let serial := if c.opens then w.serial + 1 else w.serial
  ⟨w.calls + 1, serial, w.seen ++ [c.callback shows serial]⟩

/-- The world of a client that answers in a manner and fails in some of the calls. -/
def Manner.world (m : Manner L H) (shows : Channel → Bool) (fails : Nat → Bool) :
    World (.counted L H) (Tally L H) where
  note _ w := w
  answer c w :=
    (if fails w.calls then none else some (m.answer (w.after shows c).serial c), w.after shows c)

theorem Tally.serial_le_after (shows : Channel → Bool) (w : Tally L H) (c : Call (.counted L H)) :
    w.serial ≤ (w.after shows c).serial := by
  simp only [after]
  split
  · exact Nat.le_succ _
  · exact Nat.le_refl _

namespace Plan

variable {m : Manner L H} {shows : Channel → Bool} {fails : Nat → Bool}

theorem serial_le_run (p : Plan (.counted L H) S α) (w : Tally L H) :
    w.serial ≤ (p.run (m.world shows fails) w).2.2.serial := by
  induction p generalizing w with
  | done answer state => exact Nat.le_refl _
  | note notice rest ih => exact ih w
  | call state c resume ih =>
    have hafter := w.serial_le_after shows c
    simp only [run, Manner.world]
    cases fails w.calls with
    | true => exact hafter
    | false => exact Nat.le_trans hafter (ih _ _)

theorem serial_after_le_run (state : S) (c : Call (.counted L H))
    (resume : c.Answer → Plan (.counted L H) S α) (w : Tally L H) :
    (w.after shows c).serial ≤
      ((Plan.call state c resume).run (m.world shows fails) w).2.2.serial := by
  simp only [run, Manner.world]
  cases fails w.calls with
  | true => exact Nat.le_refl _
  | false => exact serial_le_run _ _

end Plan

/-! ### Renaming -/

/-- A renaming of the numbers and of the ids of windows. -/
structure Renaming where
  serial : Nat → Nat
  id : WindowId → WindowId

/-- The callback with its numbers and ids renamed. -/
def Callback.renamed (ρ : Renaming) : Callback L H → Callback L H
  | .window l id w call serial => .window l (ρ.id id) w call (serial.map ρ.serial)
  | .drag session call => .drag (ρ.serial session) call
  | .gesture swipe call => .gesture (ρ.serial swipe) call
  | .scaleFactor host id => .scaleFactor host (ρ.id id)

/-- The answer of a listener with its number renamed. -/
def WindowCall.renamed (ρ : Renaming) :
    (call : WindowCall) → call.Answer (.counted L H) → call.Answer (.counted L H)
  | beginDrag _ _, session => ρ.serial session
  | beginGesture _, gesture => ρ.serial gesture
  | hitTest _, hit => hit
  | keyDown _, consumed | keyUp _, consumed => consumed
  | draw _, _ | scaleChanged, _ | motion _, _ | leave, _ | scroll _ _, _ => ()

/-- The second call is the first one renamed, and `f` renames its answers. The window of the call
may differ where it is not shown. -/
inductive Call.Renamed (ρ : Renaming) (shows : Channel → Bool) :
    (c c' : Call (.counted L H)) → (c.Answer → c'.Answer) → Prop
  | window (l : L) (id : WindowId) {w w' : Window} (call : WindowCall)
      (hw : shows call.channel = true → w' = w) :
      Renamed ρ shows (.window l id w call) (.window l (ρ.id id) w' call) (call.renamed ρ)
  | drag (session : Nat) (call : DragCall) :
      Renamed ρ shows (.drag session call) (.drag (ρ.serial session) call) fun a ↦ a
  | gesture (gesture : Nat) (call : GestureCall) :
      Renamed ρ shows (.gesture gesture call) (.gesture (ρ.serial gesture) call) fun a ↦ a
  | scaleFactor (host : H) (id : WindowId) :
      Renamed ρ shows (.scaleFactor host id) (.scaleFactor host (ρ.id id)) fun a ↦ a

namespace Call.Renamed

variable {ρ : Renaming} {shows : Channel → Bool} {c c' : Call (.counted L H)}
  {f : c.Answer → c'.Answer} (h : c.Renamed ρ shows c' f)

include h

theorem opens_eq : c'.opens = c.opens := by
  cases h <;> rfl

theorem callback_eq {serial serial' : Nat} (hserial : c.opens = true → ρ.serial serial = serial') :
    c'.callback shows serial' = (c.callback shows serial).renamed ρ := by
  cases h with
  | window l id call hw =>
    simp only [Call.callback, Callback.renamed]
    have hnumber : (if opensSession call then some serial' else none) =
        (if opensSession call then some serial else none).map ρ.serial := by
      split
      case isTrue hopens => rw [Option.map_some, hserial hopens]
      case isFalse => rfl
    rw [hnumber]
    split
    case isTrue hshown => rw [hw hshown]
    case isFalse => rfl
  | _ => rfl

theorem answer_eq {m : Manner L H} (hm : m.BlindTo ρ.id) (hshows : shows .other = true)
    {serial serial' : Nat} (hserial : c.opens = true → ρ.serial serial = serial') :
    m.answer serial' c' = f (m.answer serial c) := by
  cases h with
  | window l id call hw =>
    cases call with
    | hitTest loc => exact (congrArg (m.hit l _ · loc) (hw hshows)).trans (hm.hit l id _ loc)
    | keyDown key =>
      exact (congrArg (m.keyDown l _ · key) (hw hshows)).trans (hm.keyDown l id _ key)
    | keyUp key => exact (congrArg (m.keyUp l _ · key) (hw hshows)).trans (hm.keyUp l id _ key)
    | beginDrag loc b => exact (hserial rfl).symm
    | beginGesture loc => exact (hserial rfl).symm
    | _ => rfl
  | drag session call => rfl
  | gesture gesture call => rfl
  | scaleFactor host id => exact hm.scale host id

end Call.Renamed

/-! ### Plans that are the same up to a renaming -/

namespace Plan

/-- The second plan makes the calls of the first one, renamed, and goes on alike if the answers are
the renamed ones. Its states are those that `g` gives, and its notices may be any. -/
inductive Parallel (ρ : Renaming) (shows : Channel → Bool) (g : S → S') :
    Plan (.counted L H) S α → Plan (.counted L H) S' α → Prop
  | done (answer : α) (state : S) : Parallel ρ shows g (.done answer state) (.done answer (g state))
  | note (n n' : Notice) {p : Plan (.counted L H) S α} {p' : Plan (.counted L H) S' α}
      (hrest : Parallel ρ shows g p p') : Parallel ρ shows g (.note n p) (.note n' p')
  | call (state : S) {c c' : Call (.counted L H)} {f : c.Answer → c'.Answer}
      (hcall : c.Renamed ρ shows c' f) {resume : c.Answer → Plan (.counted L H) S α}
      {resume' : c'.Answer → Plan (.counted L H) S' α}
      (hresume : ∀ a, Parallel ρ shows g (resume a) (resume' (f a))) :
      Parallel ρ shows g (.call state c resume) (.call (g state) c' resume')

variable {ρ : Renaming} {shows : Channel → Bool}

theorem Parallel.map {g : S → S'} {k : T → T'} {p : Plan (.counted L H) S α}
    {p' : Plan (.counted L H) S' α} (hp : p.Parallel ρ shows g p') (f : α → β) {c : S → T}
    {c' : S' → T'} (h : ∀ s, c' (g s) = k (c s)) :
    (p.map f c).Parallel ρ shows k (p'.map f c') := by
  induction hp with
  | done answer state =>
    simp only [Plan.map, h]
    exact .done _ _
  | note n n' hrest ih => exact .note n n' ih
  | call state hcall hresume ih =>
    simp only [Plan.map, h]
    exact .call _ hcall ih

end Plan

/-- From `w` to `v` as much was done as from `w'` to `v'`, and what is written down is the same up
to a renaming. -/
structure Tally.Matches (ρ : Renaming) (w w' v v' : Tally L H) : Prop where
  calls : v'.calls + w.calls = v.calls + w'.calls
  serial : v'.serial + w.serial = v.serial + w'.serial
  seen : v'.seen = v.seen.map (Callback.renamed ρ)

theorem Tally.Matches.trans {ρ : Renaming} {w w' v v' u u' : Tally L H} (h : Matches ρ w w' v v')
    (h' : Matches ρ v v' u u') : Matches ρ w w' u u' where
  calls := by
    have := h.calls
    have := h'.calls
    omega
  serial := by
    have := h.serial
    have := h'.serial
    omega
  seen := h'.seen

/-- Plans that are the same up to a renaming take the same course up to it, if the new numbers are
renamed to the ones that are given out instead. -/
theorem Plan.Parallel.run {ρ : Renaming} {shows : Channel → Bool} {g : S → S'}
    {p : Plan (.counted L H) S α} {p' : Plan (.counted L H) S' α} (hp : p.Parallel ρ shows g p')
    {m : Manner L H} (hm : m.BlindTo ρ.id) (hshows : shows .other = true)
    (fails fails' : Nat → Bool) (w w' : Tally L H)
    (hfails : ∀ k, fails' (w'.calls + k) = fails (w.calls + k))
    (hserial : ∀ j, w.serial < j → j ≤ (p.run (m.world shows fails) w).2.2.serial →
      ρ.serial j + w.serial = j + w'.serial)
    (hseen : w'.seen = w.seen.map (Callback.renamed ρ)) :
    (p'.run (m.world shows fails') w').1 = (p.run (m.world shows fails) w).1 ∧
      (p'.run (m.world shows fails') w').2.1 = g (p.run (m.world shows fails) w).2.1 ∧
      Tally.Matches ρ w w' (p.run (m.world shows fails) w).2.2
        (p'.run (m.world shows fails') w').2.2 := by
  induction hp generalizing w w' with
  | done answer state => exact ⟨rfl, rfl, Nat.add_comm .., Nat.add_comm .., hseen⟩
  | note n n' hrest ih => exact ih w w' hfails hserial hseen
  | @call state c c' f hcall resume resume' hresume ih =>
    have hrest : ∀ j, (w.after shows c).serial < j →
        j ≤ ((Plan.call state c resume).run (m.world shows fails) w).2.2.serial →
        ρ.serial j + w.serial = j + w'.serial :=
      fun j hj ↦ hserial j (Nat.lt_of_le_of_lt (w.serial_le_after shows c) hj)
    have hopened (hopens : c.opens = true) :
        ρ.serial (w.after shows c).serial = (w'.after shows c').serial := by
      have hnumber := hserial (w.after shows c).serial
      simp only [Tally.after, hcall.opens_eq, hopens, if_true] at hnumber ⊢
      have hle : (w.after shows c).serial ≤
          ((Plan.call state c resume).run (m.world shows fails) w).2.2.serial :=
        serial_after_le_run state c resume w
      simp only [Tally.after, hopens, if_true] at hle
      have := hnumber (Nat.lt_succ_self _) hle
      omega
    have hstep : Tally.Matches ρ w w' (w.after shows c) (w'.after shows c') := by
      refine ⟨?_, ?_, ?_⟩
      · simp only [Tally.after]
        omega
      · simp only [Tally.after, hcall.opens_eq]
        split <;> omega
      · have hcallback := hcall.callback_eq hopened
        have hseen' : (w'.after shows c').seen =
            w'.seen ++ [c'.callback shows (w'.after shows c').serial] := rfl
        rw [hseen', hcallback, hseen, ← List.map_singleton, ← List.map_append]
        rfl
    have hanswer := hcall.answer_eq hm hshows hopened
    have hfail : fails' w'.calls = fails w.calls := hfails 0
    cases hfailed : fails w.calls with
    | true =>
      simp only [Plan.run, Manner.world, hfail, hfailed, if_true]
      exact ⟨trivial, trivial, hstep⟩
    | false =>
      have hfails' (k : Nat) : fails' (w'.calls + 1 + k) = fails (w.calls + 1 + k) := by
        rw [Nat.add_assoc, Nat.add_assoc]
        exact hfails (1 + k)
      have hserial' := hstep.serial
      simp only [Plan.run, Manner.world, hfail, hfailed, hanswer, Bool.false_eq_true,
        if_false] at hrest ⊢
      obtain ⟨hanswer', hstate, hmatches⟩ := ih (m.answer (w.after shows c).serial c) _ _ hfails'
        (fun j hj hle ↦ by have := hrest j hj hle; omega) hstep.seen
      exact ⟨hanswer', hstate, hstep.trans hmatches⟩

/-! ### Events -/

section

variable (f : Nat → Nat)

/-- The pointer with its drag session renumbered. -/
def Pointer.renumbered (p : Pointer (.counted L H)) : Pointer (.counted L H) :=
  ⟨p.held, p.drag.map f⟩

/-- The gesture renumbered. -/
def Swipe.renumbered (s : Swipe (.counted L H)) : Swipe (.counted L H) :=
  { s with gesture := f s.gesture }

/-- The scrolling with its gesture renumbered. -/
def Scrolling.renumbered (s : Scrolling (.counted L H)) : Scrolling (.counted L H) :=
  s.map (Swipe.renumbered f)

/-- What is going on in a window, renumbered. -/
def Receiver.renumbered (x : Receiver (.counted L H)) : Receiver (.counted L H) :=
  ⟨x.listener, x.pointer.renumbered f, Scrolling.renumbered f x.scrolling⟩

/-- The change renumbered. -/
def Change.renumbered : Change (.counted L H) → Change (.counted L H)
  | .none => .none
  | .pointer p => .pointer (p.renumbered f)
  | .scrolling s => .scrolling (Scrolling.renumbered f s)
  | .scale x => .scale x

theorem Change.receiver_renumbered (a : Change (.counted L H)) (x : Receiver (.counted L H)) :
    (a.renumbered f).receiver (x.renumbered f) = (a.receiver x).renumbered f := by
  cases a <;> rfl

end

variable {ρ : Renaming} {shows : Channel → Bool}

/-- The second window is the first one under the other id. It may differ where it is not shown. -/
structure Target.Renamed (ρ : Renaming) (shown : Bool) (t t' : Target (.counted L H)) : Prop where
  id : t'.id = ρ.id t.id
  listener : t'.listener = t.listener
  window : shown = true → t'.window = t.window

variable {t t' : Target (.counted L H)}

/-- The window after a renumbered change. -/
theorem Target.Renamed.changed {shown : Bool} (h : t.Renamed ρ shown t') (f : Nat → Nat)
    (a : Change (.counted L H)) : (a.target t).Renamed ρ shown ((a.renumbered f).target t') := by
  cases a with
  | scale x =>
    exact ⟨h.id, h.listener, fun hshown ↦ congrArg (·.withScale x) (h.window hshown)⟩
  | _ => exact h

theorem Target.Renamed.call {call : WindowCall} (h : t.Renamed ρ (shows call.channel) t') :
    (t.call call).Renamed ρ shows (t'.call call) (call.renamed ρ) := by
  obtain ⟨id, w, l⟩ := t
  obtain ⟨id', w', l'⟩ := t'
  obtain ⟨hid, hlistener, hw⟩ := h
  simp only at hid hlistener hw
  subst hid hlistener
  exact .window l' id call hw

theorem Plan.Parallel.lastly {g : S → S'} {c c' : Call (.counted L H)} {f : c.Answer → c'.Answer}
    (hcall : c.Renamed ρ shows c' f) (answer : α) (state : S) :
    (Plan.lastly answer state c).Parallel ρ shows g (Plan.lastly answer (g state) c') :=
  .call state hcall fun _ ↦ .done answer state

/-- A course has its counterpart in the other window, the same up to the renaming. -/
theorem Pointer.Course.parallel {p : Pointer (.counted L H)} {e : Event}
    {plan : Plan (.counted L H) (Pointer (.counted L H)) Unit} (hp : p.Course t e plan)
    (h : t.Renamed ρ (shows .pointer) t') :
    ∃ plan', (p.renumbered ρ.serial).Course t' e plan' ∧
      plan.Parallel ρ shows (Pointer.renumbered ρ.serial) plan' := by
  have hnone (hdrag : p.drag = none) : (p.renumbered ρ.serial).drag = none :=
    congrArg (Option.map ρ.serial) hdrag
  have hsome {session : Nat} (hdrag : p.drag = some session) :
      (p.renumbered ρ.serial).drag = some (ρ.serial session) :=
    congrArg (Option.map ρ.serial) hdrag
  have hhold (loc : Vec) (b : Button) (mask : UInt32) (session : Nat) :
      (p.hold loc b mask session).Parallel ρ shows (renumbered ρ.serial)
        ((p.renumbered ρ.serial).hold loc b mask (ρ.serial session)) :=
    .lastly (.drag session _) () _
  cases hp with
  | untracked loc pressed b hmask =>
    exact ⟨_, .untracked loc pressed b hmask, .note _ _ (.done _ _)⟩
  | held loc b mask hmask hheld =>
    exact ⟨_, .held loc b mask hmask hheld, .note _ _ (.done _ _)⟩
  | begun loc b mask hmask hfree hdrag =>
    exact ⟨_, .begun loc b mask hmask hfree (hnone hdrag),
      .note _ _ (.call _ h.call fun session ↦ hhold loc b mask session)⟩
  | pressed loc b mask session hmask hfree hdrag =>
    exact ⟨_, .pressed loc b mask _ hmask hfree (hsome hdrag), hhold loc b mask session⟩
  | notHeld loc b mask hmask hfree =>
    exact ⟨_, .notHeld loc b mask hmask hfree, .note _ _ (.done _ _)⟩
  | freed loc b mask hmask hheld hdrag =>
    exact ⟨_, .freed loc b mask hmask hheld (hnone hdrag), .done _ _⟩
  | ended loc b mask session hmask hheld hrest hdrag =>
    exact ⟨_, .ended loc b mask _ hmask hheld hrest (hsome hdrag),
      .note _ _ (.lastly (.drag session _) () _)⟩
  | released loc b mask session hmask hheld hrest hdrag =>
    exact ⟨_, .released loc b mask _ hmask hheld hrest (hsome hdrag),
      .lastly (.drag session _) () _⟩
  | moved loc session hdrag =>
    exact ⟨_, .moved loc _ (hsome hdrag), .lastly (.drag session _) () _⟩
  | passed loc hdrag => exact ⟨_, .passed loc (hnone hdrag), .lastly h.call () _⟩
  | kept session hdrag => exact ⟨_, .kept _ (hsome hdrag), .note _ _ (.done _ _)⟩
  | left hdrag => exact ⟨_, .left (hnone hdrag), .lastly h.call () _⟩

/-- A course has its counterpart in the other window, the same up to the renaming. -/
theorem Scrolling.Course.parallel {s : Scrolling (.counted L H)} {cfg : Config} {e : Event}
    {plan : Plan (.counted L H) (Scrolling (.counted L H)) Unit} (hp : s.Course cfg t e plan)
    (h : t.Renamed ρ (shows .scrolling) t') :
    ∃ plan', (Scrolling.renumbered ρ.serial s).Course cfg t' e plan' ∧
      plan.Parallel ρ shows (Scrolling.renumbered ρ.serial) plan' := by
  have hother {s' : Scrolling (.counted L H)} (hs : s = s') :
      Scrolling.renumbered ρ.serial s = Scrolling.renumbered ρ.serial s' :=
    congrArg (Scrolling.renumbered ρ.serial) hs
  have hmove (swipe : Swipe (.counted L H)) (time : Timestamp) (amount : ScrollAmount) :
      (swipe.move time amount).Parallel ρ shows (renumbered ρ.serial)
        ((swipe.renumbered ρ.serial).move time amount) :=
    .lastly (.gesture swipe.gesture _) () _
  have hstart (loc : Vec) (time : Timestamp) (amount : ScrollAmount) :
      (start t loc time amount).Parallel ρ shows (renumbered ρ.serial)
        (start t' loc time amount) :=
    .note _ _ (.call _ h.call fun gesture ↦ hmove ⟨gesture, time, .zero⟩ time amount)
  have hlast (swipe : Swipe (.counted L H)) (call : GestureCall) :
      Plan.Parallel ρ shows (renumbered (L := L) (H := H) ρ.serial)
        (.lastly () none (.gesture swipe.gesture call))
        (.lastly () none (.gesture (ρ.serial swipe.gesture) call)) :=
    .lastly (.gesture swipe.gesture call) () none
  have hwheel (loc native : Vec) :
      Plan.Parallel ρ shows (renumbered (L := L) (H := H) ρ.serial)
        (.lastly () none (t.call (.scroll loc (.lines native.neg))))
        (.lastly () none (t'.call (.scroll loc (.lines native.neg)))) := .lastly h.call () none
  cases hp with
  | begun loc native time hs =>
    exact ⟨_, .begun loc native time (hother hs), hstart loc time _⟩
  | timedOut loc native time swipe hs htime =>
    exact ⟨_, .timedOut loc native time _ (hother hs) htime,
      .note _ _ (.call _ (.gesture swipe.gesture _) fun _ ↦ hstart loc time _)⟩
  | moved loc native time swipe hs htime =>
    exact ⟨_, .moved loc native time _ (hother hs) htime, hmove swipe time _⟩
  | scrolled loc native hs => exact ⟨_, .scrolled loc native (hother hs), hwheel loc native⟩
  | interrupted loc native swipe hs =>
    exact ⟨_, .interrupted loc native _ (hother hs),
      .note _ _ (.call _ (.gesture swipe.gesture _) fun _ ↦ hwheel loc native)⟩
  | idle time hs => exact ⟨_, .idle time (hother hs), .note _ _ (.done _ _)⟩
  | stopped time swipe hs hrest =>
    exact ⟨_, .stopped time _ (hother hs) hrest, .note _ _ (hlast swipe _)⟩
  | glided time swipe hs hmoving =>
    exact ⟨_, .glided time _ (hother hs) hmoving,
      .note _ _ (.call _ (.gesture swipe.gesture _) fun _ ↦ hlast swipe _)⟩

/-- What is known of a window finds its counterpart for the events of a channel: the same window
under the other id, and the same part renumbered. -/
structure Follows (ρ : Renaming) (shows : Channel → Bool) (channel : Channel)
    (t : Target (.counted L H)) (x : Receiver (.counted L H)) (t' : Target (.counted L H))
    (x' : Receiver (.counted L H)) : Prop where
  target : t.Renamed ρ (shows channel) t'
  pointer : channel = .pointer → x'.pointer = x.pointer.renumbered ρ.serial
  scrolling : channel = .scrolling → x'.scrolling = Scrolling.renumbered ρ.serial x.scrolling

theorem Target.Renamed.rescale (h : t.Renamed ρ (shows .other) t') (host : Option H) :
    (t.rescale host).Parallel ρ shows (Change.renumbered ρ.serial)
      (t'.rescale host) := by
  have htold (t t' : Target (.counted L H)) (h : t.Renamed ρ (shows .other) t')
      (a : Change (.counted L H)) : Plan.Parallel ρ shows (Change.renumbered ρ.serial)
        (.lastly Reply.nothing a (t.call .scaleChanged))
        (.lastly .nothing (a.renumbered ρ.serial) (t'.call .scaleChanged)) :=
    .lastly h.call _ _
  obtain ⟨id, w, l⟩ := t
  obtain ⟨id', w', l'⟩ := t'
  have hid : id' = ρ.id id := h.id
  subst hid
  cases host with
  | none => exact htold _ _ h .none
  | some host =>
    refine .call (.none : Change (.counted L H)) (.scaleFactor host id) fun scale ↦ ?_
    cases scale with
    | none => exact .note _ _ (htold _ _ h .none)
    | some scale =>
      simp only
      by_cases hscale : validScale scale = true
      · simp only [hscale, if_true]
        refine .note _ _ (htold _ _ ?_ (.scale scale))
        exact ⟨rfl, h.listener, fun hshown ↦ congrArg (·.withScale scale) (h.window hshown)⟩
      · simp only [hscale]
        exact .note _ _ (htold _ _ h .none)

/-- An event that finds its part of a window the same up to a renaming comes to the same up to the
renaming. -/
theorem Event.parallel_plan {e : Event} {x x' : Receiver (.counted L H)}
    (h : Follows ρ shows e.channel t x t' x') (cfg : Config) (host : Option H) :
    (e.plan cfg host t x).Parallel ρ shows (Change.renumbered ρ.serial)
      (e.plan cfg host t' x') := by
  obtain ⟨htarget, hpointer, hscrolling⟩ := h
  cases e with
  | draw context => exact .note _ _ (.lastly htarget.call _ _)
  | scale => exact htarget.rescale host
  | hitTest loc => exact .call _ htarget.call fun _ ↦ .done _ _
  | keyPress key => exact .call _ htarget.call fun _ ↦ .note _ _ (.done _ _)
  | keyRelease key => exact .call _ htarget.call fun _ ↦ .note _ _ (.done _ _)
  | button loc pressed b =>
    obtain ⟨plan', hcourse, hparallel⟩ :=
      (x.pointer.course_button t loc pressed b).parallel htarget
    simp only [plan, hpointer rfl, ← hcourse.eq_button]
    exact hparallel.map _ fun _ ↦ rfl
  | motion loc =>
    obtain ⟨plan', hcourse, hparallel⟩ := (x.pointer.course_motion t loc).parallel htarget
    simp only [plan, hpointer rfl, ← hcourse.eq_motion]
    exact hparallel.map _ fun _ ↦ rfl
  | leave =>
    obtain ⟨plan', hcourse, hparallel⟩ := (x.pointer.course_leave t).parallel htarget
    simp only [plan, hpointer rfl, ← hcourse.eq_leave]
    exact hparallel.map _ fun _ ↦ rfl
  | discreteScroll loc native =>
    obtain ⟨plan', hcourse, hparallel⟩ :=
      (x.scrolling.course_discrete cfg t loc native).parallel htarget
    simp only [plan, hscrolling rfl, ← hcourse.eq_discrete]
    exact hparallel.map _ fun _ ↦ rfl
  | smoothScroll loc native time =>
    obtain ⟨plan', hcourse, hparallel⟩ :=
      (x.scrolling.course_smooth cfg t loc native time).parallel htarget
    simp only [plan, hscrolling rfl, ← hcourse.eq_smooth]
    exact hparallel.map _ fun _ ↦ rfl
  | scrollStop time =>
    obtain ⟨plan', hcourse, hparallel⟩ :=
      (x.scrolling.course_stop cfg t time).parallel htarget
    simp only [plan, hscrolling rfl, ← hcourse.eq_stop]
    exact hparallel.map _ fun _ ↦ rfl

end WindowRouting
