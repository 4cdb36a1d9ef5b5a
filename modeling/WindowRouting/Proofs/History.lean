import Mathlib.Data.List.Basic
import WindowRouting.Plan.Basic

/-!
Histories of calls. A client may answer anything when it is asked for a session or a gesture, so
what it answers does not tell two sessions apart. Here each of them carries a ticket: the number of
the window that asked for it and the number of the call in which it was asked for. Tickets are
given out by the world around the client (`World.watched`), which also writes down every call and
whether it returned; the client itself never sees a ticket (`Call.plain`). `Plan.Reaches` lists
what a plan can come to whatever the client does, and `reaches_run` says that a watched run is one
of these.
-/

set_option autoImplicit false
set_option relaxedAutoImplicit false

namespace WindowRouting

/-- What tells a session or gesture apart from all others. -/
structure Ticket where
  /-- The number of the window that asked for it. -/
  window : Nat
  /-- The number of the call in which it was asked for. -/
  call : Nat
deriving DecidableEq, Repr

/-- A session or gesture with its ticket. -/
structure Ticketed (α : Type) where
  ticket : Ticket
  value : α

/-- A listener with the number of its window. -/
structure Numbered (α : Type) where
  number : Nat
  value : α

/-- The client whose sessions and gestures carry tickets. -/
abbrev Client.ticketed (C : Client) : Client where
  Listener := Numbered C.Listener
  Drag := Ticketed C.Drag
  Gesture := Ticketed C.Gesture
  Host := C.Host

variable {C : Client} {S T α β σ : Type}

/-- What the elements of a list come to, each looked at together with those before it. -/
def gather (f : List α → α → Option β) (l : List α) : List β :=
  (List.range l.length).filterMap fun n ↦ l[n]?.bind (f (l.take n))

theorem gather_snoc (f : List α → α → Option β) (l : List α) (a : α) :
    gather f (l ++ [a]) = gather f l ++ (f l a).toList := by
  unfold gather
  rw [List.length_append, List.length_singleton, List.range_succ, List.filterMap_append]
  congr 1
  · refine List.filterMap_congr fun n hn ↦ ?_
    have hlt := List.mem_range.mp hn
    rw [List.getElem?_append_left hlt, List.take_append_of_le_length (Nat.le_of_lt hlt)]
  · rw [List.filterMap_cons, List.getElem?_concat_length, List.take_left' rfl, Option.bind_some]
    cases f l a <;> rfl

/-- The call without numbers and tickets. -/
def Call.plain : Call C.ticketed → Call C
  | .window listener id w call => .window listener.value id w call
  | .drag d call => .drag d.value call
  | .gesture g call => .gesture g.value call
  | .scaleFactor host id => .scaleFactor host id

/-- The answer to a call of a listener, where a new session or gesture gets the ticket `x`. -/
def WindowCall.stamp (x : Ticket) : (call : WindowCall) → call.Answer C → call.Answer C.ticketed
  | .beginDrag _ _, session => Ticketed.mk x session
  | .beginGesture _, gesture => Ticketed.mk x gesture
  | .draw _, a | .scaleChanged, a | .hitTest _, a | .keyDown _, a | .keyUp _, a | .motion _, a
  | .leave, a | .scroll _ _, a => a

/-- The answer to call number `n`, where a new session or gesture gets a ticket. -/
def Call.stamp (n : Nat) : (c : Call C.ticketed) → c.plain.Answer → c.Answer
  | .window listener _ _ call, a => call.stamp ⟨listener.number, n⟩ a
  | .drag _ _, a | .gesture _ _, a | .scaleFactor _ _, a => a

/-- A call that was made. -/
structure Entry (C : Client) where
  /-- The number of the act in which it was made. -/
  act : Nat
  call : Call C.ticketed
  /-- The call returned; else the client failed in it. -/
  returned : Bool

/-- The calls that were made, the oldest first. -/
abbrev History (C : Client) := List (Entry C)

/-- The world that gives out tickets and writes down the calls of an act. -/
def World.watched (W : World C σ) (act : Nat) : World C.ticketed (σ × History C) where
  note n w := (W.note n w.1, w.2)
  answer c w :=
    match W.answer c.plain w.1 with
    | (some a, s) => (some (c.stamp w.2.length a), s, w.2 ++ [⟨act, c, true⟩])
    | (none, s) => (none, s, w.2 ++ [⟨act, c, false⟩])

namespace Plan

/-- A plan can come to state `s'` and history `h'`, when `h` is the history before it. -/
def Reaches (act : Nat) : Plan C.ticketed S α → History C → S → History C → Prop
  | .done _ s, h, s', h' => s' = s ∧ h' = h
  | .note _ rest, h, s', h' => rest.Reaches act h s' h'
  | .call s c resume, h, s', h' =>
    (s' = s ∧ h' = h ++ [⟨act, c, false⟩]) ∨
      ∃ a, (resume (c.stamp h.length a)).Reaches act (h ++ [⟨act, c, true⟩]) s' h'

variable {act : Nat} {h h' : History C}

/-- A watched run comes to a state and a history that the plan can come to. -/
theorem reaches_run (W : World C σ) (act : Nat) (p : Plan C.ticketed S α) (w : σ)
    (h : History C) : p.Reaches act h (p.run (W.watched act) (w, h)).2.1
      (p.run (W.watched act) (w, h)).2.2.2 := by
  induction p generalizing w h with
  | done answer state => exact ⟨rfl, rfl⟩
  | note notice rest ih => exact ih _ _
  | call state c resume ih =>
    simp only [run, World.watched]
    cases hanswer : W.answer c.plain w with
    | mk answer s =>
      cases answer with
      | none => exact Or.inl ⟨rfl, rfl⟩
      | some a => exact Or.inr ⟨a, ih _ _ _⟩

theorem reaches_map {f : α → β} {g : S → T} {p : Plan C.ticketed S α} {t : T}
    (hp : (p.map f g).Reaches act h t h') : ∃ s, t = g s ∧ p.Reaches act h s h' := by
  induction p generalizing h with
  | done answer state => exact ⟨state, hp.1, rfl, hp.2⟩
  | note notice rest ih => exact ih hp
  | call state c resume ih =>
    rcases hp with ⟨ht, hh⟩ | ⟨a, hrest⟩
    · exact ⟨state, ht, Or.inl ⟨rfl, hh⟩⟩
    · obtain ⟨s, ht, hs⟩ := ih _ hrest
      exact ⟨s, ht, Or.inr ⟨a, hs⟩⟩

/-- A last call adds an entry and leaves the state. -/
theorem reaches_lastly {answer : α} {s s' : S} {c : Call C.ticketed}
    (hp : (lastly answer s c).Reaches act h s' h') :
    s' = s ∧ ∃ ok, h' = h ++ [⟨act, c, ok⟩] := by
  rcases hp with ⟨hs, hh⟩ | ⟨-, hs, hh⟩
  · exact ⟨hs, false, hh⟩
  · exact ⟨hs, true, hh⟩

/-- A plan can come to state `s'` and history `h'` without a failure of the client. -/
def Completes (act : Nat) : Plan C.ticketed S α → History C → S → History C → Prop
  | .done _ s, h, s', h' => s' = s ∧ h' = h
  | .note _ rest, h, s', h' => rest.Completes act h s' h'
  | .call _ c resume, h, s', h' =>
    ∃ a, (resume (c.stamp h.length a)).Completes act (h ++ [⟨act, c, true⟩]) s' h'

/-- If all calls returned then there was no failure. -/
theorem Reaches.completes {p : Plan C.ticketed S α} {s : S} (hp : p.Reaches act h s h')
    (hreturned : ∀ e ∈ h', e.returned = true) : p.Completes act h s h' := by
  induction p generalizing h with
  | done answer state => exact hp
  | note notice rest ih => exact ih hp
  | call state c resume ih =>
    rcases hp with ⟨-, rfl⟩ | ⟨a, hrest⟩
    · exact nomatch hreturned _ (List.mem_append_right _ (List.mem_singleton_self _))
    · exact ⟨a, ih _ hrest⟩

theorem completes_map {f : α → β} {g : S → T} {p : Plan C.ticketed S α} {t : T}
    (hp : (p.map f g).Completes act h t h') : ∃ s, t = g s ∧ p.Completes act h s h' := by
  induction p generalizing h with
  | done answer state => exact ⟨state, hp.1, rfl, hp.2⟩
  | note notice rest ih => exact ih hp
  | call state c resume ih =>
    obtain ⟨a, hrest⟩ := hp
    obtain ⟨s, ht, hs⟩ := ih _ hrest
    exact ⟨s, ht, a, hs⟩

theorem completes_lastly {answer : α} {s s' : S} {c : Call C.ticketed}
    (hp : (lastly answer s c).Completes act h s' h') : s' = s ∧ h' = h ++ [⟨act, c, true⟩] := by
  obtain ⟨-, hs, hh⟩ := hp
  exact ⟨hs, hh⟩

end Plan

namespace History

/-- Each call, looked at together with the calls before it. -/
def EachCall (P : History C → Entry C → Prop) (h : History C) : Prop :=
  ∀ before e after, h = before ++ e :: after → P before e

variable {P : History C → Entry C → Prop}

theorem EachCall.of_append {h es : History C} (hall : EachCall P (h ++ es)) : EachCall P h := by
  intro before e after hh
  exact hall before e (after ++ es) (by rw [hh, List.append_assoc, List.cons_append])

theorem eachCall_snoc {h : History C} {e : Entry C} :
    EachCall P (h ++ [e]) ↔ EachCall P h ∧ P h e := by
  constructor
  · intro hall
    exact ⟨hall.of_append, hall h e [] rfl⟩
  · rintro ⟨hall, hlast⟩ before d after hsplit
    rcases List.eq_nil_or_concat after with rfl | ⟨rest, last, rfl⟩
    · obtain ⟨rfl, hd⟩ := List.append_inj' hsplit rfl
      simp only [List.cons.injEq, and_true] at hd
      exact hd ▸ hlast
    · rw [List.concat_eq_append, ← List.cons_append, ← List.append_assoc] at hsplit
      exact hall before d rest (List.append_inj_left' hsplit rfl)

end History

end WindowRouting
