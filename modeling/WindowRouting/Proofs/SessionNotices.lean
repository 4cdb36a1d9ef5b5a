import WindowRouting.Proofs.Locality
import WindowRouting.Proofs.Steps.Delivery

/-!
What notices say about sessions. A window may have a drag session and a scroll gesture open, and
there are notices that one of these is opened or is over (`SessionKind.opening`,
`SessionKind.ending`). A plan keeps the books (`Plan.Balances`) if it leaves such a notice exactly
when the window comes to have one or to have it no more, except that the call in which it is asked
for may fail. The plans of all events do (`Event.balances_plan`), so as long as no such call fails,
what a plan shows to the world adds up (`Plan.Balances.tally_eq`).
-/

set_option autoImplicit false
set_option relaxedAutoImplicit false

namespace WindowRouting

variable {C : Client} {S T α β σ : Type}

/-! ### What a plan shows -/

namespace Plan

/-- The plan can leave a state after it has shown some happenings to the world. -/
def Shows : Plan C S α → S → List (Happening C) → Prop
  | .done _ s, s', hs => s' = s ∧ hs = []
  | .note n rest, s', hs => ∃ later, hs = .noted n :: later ∧ rest.Shows s' later
  | .call s c resume, s', hs =>
    (s' = s ∧ hs = [.called c false]) ∨
      ∃ a later, hs = .called c true :: later ∧ (resume a).Shows s' later

/-- The transcript of a run has what the plan shows. -/
theorem shows_run (W : World C σ) (p : Plan C S α) (w : σ) (before : List (Happening C)) :
    ∃ hs, (p.run W.transcribed (w, before)).2.2.2 = before ++ hs ∧
      p.Shows (p.run W.transcribed (w, before)).2.1 hs := by
  induction p generalizing w before with
  | done answer state => exact ⟨[], (List.append_nil before).symm, rfl, rfl⟩
  | note n rest ih =>
    obtain ⟨hs, heq, hshows⟩ := ih (W.note n w) (before ++ [.noted n])
    exact ⟨.noted n :: hs, heq.trans (List.append_assoc _ _ _), hs, rfl, hshows⟩
  | call state c resume ih =>
    rcases hanswer : W.transcribed.answer c (w, before) with ⟨answer, w', taken⟩
    have hfirst : (W.answer c w).1 = answer := congrArg Prod.fst hanswer
    have htaken : before ++ [.called c (W.answer c w).1.isSome] = taken :=
      congrArg (fun out ↦ out.2.2) hanswer
    rw [hfirst] at htaken
    subst htaken
    cases answer with
    | none =>
      simp only [run, hanswer]
      exact ⟨[.called c false], rfl, .inl ⟨rfl, rfl⟩⟩
    | some a =>
      simp only [run, hanswer]
      obtain ⟨hs, heq, hshows⟩ := ih a w' (before ++ [.called c true])
      exact ⟨.called c true :: hs, heq.trans (List.append_assoc _ _ _), .inr ⟨a, hs, rfl, hshows⟩⟩

theorem Shows.leaves {p : Plan C S α} {s : S} {hs : List (Happening C)} (h : p.Shows s hs) :
    p.Leaves s := by
  induction p generalizing hs with
  | done answer state => exact h.1
  | note n rest ih =>
    obtain ⟨later, -, hlater⟩ := h
    exact ih hlater
  | call state c resume ih =>
    rcases h with ⟨hs, -⟩ | ⟨a, later, -, hlater⟩
    · exact .inl hs
    · exact .inr ⟨a, ih a hlater⟩

theorem shows_map {f : α → β} {g : S → T} {p : Plan C S α} {t : T} {hs : List (Happening C)}
    (h : (p.map f g).Shows t hs) : ∃ s, t = g s ∧ p.Shows s hs := by
  induction p generalizing hs with
  | done answer state => exact ⟨state, h.1, rfl, h.2⟩
  | note n rest ih =>
    obtain ⟨later, rfl, hlater⟩ := h
    obtain ⟨s, ht, hs⟩ := ih hlater
    exact ⟨s, ht, later, rfl, hs⟩
  | call state c resume ih =>
    rcases h with ⟨rfl, rfl⟩ | ⟨a, later, rfl, hlater⟩
    · exact ⟨state, rfl, .inl ⟨rfl, rfl⟩⟩
    · obtain ⟨s, ht, hs⟩ := ih a hlater
      exact ⟨s, ht, .inr ⟨a, later, rfl, hs⟩⟩

/-- Every notice that is shown is a notice of the plan. -/
theorem Keeps.of_shows {P : Notice → Prop} {Q : α → Prop} {p : Plan C S α} (hp : p.Keeps P Q)
    {s : S} {hs : List (Happening C)} (h : p.Shows s hs) {n : Notice} (hn : .noted n ∈ hs) :
    P n := by
  induction p generalizing hs with
  | done answer state =>
    rw [h.2] at hn
    exact absurd hn List.not_mem_nil
  | note m rest ih =>
    obtain ⟨later, rfl, hlater⟩ := h
    rcases List.mem_cons.mp hn with heq | hn
    · exact Happening.noted.inj heq ▸ hp.1
    · exact ih hp.2 hlater hn
  | call state c resume ih =>
    rcases h with ⟨-, rfl⟩ | ⟨a, later, rfl, hlater⟩
    · exact nomatch List.mem_singleton.mp hn
    · rcases List.mem_cons.mp hn with heq | hn
      · exact nomatch heq
      · exact ih a (hp a) hlater hn

end Plan

/-! ### Sessions and gestures -/

/-- What can be open in a window. -/
inductive SessionKind
  | drag
  | gesture

namespace SessionKind

/-- The words of a notice that one is opened. -/
def opening : SessionKind → List String
  | drag => ["drag session started"]
  | gesture => ["scroll gesture started"]

/-- The words of a notice that one is over. -/
def ending : SessionKind → List String
  | drag => ["drag session ended"]
  | gesture =>
    ["scroll gesture timed out", "scroll gesture interrupted by discrete scroll",
      "scroll gesture ended"]

/-- The window has one. -/
def stored (x : Receiver C) : SessionKind → Bool
  | drag => x.pointer.drag.isSome
  | gesture => x.scrolling.isSome

/-- No notice says both. -/
theorem not_mem_ending (kind : SessionKind) : ∀ message ∈ kind.opening, message ∉ kind.ending := by
  cases kind <;> decide

end SessionKind

/-- A call in which a session or a gesture is asked for. -/
def Call.Begins (c : Call C) : Prop := c.name = "mouse_drag" ∨ c.name = "scroll_gesture"

instance : DecidablePred (Call.Begins (C := C)) := fun c ↦
  inferInstanceAs (Decidable (c.name = "mouse_drag" ∨ c.name = "scroll_gesture"))

/-- How many notices with one of these messages there are about a window. -/
def tally (id : WindowId) (messages : List String) (log : List (Happening C)) : Nat :=
  log.countP fun
    | .noted n => decide (n.window? = some id ∧ n.message ∈ messages)
    | .called _ _ => false

section Tally

variable {id : WindowId} {messages : List String} {log : List (Happening C)} {n : Notice}

theorem tally_append (id : WindowId) (messages : List String) (log new : List (Happening C)) :
    tally id messages (log ++ new) = tally id messages log + tally id messages new :=
  List.countP_append

theorem tally_called (c : Call C) (returned : Bool) :
    tally id messages (.called c returned :: log) = tally id messages log :=
  List.countP_cons_of_neg Bool.false_ne_true

theorem tally_mem (hn : n.About id) (hmessage : n.message ∈ messages) :
    tally id messages (.noted n :: log) = tally id messages log + 1 :=
  List.countP_cons_of_pos (decide_eq_true ⟨hn, hmessage⟩)

theorem tally_not_mem (hmessage : n.message ∉ messages) :
    tally id messages (.noted n :: log) = tally id messages log :=
  List.countP_cons_of_neg (by simp [hmessage])

/-- Nothing is counted if no notice is about the window. -/
theorem tally_eq_zero (h : ∀ n, .noted n ∈ log → ¬n.About id) : tally id messages log = 0 := by
  refine List.countP_eq_zero.mpr fun happening hmem ↦ ?_
  cases happening with
  | noted n =>
    rw [decide_eq_true_eq]
    exact fun hn ↦ h n hmem hn.1
  | called c returned => exact Bool.false_ne_true

end Tally

/-! ### Plans that keep the books -/

namespace Plan

/-- Beginning with one open or not, the plan leaves the notices that one is opened or is over when
this is so, and stores one when one is open. Only the call that asks for one may leave another
state. -/
def Balances (kind : SessionKind) (stored : S → Bool) : Plan C S α → Bool → Prop
  | .done _ s, isOpen => stored s = isOpen
  | .note n rest, isOpen =>
    if n.message ∈ kind.opening then isOpen = false ∧ rest.Balances kind stored true
    else if n.message ∈ kind.ending then isOpen = true ∧ rest.Balances kind stored false
    else rest.Balances kind stored isOpen
  | .call s c resume, isOpen =>
    (stored s = isOpen ∨ c.Begins) ∧ ∀ a, (resume a).Balances kind stored isOpen

variable {kind : SessionKind} {stored : T → Bool} {isOpen : Bool}

theorem Balances.map {f : α → β} {g : S → T} {p : Plan C S α}
    (hp : p.Balances kind (fun s ↦ stored (g s)) isOpen) :
    (p.map f g).Balances kind stored isOpen := by
  induction p generalizing isOpen with
  | done answer state => exact hp
  | note n rest ih =>
    simp only [Balances, Plan.map] at hp ⊢
    split
    · rw [if_pos ‹_›] at hp
      exact ⟨hp.1, ih hp.2⟩
    · rw [if_neg ‹_›] at hp
      split
      · rw [if_pos ‹_›] at hp
        exact ⟨hp.1, ih hp.2⟩
      · rw [if_neg ‹_›] at hp
        exact ih hp
  | call state c resume ih => exact ⟨hp.1, fun a ↦ ih a (hp.2 a)⟩

/-- What a plan that keeps the books shows adds up, if it could open what it asked for. -/
theorem Balances.tally_eq {stored : S → Bool} {p : Plan C S α} (hp : p.Balances kind stored isOpen)
    {s : S} {hs : List (Happening C)} (hshows : p.Shows s hs) {id : WindowId}
    (habout : ∀ n, .noted n ∈ hs → n.About id)
    (hbegins : ∀ c, .called c false ∈ hs → ¬c.Begins) :
    tally id kind.opening hs + isOpen.toNat = tally id kind.ending hs + (stored s).toNat := by
  -- A notice of either kind changes what is open, and is counted on the other side.
  induction p generalizing isOpen hs with
  | done answer state =>
    obtain ⟨rfl, rfl⟩ := hshows
    rw [show stored s = isOpen from hp]
    rfl
  | note n rest ih =>
    obtain ⟨later, rfl, hlater⟩ := hshows
    have hn := habout n List.mem_cons_self
    have hrest {isOpen : Bool} (hp : rest.Balances kind stored isOpen) :=
      ih hp hlater (fun m hm ↦ habout m (List.mem_cons_of_mem _ hm))
        fun c hc ↦ hbegins c (List.mem_cons_of_mem _ hc)
    simp only [Balances] at hp
    split at hp
    · rename_i hopening
      obtain ⟨rfl, hp⟩ := hp
      rw [tally_mem hn hopening, tally_not_mem (kind.not_mem_ending _ hopening), ← hrest hp]
      rfl
    · rename_i hopening
      split at hp
      · rename_i hending
        obtain ⟨rfl, hp⟩ := hp
        rw [tally_not_mem hopening, tally_mem hn hending, Nat.add_right_comm, ← hrest hp]
        rfl
      · rename_i hending
        rw [tally_not_mem hopening, tally_not_mem hending, hrest hp]
  | call state c resume ih =>
    rcases hshows with ⟨rfl, rfl⟩ | ⟨a, later, rfl, hlater⟩
    -- If the call fails, what stands is what was open, unless it was asked for in this call.
    · have hstored := hp.1.resolve_right (hbegins c (List.mem_singleton_self _))
      rw [hstored]
      rfl
    · rw [tally_called, tally_called]
      exact ih a (hp.2 a) hlater (fun m hm ↦ habout m (List.mem_cons_of_mem _ hm))
        fun c hc ↦ hbegins c (List.mem_cons_of_mem _ hc)

end Plan

/-! ### The pointer and the scrolling -/

section Receivers

variable (kind : SessionKind) {t : Target C} {x : Receiver C} {e : Event}

theorem Pointer.Course.balances {plan : Plan C (Pointer C) Unit} (h : x.pointer.Course t e plan) :
    plan.Balances kind (fun p ↦ kind.stored { x with pointer := p }) (kind.stored x) := by
  cases kind with
  | gesture =>
    -- No notice of the pointer is about gestures, and the gesture of the window stays.
    cases h with
    | untracked | held | notHeld | freed | kept => exact rfl
    | begun => exact ⟨.inl rfl, fun _ ↦ ⟨.inl rfl, fun _ ↦ rfl⟩⟩
    | pressed | ended | released | moved | passed | left => exact ⟨.inl rfl, fun _ ↦ rfl⟩
  | drag =>
    have hstored : SessionKind.drag.stored x = x.pointer.drag.isSome := rfl
    cases h with
    | untracked | held | notHeld | kept => exact rfl
    | begun _ _ _ _ _ hdrag =>
      rw [hstored, hdrag]
      exact ⟨rfl, .inr (.inl rfl), fun _ ↦ ⟨.inl rfl, fun _ ↦ rfl⟩⟩
    | pressed _ _ _ session _ _ hdrag =>
      rw [hstored, hdrag]
      exact ⟨.inl rfl, fun _ ↦ rfl⟩
    | freed _ _ _ _ _ hdrag =>
      rw [hstored, hdrag]
      exact rfl
    | ended _ _ _ session _ _ _ hdrag =>
      rw [hstored, hdrag]
      exact ⟨rfl, .inl rfl, fun _ ↦ rfl⟩
    | released _ _ _ session _ _ _ hdrag =>
      rw [hstored, hdrag]
      exact ⟨.inl rfl, fun _ ↦ rfl⟩
    | moved | passed | left => exact ⟨.inl rfl, fun _ ↦ rfl⟩

theorem Scrolling.Course.balances {cfg : Config} {plan : Plan C (Scrolling C) Unit}
    (h : x.scrolling.Course cfg t e plan) :
    plan.Balances kind (fun s ↦ kind.stored { x with scrolling := s }) (kind.stored x) := by
  cases kind with
  | drag =>
    -- No notice of the scrolling is about drag sessions, and the session of the window stays.
    cases h with
    | begun => exact ⟨.inl rfl, fun _ ↦ ⟨.inl rfl, fun _ ↦ rfl⟩⟩
    | timedOut => exact ⟨.inl rfl, fun _ ↦ ⟨.inl rfl, fun _ ↦ ⟨.inl rfl, fun _ ↦ rfl⟩⟩⟩
    | moved | scrolled | stopped => exact ⟨.inl rfl, fun _ ↦ rfl⟩
    | interrupted | glided => exact ⟨.inl rfl, fun _ ↦ ⟨.inl rfl, fun _ ↦ rfl⟩⟩
    | idle => exact rfl
  | gesture =>
    have hstored : SessionKind.gesture.stored x = x.scrolling.isSome := rfl
    have hstart (loc native : Vec) (time : Timestamp) :
        (start t loc time (cfg.pixels native)).Balances .gesture
          (fun s ↦ SessionKind.gesture.stored { x with scrolling := s }) false :=
      ⟨rfl, .inr (.inr rfl), fun _ ↦ ⟨.inl rfl, fun _ ↦ rfl⟩⟩
    cases h with
    | begun loc native time hs =>
      rw [hstored, hs]
      exact hstart loc native time
    | timedOut loc native time swipe hs =>
      rw [hstored, hs]
      exact ⟨rfl, .inl rfl, fun _ ↦ hstart loc native time⟩
    | moved _ _ _ swipe hs =>
      rw [hstored, hs]
      exact ⟨.inl rfl, fun _ ↦ rfl⟩
    | scrolled _ _ hs =>
      rw [hstored, hs]
      exact ⟨.inl rfl, fun _ ↦ rfl⟩
    | interrupted _ _ swipe hs =>
      rw [hstored, hs]
      exact ⟨rfl, .inl rfl, fun _ ↦ ⟨.inl rfl, fun _ ↦ rfl⟩⟩
    | idle _ hs =>
      rw [hstored, hs]
      exact rfl
    | stopped _ swipe hs =>
      rw [hstored, hs]
      exact ⟨rfl, .inl rfl, fun _ ↦ rfl⟩
    | glided _ swipe hs =>
      rw [hstored, hs]
      exact ⟨rfl, .inl rfl, fun _ ↦ ⟨.inl rfl, fun _ ↦ rfl⟩⟩

/-- What an event does in its window keeps the books. -/
theorem Event.balances_plan (t : Target C) (x : Receiver C) (cfg : Config) (host : Option C.Host)
    (e : Event) :
    (e.plan cfg host t x).Balances kind (fun a ↦ kind.stored (a.receiver x)) (kind.stored x) := by
  have htold (t : Target C) (call : WindowCall) {a : Change C}
      (ha : kind.stored (a.receiver x) = kind.stored x) :
      (Plan.lastly Reply.nothing a (t.call call)).Balances kind
        (fun a ↦ kind.stored (a.receiver x)) (kind.stored x) := ⟨.inl ha, fun _ ↦ ha⟩
  cases e with
  | draw context => cases kind <;> exact htold t _ rfl
  | scale =>
    show (t.rescale host).Balances kind (fun a ↦ kind.stored (a.receiver x)) (kind.stored x)
    unfold Target.rescale
    cases host with
    | none => exact htold t _ rfl
    | some host =>
      refine ⟨.inl rfl, fun scale ↦ ?_⟩
      cases scale with
      | none => cases kind <;> exact htold t _ rfl
      | some scale =>
        simp only
        split
        · cases kind <;> exact htold _ _ rfl
        · cases kind <;> exact htold t _ rfl
  | hitTest loc => exact ⟨.inl rfl, fun _ ↦ rfl⟩
  | keyPress key => cases kind <;> exact ⟨.inl rfl, fun _ ↦ rfl⟩
  | keyRelease key => cases kind <;> exact ⟨.inl rfl, fun _ ↦ rfl⟩
  | button loc pressed b => exact .map ((x.pointer.course_button t loc pressed b).balances kind)
  | motion loc => exact .map ((x.pointer.course_motion t loc).balances kind)
  | leave => exact .map ((x.pointer.course_leave t).balances kind)
  | discreteScroll loc native =>
    exact .map ((x.scrolling.course_discrete cfg t loc native).balances kind)
  | smoothScroll loc native time =>
    exact .map ((x.scrolling.course_smooth cfg t loc native time).balances kind)
  | scrollStop time => exact .map ((x.scrolling.course_stop cfg t time).balances kind)

end Receivers

end WindowRouting
