import WindowRouting.Plan.Call
import WindowRouting.Plan.Notice

/-!
Plans. Serving a request is described by a plan: the notices it leaves and the calls it makes, in
order, each call continued by its answer, and at the end an answer and a state. A call also carries
the state that stands if the client fails in it, since nothing after the call happens then. A plan
is followed in a world, which takes the notices and answers the calls (`Plan.run`).
-/

set_option autoImplicit false
set_option relaxedAutoImplicit false

namespace WindowRouting

/-- What is done to serve a request: `S` is the type of states and `α` that of answers. -/
inductive Plan (C : Client) (S α : Type)
  | done (answer : α) (state : S)
  | note (notice : Notice) (rest : Plan C S α)
  | call (state : S) (c : Call C) (resume : c.Answer → Plan C S α)

/-- Takes notices and answers calls, from a state of its own. An answer is missing when the client
fails. -/
structure World (C : Client) (σ : Type) where
  note : Notice → σ → σ
  answer : (c : Call C) → σ → Option c.Answer × σ

namespace Plan

variable {C : Client} {S T α β : Type}

/-- A last call from a state that is final, whatever comes of the call. -/
def lastly (answer : α) (state : S) (c : Call C) : Plan C S α :=
  .call state c fun _ ↦ .done answer state

/-- The plan with other answers and states. -/
def map (f : α → β) (g : S → T) : Plan C S α → Plan C T β
  | .done answer state => .done (f answer) (g state)
  | .note notice rest => .note notice (rest.map f g)
  | .call state c resume => .call (g state) c fun a ↦ (resume a).map f g

/-- The plan with other answers. -/
def mapAnswer (f : α → β) (p : Plan C S α) : Plan C S β := p.map f fun s ↦ s

/-- Follows a plan in a world. The answer is missing when the client failed. -/
def run {σ : Type} (W : World C σ) : Plan C S α → σ → Option α × S × σ
  | .done answer state, w => (some answer, state, w)
  | .note notice rest, w => rest.run W (W.note notice w)
  | .call state c resume, w =>
    match W.answer c w with
    | (some a, w) => (resume a).run W w
    | (none, w) => (none, state, w)

/-- Changing the answers and states of a plan changes those of its run, and nothing else. -/
theorem run_map {σ : Type} (W : World C σ) (f : α → β) (g : S → T) (p : Plan C S α)
    (w : σ) : (p.map f g).run W w =
      (((p.run W w).1.map f), g (p.run W w).2.1, (p.run W w).2.2) := by
  induction p generalizing w with
  | done answer state => rfl
  | note notice rest ih => exact ih _
  | call state c resume ih =>
    simp only [map, run]
    split
    · exact ih _ _
    · rfl

theorem map_map {U γ : Type} (f : α → β) (g : S → T) (f' : β → γ) (g' : T → U)
    (p : Plan C S α) : (p.map f g).map f' g' = p.map (fun a ↦ f' (f a)) fun s ↦ g' (g s) := by
  induction p with
  | done answer state => rfl
  | note notice rest ih => simp only [map, ih]
  | call state c resume ih => simp only [map, ih]

end Plan

/-- A relation between the states of two worlds under which they go alike: they take notices alike
and give the same answers. -/
structure World.Alike {C : Client} {σ τ : Type} (V : World C σ) (W : World C τ)
    (R : σ → τ → Prop) : Prop where
  note : ∀ {v w}, R v w → ∀ n, R (V.note n v) (W.note n w)
  answer : ∀ {v w}, R v w → ∀ c,
    (V.answer c v).1 = (W.answer c w).1 ∧ R (V.answer c v).2 (W.answer c w).2

/-- In worlds that go alike a plan takes the same course. -/
theorem Plan.run_alike {C : Client} {S α σ τ : Type} {V : World C σ} {W : World C τ}
    {R : σ → τ → Prop} (h : V.Alike W R) (p : Plan C S α) {v : σ} {w : τ} (hvw : R v w) :
    (p.run V v).1 = (p.run W w).1 ∧ (p.run V v).2.1 = (p.run W w).2.1 ∧
      R (p.run V v).2.2 (p.run W w).2.2 := by
  induction p generalizing v w with
  | done answer state => exact ⟨rfl, rfl, hvw⟩
  | note notice rest ih => exact ih (h.note hvw notice)
  | call state c resume ih =>
    have hanswer := h.answer hvw c
    simp only [run]
    revert hanswer
    rcases V.answer c v with ⟨_ | a, v'⟩ <;> rcases W.answer c w with ⟨_ | a', w'⟩ <;>
      rintro ⟨hanswer, hrest⟩
    · exact ⟨rfl, rfl, hrest⟩
    · exact nomatch hanswer
    · exact nomatch hanswer
    · obtain rfl := Option.some.inj hanswer
      exact ih a hrest

end WindowRouting
