import WindowRouting.Plan.Basic

/-!
Transcripts. Any world can keep a transcript of what it takes, notices and calls in one order
(`World.transcribed`), so two courses in it are the same only if the same notices and calls came in
the same order. `Plan.Keeps` says what holds of every notice and every answer of a plan, whatever
the client does; the transcript of a run shows nothing else (`Plan.Keeps.of_noted`).
-/

set_option autoImplicit false
set_option relaxedAutoImplicit false

namespace WindowRouting

variable {C : Client} {S T α β σ : Type}

/-- Something that a world took. -/
inductive Happening (C : Client)
  | noted (notice : Notice)
  /-- A call, which returned unless the client failed in it. -/
  | called (call : Call C) (returned : Bool)

/-- The world that also keeps a transcript. -/
def World.transcribed (W : World C σ) : World C (σ × List (Happening C)) where
  note n w := (W.note n w.1, w.2 ++ [.noted n])
  answer c w :=
    match W.answer c w.1 with
    | (answer, s) => (answer, s, w.2 ++ [.called c answer.isSome])

namespace Plan

variable {P : Notice → Prop} {Q : α → Prop}

/-- All notices of the plan satisfy `P`, and all its answers satisfy `Q`. -/
def Keeps (P : Notice → Prop) (Q : α → Prop) : Plan C S α → Prop
  | .done answer _ => Q answer
  | .note n rest => P n ∧ rest.Keeps P Q
  | .call _ _ resume => ∀ a, (resume a).Keeps P Q

theorem Keeps.map {p : Plan C S α} {Q' : β → Prop} {f : α → β} (hp : p.Keeps P Q)
    (h : ∀ a, Q a → Q' (f a)) (g : S → T) : (p.map f g).Keeps P Q' := by
  induction p with
  | done answer state => exact h answer hp
  | note n rest ih => exact ⟨hp.1, ih hp.2⟩
  | call state c resume ih => exact fun a ↦ ih a (hp a)

theorem Keeps.mono {p : Plan C S α} {P' : Notice → Prop} {Q' : α → Prop} (hp : p.Keeps P Q)
    (hP : ∀ n, P n → P' n) (hQ : ∀ a, Q a → Q' a) : p.Keeps P' Q' := by
  induction p with
  | done answer state => exact hQ answer hp
  | note n rest ih => exact ⟨hP n hp.1, ih hp.2⟩
  | call state c resume ih => exact fun a ↦ ih a (hp a)

/-- An answer of a run is an answer of the plan. -/
theorem Keeps.of_answer {p : Plan C S α} (hp : p.Keeps P Q) (W : World C σ) (w : σ) {a : α}
    (ha : (p.run W w).1 = some a) : Q a := by
  induction p generalizing w with
  | done answer state => exact Option.some.inj ha ▸ hp
  | note n rest ih => exact ih hp.2 _ ha
  | call state c resume ih =>
    simp only [run] at ha
    split at ha
    · exact ih _ (hp _) _ ha
    · cases ha

/-- What every call leaves in place, and every notice of the plan, holds after a run. -/
theorem Keeps.of_invariant {p : Plan C S α} (hp : p.Keeps P Q) {W : World C σ} {I : σ → Prop}
    (hnote : ∀ n w, P n → I w → I (W.note n w)) (hcall : ∀ c w, I w → I (W.answer c w).2) {w : σ}
    (hw : I w) : I (p.run W w).2.2 := by
  induction p generalizing w with
  | done answer state => exact hw
  | note n rest ih => exact ih hp.2 (hnote n w hp.1 hw)
  | call state c resume ih =>
    have hrest := hcall c w hw
    simp only [run]
    revert hrest
    rcases W.answer c w with ⟨_ | a, w'⟩ <;> intro hrest
    · exact hrest
    · exact ih a (hp a) hrest

/-- A notice in the transcript of a run was there before or is a notice of the plan. -/
theorem Keeps.of_noted {p : Plan C S α} (hp : p.Keeps P Q) (W : World C σ) (w : σ)
    (t : List (Happening C)) {n : Notice}
    (hn : .noted n ∈ (p.run W.transcribed (w, t)).2.2.2) : .noted n ∈ t ∨ P n := by
  induction p generalizing w t with
  | done answer state => exact Or.inl hn
  | note m rest ih =>
    rcases ih hp.2 _ _ hn with hn | hn
    · rcases List.mem_append.mp hn with hn | hn
      · exact Or.inl hn
      · obtain rfl := Happening.noted.inj (List.mem_singleton.mp hn)
        exact Or.inr hp.1
    · exact Or.inr hn
  | call state c resume ih =>
    rcases hanswer : W.transcribed.answer c (w, t) with ⟨answer, s, t'⟩
    have ht : t' = t ++ [.called c (W.answer c w).1.isSome] :=
      (congrArg (fun out ↦ out.2.2) hanswer).symm
    have hold (hn : .noted n ∈ t') : .noted n ∈ t := by
      rw [ht] at hn
      rcases List.mem_append.mp hn with hn | hn
      · exact hn
      · cases List.mem_singleton.mp hn
    cases answer with
    | none =>
      simp only [run, hanswer] at hn
      exact Or.inl (hold hn)
    | some a =>
      simp only [run, hanswer] at hn
      exact (ih a (hp a) s t' hn).imp_left hold

end Plan

end WindowRouting
