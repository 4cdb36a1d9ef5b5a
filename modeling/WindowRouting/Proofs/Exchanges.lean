import WindowRouting.Proofs.Steps.Courses

/-!
What a plan exchanges with the client: the calls that it makes in a world, with the answers
(`Plan.exchanges`). `Plan.Takes` lists the states and exchanges that a plan can come to whatever the
client does. All events of a window but the change of its scale leave the windows as they are, and
call the listener with the window as it is stored (`Router.Undisturbed`); what a change of scale can
come to is listed by `Router.Rescales`.
-/

set_option autoImplicit false
set_option relaxedAutoImplicit false

namespace WindowRouting

variable {C : Client} {S T α β σ : Type}

/-- A call with the answer to it, which is missing if the client failed. -/
structure Exchange (C : Client) where
  call : Call C
  answer : Option call.Answer

/-! ### Plans -/

namespace Plan

/-- The exchanges of a plan in a world. -/
def exchanges (W : World C σ) : Plan C S α → σ → List (Exchange C)
  | .done _ _, _ => []
  | .note notice rest, w => rest.exchanges W (W.note notice w)
  | .call _ c resume, w =>
    match W.answer c w with
    | (some a, w) => ⟨c, some a⟩ :: (resume a).exchanges W w
    | (none, _) => [⟨c, none⟩]

theorem exchanges_map (W : World C σ) (f : α → β) (g : S → T) (p : Plan C S α) (w : σ) :
    (p.map f g).exchanges W w = p.exchanges W w := by
  induction p generalizing w with
  | done answer state => rfl
  | note notice rest ih => exact ih _
  | call state c resume ih =>
    simp only [map, exchanges]
    rcases W.answer c w with ⟨_ | a, w'⟩
    · rfl
    · simp only [ih]

/-- The plan can leave a state after some exchanges. -/
def Takes : Plan C S α → S → List (Exchange C) → Prop
  | .done _ s, s', es => s' = s ∧ es = []
  | .note _ rest, s', es => rest.Takes s' es
  | .call s c resume, s', es =>
    (s' = s ∧ es = [⟨c, none⟩]) ∨ ∃ a rest, es = ⟨c, some a⟩ :: rest ∧ (resume a).Takes s' rest

theorem takes_run (W : World C σ) (p : Plan C S α) (w : σ) :
    p.Takes (p.run W w).2.1 (p.exchanges W w) := by
  induction p generalizing w with
  | done answer state => exact ⟨rfl, rfl⟩
  | note notice rest ih => exact ih _
  | call state c resume ih =>
    simp only [run, exchanges]
    rcases W.answer c w with ⟨_ | a, w'⟩
    · exact Or.inl ⟨rfl, rfl⟩
    · exact Or.inr ⟨a, _, rfl, ih a w'⟩

theorem takes_map {f : α → β} {g : S → T} {p : Plan C S α} {t : T} {es : List (Exchange C)}
    (hp : (p.map f g).Takes t es) : ∃ s, t = g s ∧ p.Takes s es := by
  induction p generalizing es with
  | done answer state => exact ⟨state, hp.1, rfl, hp.2⟩
  | note notice rest ih => exact ih hp
  | call state c resume ih =>
    rcases hp with ⟨rfl, rfl⟩ | ⟨a, rest, rfl, hrest⟩
    · exact ⟨state, rfl, Or.inl ⟨rfl, rfl⟩⟩
    · obtain ⟨s, ht, hs⟩ := ih a hrest
      exact ⟨s, ht, Or.inr ⟨a, rest, rfl, hs⟩⟩

theorem takes_lastly {answer : α} {s s' : S} {c : Call C} {es : List (Exchange C)}
    (hp : (lastly answer s c).Takes s' es) : s' = s ∧ ∃ a, es = [⟨c, a⟩] := by
  rcases hp with ⟨hs, hes⟩ | ⟨a, rest, rfl, hs, rfl⟩
  · exact ⟨hs, none, hes⟩
  · exact ⟨hs, some a, rfl⟩

/-- All calls of the plan satisfy `P`. -/
def Calls (P : Call C → Prop) : Plan C S α → Prop
  | .done _ _ => True
  | .note _ rest => rest.Calls P
  | .call _ c resume => P c ∧ ∀ a, (resume a).Calls P

theorem Calls.of_takes {P : Call C → Prop} {p : Plan C S α} (hp : p.Calls P) {s : S}
    {es : List (Exchange C)} (htakes : p.Takes s es) : ∀ e ∈ es, P e.call := by
  induction p generalizing es with
  | done answer state =>
    obtain ⟨-, rfl⟩ := htakes
    exact nofun
  | note notice rest ih => exact ih hp htakes
  | call state c resume ih =>
    rcases htakes with ⟨-, rfl⟩ | ⟨a, rest, rfl, hrest⟩
    · exact fun e he ↦ List.mem_singleton.mp he ▸ hp.1
    · exact List.forall_mem_cons.mpr ⟨hp.1, ih a (hp.2 a) hrest⟩

end Plan

/-! ### The pointer and the scrolling -/

/-- The call is made to a session or a gesture, or to the listener with the window as it is. -/
def Target.Addresses (t : Target C) : Call C → Prop
  | .window _ id window _ => id = t.id ∧ window = t.window
  | .drag _ _ | .gesture _ _ => True
  | .scaleFactor _ _ => False

section Calls

variable {t : Target C} {e : Event}

theorem Pointer.Course.calls {p : Pointer C} {plan : Plan C (Pointer C) Unit}
    (h : p.Course t e plan) : plan.Calls t.Addresses := by
  cases h with
  | untracked => exact trivial
  | held => exact trivial
  | begun => exact ⟨⟨rfl, rfl⟩, fun _ ↦ ⟨trivial, fun _ ↦ trivial⟩⟩
  | pressed => exact ⟨trivial, fun _ ↦ trivial⟩
  | notHeld => exact trivial
  | freed => exact trivial
  | ended => exact ⟨trivial, fun _ ↦ trivial⟩
  | released => exact ⟨trivial, fun _ ↦ trivial⟩
  | moved => exact ⟨trivial, fun _ ↦ trivial⟩
  | passed => exact ⟨⟨rfl, rfl⟩, fun _ ↦ trivial⟩
  | kept => exact trivial
  | left => exact ⟨⟨rfl, rfl⟩, fun _ ↦ trivial⟩

theorem Scrolling.Course.calls {s : Scrolling C} {cfg : Config} {plan : Plan C (Scrolling C) Unit}
    (h : s.Course cfg t e plan) : plan.Calls t.Addresses := by
  cases h with
  | begun => exact ⟨⟨rfl, rfl⟩, fun _ ↦ ⟨trivial, fun _ ↦ trivial⟩⟩
  | timedOut => exact ⟨trivial, fun _ ↦ ⟨⟨rfl, rfl⟩, fun _ ↦ ⟨trivial, fun _ ↦ trivial⟩⟩⟩
  | moved => exact ⟨trivial, fun _ ↦ trivial⟩
  | scrolled => exact ⟨⟨rfl, rfl⟩, fun _ ↦ trivial⟩
  | interrupted => exact ⟨trivial, fun _ ↦ ⟨⟨rfl, rfl⟩, fun _ ↦ trivial⟩⟩
  | idle => exact trivial
  | stopped => exact ⟨trivial, fun _ ↦ trivial⟩
  | glided => exact ⟨trivial, fun _ ↦ ⟨trivial, fun _ ↦ trivial⟩⟩

end Calls

/-! ### Events -/

namespace Router

variable {r r' : Router C} {t : Target C} {es : List (Exchange C)}

/-- The windows are as they were, and the listener of one of them was called with it as it is. -/
structure Undisturbed (r : Router C) (t : Target C) (r' : Router C) (es : List (Exchange C)) :
    Prop where
  windows_eq : r'.windows = r.windows
  addresses : ∀ e ∈ es, t.Addresses e.call

theorem undisturbed_of_handle {x : Receiver C} {e : Event} (he : e ≠ .scale)
    (hp : (r.handle t x e).Takes r' es) : r.Undisturbed t r' es := by
  have hpointer {p : Plan C (Pointer C) Unit} (hp : (r.onPointer t.id p).Takes r' es)
      (hcalls : p.Calls t.Addresses) : r.Undisturbed t r' es := by
    obtain ⟨pointer, rfl, htakes⟩ := Plan.takes_map hp
    exact ⟨rfl, hcalls.of_takes htakes⟩
  have hscrolling {p : Plan C (Scrolling C) Unit} (hp : (r.onScrolling t.id p).Takes r' es)
      (hcalls : p.Calls t.Addresses) : r.Undisturbed t r' es := by
    obtain ⟨scrolling, rfl, htakes⟩ := Plan.takes_map hp
    exact ⟨rfl, hcalls.of_takes htakes⟩
  -- The listener is called once, and the router stays as it is.
  have hcalled {call : WindowCall} {resume : call.Answer C → Plan C (Router C) Reply}
      (hp : (Plan.call r (t.call call) resume).Takes r' es)
      (hresume : ∀ a rest, (resume a).Takes r' rest → r' = r ∧ rest = []) :
      r.Undisturbed t r' es := by
    rcases hp with ⟨rfl, rfl⟩ | ⟨a, rest, rfl, hrest⟩
    · exact ⟨rfl, fun e he ↦ List.mem_singleton.mp he ▸ ⟨rfl, rfl⟩⟩
    · obtain ⟨rfl, rfl⟩ := hresume a rest hrest
      exact ⟨rfl, fun e he ↦ List.mem_singleton.mp he ▸ ⟨rfl, rfl⟩⟩
  cases e with
  | scale => exact absurd rfl he
  | draw context => exact hcalled hp fun _ _ h ↦ h
  | hitTest loc => exact hcalled hp fun _ _ h ↦ h
  | keyPress key => exact hcalled hp fun _ _ h ↦ h
  | keyRelease key => exact hcalled hp fun _ _ h ↦ h
  | button loc pressed b => exact hpointer hp (x.pointer.course_button t loc pressed b).calls
  | motion loc => exact hpointer hp (x.pointer.course_motion t loc).calls
  | leave => exact hpointer hp (x.pointer.course_leave t).calls
  | discreteScroll loc native =>
    exact hscrolling hp (x.scrolling.course_discrete r.config t loc native).calls
  | smoothScroll loc native time =>
    exact hscrolling hp (x.scrolling.course_smooth r.config t loc native time).calls
  | scrollStop time => exact hscrolling hp (x.scrolling.course_stop r.config t time).calls

/-- The host is asked for the scale factor of the window whose scale may have changed. -/
theorem Rescaling.calls {t : Target C} {plan : Plan C (Router C) Reply}
    (hcourse : r.Rescaling t plan) : plan.Calls fun
      | .scaleFactor _ id => id = t.id
      | _ => True := by
  cases hcourse with
  | unasked => exact ⟨trivial, fun _ ↦ trivial⟩
  | asked host _ resume hresume =>
    refine ⟨rfl, fun answer ↦ ?_⟩
    generalize resume answer = plan, hresume answer = hanswered
    cases hanswered with
    | unknown => exact ⟨trivial, fun _ ↦ trivial⟩
    | rescaled scale => exact ⟨trivial, fun _ ↦ trivial⟩
    | refused scale => exact ⟨trivial, fun _ ↦ trivial⟩

/-- What a change of scale can come to. The host is not there, fails, does not know the scale, names
one that no window can have, or names the new one; the listener is told in all cases but the second,
and may fail. -/
inductive Rescales (r : Router C) (t : Target C) : Router C → List (Exchange C) → Prop
  | unasked (told : Option Unit) : Rescales r t r [⟨t.call .scaleChanged, told⟩]
  | failed (host : C.Host) : Rescales r t r [⟨.scaleFactor host t.id, none⟩]
  | unknown (host : C.Host) (told : Option Unit) :
      Rescales r t r [⟨.scaleFactor host t.id, some none⟩, ⟨t.call .scaleChanged, told⟩]
  | refused (host : C.Host) {scale : Float32} (hscale : validScale scale = false)
      (told : Option Unit) : Rescales r t r
        [⟨.scaleFactor host t.id, some (some scale)⟩, ⟨t.call .scaleChanged, told⟩]
  | rescaled (host : C.Host) {scale : Float32} (hscale : validScale scale = true)
      (told : Option Unit) : Rescales r t (r.modifyWindow t.id (·.withScale scale))
        [⟨.scaleFactor host t.id, some (some scale)⟩,
          ⟨Target.call { t with window := t.window.withScale scale } .scaleChanged, told⟩]

theorem Answered.rescales {t : Target C} {answer : Option Float32}
    {plan : Plan C (Router C) Reply} (hanswered : r.Answered t answer plan) (host : C.Host)
    (hp : plan.Takes r' es) : r.Rescales t r' (⟨.scaleFactor host t.id, some answer⟩ :: es) := by
  cases hanswered with
  | unknown =>
    obtain ⟨rfl, told, rfl⟩ := Plan.takes_lastly hp
    exact .unknown host told
  | rescaled scale hscale =>
    obtain ⟨rfl, told, rfl⟩ := Plan.takes_lastly hp
    exact .rescaled host hscale told
  | refused scale hscale =>
    obtain ⟨rfl, told, rfl⟩ := Plan.takes_lastly hp
    exact .refused host hscale told

theorem Rescaling.rescales {t : Target C} {plan : Plan C (Router C) Reply}
    (hcourse : r.Rescaling t plan) (hp : plan.Takes r' es) : r.Rescales t r' es := by
  cases hcourse with
  | unasked =>
    obtain ⟨rfl, told, rfl⟩ := Plan.takes_lastly hp
    exact .unasked told
  | asked host _ resume hresume =>
    rcases hp with ⟨rfl, rfl⟩ | ⟨answer, rest, rfl, hp⟩
    · exact .failed host
    · exact (hresume answer).rescales host hp

/-! ### Requests -/

/-- Closing a window calls its session and its gesture only. -/
theorem Cancelling.calls {id : WindowId} {x : Receiver C} {plan : Plan C (Router C) Unit}
    (hcourse : r.Cancelling id x plan) : plan.Calls fun
      | .drag _ _ | .gesture _ _ => True
      | _ => False := by
  cases hcourse with
  | idle => exact trivial
  | swiping swipe => exact ⟨trivial, fun _ ↦ trivial⟩
  | dragging session => exact ⟨trivial, fun _ ↦ trivial⟩
  | both session swipe => exact ⟨trivial, fun _ ↦ ⟨trivial, fun _ ↦ trivial⟩⟩

end Router

end WindowRouting
