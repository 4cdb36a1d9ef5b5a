import WindowRouting.Proofs.Locality
import WindowRouting.Proofs.Steps.Courses
import WindowRouting.Proofs.Watch

/-!
What stands when the client fails. A router makes its changes before it calls its client, so a
failure in a call leaves what the same request comes to when no call fails (`Plan.Commits`). The
exceptions are the calls whose answer the changes wait for, and the last call of a gesture that has
timed out, which comes before a new gesture (`Router.standing?`). So it is in every request to send
an event or to close a window, whatever call fails (`state_committed`).
-/

set_option autoImplicit false
set_option relaxedAutoImplicit false

namespace WindowRouting

variable {C : Client} {S T α β σ : Type}

/-! ### Worlds without failures -/

/-- The world `V` goes as `W` does where the client of `W` does not fail, and its own client never
fails. -/
structure World.Mends (V W : World C σ) : Prop where
  note : ∀ n w, V.note n w = W.note n w
  answer : ∀ c w a w', W.answer c w = (some a, w') → V.answer c w = (some a, w')
  returns : ∀ c w, (V.answer c w).1.isSome = true

namespace Plan

variable {V W : World C σ}

/-- The call in which the client fails when the plan is followed. -/
def failure? (W : World C σ) : Plan C S α → σ → Option (Call C)
  | .done _ _, _ => none
  | .note notice rest, w => rest.failure? W (W.note notice w)
  | .call _ c resume, w =>
    match W.answer c w with
    | (some a, w) => (resume a).failure? W w
    | (none, _) => some c

/-- The answer is missing exactly if there is a call in which the client fails. -/
theorem run_eq_none_iff (W : World C σ) (p : Plan C S α) (w : σ) :
    (p.run W w).1 = none ↔ (p.failure? W w).isSome = true := by
  induction p generalizing w with
  | done answer state => exact iff_of_false nofun nofun
  | note notice rest ih => exact ih _
  | call state c resume ih =>
    simp only [run, failure?]
    rcases W.answer c w with ⟨_ | a, w'⟩
    · exact iff_of_true rfl rfl
    · exact ih a w'

/-- There is an answer if no call fails. -/
theorem isSome_run (hV : ∀ c w, (V.answer c w).1.isSome = true) (p : Plan C S α) (w : σ) :
    (p.run V w).1.isSome = true := by
  induction p generalizing w with
  | done answer state => rfl
  | note notice rest ih => exact ih _
  | call state c resume ih =>
    have hc := hV c w
    simp only [run]
    cases hanswer : V.answer c w with
    | mk answer w' =>
      rw [hanswer] at hc
      obtain ⟨a, rfl⟩ := Option.isSome_iff_exists.mp hc
      exact ih a w'

/-- The state that stands when the client fails in a call is the one that `standing?` gives for the
call, and else it is what the plan leaves in any case when it goes on. -/
def Commits (standing? : Call C → Option S) : Plan C S α → Prop
  | .done _ _ => True
  | .note _ rest => rest.Commits standing?
  | .call s c resume =>
    (standing? c = some s ∨ standing? c = none ∧ ∀ a s', (resume a).Leaves s' → s' = s) ∧
      ∀ a, (resume a).Commits standing?

variable {standing? : Call C → Option S}

/-- What a plan that commits leaves when the client fails. -/
theorem Commits.run {p : Plan C S α} (hp : p.Commits standing?) (hV : V.Mends W) {w : σ}
    {c : Call C} (hfailed : p.failure? W w = some c) :
    (p.run W w).2.1 = (standing? c).getD (p.run V w).2.1 := by
  induction p generalizing w with
  | done answer state => cases hfailed
  | note notice rest ih =>
    simp only [Plan.run, hV.note]
    exact ih hp hfailed
  | call state c' resume ih =>
    obtain ⟨hstands, hrest⟩ := hp
    simp only [failure?] at hfailed
    cases hanswer : W.answer c' w with
    | mk answer w' =>
      rw [hanswer] at hfailed
      cases answer with
      | some a =>
        simp only [Plan.run, hanswer, hV.answer c' w a w' hanswer]
        exact ih a (hrest a) hfailed
      | none =>
        obtain rfl := Option.some.inj hfailed
        have hleft : (Plan.run W (.call state c' resume) w).2.1 = state := by
          simp only [Plan.run, hanswer]
        rw [hleft]
        rcases hstands with hstanding | ⟨hnone, hleaves⟩
        · rw [hstanding, Option.getD_some]
        · -- In the other world the call returns, and the plan goes on to the state that stands.
          rw [hnone, Option.getD_none]
          have hreturns := hV.returns c' w
          simp only [Plan.run]
          cases hmended : V.answer c' w with
          | mk answer w'' =>
            rw [hmended] at hreturns
            obtain ⟨a, rfl⟩ := Option.isSome_iff_exists.mp hreturns
            exact (hleaves a _ ((resume a).leaves_run V w'')).symm

theorem commits_lastly {answer : α} {s : S} {c : Call C} (hc : standing? c = none) :
    (lastly answer s c).Commits standing? :=
  ⟨Or.inr ⟨hc, fun _ _ hleaves ↦ hleaves⟩, fun _ ↦ trivial⟩

theorem Commits.mapAnswer {p : Plan C S α} (hp : p.Commits standing?) (f : α → β) :
    (p.mapAnswer f).Commits standing? := by
  induction p with
  | done answer state => exact trivial
  | note notice rest ih => exact ih hp
  | call state c resume ih =>
    obtain ⟨hstands, hrest⟩ := hp
    refine ⟨hstands.imp_right fun ⟨hnone, hleaves⟩ ↦ ⟨hnone, fun a s' hs' ↦ ?_⟩,
      fun a ↦ ih a (hrest a)⟩
    obtain ⟨_, rfl, hs⟩ := leaves_map hs'
    exact hleaves a _ hs

end Plan

/-! ### The pointer and the scrolling -/

section Parts

variable {f : Unit → β} {t : Target C} {standing? : Call C → Option T} {e : Event}

/-- The only call that an event of the pointer waits for is the one that asks for a session. -/
theorem Pointer.Course.commits {p : Pointer C} {plan : Plan C (Pointer C) Unit} {g : Pointer C → T}
    (h : p.Course t e plan) (hdrag : ∀ session call, standing? (.drag session call) = none)
    (hbegin : ∀ loc b, standing? (t.call (.beginDrag loc b)) = some (g p))
    (hmotion : ∀ loc, standing? (t.call (.motion loc)) = none)
    (hleave : standing? (t.call .leave) = none) : (plan.map f g).Commits standing? := by
  cases h with
  | untracked => exact trivial
  | held => exact trivial
  | begun => exact ⟨Or.inl (hbegin _ _), fun session ↦ Plan.commits_lastly (hdrag _ _)⟩
  | pressed => exact Plan.commits_lastly (hdrag _ _)
  | notHeld => exact trivial
  | freed => exact trivial
  | ended => exact Plan.commits_lastly (hdrag _ _)
  | released => exact Plan.commits_lastly (hdrag _ _)
  | moved => exact Plan.commits_lastly (hdrag _ _)
  | passed => exact Plan.commits_lastly (hmotion _)
  | kept => exact trivial
  | left => exact Plan.commits_lastly hleave

variable {s : Scrolling C} {cfg : Config} {plan : Plan C (Scrolling C) Unit} {g : Scrolling C → T}

/-- A gesture that has timed out is gone before it is finished, and the new one is not there before
it is opened. -/
theorem Scrolling.Course.commits (h : s.Course cfg t e plan)
    (hbegin : ∀ loc, standing? (t.call (.beginGesture loc)) = some (g none))
    (hfinish : ∀ gesture, standing? (.gesture gesture .finish) = some (g none) ∨
      standing? (.gesture gesture .finish) = none ∧ ∀ loc native time,
        e ≠ .smoothScroll loc native time)
    (hmotion : ∀ gesture amount velocity,
      standing? (.gesture gesture (.motion amount velocity)) = none)
    (hmomentum : ∀ gesture, standing? (.gesture gesture .momentum) = none)
    (hcancel : ∀ gesture, standing? (.gesture gesture .cancel) = none)
    (hscroll : ∀ loc amount, standing? (t.call (.scroll loc amount)) = none) :
    (plan.map f g).Commits standing? := by
  have hstart (loc native : Vec) (time : Timestamp) :
      ((start t loc time (cfg.pixels native)).map f g).Commits standing? :=
    ⟨Or.inl (hbegin loc), fun gesture ↦ Plan.commits_lastly (hmotion _ _ _)⟩
  have hlast (gesture : C.Gesture) :
      (Plan.lastly (f ()) (g none) (.gesture gesture .finish)).Commits standing? :=
    ⟨(hfinish gesture).imp_right fun hnone ↦ ⟨hnone.1, fun _ _ hleaves ↦ hleaves⟩,
      fun _ ↦ trivial⟩
  cases h with
  | begun loc native time => exact hstart loc native time
  | timedOut loc native time swipe =>
    exact ⟨Or.inl ((hfinish _).resolve_right fun hnone ↦ hnone.2 loc native time rfl),
      fun _ ↦ hstart loc native time⟩
  | moved => exact Plan.commits_lastly (hmotion _ _ _)
  | scrolled => exact Plan.commits_lastly (hscroll _ _)
  | interrupted =>
    refine ⟨Or.inr ⟨hcancel _, fun _ _ hleaves ↦ ?_⟩, fun _ ↦ Plan.commits_lastly (hscroll _ _)⟩
    exact Plan.eq_of_leaves_lastly hleaves
  | idle => exact trivial
  | stopped time swipe => exact hlast swipe.gesture
  | glided time swipe =>
    refine ⟨Or.inr ⟨hmomentum _, fun _ _ hleaves ↦ ?_⟩, fun _ ↦ hlast swipe.gesture⟩
    exact Plan.eq_of_leaves_lastly hleaves

end Parts

/-! ### Routers -/

namespace Router

variable {r : Router C} {id : WindowId}

/-- The router without the gesture of a window. -/
def withoutGesture (r : Router C) (id : WindowId) : Router C :=
  r.modifyReceiver id fun x ↦ { x with scrolling := none }

/-- What stands when the client fails in a call that the changes of a request wait for: before there
is an answer to the call for a drag session or for a scale factor, nothing has been changed, and
before a new gesture is there, the old one has been taken away. -/
def standing? (r : Router C) (id : WindowId) (q : Request C) : Call C → Option (Router C)
  | .window _ _ _ (.beginDrag _ _) | .scaleFactor _ _ => some r
  | .window _ _ _ (.beginGesture _) => some (r.withoutGesture id)
  | .gesture _ .finish =>
    match q with
    | .send _ (.smoothScroll _ _ _) => some (r.withoutGesture id)
    | _ => none
  | _ => none

theorem Answered.commits {t : Target C} {answer : Option Float32} {q : Request C}
    {plan : Plan C (Router C) Reply} (hanswered : r.Answered t answer plan) :
    plan.Commits (r.standing? id q) := by
  cases hanswered with
  | unknown => exact Plan.commits_lastly rfl
  | rescaled scale => exact Plan.commits_lastly rfl
  | refused scale => exact Plan.commits_lastly rfl

theorem Rescaling.commits {t : Target C} {q : Request C} {plan : Plan C (Router C) Reply}
    (hcourse : r.Rescaling t plan) : plan.Commits (r.standing? id q) := by
  cases hcourse with
  | unasked => exact Plan.commits_lastly rfl
  | asked host _ resume hresume => exact ⟨Or.inl rfl, fun answer ↦ (hresume answer).commits⟩

theorem commits_handle {t : Target C} {x : Receiver C} (hx : r.receivers.get? t.id = some x)
    (e : Event) : (r.handle t x e).Commits (r.standing? t.id (.send t.id e)) := by
  have hpointer {e : Event} {plan : Plan C (Pointer C) Unit} (hcourse : x.pointer.Course t e plan)
      {q : Request C} : (r.onPointer t.id plan).Commits (r.standing? t.id q) := by
    refine hcourse.commits (fun _ _ ↦ rfl) (fun _ _ ↦ congrArg some ?_) (fun _ ↦ rfl) rfl
    refine (modifyReceiver_eq_self fun receiver hreceiver ↦ ?_).symm
    rw [Option.some.inj (hx.symm.trans hreceiver)]
  cases e with
  | draw context => exact Plan.commits_lastly rfl
  | scale => exact (r.course_rescale t).commits
  | hitTest loc => exact ⟨Or.inr ⟨rfl, fun _ _ hleaves ↦ hleaves⟩, fun _ ↦ trivial⟩
  | keyPress key => exact ⟨Or.inr ⟨rfl, fun _ _ hleaves ↦ hleaves⟩, fun _ ↦ trivial⟩
  | keyRelease key => exact ⟨Or.inr ⟨rfl, fun _ _ hleaves ↦ hleaves⟩, fun _ ↦ trivial⟩
  | button loc pressed b => exact hpointer (x.pointer.course_button t loc pressed b)
  | motion loc => exact hpointer (x.pointer.course_motion t loc)
  | leave => exact hpointer (x.pointer.course_leave t)
  | discreteScroll loc native =>
    exact (x.scrolling.course_discrete r.config t loc native).commits (fun _ ↦ rfl)
      (fun _ ↦ Or.inr ⟨rfl, nofun⟩) (fun _ _ _ ↦ rfl) (fun _ ↦ rfl) (fun _ ↦ rfl) fun _ _ ↦ rfl
  | smoothScroll loc native time =>
    exact (x.scrolling.course_smooth r.config t loc native time).commits (fun _ ↦ rfl)
      (fun _ ↦ Or.inl rfl) (fun _ _ _ ↦ rfl) (fun _ ↦ rfl) (fun _ ↦ rfl) fun _ _ ↦ rfl
  | scrollStop time =>
    exact (x.scrolling.course_stop r.config t time).commits (fun _ ↦ rfl)
      (fun _ ↦ Or.inr ⟨rfl, nofun⟩) (fun _ _ _ ↦ rfl) (fun _ ↦ rfl) (fun _ ↦ rfl) fun _ _ ↦ rfl

/-- A window is closed before anything in it is cancelled. -/
theorem Cancelling.commits {closed : Router C} {x : Receiver C} {plan : Plan C (Router C) Unit}
    (hcourse : closed.Cancelling id x plan) : plan.Commits (r.standing? id (.close id)) := by
  cases hcourse with
  | idle => exact trivial
  | swiping swipe => exact ⟨Or.inr ⟨rfl, fun _ _ hleaves ↦ hleaves⟩, fun _ ↦ trivial⟩
  | dragging session => exact ⟨Or.inr ⟨rfl, fun _ _ hleaves ↦ hleaves⟩, fun _ ↦ trivial⟩
  | both session swipe =>
    refine ⟨Or.inr ⟨rfl, fun _ _ hleaves ↦ ?_⟩, fun _ ↦
      ⟨Or.inr ⟨rfl, fun _ _ hleaves ↦ hleaves⟩, fun _ ↦ trivial⟩⟩
    rcases hleaves with hleaves | ⟨_, hleaves⟩
    all_goals exact hleaves

theorem commits_send {e : Event} {plan : Plan C (Router C) Answer}
    (hplan : r.serve (.send id e) = .ok plan) : plan.Commits (r.standing? id (.send id e)) := by
  obtain ⟨inner, hinner, rfl⟩ := map_eq_ok hplan
  refine Plan.Commits.mapAnswer ?_ _
  unfold deliver at hinner
  split at hinner
  case h_1 => exact nomatch hinner
  case h_2 t x hfind =>
    obtain rfl := Except.ok.inj hinner
    obtain ⟨-, hx, rfl, -⟩ := find?_eq_some_iff.mp hfind
    exact commits_handle hx e

theorem commits_close {plan : Plan C (Router C) Answer} (hplan : r.serve (.close id) = .ok plan) :
    plan.Commits (r.standing? id (.close id)) := by
  obtain ⟨inner, hinner, rfl⟩ := map_eq_ok hplan
  refine Plan.Commits.mapAnswer ?_ _
  unfold close at hinner
  split at hinner
  case h_1 => exact nomatch hinner
  case h_2 x hx =>
    obtain rfl := Except.ok.inj hinner
    exact ((r.closed id).course_cancelAll id x).commits

end Router

/-- Changes come before calls. Whatever event a router is asked to deliver, or whatever window to
close, and in whatever call the client fails then: the router is left as the same request leaves it
in a world that goes alike but in which no call fails. The only exceptions are these: it is left as
it was when the client fails as it is asked for a drag session or for a scale factor, and it is left
without the gesture of the window when the client fails as it is asked for a gesture, or as a smooth
scroll finishes one that has timed out. -/
theorem state_committed {V W : World C σ} (hV : V.Mends W) (r : Router C) {id : WindowId}
    {q : Request C} (hq : q = .close id ∨ ∃ e, q = .send id e) {plan : Plan C (Router C) Answer}
    (hplan : r.serve q = .ok plan) (w : σ) :
    (plan.run V w).1.isSome = true ∧
      ((plan.run W w).1 = none ↔ (plan.failure? W w).isSome = true) ∧
      ∀ c, plan.failure? W w = some c →
        (plan.run W w).2.1 = (r.standing? id q c).getD (plan.run V w).2.1 := by
  refine ⟨Plan.isSome_run hV.returns plan w, Plan.run_eq_none_iff W plan w, fun c hfailed ↦ ?_⟩
  rcases hq with rfl | ⟨e, rfl⟩
  · exact (Router.commits_close hplan).run hV hfailed
  · exact (Router.commits_send hplan).run hV hfailed

theorem World.bare_mends (fails : Call .bare → Bool) :
    (World.bare fun _ ↦ false).Mends (.bare fails) where
  note _ _ := rfl
  answer c w a w' hanswer := by
    simp only [bare] at hanswer ⊢
    split at hanswer
    · exact nomatch hanswer
    · exact hanswer
  returns _ _ := rfl

/-- Sessions fail when they are told that a button is down. -/
def frail : World .bare Unit := .bare fun | .drag _ (.down _ _) => true | _ => false

/-- A router with one window, in which nothing is going on. -/
def oneWindow : Router .bare := ((Router.new default).opened default ()).2

theorem button_down_though_failed : ∃ plan c,
    oneWindow.serve (.send ⟨1, 1⟩ (.button .zero true .left)) = .ok plan ∧
      plan.failure? frail () = some c ∧ c.name = "drag.mouse_down" ∧
      (plan.run frail ()).2.1 = (plan.run (.bare fun _ ↦ false) ()).2.1 := by
  have hfails : (oneWindow.serve (.send ⟨1, 1⟩ (.button .zero true .left))).toOption.any
      (fun plan ↦ (plan.failure? frail ()).any fun c ↦ c.name == "drag.mouse_down" &&
        (oneWindow.standing? ⟨1, 1⟩ (.send ⟨1, 1⟩ (.button .zero true .left)) c).isNone) =
          true := by decide +kernel
  obtain ⟨plan, hplan, hfails⟩ := (Option.any_eq_true _ _).mp hfails
  obtain ⟨c, hc, hcall⟩ := (Option.any_eq_true _ _).mp hfails
  obtain ⟨hname, hnone⟩ := Bool.and_eq_true_iff.mp hcall
  have hserve : oneWindow.serve (.send ⟨1, 1⟩ (.button .zero true .left)) = .ok plan := by
    cases hresult : oneWindow.serve (.send ⟨1, 1⟩ (.button .zero true .left)) with
    | error e => rw [hresult] at hplan; exact nomatch hplan
    | ok plan' => rw [hresult] at hplan; exact congrArg Except.ok (Option.some.inj hplan)
  obtain ⟨-, -, hstands⟩ :=
    state_committed (World.bare_mends _) oneWindow (Or.inr ⟨_, rfl⟩) hserve ()
  refine ⟨plan, c, hserve, hc, beq_iff_eq.mp hname, (hstands c hc).trans ?_⟩
  rw [Option.isNone_iff_eq_none.mp hnone, Option.getD_none]

end WindowRouting
