import WindowRouting.Proofs.Roster
import WindowRouting.Proofs.Steps.Receiver

/-!
What can happen to a router. The client may answer anything and may fail in any call, so a plan can
leave any of a number of states (`Plan.Leaves`). `Router.Step` lists what the events, the closing
and the smaller requests can make of a router, and opening a window is the one thing besides
(`Router.step_of_serve`). An act changes at most one of the routers there are, by one of these, or
adds a new one (`Act.Turn`, `Act.turn_perform`); facts about the stores of routers are proved by
cases on this and look at no plan again.
-/

set_option autoImplicit false
set_option relaxedAutoImplicit false

namespace WindowRouting

variable {C : Client} {S T α β σ : Type}

/-! ### Plans -/

namespace Plan

/-- The plan can leave a state. -/
def Leaves : Plan C S α → S → Prop
  | .done _ s, s' => s' = s
  | .note _ rest, s' => rest.Leaves s'
  | .call s _ resume, s' => s' = s ∨ ∃ a, (resume a).Leaves s'

/-- A run leaves a state that the plan can leave. -/
theorem leaves_run (W : World C σ) (p : Plan C S α) (w : σ) : p.Leaves (p.run W w).2.1 := by
  induction p generalizing w with
  | done answer state => rfl
  | note notice rest ih => exact ih _
  | call state c resume ih =>
    simp only [run]
    split
    · exact Or.inr ⟨_, ih _ _⟩
    · exact Or.inl rfl

theorem leaves_map {f : α → β} {g : S → T} {p : Plan C S α} {t : T} (hp : (p.map f g).Leaves t) :
    ∃ s, t = g s ∧ p.Leaves s := by
  induction p with
  | done answer state => exact ⟨state, hp, rfl⟩
  | note notice rest ih => exact ih hp
  | call state c resume ih =>
    rcases hp with rfl | ⟨a, hrest⟩
    · exact ⟨state, rfl, Or.inl rfl⟩
    · obtain ⟨s, ht, hs⟩ := ih a hrest
      exact ⟨s, ht, Or.inr ⟨a, hs⟩⟩

theorem eq_of_leaves_lastly {answer : α} {s s' : S} {c : Call C}
    (hp : (lastly answer s c).Leaves s') : s' = s := by
  rcases hp with hs | ⟨_, hs⟩
  · exact hs
  · exact hs

end Plan

/-! ### One router -/

/-- What the router can become without a window being opened. -/
inductive Router.Step (r : Router C) : Router C → Prop
  | stay : Step r r
  | pointer (id : WindowId) (p : Pointer C) :
      Step r (r.modifyReceiver id fun receiver ↦ { receiver with pointer := p })
  | scrolling (id : WindowId) (s : Scrolling C) :
      Step r (r.modifyReceiver id fun receiver ↦ { receiver with scrolling := s })
  | rescaled (id : WindowId) (scale : Float32) (hscale : validScale scale = true) :
      Step r (r.modifyWindow id (·.withScale scale))
  | closed {id : WindowId} {receiver : Receiver C}
      (hreceiver : r.receivers.get? id = some receiver) : Step r (r.closed id)
  | announced (patch : WindowPatch) : Step r (r.announceWith patch.apply).2
  | hosted (host : C.Host) : Step r { r with host := some host }

namespace Router

variable {r r' : Router C}

/-- A router keeps its settings. -/
theorem Step.config_eq (hstep : r.Step r') : r'.config = r.config := by
  cases hstep <;> rfl

theorem step_of_onPointer {id : WindowId} {p : Plan C (Pointer C) Unit}
    (hp : (r.onPointer id p).Leaves r') : r.Step r' := by
  obtain ⟨pointer, rfl, -⟩ := Plan.leaves_map hp
  exact .pointer id pointer

theorem step_of_onScrolling {id : WindowId} {p : Plan C (Scrolling C) Unit}
    (hp : (r.onScrolling id p).Leaves r') : r.Step r' := by
  obtain ⟨scrolling, rfl, -⟩ := Plan.leaves_map hp
  exact .scrolling id scrolling

theorem Answered.step {t : Target C} {answer : Option Float32} {plan : Plan C (Router C) Reply}
    (hanswered : r.Answered t answer plan) (hp : plan.Leaves r') : r.Step r' := by
  cases hanswered with
  | unknown => exact Plan.eq_of_leaves_lastly hp ▸ .stay
  | rescaled scale hscale => exact Plan.eq_of_leaves_lastly hp ▸ .rescaled t.id scale hscale
  | refused scale => exact Plan.eq_of_leaves_lastly hp ▸ .stay

theorem Rescaling.step {t : Target C} {plan : Plan C (Router C) Reply}
    (hcourse : r.Rescaling t plan) (hp : plan.Leaves r') : r.Step r' := by
  cases hcourse with
  | unasked => exact Plan.eq_of_leaves_lastly hp ▸ .stay
  | asked host _ resume hresume =>
    rcases hp with rfl | ⟨answer, hp⟩
    · exact .stay
    · exact (hresume answer).step hp

theorem step_of_handle {t : Target C} {receiver : Receiver C} {e : Event}
    (hp : (r.handle t receiver e).Leaves r') : r.Step r' := by
  -- A call after which the router stays as it is.
  have hasked {c : Call C} {resume : c.Answer → Plan C (Router C) Reply}
      (hp : (Plan.call r c resume).Leaves r')
      (hresume : ∀ a, (resume a).Leaves r' → r' = r) : r.Step r' := by
    rcases hp with rfl | ⟨a, hp⟩
    · exact .stay
    · exact hresume a hp ▸ .stay
  cases e with
  | draw context => exact Plan.eq_of_leaves_lastly hp ▸ .stay
  | scale => exact (r.course_rescale t).step hp
  | hitTest loc => exact hasked hp fun _ h ↦ h
  | keyPress key => exact hasked hp fun _ h ↦ h
  | keyRelease key => exact hasked hp fun _ h ↦ h
  | button loc pressed b => exact step_of_onPointer hp
  | motion loc => exact step_of_onPointer hp
  | leave => exact step_of_onPointer hp
  | discreteScroll loc native => exact step_of_onScrolling hp
  | smoothScroll loc native time => exact step_of_onScrolling hp
  | scrollStop time => exact step_of_onScrolling hp

theorem step_of_deliver {id : WindowId} {e : Event} {plan : Plan C (Router C) Reply}
    (hplan : r.deliver id e = .ok plan) (hp : plan.Leaves r') : r.Step r' := by
  unfold deliver at hplan
  split at hplan
  case h_1 => exact nomatch hplan
  case h_2 t receiver _ =>
    obtain rfl := Except.ok.inj hplan
    exact step_of_handle hp

theorem Cancelling.eq_of_leaves {id : WindowId} {receiver : Receiver C}
    {plan : Plan C (Router C) Unit} (hcourse : r.Cancelling id receiver plan)
    (hp : plan.Leaves r') : r' = r := by
  cases hcourse with
  | idle => exact hp
  | swiping swipe =>
    rcases hp with hp | ⟨_, hp⟩
    all_goals exact hp
  | dragging session =>
    rcases hp with hp | ⟨_, hp⟩
    all_goals exact hp
  | both session swipe =>
    rcases hp with hp | ⟨_, hp | ⟨_, hp⟩⟩
    all_goals exact hp

/-- However the cancelling goes, the window has been closed before. -/
theorem eq_closed_of_close {id : WindowId} {plan : Plan C (Router C) Unit}
    (hplan : r.close id = .ok plan) (hp : plan.Leaves r') :
    (∃ receiver, r.receivers.get? id = some receiver) ∧ r' = r.closed id := by
  unfold close at hplan
  cases hreceiver : r.receivers.get? id with
  | none => simp [hreceiver] at hplan
  | some receiver =>
    rw [hreceiver] at hplan
    obtain rfl := Except.ok.inj hplan
    exact ⟨⟨receiver, rfl⟩, ((r.closed id).course_cancelAll id receiver).eq_of_leaves hp⟩

/-- A request opens a window, or the router makes a step. -/
theorem step_of_serve {q : Request C} {plan : Plan C (Router C) Answer}
    (hplan : r.serve q = .ok plan) (hp : plan.Leaves r') :
    (∃ d listener, q = .create d listener ∧ r' = (r.opened d listener).2) ∨ r.Step r' := by
  cases q with
  | create d listener =>
    obtain rfl := Except.ok.inj hplan
    obtain ⟨_, rfl, hp⟩ := Plan.leaves_map hp
    exact Or.inl ⟨d, listener, rfl, hp⟩
  | close id =>
    obtain ⟨inner, hinner, rfl⟩ := map_eq_ok hplan
    obtain ⟨_, rfl, hp⟩ := Plan.leaves_map hp
    obtain ⟨⟨receiver, hreceiver⟩, rfl⟩ := eq_closed_of_close hinner hp
    exact Or.inr (.closed hreceiver)
  | send id e =>
    obtain ⟨inner, hinner, rfl⟩ := map_eq_ok hplan
    obtain ⟨_, rfl, hp⟩ := Plan.leaves_map hp
    exact Or.inr (step_of_deliver hinner hp)
  | announce patch =>
    obtain rfl := Except.ok.inj hplan
    exact Or.inr (hp ▸ .announced patch)
  | attachHost host =>
    obtain rfl := Except.ok.inj hplan
    exact Or.inr (hp ▸ .hosted host)
  | resolve h =>
    obtain ⟨_, -, rfl⟩ := map_eq_ok hplan
    exact Or.inr (hp ▸ .stay)
  | config =>
    obtain rfl := Except.ok.inj hplan
    exact Or.inr (hp ▸ .stay)
  | handle id =>
    obtain rfl := Except.ok.inj hplan
    exact Or.inr (hp ▸ .stay)
  | window id =>
    obtain rfl := Except.ok.inj hplan
    exact Or.inr (hp ▸ .stay)
  | windows =>
    obtain rfl := Except.ok.inj hplan
    exact Or.inr (hp ▸ .stay)

/-- A signal is delivered as an event to the window of its handle, if it is delivered. -/
theorem signal_eq_ok {h : Handle} {q : Signal} {plan : Plan C (Router C) Reply}
    (hplan : r.signal h q = .ok plan) :
    ∃ id e, r.resolve h = .ok id ∧ q.event = .ok e ∧ r.deliver id e = .ok plan := by
  unfold signal at hplan
  cases hid : r.resolve h with
  | error e => simp [hid, bind, Except.bind] at hplan
  | ok id =>
    cases he : q.event with
    | error e => simp [hid, he, bind, Except.bind] at hplan
    | ok e =>
      simp only [hid, he, bind, Except.bind] at hplan
      exact ⟨id, e, rfl, rfl, hplan⟩

theorem step_of_signal {h : Handle} {q : Signal} {plan : Plan C (Router C) Reply}
    (hplan : r.signal h q = .ok plan) (hp : plan.Leaves r') : r.Step r' := by
  obtain ⟨id, e, -, -, hdeliver⟩ := signal_eq_ok hplan
  exact step_of_deliver hdeliver hp

end Router

/-! ### One act -/

namespace Act

/-- What an act can make of the routers of a roster. -/
inductive Turn (s : Roster C) : Act C σ → List (Router C) → Prop
  | installed (config : Config) : Turn s (.install config) (s.routers ++ [.new config])
  | unchanged (a : Act C σ) : Turn s a s.routers
  | stepped (a : Act C σ) {i : Nat} {r r' : Router C} (hcurrent : s.current = some (i, r))
      (hstep : r.Step r') : Turn s a (s.routers.set i r')
  | opened {i : Nat} {r : Router C} (hcurrent : s.current = some (i, r)) (d : Descriptor)
      (listener : C.Listener) :
      Turn s (.request (.create d listener)) (s.routers.set i (r.opened d listener).2)

variable {W : World C σ} {s : Roster C} {w : σ}

/-- No router is thrown away. -/
theorem Turn.length_le {a : Act C σ} {routers : List (Router C)} (hturn : Turn s a routers) :
    s.routers.length ≤ routers.length := by
  cases hturn with
  | installed config => exact List.length_append ▸ Nat.le_add_right _ _
  | unchanged => exact Nat.le_refl _
  | stepped | opened => exact List.length_set ▸ Nat.le_refl _

/-- A router that is there after an act is new, made a step or opened a window. -/
theorem Turn.before {a : Act C σ} {routers : List (Router C)} (hturn : Turn s a routers) {j : Nat}
    {r' : Router C} (hr' : routers[j]? = some r') :
    (j = s.routers.length ∧ ∃ config, r' = .new config) ∨
      (∃ r, s.routers[j]? = some r ∧ r.Step r') ∨
      ∃ r d listener, s.current = some (j, r) ∧ a = .request (.create d listener) ∧
        r' = (r.opened d listener).2 := by
  cases hturn with
  | installed config =>
    rcases Nat.lt_or_ge j s.routers.length with hlt | hge
    · rw [List.getElem?_append_left hlt] at hr'
      exact Or.inr (Or.inl ⟨r', hr', .stay⟩)
    · rw [List.getElem?_append_right hge, List.getElem?_singleton] at hr'
      split at hr'
      case isTrue hj =>
        obtain rfl := Option.some.inj hr'
        exact Or.inl ⟨Nat.le_antisymm (Nat.sub_eq_zero_iff_le.mp hj) hge, config, rfl⟩
      case isFalse => exact nomatch hr'
  | unchanged => exact Or.inr (Or.inl ⟨r', hr', .stay⟩)
  | @stepped _ i r _ hcurrent hstep =>
    rw [Roster.getElem?_set_of_current hcurrent] at hr'
    split at hr'
    case isTrue hij =>
      subst hij
      obtain rfl := Option.some.inj hr'
      exact Or.inr (Or.inl ⟨r, (Roster.current_eq_some_iff.mp hcurrent).2, hstep⟩)
    case isFalse => exact Or.inr (Or.inl ⟨r', hr', .stay⟩)
  | @opened i r hcurrent d listener =>
    rw [Roster.getElem?_set_of_current hcurrent] at hr'
    split at hr'
    case isTrue hij =>
      subst hij
      obtain rfl := Option.some.inj hr'
      exact Or.inr (Or.inr ⟨r, d, listener, hcurrent, rfl, rfl⟩)
    case isFalse => exact Or.inr (Or.inl ⟨r', hr', .stay⟩)

theorem turn_of_none (hcurrent : s.current = none) (a : Act C σ) (seat : Seat C) :
    Turn s a (s.update seat).routers := by
  rw [Roster.update_of_none hcurrent]
  exact .unchanged a

theorem turn_request (q : Request C) :
    Turn s (.request q : Act C σ) (perform W s w (.request q)).1.routers := by
  cases hcurrent : s.current with
  | none => exact turn_of_none hcurrent _ _
  | some found =>
    obtain ⟨i, r⟩ := found
    have hrouter : (Seat.taken r).router.bind (·.serve q) = r.serve q := rfl
    simp only [perform, Roster.seat_of_current hcurrent, Seat.serve, hrouter]
    cases hserve : r.serve q with
    | error e =>
      rw [Roster.update_of_current hcurrent]
      exact .stepped _ hcurrent .stay
    | ok plan =>
      simp only
      rw [Roster.update_of_current hcurrent]
      rcases Router.step_of_serve hserve (Plan.leaves_run W plan w) with
        ⟨d, listener, rfl, hopened⟩ | hstep
      · rw [hopened]
        exact .opened hcurrent d listener
      · exact .stepped _ hcurrent hstep

theorem turn_signal (h : Handle) (q : Signal) :
    Turn s (.signal h q : Act C σ) (perform W s w (.signal h q)).1.routers := by
  cases hcurrent : s.current with
  | none => exact turn_of_none hcurrent _ _
  | some found =>
    obtain ⟨i, r⟩ := found
    have hrouter : (Seat.taken r).router.bind (·.signal h q) = r.signal h q := rfl
    simp only [perform, Roster.seat_of_current hcurrent, Seat.signal, hrouter]
    cases hsignal : r.signal h q with
    | error e =>
      rw [Roster.update_of_current hcurrent]
      exact .stepped _ hcurrent .stay
    | ok plan =>
      have hstep := Router.step_of_signal hsignal (Plan.leaves_run W plan w)
      rcases hrun : plan.run W w with ⟨_ | reply, r', w'⟩
      all_goals
        rw [hrun] at hstep
        simp only [hrun, Roster.update_of_current hcurrent]
        exact .stepped _ hcurrent hstep

/-- An act changes the router in the seat by a step, opens a window there, adds a new router, or
leaves all routers as they are. -/
theorem turn_perform (W : World C σ) (s : Roster C) (w : σ) (a : Act C σ) :
    Turn s a (perform W s w a).1.routers := by
  cases a with
  | install config => exact .installed config
  | reinstall n =>
    have hrouters : (perform W s w (.reinstall n)).1.routers = s.routers := by
      simp only [perform]
      split <;> rfl
    exact hrouters ▸ .unchanged _
  | uninstall => exact .unchanged _
  | request q => exact turn_request q
  | signal h q => exact turn_signal h q
  | elapse change => exact .unchanged _

end Act

end WindowRouting
