import WindowRouting.Proofs.History
import WindowRouting.Proofs.Steps.Courses

/-!
What can happen to the scrolling of a window. `Scrolling.Step` lists small steps, of one call or of
two calls of which the second always follows the first, with the calls that they add to the history,
whatever the client does. A smooth scroll and a discrete scroll can end one gesture and then go on
with something else, so a course of an event comes to one step or to two (`Course.steps`). Facts
about scroll gestures are proved by cases on the steps.
-/

set_option autoImplicit false
set_option relaxedAutoImplicit false

namespace WindowRouting

variable {C : Client}

/-- The steps of the scrolling of window `id`, whose listener is `l`. -/
inductive Scrolling.Step (act : Nat) (id : WindowId) (l : Numbered C.Listener) (cfg : Config)
    (s : Scrolling C.ticketed) (h : History C) :
    Event → Scrolling C.ticketed → History C → Prop
  | moved (loc native : Vec) (time : Timestamp) (swipe : Swipe C.ticketed) (ok : Bool)
      (hs : s = some swipe) (htime : cfg.timedOut time swipe.lastTime = false) :
      Step act id l cfg s h (.smoothScroll loc native time)
        (some (swipe.moved time (cfg.pixels native)))
        (h ++ [⟨act, .gesture swipe.gesture (.motion (cfg.pixels native)
          (swipe.moved time (cfg.pixels native)).velocity), ok⟩])
  | timedOut (loc native : Vec) (time : Timestamp) (swipe : Swipe C.ticketed) (ok : Bool)
      (hs : s = some swipe) (htime : cfg.timedOut time swipe.lastTime = true) :
      Step act id l cfg s h (.smoothScroll loc native time) none
        (h ++ [⟨act, .gesture swipe.gesture .finish, ok⟩])
  /-- The listener fails when it is asked for a gesture. -/
  | refused (loc native : Vec) (time : Timestamp) (w : Window) (hs : s = none) :
      Step act id l cfg s h (.smoothScroll loc native time) none
        (h ++ [⟨act, .window l id w (.beginGesture loc), false⟩])
  /-- A gesture is opened. -/
  | begun (loc native : Vec) (time : Timestamp) (w : Window) (gesture : C.Gesture) (ok : Bool)
      (hs : s = none) :
      Step act id l cfg s h (.smoothScroll loc native time)
        (some (Swipe.moved ⟨⟨⟨l.number, h.length⟩, gesture⟩, time, .zero⟩ time
          (cfg.pixels native)))
        (h ++ [⟨act, .window l id w (.beginGesture loc), true⟩] ++
          [⟨act, .gesture ⟨⟨l.number, h.length⟩, gesture⟩ (.motion (cfg.pixels native)
            (time.velocity time (cfg.pixels native).delta)), ok⟩])
  | interrupted (loc native : Vec) (swipe : Swipe C.ticketed) (ok : Bool) (hs : s = some swipe) :
      Step act id l cfg s h (.discreteScroll loc native) none
        (h ++ [⟨act, .gesture swipe.gesture .cancel, ok⟩])
  | scrolled (loc native : Vec) (w : Window) (ok : Bool) (hs : s = none) :
      Step act id l cfg s h (.discreteScroll loc native) none
        (h ++ [⟨act, .window l id w (.scroll loc (.lines native.neg)), ok⟩])
  /-- There is no gesture to stop. -/
  | idle (time : Timestamp) (hs : s = none) : Step act id l cfg s h (.scrollStop time) none h
  | stopped (time : Timestamp) (swipe : Swipe C.ticketed) (ok : Bool) (hs : s = some swipe)
      (hglides : swipe.glides cfg time = false) :
      Step act id l cfg s h (.scrollStop time) none
        (h ++ [⟨act, .gesture swipe.gesture .finish, ok⟩])
  /-- The gesture fails when it is told to go on by momentum. -/
  | broken (time : Timestamp) (swipe : Swipe C.ticketed) (hs : s = some swipe)
      (hglides : swipe.glides cfg time = true) :
      Step act id l cfg s h (.scrollStop time) none
        (h ++ [⟨act, .gesture swipe.gesture .momentum, false⟩])
  | glided (time : Timestamp) (swipe : Swipe C.ticketed) (ok : Bool) (hs : s = some swipe)
      (hglides : swipe.glides cfg time = true) :
      Step act id l cfg s h (.scrollStop time) none
        (h ++ [⟨act, .gesture swipe.gesture .momentum, true⟩] ++
          [⟨act, .gesture swipe.gesture .finish, ok⟩])

namespace Scrolling

variable {act : Nat} {cfg : Config} {t : Target C.ticketed} {s s' : Scrolling C.ticketed}
  {h h' : History C}

theorem step_of_start {loc native : Vec} {time : Timestamp}
    (hp : (start t loc time (cfg.pixels native)).Reaches act h s' h') :
    Step act t.id t.listener cfg none h (.smoothScroll loc native time) s' h' := by
  rcases hp with ⟨rfl, rfl⟩ | ⟨gesture, hp⟩
  · exact .refused loc native time t.window rfl
  · obtain ⟨rfl, ok, rfl⟩ := Plan.reaches_lastly hp
    exact .begun loc native time t.window gesture ok rfl

/-- A course comes to one step, or ends the open gesture in a first step. -/
theorem Course.steps {e : Event} {plan : Plan C.ticketed (Scrolling C.ticketed) Unit}
    (hcourse : s.Course cfg t e plan) (hp : plan.Reaches act h s' h') :
    Step act t.id t.listener cfg s h e s' h' ∨
      ∃ h₁, Step act t.id t.listener cfg s h e none h₁ ∧
        Step act t.id t.listener cfg none h₁ e s' h' := by
  cases hcourse with
  | begun loc native time hs =>
    subst hs
    exact Or.inl (step_of_start hp)
  | timedOut loc native time swipe hs htime =>
    rcases hp with ⟨rfl, rfl⟩ | ⟨_, hp⟩
    · exact Or.inl (.timedOut loc native time swipe false hs htime)
    · exact Or.inr ⟨_, .timedOut loc native time swipe true hs htime, step_of_start hp⟩
  | moved loc native time swipe hs htime =>
    obtain ⟨rfl, ok, rfl⟩ := Plan.reaches_lastly hp
    exact Or.inl (.moved loc native time swipe ok hs htime)
  | scrolled loc native hs =>
    obtain ⟨rfl, ok, rfl⟩ := Plan.reaches_lastly hp
    exact Or.inl (.scrolled loc native t.window ok hs)
  | interrupted loc native swipe hs =>
    rcases hp with ⟨rfl, rfl⟩ | ⟨_, hp⟩
    · exact Or.inl (.interrupted loc native swipe false hs)
    · obtain ⟨rfl, ok, rfl⟩ := Plan.reaches_lastly hp
      exact Or.inr ⟨_, .interrupted loc native swipe true hs,
        .scrolled loc native t.window ok rfl⟩
  | idle time hs =>
    obtain ⟨rfl, rfl⟩ := hp
    exact Or.inl (.idle time hs)
  | stopped time swipe hs hglides =>
    obtain ⟨rfl, ok, rfl⟩ := Plan.reaches_lastly hp
    exact Or.inl (.stopped time swipe ok hs hglides)
  | glided time swipe hs hglides =>
    rcases hp with ⟨rfl, rfl⟩ | ⟨_, hp⟩
    · exact Or.inl (.broken time swipe hs hglides)
    · obtain ⟨rfl, ok, rfl⟩ := Plan.reaches_lastly hp
      exact Or.inl (.glided time swipe ok hs hglides)

end Scrolling

end WindowRouting
