import WindowRouting.Config
import WindowRouting.Plan.Basic

/-!
Scrolling of a window. Smooth scroll events form gestures: an event continues the open gesture of
its window if it comes within the timeout after the event before it, and starts a new one otherwise.
A gesture ends when it times out or when the fingers are lifted, and is cancelled when a discrete
scroll interrupts it. It leaves the window before it is called for the last time.
-/

set_option autoImplicit false
set_option relaxedAutoImplicit false

namespace WindowRouting

/-- An open scroll gesture. -/
structure Swipe (C : Client) where
  gesture : C.Gesture
  /-- The time of its last event. -/
  lastTime : Timestamp
  /-- The velocity of its last motion. -/
  velocity : Vec

/-- The scroll gesture of a window, if one is open. -/
abbrev Scrolling (C : Client) := Option (Swipe C)

/-- The velocity of a displacement that took the time from `earlier` to `time`; there is none if no
time passed. -/
def Timestamp.velocity (time earlier : Timestamp) (displacement : Vec) : Vec :=
  if 0 < time.secondsSince earlier then displacement.div (time.secondsSince earlier) else .zero

/-- A gesture whose last event was at `last` is over for a smooth scroll at `time`. -/
def Config.timedOut (cfg : Config) (time last : Timestamp) : Bool :=
  decide (cfg.gestureTimeout < time.millisSince last)

/-- The pixels of a native smooth scroll delta. -/
def Config.pixels (cfg : Config) (native : Vec) : ScrollAmount :=
  .pixels (native.neg.scale cfg.scrollScale)

namespace Swipe

variable {C : Client}

/-- The gesture with an event at `time`. -/
def moved (s : Swipe C) (time : Timestamp) (amount : ScrollAmount) : Swipe C :=
  { s with lastTime := time, velocity := time.velocity s.lastTime amount.delta }

/-- The gesture goes on with an event at `time`. -/
def move (s : Swipe C) (time : Timestamp) (amount : ScrollAmount) : Plan C (Scrolling C) Unit :=
  .lastly () (some (s.moved time amount))
    (.gesture s.gesture (.motion amount (s.moved time amount).velocity))

end Swipe

namespace Scrolling

variable {C : Client}

/-- A gesture starts with an event at `time`. -/
def start (t : Target C) (loc : Vec) (time : Timestamp) (amount : ScrollAmount) :
    Plan C (Scrolling C) Unit :=
  .note (.gestureStarted t.id) <|
    .call none (t.call (.beginGesture loc)) fun gesture ↦
      Swipe.move ⟨gesture, time, .zero⟩ time amount

/-- A smooth scroll event. -/
def smooth (s : Scrolling C) (cfg : Config) (t : Target C) (loc native : Vec) (time : Timestamp) :
    Plan C (Scrolling C) Unit :=
  match s with
  | none => start t loc time (cfg.pixels native)
  | some swipe =>
    if cfg.timedOut time swipe.lastTime then
      .note (.gestureTimedOut t.id) <|
        .call none (.gesture swipe.gesture .finish) fun _ ↦ start t loc time (cfg.pixels native)
    else swipe.move time (cfg.pixels native)

/-- A step of a scroll wheel. -/
def discrete (s : Scrolling C) (t : Target C) (loc native : Vec) : Plan C (Scrolling C) Unit :=
  let step := .lastly () none (t.call (.scroll loc (.lines native.neg)))
  match s with
  | none => step
  | some swipe =>
    .note (.gestureInterrupted t.id) (.call none (.gesture swipe.gesture .cancel) fun _ ↦ step)

/-- The fingers were lifted. A gesture that was moving goes on by momentum, if its last event is not
longer ago than the timeout. -/
def stop (s : Scrolling C) (cfg : Config) (t : Target C) (time : Timestamp) :
    Plan C (Scrolling C) Unit :=
  match s with
  | none => .note (.noGestureToStop t.id) (.done () none)
  | some swipe =>
    let elapsed := time.millisSince swipe.lastTime
    let momentum := !swipe.velocity.isZero && decide (elapsed ≤ cfg.gestureTimeout)
    let finish := .lastly () none (.gesture swipe.gesture .finish)
    .note (.gestureEnded t.id elapsed momentum) <|
      if momentum then .call none (.gesture swipe.gesture .momentum) fun _ ↦ finish else finish

end Scrolling

end WindowRouting
