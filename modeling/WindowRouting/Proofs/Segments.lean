import Mathlib.Algebra.Group.Int.Defs
import WindowRouting.Proofs.Seconds

/-!
Scroll gestures as segments. What happens to the scrolling of a window is a list of inputs, and
`segments` cuts it: the smooth events that come soon enough after each other form a group, and
everything else stands alone. The calls follow from the segments (`calls`): a group is a gesture
with one motion for each of its events, and how the gesture ends depends on the segment after it.

The same calls come out one input at a time, if it is kept in mind which gesture is open, when it
was moved last and how fast (`ScrollState.respond`). The two agree on every list of inputs
(`ScrollState.respondAll_eq`): an open gesture goes on with the group that the rest of the inputs
starts with, if it does so in time (`ScrollState.resume`), and ends before it otherwise.
-/

set_option autoImplicit false
set_option relaxedAutoImplicit false

namespace WindowRouting

/-! ### Inputs and calls -/

/-- A smooth scroll event. -/
structure SmoothEvent where
  loc : Vec
  /-- The native delta. -/
  native : Vec
  time : Timestamp

/-- What can happen to the scrolling of a window. -/
inductive ScrollInput
  | smooth (e : SmoothEvent)
  | discrete (loc native : Vec)
  | stop (time : Timestamp)
  /-- The window is closed. -/
  | close

/-- A call that has to do with the scrolling of a window, whose gestures are numbered. -/
inductive ScrollCall
  /-- The listener is asked for a gesture, which gets the number. -/
  | start (number : Nat) (loc : Vec)
  | gesture (number : Nat) (call : GestureCall)
  /-- The listener is told of a step of a scroll wheel. -/
  | scroll (loc : Vec) (amount : ScrollAmount)
deriving DecidableEq

/-- The milliseconds from `last` to `time`, on a clock that wraps at 32 bits. -/
def millisBetween (last time : Timestamp) : Int :=
  ((time.millis.toNat : Int) - last.millis.toNat) % 2 ^ 32

theorem millisBetween_eq (last time : Timestamp) :
    millisBetween last time = (time.millisSince last).toNat := by
  have hlt := time.millis.toNat_lt
  have hlt' := last.millis.toNat_lt
  rw [millisBetween, Timestamp.millisSince, UInt32.toNat_sub]
  omega

/-- From `last` to `time` no more passed than the timeout. -/
def Config.inTime (cfg : Config) (time last : Timestamp) : Bool :=
  decide (millisBetween last time ≤ cfg.gestureTimeout.toNat)

/-- An event is in time exactly if the gesture has not timed out. -/
theorem Config.inTime_eq (cfg : Config) (time last : Timestamp) :
    cfg.inTime time last = !cfg.timedOut time last := by
  rw [timedOut_eq_not, Bool.not_not, inTime, millisBetween_eq]
  exact decide_eq_decide.mpr (Int.ofNat_le.trans UInt32.le_iff_toNat_le.symm)

/-- The amount of a smooth event in pixels, toward the top and left. -/
def SmoothEvent.amount (cfg : Config) (e : SmoothEvent) : ScrollAmount where
  delta := ⟨-e.native.x * cfg.scrollScale, -e.native.y * cfg.scrollScale⟩
  precise := true

/-- The seconds from `last` to a smooth event: its milliseconds in single precision, over a
thousand. -/
def SmoothEvent.seconds (e : SmoothEvent) (last : Timestamp) : Float32 :=
  (UInt32.ofNat (millisBetween last e.time).toNat).toFloat32 / 1000

theorem SmoothEvent.seconds_eq (e : SmoothEvent) (last : Timestamp) :
    e.seconds last = e.time.secondsSince last := by
  rw [seconds, Timestamp.secondsSince, millisBetween_eq, Int.toNat_natCast, UInt32.ofNat_toNat]

/-- The velocity of a smooth event that comes after one at `last`: its amount over the seconds in
between, in both directions. -/
def SmoothEvent.velocity (cfg : Config) (e : SmoothEvent) (last : Timestamp) : Vec :=
  if e.time = last then ⟨0, 0⟩
  else ⟨(e.amount cfg).delta.x / e.seconds last, (e.amount cfg).delta.y / e.seconds last⟩

theorem SmoothEvent.velocity_eq (cfg : Config) (e : SmoothEvent) (last : Timestamp) :
    e.velocity cfg last = e.time.velocity last (e.amount cfg).delta := by
  by_cases htime : e.time = last
  · rw [velocity, if_pos htime, htime, Timestamp.velocity_self]
    rfl
  · rw [velocity, if_neg htime, Timestamp.velocity_of_ne htime, seconds_eq]
    rfl

/-- The velocity differs from zero in one direction at least. -/
def moving (velocity : Vec) : Bool := velocity.x != 0 || velocity.y != 0

theorem moving_eq (velocity : Vec) : moving velocity = !velocity.isZero :=
  (Bool.not_and _ _).symm

/-! ### Segments -/

/-- A part of the inputs. -/
inductive Segment
  /-- Smooth events, each of them in time after the one before it. -/
  | group (first : SmoothEvent) (rest : List SmoothEvent)
  | discrete (loc native : Vec)
  | stop (time : Timestamp)
  | close

/-- The segments with a smooth event before them. It belongs to the group that follows, if one does
and its first event is in time. -/
def joined (cfg : Config) (e : SmoothEvent) : List Segment → List Segment
  | .group next rest :: later =>
    if cfg.inTime next.time e.time then .group e (next :: rest) :: later
    else .group e [] :: .group next rest :: later
  | later => .group e [] :: later

/-- Cuts a list of inputs into segments. -/
def segments (cfg : Config) : List ScrollInput → List Segment
  | [] => []
  | .smooth e :: inputs => joined cfg e (segments cfg inputs)
  | .discrete loc native :: inputs => .discrete loc native :: segments cfg inputs
  | .stop time :: inputs => .stop time :: segments cfg inputs
  | .close :: inputs => .close :: segments cfg inputs

/-- The motions of a gesture after an event at `last`. -/
def motions (cfg : Config) (number : Nat) : Timestamp → List SmoothEvent → List ScrollCall
  | _, [] => []
  | last, e :: rest =>
    .gesture number (.motion (e.amount cfg) (e.velocity cfg last)) :: motions cfg number e.time rest

/-- The time and the velocity of the last motion, if there is one after the motion given. -/
def lastMotion (cfg : Config) : Timestamp × Vec → List SmoothEvent → Timestamp × Vec
  | motion, [] => motion
  | motion, e :: rest => lastMotion cfg (e.time, e.velocity cfg motion.1) rest

/-- How a gesture ends that was moved last at a time and with a velocity, before the segments that
follow. It ends before another group, and is cancelled by a discrete scroll and by the closing of
the window. When it is stopped in time it goes on by momentum first, unless it was at rest. -/
def ending (cfg : Config) (number : Nat) (last : Timestamp × Vec) : List Segment → List ScrollCall
  | [] => []
  | .group _ _ :: _ => [.gesture number .finish]
  | .discrete _ _ :: _ | .close :: _ => [.gesture number .cancel]
  | .stop time :: _ =>
    if moving last.2 && cfg.inTime time last.1 then
      [.gesture number .momentum, .gesture number .finish]
    else [.gesture number .finish]

/-- The calls that segments come to, if gestures are numbered from `number` on. -/
def calls (cfg : Config) : Nat → List Segment → List ScrollCall
  | _, [] => []
  | number, .group first rest :: later =>
    .start number first.loc :: .gesture number (.motion (first.amount cfg) ⟨0, 0⟩) ::
      (motions cfg number first.time rest ++
        ending cfg number (lastMotion cfg (first.time, ⟨0, 0⟩) rest) later ++
          calls cfg (number + 1) later)
  | number, .discrete loc native :: later =>
    .scroll loc ⟨⟨-native.x, -native.y⟩, false⟩ :: calls cfg number later
  | number, .stop _ :: later | number, .close :: later => calls cfg number later

/-! ### One input at a time -/

/-- A gesture that is open. -/
structure OpenGesture where
  number : Nat
  /-- The time of the last motion. -/
  time : Timestamp
  /-- The velocity of the last motion. -/
  velocity : Vec

/-- How an open gesture ends when it is stopped. -/
def OpenGesture.stop (cfg : Config) (g : OpenGesture) (time : Timestamp) : List ScrollCall :=
  if moving g.velocity && cfg.inTime time g.time then
    [.gesture g.number .momentum, .gesture g.number .finish]
  else [.gesture g.number .finish]

/-- What has to be known of the inputs so far. -/
structure ScrollState where
  /-- How many gestures there were. -/
  begun : Nat
  current : Option OpenGesture

namespace ScrollState

/-- There was no input. -/
def new : ScrollState := ⟨0, none⟩

/-- A gesture starts with a smooth event. -/
def start (cfg : Config) (begun : Nat) (e : SmoothEvent) : List ScrollCall × ScrollState :=
  ([.start begun e.loc, .gesture begun (.motion (e.amount cfg) ⟨0, 0⟩)],
    ⟨begun + 1, some ⟨begun, e.time, ⟨0, 0⟩⟩⟩)

/-- The calls that an input comes to. -/
def respond (cfg : Config) : ScrollState → ScrollInput → List ScrollCall × ScrollState
  | ⟨begun, none⟩, .smooth e => start cfg begun e
  | ⟨begun, some g⟩, .smooth e =>
    if cfg.inTime e.time g.time then
      ([.gesture g.number (.motion (e.amount cfg) (e.velocity cfg g.time))],
        ⟨begun, some ⟨g.number, e.time, e.velocity cfg g.time⟩⟩)
    else (.gesture g.number .finish :: (start cfg begun e).1, (start cfg begun e).2)
  | ⟨begun, none⟩, .discrete loc native =>
    ([.scroll loc ⟨⟨-native.x, -native.y⟩, false⟩], ⟨begun, none⟩)
  | ⟨begun, some g⟩, .discrete loc native =>
    ([.gesture g.number .cancel, .scroll loc ⟨⟨-native.x, -native.y⟩, false⟩], ⟨begun, none⟩)
  | ⟨begun, none⟩, .stop _ => ([], ⟨begun, none⟩)
  | ⟨begun, some g⟩, .stop time => (g.stop cfg time, ⟨begun, none⟩)
  | ⟨begun, none⟩, .close => ([], ⟨begun, none⟩)
  | ⟨begun, some g⟩, .close => ([.gesture g.number .cancel], ⟨begun, none⟩)

/-- The calls that some inputs come to, and the state afterwards. -/
def respondAll (cfg : Config) : ScrollState → List ScrollInput → List ScrollCall × ScrollState
  | s, [] => ([], s)
  | s, x :: inputs =>
    ((s.respond cfg x).1 ++ ((s.respond cfg x).2.respondAll cfg inputs).1,
      ((s.respond cfg x).2.respondAll cfg inputs).2)

theorem respondAll_append (cfg : Config) (s : ScrollState) (inputs later : List ScrollInput) :
    s.respondAll cfg (inputs ++ later) =
      ((s.respondAll cfg inputs).1 ++ ((s.respondAll cfg inputs).2.respondAll cfg later).1,
        ((s.respondAll cfg inputs).2.respondAll cfg later).2) := by
  induction inputs generalizing s with
  | nil => rfl
  | cons x inputs ih => simp only [List.cons_append, respondAll, ih, List.append_assoc]

theorem respondAll_singleton (cfg : Config) (s : ScrollState) (x : ScrollInput) :
    s.respondAll cfg [x] = s.respond cfg x := by
  rw [respondAll, respondAll, List.append_nil]

/-- The calls that segments come to when a gesture is open. It goes on with the group that comes
first, if this is in time. -/
def resume (cfg : Config) (g : OpenGesture) (begun : Nat) : List Segment → List ScrollCall
  | .group e rest :: later =>
    if cfg.inTime e.time g.time then
      motions cfg g.number g.time (e :: rest) ++
        ending cfg g.number (lastMotion cfg (g.time, g.velocity) (e :: rest)) later ++
          calls cfg begun later
    else .gesture g.number .finish :: calls cfg begun (.group e rest :: later)
  | later => ending cfg g.number (g.time, g.velocity) later ++ calls cfg begun later

variable {cfg : Config} {g : OpenGesture} {e : SmoothEvent}

/-- The first event of a group starts a gesture. -/
theorem calls_joined (cfg : Config) (begun : Nat) (e : SmoothEvent) (later : List Segment) :
    calls cfg begun (joined cfg e later) =
      (start cfg begun e).1 ++ resume cfg ⟨begun, e.time, ⟨0, 0⟩⟩ (begun + 1) later := by
  cases later with
  | nil => rfl
  | cons next later =>
    cases next with
    | group next rest =>
      simp only [joined, resume]
      split <;> rfl
    | discrete | stop | close => rfl

/-- An event in time moves the open gesture. -/
theorem resume_joined_of_inTime (htime : cfg.inTime e.time g.time = true) (begun : Nat)
    (later : List Segment) : resume cfg g begun (joined cfg e later) =
      .gesture g.number (.motion (e.amount cfg) (e.velocity cfg g.time)) ::
        resume cfg ⟨g.number, e.time, e.velocity cfg g.time⟩ begun later := by
  cases later with
  | nil =>
    simp only [joined, resume, htime, if_true]
    rfl
  | cons next later =>
    cases next with
    | group next rest =>
      simp only [joined]
      split
      case isTrue hnext =>
        simp only [resume, htime, hnext, if_true]
        rfl
      case isFalse hnext =>
        simp only [resume, htime, hnext, if_true]
        rfl
    | discrete | stop | close =>
      simp only [joined, resume, htime, if_true]
      rfl

/-- An event that is late ends the open gesture first. -/
theorem resume_joined_of_late (htime : cfg.inTime e.time g.time = false) (begun : Nat)
    (later : List Segment) : resume cfg g begun (joined cfg e later) =
      .gesture g.number .finish :: calls cfg begun (joined cfg e later) := by
  obtain ⟨rest, later', hjoined⟩ : ∃ rest later', joined cfg e later = .group e rest :: later' := by
    unfold joined
    split
    · split
      · exact ⟨_, _, rfl⟩
      · exact ⟨_, _, rfl⟩
    · exact ⟨_, _, rfl⟩
  rw [hjoined, resume, if_neg (by simp [htime])]

/-- One input at a time, the calls are those of the segments, whether a gesture is open or not. -/
theorem respondAll_eq (cfg : Config) (inputs : List ScrollInput) :
    (∀ begun, ((⟨begun, none⟩ : ScrollState).respondAll cfg inputs).1 =
      calls cfg begun (segments cfg inputs)) ∧
    ∀ begun g, ((⟨begun, some g⟩ : ScrollState).respondAll cfg inputs).1 =
      resume cfg g begun (segments cfg inputs) := by
  induction inputs with
  | nil => exact ⟨fun _ ↦ rfl, fun _ _ ↦ rfl⟩
  | cons x inputs ih =>
    obtain ⟨hclosed, hopen⟩ := ih
    cases x with
    | smooth e =>
      refine ⟨fun begun ↦ ?_, fun begun g ↦ ?_⟩
      · rw [segments, calls_joined, ← hopen]
        rfl
      · rw [segments, respondAll, respond]
        cases htime : cfg.inTime e.time g.time with
        | true =>
          rw [resume_joined_of_inTime htime, ← hopen]
          rfl
        | false =>
          rw [resume_joined_of_late htime, calls_joined, ← hopen]
          rfl
    | discrete loc native =>
      refine ⟨fun begun ↦ ?_, fun begun g ↦ ?_⟩
      · rw [segments, calls, ← hclosed]
        rfl
      · rw [segments, resume, calls, ← hclosed]
        · rfl
        · exact nofun
    | stop time =>
      refine ⟨fun begun ↦ ?_, fun begun g ↦ ?_⟩
      · rw [segments, calls, ← hclosed]
        rfl
      · rw [segments, resume, calls, ← hclosed]
        · rfl
        · exact nofun
    | close =>
      refine ⟨fun begun ↦ ?_, fun begun g ↦ ?_⟩
      · rw [segments, calls, ← hclosed]
        rfl
      · rw [segments, resume, calls, ← hclosed]
        · rfl
        · exact nofun

end ScrollState

end WindowRouting
