import WindowRouting.Proofs.Roster
import WindowRouting.Proofs.Steps.Courses
import WindowRouting.Proofs.Transcript
import WindowRouting.Scenario.Run

/-!
The clock of the scroll events has no origin. A router keeps the time of the last event of each open
gesture and looks at times only through the difference to it, which wraps with the clock. So a
router whose gestures are all later by a constant, and which is sent events that are later by the
same constant, follows the same plans (`Router.later_serve`, `Router.later_signal`): only the times
it keeps are later. Hence a run goes the same way wherever its clock starts, be it a run of acts in
any world (`perform_later`) or a scenario with its scripts (`Scenario.take_later`).
-/

set_option autoImplicit false
set_option relaxedAutoImplicit false

namespace WindowRouting

variable {C : Client} {σ : Type}

/-! ### Times -/

/-- The time that is `c` milliseconds later. -/
def Timestamp.later (c : UInt32) (t : Timestamp) : Timestamp := ⟨t.millis + c⟩

section

variable (c : UInt32) (time last : Timestamp)

theorem Timestamp.millisSince_later :
    (time.later c).millisSince (last.later c) = time.millisSince last := by
  simp only [millisSince, later]
  grind

theorem Timestamp.secondsSince_later :
    (time.later c).secondsSince (last.later c) = time.secondsSince last := by
  rw [secondsSince, secondsSince, millisSince_later]

theorem Timestamp.velocity_later (displacement : Vec) :
    (time.later c).velocity (last.later c) displacement = time.velocity last displacement := by
  unfold velocity
  rw [secondsSince_later]

theorem Config.timedOut_later (cfg : Config) :
    cfg.timedOut (time.later c) (last.later c) = cfg.timedOut time last := by
  simp only [timedOut, Timestamp.millisSince_later]

end

/-- The gesture with a later last event. -/
def Swipe.later (c : UInt32) (s : Swipe C) : Swipe C := { s with lastTime := s.lastTime.later c }

/-- The scrolling with a later last event, if a gesture is open. -/
def Scrolling.later (c : UInt32) (s : Scrolling C) : Scrolling C := s.map (Swipe.later c)

/-- The receiver with a later scroll event. -/
def Receiver.later (c : UInt32) (x : Receiver C) : Receiver C :=
  { x with scrolling := Scrolling.later c x.scrolling }

/-- The router with all scroll events later. -/
def Router.later (c : UInt32) (r : Router C) : Router C :=
  { r with receivers := r.receivers.map (Receiver.later c) }

/-- The seat with all scroll events later. -/
def Seat.later (c : UInt32) (seat : Seat C) : Seat C := seat.map (Router.later c)

/-- The roster with all scroll events later. -/
def Roster.later (c : UInt32) (s : Roster C) : Roster C := s.map (Router.later c)

/-- The event at a later time, if it is a scroll event with a time. -/
def Event.later (c : UInt32) : Event → Event
  | .smoothScroll loc native time => .smoothScroll loc native (time.later c)
  | .scrollStop time => .scrollStop (time.later c)
  | e => e

/-- The signal at a later time, if it is a scroll signal with a time. -/
def Signal.later (c : UInt32) : Signal → Signal
  | .smoothScroll loc native time => .smoothScroll loc native (time + c)
  | .scrollStop time => .scrollStop (time + c)
  | q => q

/-- The request with a later event, if it sends one. -/
def Request.later (c : UInt32) : Request C → Request C
  | .send id e => .send id (e.later c)
  | q => q

/-- The act with a later event, if it sends one. -/
def Act.later (c : UInt32) : Act C σ → Act C σ
  | .request q => .request (q.later c)
  | .signal h q => .signal h (q.later c)
  | a => a

/-! ### Scrolling -/

/-- A course at a later time is the course, with all times later. -/
theorem Scrolling.Course.later {s : Scrolling C} {cfg : Config} {t : Target C} {e : Event}
    {plan : Plan C (Scrolling C) Unit} (h : s.Course cfg t e plan) (c : UInt32) :
    (Scrolling.later c s).Course cfg t (e.later c)
      (plan.map (fun a ↦ a) (Scrolling.later c)) := by
  have hlater {s' : Scrolling C} (hs : s = s') :
      Scrolling.later c s = Scrolling.later c s' := congrArg (Scrolling.later c) hs
  have hmove (swipe : Swipe C) (time : Timestamp) (amount : ScrollAmount) :
      (swipe.move time amount).map (fun a ↦ a) (Scrolling.later c) =
        (swipe.later c).move (time.later c) amount := by
    have hmoved : (swipe.later c).moved (time.later c) amount =
        (swipe.moved time amount).later c := by
      simp only [Swipe.moved, Swipe.later, Timestamp.velocity_later]
    rw [Swipe.move, Swipe.move, hmoved]
    rfl
  have hstart (loc native : Vec) (time : Timestamp) :
      (start t loc time (cfg.pixels native)).map (fun a ↦ a) (Scrolling.later c) =
        start t loc (time.later c) (cfg.pixels native) := by
    simp only [start, Plan.map, hmove]
    rfl
  have hglides (swipe : Swipe C) (time : Timestamp) :
      (swipe.later c).glides cfg (time.later c) = swipe.glides cfg time := by
    simp only [Swipe.glides, Swipe.later, Timestamp.millisSince_later]
  cases h with
  | begun loc native time hs =>
    rw [hstart]
    exact .begun loc native (time.later c) (hlater hs)
  | timedOut loc native time swipe hs htime =>
    simp only [Plan.map, hstart]
    exact .timedOut loc native (time.later c) (swipe.later c) (hlater hs)
      ((Config.timedOut_later c _ _ cfg).trans htime)
  | moved loc native time swipe hs htime =>
    rw [hmove]
    exact .moved loc native (time.later c) (swipe.later c) (hlater hs)
      ((Config.timedOut_later c _ _ cfg).trans htime)
  | scrolled loc native hs => exact .scrolled loc native (hlater hs)
  | interrupted loc native swipe hs => exact .interrupted loc native (swipe.later c) (hlater hs)
  | idle time hs => exact .idle (time.later c) (hlater hs)
  | stopped time swipe hs hrest =>
    have hcourse := Course.stopped (t := t) (time.later c) (swipe.later c) (hlater hs)
      ((hglides swipe time).trans hrest)
    rw [Swipe.later, Timestamp.millisSince_later] at hcourse
    exact hcourse
  | glided time swipe hs hmoving =>
    have hcourse := Course.glided (t := t) (time.later c) (swipe.later c) (hlater hs)
      ((hglides swipe time).trans hmoving)
    rw [Swipe.later, Timestamp.millisSince_later] at hcourse
    exact hcourse

/-! ### Routers -/

namespace Router

variable (c : UInt32) (r : Router C)

theorem later_modifyReceiver (id : WindowId) {f f' : Receiver C → Receiver C}
    (h : ∀ x, (f x).later c = f' (x.later c)) :
    (r.modifyReceiver id f).later c = (r.later c).modifyReceiver id f' := by
  simp only [later, modifyReceiver, IdMap.map_modify h]

theorem later_onPointer (id : WindowId) (p : Plan C (Pointer C) Unit) :
    (r.later c).onPointer id p = (r.onPointer id p).map (fun a ↦ a) (later c) := by
  simp only [onPointer, Plan.map_map]
  congr 1
  funext pointer
  refine (r.later_modifyReceiver c id ?_).symm
  exact fun _ ↦ rfl

theorem later_onScrolling (id : WindowId) {p p' : Plan C (Scrolling C) Unit}
    (hp : p.map (fun a ↦ a) (Scrolling.later c) = p') :
    (r.later c).onScrolling id p' = (r.onScrolling id p).map (fun a ↦ a) (later c) := by
  subst hp
  simp only [onScrolling, Plan.map_map]
  congr 1
  funext scrolling
  refine (r.later_modifyReceiver c id ?_).symm
  exact fun _ ↦ rfl

theorem later_rescale (t : Target C) :
    (r.later c).rescale t = (r.rescale t).map (fun a ↦ a) (later c) := by
  obtain ⟨windows, handles, receivers, config, host⟩ := r
  cases host with
  | none => rfl
  | some host =>
    simp only [rescale, later, Plan.map]
    congr 1
    funext scale
    cases scale with
    | none => rfl
    | some scale =>
      simp only
      split <;> rfl

theorem later_handle (t : Target C) (x : Receiver C) (e : Event) :
    (r.later c).handle t (x.later c) (e.later c) = (r.handle t x e).map (fun a ↦ a) (later c) := by
  cases e with
  | draw context => rfl
  | scale => exact r.later_rescale c t
  | hitTest loc => rfl
  | keyPress key => rfl
  | keyRelease key => rfl
  | button loc pressed b => exact r.later_onPointer c t.id _
  | motion loc => exact r.later_onPointer c t.id _
  | leave => exact r.later_onPointer c t.id _
  | discreteScroll loc native =>
    exact r.later_onScrolling c t.id
      ((x.scrolling.course_discrete r.config t loc native).later c).eq_discrete
  | smoothScroll loc native time =>
    exact r.later_onScrolling c t.id
      ((x.scrolling.course_smooth r.config t loc native time).later c).eq_smooth
  | scrollStop time =>
    exact r.later_onScrolling c t.id
      ((x.scrolling.course_stop r.config t time).later c).eq_stop

theorem later_deliver (id : WindowId) (e : Event) :
    (r.later c).deliver id (e.later c) = (r.deliver id e).map (·.map (fun a ↦ a) (later c)) := by
  simp only [deliver, find?, later, IdMap.get?_map]
  cases r.windows.get? id with
  | none => rfl
  | some w =>
    cases r.receivers.get? id with
    | none => rfl
    | some x => exact congrArg Except.ok (r.later_handle c ⟨id, w, x.listener⟩ x e)

theorem later_cancelAll (id : WindowId) (x : Receiver C) :
    (r.later c).cancelAll id (x.later c) = (r.cancelAll id x).map (fun a ↦ a) (later c) := by
  obtain ⟨listener, ⟨held, drag⟩, scrolling⟩ := x
  cases drag <;> cases scrolling <;> rfl

theorem later_close (id : WindowId) :
    (r.later c).close id = (r.close id).map (·.map (fun a ↦ a) (later c)) := by
  have hclosed : (r.later c).closed id = (r.closed id).later c := by
    simp only [closed, later, IdMap.map_erase]
  have hget : (r.later c).receivers.get? id = (r.receivers.get? id).map (Receiver.later c) :=
    IdMap.get?_map _ _ _
  unfold close
  rw [hget, hclosed]
  cases r.receivers.get? id with
  | none => rfl
  | some x => exact congrArg Except.ok ((r.closed id).later_cancelAll c id x)

theorem later_create (d : Descriptor) (listener : C.Listener) :
    (r.later c).create d listener = (r.create d listener).map (fun a ↦ a) (later c) := by
  have hopened : ((r.later c).opened d listener).2 = (r.opened d listener).2.later c := by
    simp only [opened, later, IdMap.map_insert]
    rfl
  simp only [create, Plan.map, hopened]
  rfl

/-- Serving a request later is serving it, with all times later. -/
theorem later_serve (q : Request C) :
    (r.later c).serve (q.later c) = (r.serve q).map (·.map (fun a ↦ a) (later c)) := by
  cases q with
  | create d listener =>
    simp only [serve, Request.later, later_create, Plan.mapAnswer, Except.map, Plan.map_map]
  | close id =>
    simp only [serve, Request.later, later_close]
    cases r.close id with
    | error e => rfl
    | ok plan => simp only [Except.map, Plan.mapAnswer, Plan.map_map]
  | announce patch => rfl
  | attachHost host => rfl
  | send id e =>
    simp only [serve, Request.later, later_deliver]
    cases r.deliver id e with
    | error e => rfl
    | ok plan => simp only [Except.map, Plan.mapAnswer, Plan.map_map]
  | config => rfl
  | handle id => rfl
  | resolve h =>
    simp only [serve, Request.later, Router.resolve, later]
    cases r.handles.resolve h <;> rfl
  | window id => rfl
  | windows => rfl

/-- Serving a signal later is serving it, with all times later. -/
theorem later_signal (h : Handle) (q : Signal) :
    (r.later c).signal h (q.later c) = (r.signal h q).map (·.map (fun a ↦ a) (later c)) := by
  have hevent : (q.later c).event = q.event.map (Event.later c) := by
    cases q with
    | draw context =>
      simp only [Signal.later, Signal.event]
      split <;> rfl
    | keyPress key => cases key <;> rfl
    | keyRelease key => cases key <;> rfl
    | _ => rfl
  simp only [signal, hevent, Router.resolve, later]
  cases r.handles.resolve h with
  | error e => rfl
  | ok id =>
    cases q.event with
    | error e => rfl
    | ok e => exact r.later_deliver c id e

end Router

/-! ### Seats and acts -/

namespace Seat

variable (W : World C σ) (c : UInt32) (seat : Seat C) (w : σ)

theorem later_serve (q : Request C) : (seat.later c).serve W (q.later c) w =
    ((seat.serve W q w).1, (seat.serve W q w).2.1.later c, (seat.serve W q w).2.2) := by
  cases seat with
  | vacant => rfl
  | busy => rfl
  | taken r =>
    simp only [serve, later, map, router, Except.bind, r.later_serve]
    cases r.serve q with
    | error e => rfl
    | ok plan =>
      simp only [Except.map, Plan.run_map, Option.map_id']

theorem later_signal (h : Handle) (q : Signal) : (seat.later c).signal W h (q.later c) w =
    ((seat.signal W h q w).1, (seat.signal W h q w).2.1.later c, (seat.signal W h q w).2.2) := by
  have hneutral : (q.later c).neutral = q.neutral := by cases q <;> rfl
  have hentry : (q.later c).entry = q.entry := by cases q <;> rfl
  cases seat with
  | vacant => simp only [signal, later, map, router, Except.bind, hneutral, hentry]
  | busy => simp only [signal, later, map, router, Except.bind, hneutral, hentry]
  | taken r =>
    simp only [signal, later, map, router, Except.bind, r.later_signal, hneutral, hentry]
    cases r.signal h q with
    | error e => rfl
    | ok plan =>
      simp only [Except.map, Plan.run_map]
      rcases plan.run W w with ⟨_ | reply, out⟩ <;> rfl

end Seat

theorem Act.later_perform (W : World C σ) (c : UInt32) (s : Roster C) (w : σ) (a : Act C σ) :
    (a.later c).perform W (s.later c) w = ((a.perform W s w).1.later c, (a.perform W s w).2) := by
  cases a with
  | install config =>
    have hnew : (Router.new config : Router C).later c = .new config := by
      simp only [Router.later, Router.new, IdMap.map_empty]
    simp only [perform, later, Roster.later, Roster.map, List.map_append, List.map_cons,
      List.map_nil, List.length_map, hnew]
  | reinstall n =>
    simp only [perform, later, Roster.later, Roster.map, List.length_map]
    split <;> rfl
  | uninstall => rfl
  | request q =>
    have hserve := s.seat.later_serve W c w q
    rw [Seat.later, ← s.seat_map] at hserve
    simp only [perform, later, Roster.later, hserve]
    exact Prod.ext (s.update_map (Router.later c) _) rfl
  | signal h q =>
    have hsignal := s.seat.later_signal W c w h q
    rw [Seat.later, ← s.seat_map] at hsignal
    simp only [perform, later, Roster.later, hsignal]
    exact Prod.ext (s.update_map (Router.later c) _) rfl
  | elapse change => rfl

theorem Roster.later_run (W : World C σ) (c : UInt32) (s : Roster C × σ) (acts : List (Act C σ)) :
    Roster.run W (s.1.later c, s.2) (acts.map (Act.later c)) =
      ((Roster.run W s acts).1.later c, (Roster.run W s acts).2) := by
  induction acts generalizing s with
  | nil => rfl
  | cons a rest ih =>
    simp only [run, List.map_cons, List.foldl_cons, Act.later_perform]
    exact ih (a.perform W s.1 s.2)

/-! ### Scenarios -/

namespace Scenario

mutual

/-- The step with all scroll events of it later, those of its script included. -/
def Step.later (c : UInt32) : Step → Step
  | .script call body fails => .script call (Step.laterAll c body) fails
  | .install config => .install config
  | .reinstall config => .reinstall config
  | .uninstall => .uninstall
  | .request q => .request (q.later c)
  | .signal h q => .signal h (q.later c)

/-- The steps with all scroll events later. -/
def Step.laterAll (c : UInt32) : List Step → List Step
  | [] => []
  | step :: rest => step.later c :: Step.laterAll c rest

end

theorem Step.laterAll_eq_map (c : UInt32) (steps : List Step) :
    Step.laterAll c steps = steps.map (Step.later c) := by
  induction steps with
  | nil => rfl
  | cons step rest ih => rw [Step.laterAll, ih, List.map_cons]

/-- The script with all scroll events later. -/
def Script.later (c : UInt32) (s : Script) : Script := ⟨s.call, s.body.map (Step.later c), s.fails⟩

/-- The record with a later step, if it is the record of a nested step. -/
def Record.later (c : UInt32) : Record → Record
  | .nested step outcome => .nested (step.later c) outcome
  | .notice n => .notice n
  | .called call serial => .called call serial

/-- The stage with all scroll events later. -/
def Stage.later (c : UInt32) (s : Stage) : Stage :=
  ⟨s.stash.map (Router.later c), s.scripts.map (Script.later c), s.serial,
    s.records.map (Record.later c)⟩

variable (c : UInt32)

namespace Stage

variable (s : Stage)

theorem later_record (r : Record) : (s.record r).later c = (s.later c).record (r.later c) := by
  simp only [record, later, List.map_append, List.map_cons, List.map_nil]

theorem later_takeScript (call : String) : (s.later c).takeScript call =
    ((s.takeScript call).1.map (Script.later c), (s.takeScript call).2.later c) := by
  have hcall : ((fun script : Script ↦ decide (script.call = call)) ∘ Script.later c) =
      fun script ↦ decide (script.call = call) := rfl
  simp only [takeScript, later, List.find?_map, List.eraseP_map, hcall]

end Stage

/-- Calls are answered the same way however late the scroll events are. -/
def Timeless (answers : Answers) : Prop :=
  (world answers).Alike (world answers) fun stage stage' ↦ stage' = stage.later c

theorem timeless_of {answers : Answers} (h : ∀ call stage,
    answers call (stage.later c) = ((answers call stage).1, (answers call stage).2.later c)) :
    Timeless c answers where
  note := by
    rintro stage _ rfl n
    exact (stage.later_record c (.notice n)).symm
  answer := by
    rintro stage _ rfl call
    simp only [world, h, and_self]

theorem timeless_unanswered : Timeless c unanswered :=
  timeless_of c fun _ _ ↦ rfl

section

variable {answers : Answers} (h : Timeless c answers) (seat : Seat client) (stage : Stage)

theorem later_install (r : Router client) : install (seat.later c) (stage.later c) (r.later c) =
    ((install seat stage r).1, (install seat stage r).2.1.later c,
      (install seat stage r).2.2.later c) := by
  cases seat with
  | vacant => rfl
  | taken old => rfl
  | busy => rfl

include h in
theorem later_serve (q : Request client) :
    serve answers (seat.later c) (stage.later c) (q.later c) =
      ((serve answers seat stage q).1, (serve answers seat stage q).2.1.later c,
        (serve answers seat stage q).2.2.later c) := by
  have hserve : (seat.later c).serve (world answers) (q.later c) (stage.later c) =
      ((seat.serve (world answers) q stage).1, (seat.serve (world answers) q stage).2.1.later c,
        (seat.serve (world answers) q stage).2.2.later c) := by
    obtain ⟨hanswer, hseat, hstage⟩ := seat.serve_alike h rfl q
    rw [seat.later_serve, ← hanswer, ← hseat, hstage]
  simp only [serve, hserve]
  rcases seat.serve (world answers) q stage with ⟨_ | _ | _, out⟩ <;> rfl

include h in
/-- A step that is taken later comes to the same. -/
theorem later_take (step : Step) : take answers (seat.later c) (stage.later c) (step.later c) =
    ((take answers seat stage step).1, (take answers seat stage step).2.1.later c,
      (take answers seat stage step).2.2.later c) := by
  have hnew (config : Config) : (Router.new config : Router client).later c = .new config := by
    simp only [Router.later, Router.new, IdMap.map_empty]
  cases step with
  | script call body fails =>
    simp only [take, Step.later, Step.laterAll_eq_map, Stage.later, List.map_append, List.map_cons,
      List.map_nil, Script.later]
  | install config =>
    simp only [take, Step.later]
    rw [← hnew, later_install, hnew]
  | reinstall config =>
    have hstash : (stage.later c).stash.getD (.new config) =
        (stage.stash.getD (.new config)).later c := by
      simp only [Stage.later]
      cases stage.stash with
      | none => exact (hnew config).symm
      | some r => rfl
    simp only [take, Step.later, hstash]
    exact later_install c seat { stage with stash := none } _
  | uninstall =>
    cases seat with
    | vacant => rfl
    | taken old => rfl
    | busy => rfl
  | request q => exact later_serve c h seat stage q
  | signal hd q =>
    simp only [take, Step.later]
    obtain ⟨hcode, hseat, hstage⟩ := seat.signal_alike h rfl hd q
    rw [seat.later_signal, ← hcode, ← hseat, hstage]

end

theorem later_takeNested (stage : Stage) (step : Step) :
    takeNested (stage.later c) (step.later c) = (takeNested stage step).later c := by
  have htake := later_take c (timeless_unanswered c) .busy stage step
  rw [show Seat.later c (.busy : Seat client) = .busy from rfl] at htake
  simp only [takeNested, htake, Stage.later_record]
  rfl

theorem later_follow (stage : Stage) (call : Call client) (serial : Serial) (answer : call.Answer) :
    follow (stage.later c) call serial answer =
      ((follow stage call serial answer).1, (follow stage call serial answer).2.later c) := by
  have hnested (body : List Step) (stage : Stage) :
      (body.map (Step.later c)).foldl takeNested (stage.later c) =
        (body.foldl takeNested stage).later c := by
    induction body generalizing stage with
    | nil => rfl
    | cons step rest ih =>
      rw [List.map_cons, List.foldl_cons, later_takeNested, ih, List.foldl_cons]
  have hscript := (stage.record (.called call serial)).later_takeScript c call.name
  rw [Stage.later_record] at hscript
  simp only [follow]
  rw [show Record.later c (.called call serial) = .called call serial from rfl] at hscript
  rw [hscript]
  rcases (stage.record (.called call serial)).takeScript call.name with ⟨_ | script, stage'⟩
  · rfl
  · exact Prod.ext rfl (hnested script.body stage')

theorem timeless_scripted : Timeless c scripted := by
  refine timeless_of c fun call stage ↦ ?_
  cases call with
  | window listener id w call =>
    cases listener with
    | silent => rfl
    | recorder r =>
      simp only [scripted]
      split
      · exact later_follow c { stage with serial := stage.serial + 1 } _ _ _
      · exact later_follow c stage _ _ _
  | drag session call =>
    cases session with
    | none => rfl
    | some n => exact later_follow c stage _ _ _
  | gesture gesture call =>
    cases gesture with
    | none => rfl
    | some n => exact later_follow c stage _ _ _
  | scaleFactor host id => exact later_follow c stage _ _ _

theorem later_runFrom (seat : Seat client) (stage : Stage) (steps : List Step) :
    runFrom (seat.later c) (stage.later c) (steps.map (Step.later c)) =
      (runFrom seat stage steps).map fun result ↦ (result.1, result.2.map (Record.later c)) := by
  induction steps generalizing seat stage with
  | nil => rfl
  | cons step rest ih =>
    have htake := later_take c (timeless_scripted c) seat { stage with records := [] } step
    simp only [runFrom, advance, List.map_cons]
    rw [show ({ stage.later c with records := [] } : Stage) =
      Stage.later c { stage with records := [] } from rfl, htake]
    simp only
    rw [ih]
    rfl

end Scenario

/-- It makes no difference where the clock of the scroll events starts, wrapping included. In a
scenario whose scroll events all come later by a constant, every step has the same outcome and
leaves the same records, save that nested steps are recorded as they were scripted. In a run of acts
of any client in any world the same notices and calls come in the same order, and after it every
request and every signal has the same answer. -/
theorem clock_origin_irrelevant (c : UInt32) :
    (∀ steps : List Scenario.Step, Scenario.run (steps.map (Scenario.Step.later c)) =
      (Scenario.run steps).map fun result ↦
        (result.1, result.2.map (Scenario.Record.later c))) ∧
    ∀ (C : Client) (σ : Type) (W : World C σ) (w : σ)
      (acts : List (Act C (σ × List (Happening C)))),
      let s := Roster.run W.transcribed (.empty, w, []) acts
      let s' := Roster.run W.transcribed (.empty, w, []) (acts.map (Act.later c))
      s'.2 = s.2 ∧
      (∀ q, (s'.1.seat.serve W.transcribed (q.later c) s'.2).1 =
        (s.1.seat.serve W.transcribed q s.2).1) ∧
      ∀ h q, (s'.1.seat.signal W.transcribed h (q.later c) s'.2).1 =
        (s.1.seat.signal W.transcribed h q s.2).1 := by
  refine ⟨fun steps ↦ Scenario.later_runFrom c .vacant .empty steps, ?_⟩
  intro C σ W w acts s s'
  have hrun : s' = (s.1.later c, s.2) := Roster.later_run W.transcribed c (.empty, w, []) acts
  have hseat : s'.1.seat = s.1.seat.later c := by
    rw [hrun]
    exact s.1.seat_map (Router.later c)
  have hworld : s'.2 = s.2 := by rw [hrun]
  refine ⟨hworld, fun q ↦ ?_, fun h q ↦ ?_⟩
  · rw [hseat, hworld, Seat.later_serve]
  · rw [hseat, hworld, Seat.later_signal]

end WindowRouting
