import WindowRouting.Proofs.Steps.Delivery
import WindowRouting.Proofs.Steps.Router
import WindowRouting.Scenario.Run

/-!
Calling back from a call. A script may take further steps while the client is called, and then the
seat is busy: each step that needs the seat is turned away (`Step.TurnedAway`), leaves the seat as
it is and makes no call, whatever would answer it (`take_busy`, `take_busy_eq`). What such steps
leave is a router in the stash and records of their own, so a scenario goes on as it would without
them (`alike_scripted`, `alike_take`). Steps that are not in a script never find the seat busy, and
what is recorded while they are taken is of the session itself, or left by the steps of a script
that a call follows, all of which are recorded (`told_take`, `withinCall_foldl`).
-/

set_option autoImplicit false
set_option relaxedAutoImplicit false

namespace WindowRouting

/-! ### The errors of a router -/

namespace Router

variable {C : Client} {r : Router C} {e : Error}

theorem ne_reentrant_of_deliver {id : WindowId} {event : Event}
    (h : r.deliver id event = .error e) : e ≠ .reentrant := by
  unfold deliver at h
  split at h
  · obtain rfl := Except.error.inj h
    nofun
  · exact nomatch h

theorem ne_reentrant_of_resolve {hd : Handle} (h : r.resolve hd = .error e) :
    e ≠ .reentrant := by
  unfold resolve Handles.resolve at h
  split at h
  · obtain rfl := Except.error.inj h
    nofun
  · split at h
    · exact nomatch h
    · obtain rfl := Except.error.inj h
      nofun

/-- It is not the router that says that the seat is busy, neither to a request … -/
theorem ne_reentrant_of_serve {q : Request C} (h : r.serve q = .error e) : e ≠ .reentrant := by
  cases q with
  | close id =>
    simp only [serve, close] at h
    split at h
    · obtain rfl := Except.error.inj h
      simp
    · cases h
  | send id event =>
    cases hdeliver : r.deliver id event with
    | error e' =>
      simp only [serve, hdeliver, Except.map, Except.error.injEq] at h
      exact h ▸ ne_reentrant_of_deliver hdeliver
    | ok plan => simp [serve, hdeliver, Except.map] at h
  | resolve hd =>
    cases hresolve : r.resolve hd with
    | error e' =>
      simp only [serve, hresolve, Except.map, Except.error.injEq] at h
      exact h ▸ ne_reentrant_of_resolve hresolve
    | ok id => simp [serve, hresolve, Except.map] at h
  | _ => cases h

/-- … nor to a signal. -/
theorem ne_reentrant_of_signal {hd : Handle} {q : Signal} (h : r.signal hd q = .error e) :
    e ≠ .reentrant := by
  unfold signal at h
  cases hresolve : r.resolve hd with
  | error e' =>
    simp only [hresolve, bind, Except.bind, Except.error.injEq] at h
    exact h ▸ ne_reentrant_of_resolve hresolve
  | ok id =>
    cases hevent : q.event with
    | error e' =>
      simp only [hresolve, hevent, bind, Except.bind, Except.error.injEq] at h
      subst h
      rintro rfl
      cases q with
      | draw context =>
        simp only [Signal.event] at hevent
        split at hevent
        · exact nomatch hevent
        · exact nomatch hevent
      | keyPress key => cases key <;> exact nomatch hevent
      | keyRelease key => cases key <;> exact nomatch hevent
      | _ => exact nomatch hevent
    | ok event =>
      simp only [hresolve, hevent, bind, Except.bind] at h
      exact ne_reentrant_of_deliver h

end Router

theorem Seat.vacant_ne_busy {C : Client} : (vacant : Seat C) ≠ busy := by
  simp

theorem Seat.taken_ne_busy {C : Client} (r : Router C) : taken r ≠ busy := by
  simp

namespace Scenario

/-! ### Steps that are turned away -/

/-- The step needs the seat: all do but those that queue a script. -/
def Step.needsSeat : Step → Bool
  | .script _ _ _ => false
  | _ => true

/-- The step is turned away because the seat is busy: what comes of it, and what it leaves. -/
inductive Step.TurnedAway : Step → Outcome → List Record → Prop
  | install (config : Config) : TurnedAway (.install config) (.refused .reentrant config) []
  | reinstall (config given : Config) :
      TurnedAway (.reinstall config) (.refused .reentrant given) []
  | uninstall : TurnedAway .uninstall (.error .reentrant) []
  | request (q : Request client) : TurnedAway (.request q) (.error .reentrant) []
  | signal (h : Handle) (q : Signal) : TurnedAway (.signal h q) (.code q.neutral.code)
      [.notice (.dropped .reentrant q.entry h)]

/-- The outcome says that the seat is busy. -/
def Outcome.isReentrant : Outcome → Bool
  | .refused .reentrant _ | .error .reentrant => true
  | _ => false

/-- A router that is refused is handed back as it was, and nothing else changes. -/
theorem install_refused {seat seat' : Seat client} {stage stage' : Stage} {r : Router client}
    {e : Error} {config : Config}
    (h : install seat stage r = (.refused e config, seat', stage')) :
    seat = .busy ∧ e = .reentrant ∧ config = r.config ∧ seat' = seat ∧
      stage' = { stage with stash := some r } := by
  cases seat with
  | vacant => exact nomatch h
  | taken old => exact nomatch h
  | busy =>
    simp only [install, Seat.install, Seat.occupant, Stage.keep, Prod.mk.injEq,
      Outcome.refused.injEq] at h
    obtain ⟨⟨rfl, rfl⟩, rfl, rfl⟩ := h
    exact ⟨rfl, rfl, rfl, rfl, rfl⟩

/-- A step at a busy seat makes no call and leaves the seat busy. If it needs the seat it is turned
away, and else it queues a script. -/
theorem take_busy (answers : Answers) (stage : Stage) (step : Step) :
    ∃ outcome left stage', take answers .busy stage step = (outcome, .busy, stage') ∧
      stage'.records = stage.records ++ left ∧ stage'.serial = stage.serial ∧
      (step.needsSeat = true → step.TurnedAway outcome left ∧ stage'.scripts = stage.scripts) ∧
      (step.needsSeat = false → outcome = .queued ∧ left = []) := by
  cases step with
  | script call body fails =>
    exact ⟨_, [], _, rfl, (List.append_nil _).symm, rfl, nofun, fun _ ↦ ⟨rfl, rfl⟩⟩
  | install config =>
    exact ⟨_, [], _, rfl, (List.append_nil _).symm, rfl, fun _ ↦ ⟨.install config, rfl⟩, nofun⟩
  | reinstall config =>
    exact ⟨_, [], _, rfl, (List.append_nil _).symm, rfl, fun _ ↦ ⟨.reinstall config _, rfl⟩, nofun⟩
  | uninstall =>
    exact ⟨_, [], _, rfl, (List.append_nil _).symm, rfl, fun _ ↦ ⟨.uninstall, rfl⟩, nofun⟩
  | request q =>
    exact ⟨_, [], _, rfl, (List.append_nil _).symm, rfl, fun _ ↦ ⟨.request q, rfl⟩, nofun⟩
  | signal h q => exact ⟨_, _, _, rfl, rfl, rfl, fun _ ↦ ⟨.signal h q, rfl⟩, nofun⟩

/-- Whatever would answer a call, at a busy seat there is none to answer. -/
theorem take_busy_eq (answers : Answers) (stage : Stage) (step : Step) :
    take answers .busy stage step = take unanswered .busy stage step := by
  cases step <;> rfl

/-! ### What nested steps leave -/

/-- What is recorded while a script is followed, and the scripts that are queued then and
afterwards. Every step of the script is recorded, in their order: it is turned away if it needs the
seat, and else it queues a script. -/
inductive WithinCall : List Step → List Script → List Record → List Script → Prop
  | nil (queue : List Script) : WithinCall [] queue [] queue
  | turnedAway {step : Step} {outcome : Outcome} {left : List Record}
      (hstep : step.TurnedAway outcome left) {body : List Step} {queue queue' : List Script}
      {records : List Record} (hbody : WithinCall body queue records queue') :
      WithinCall (step :: body) queue (left ++ .nested step outcome :: records) queue'
  | queued (call : String) (steps : List Step) (fails : Bool) {body : List Step}
      {queue queue' : List Script} {records : List Record}
      (hbody : WithinCall body (queue ++ [⟨call, steps, fails⟩]) records queue') :
      WithinCall (.script call steps fails :: body) queue
        (.nested (.script call steps fails) .queued :: records) queue'

/-- What is recorded while a step of the session itself is taken, and the scripts that are queued
before and afterwards: notices, none of which says that the seat is busy, and calls. A call follows
the oldest script of its name, if there is one. -/
inductive Told (queue : List Script) : List Record → List Script → Prop
  | nil : Told queue [] queue
  | notice {records : List Record} {queue' : List Script} (hrecords : Told queue records queue')
      {n : Notice} (hn : ∀ entry h, n ≠ .dropped .reentrant entry h) :
      Told queue (records ++ [.notice n]) queue'
  | unscripted {records : List Record} {queue' : List Script}
      (hrecords : Told queue records queue') (c : Call client) (serial : Serial)
      (hnone : ∀ script ∈ queue', script.call ≠ c.name) :
      Told queue (records ++ [.called c serial]) queue'
  | scripted {records within : List Record} {before after queue' : List Script}
      {script : Script} (hrecords : Told queue records (before ++ script :: after))
      (c : Call client) (serial : Serial) (hname : script.call = c.name)
      (holdest : ∀ other ∈ before, other.call ≠ c.name)
      (hwithin : WithinCall script.body (before ++ after) within queue') :
      Told queue (records ++ .called c serial :: within) queue'

/-- The record is of the session itself: it is not left by a nested step. -/
def Record.own : Record → Bool
  | .nested _ _ | .notice (.dropped .reentrant _ _) => false
  | _ => true

theorem Step.TurnedAway.filter_own {step : Step} {outcome : Outcome} {left : List Record}
    (h : step.TurnedAway outcome left) : left.filter Record.own = [] := by
  cases h <;> rfl

/-- The steps of a script are taken one after the other. -/
theorem withinCall_foldl (body : List Step) (stage : Stage) : ∃ within,
    (body.foldl takeNested stage).records = stage.records ++ within ∧
      WithinCall body stage.scripts within (body.foldl takeNested stage).scripts := by
  induction body generalizing stage with
  | nil => exact ⟨[], (List.append_nil _).symm, .nil _⟩
  | cons step rest ih =>
    obtain ⟨within, hrecords, hwithin⟩ := ih (takeNested stage step)
    obtain ⟨outcome, left, stage', htake, hleft, -, hneeds, -⟩ :=
      take_busy unanswered stage step
    cases hseat : step.needsSeat with
    | true =>
      obtain ⟨haway, hscripts⟩ := hneeds hseat
      have hnested : takeNested stage step = stage'.record (.nested step outcome) := by
        rw [takeNested, htake]
      rw [hnested] at hrecords hwithin
      refine ⟨left ++ .nested step outcome :: within, ?_, .turnedAway haway ?_⟩
      · rw [List.foldl_cons, hnested, hrecords, Stage.record, hleft, List.append_assoc,
          List.append_assoc, List.singleton_append]
      · rw [List.foldl_cons, hnested]
        exact hscripts ▸ hwithin
    | false =>
      cases step with
      | script call steps fails =>
        exact ⟨_, hrecords.trans (List.append_assoc _ _ _), .queued call steps fails hwithin⟩
      | _ => exact nomatch hseat

/-- The script of a call is the oldest one with its name, if there is one. -/
theorem Stage.takeScript_cases (stage : Stage) (call : String) :
    (stage.takeScript call = (none, stage) ∧ ∀ script ∈ stage.scripts, script.call ≠ call) ∨
      ∃ before script after, stage.scripts = before ++ script :: after ∧ script.call = call ∧
        (∀ other ∈ before, other.call ≠ call) ∧
        stage.takeScript call = (some script, { stage with scripts := before ++ after }) := by
  unfold takeScript
  cases hfound : stage.scripts.find? (·.call = call) with
  | none =>
    have hnone : ∀ script ∈ stage.scripts, script.call ≠ call := fun script hscript ↦ by
      simpa using List.find?_eq_none.mp hfound script hscript
    have hsame : stage.scripts.eraseP (·.call = call) = stage.scripts :=
      List.eraseP_of_forall_not fun script hscript ↦ by simpa using hnone script hscript
    exact Or.inl ⟨by rw [hsame], hnone⟩
  | some script =>
    obtain ⟨hname, before, after, hscripts, hbefore⟩ := List.find?_eq_some_iff_append.mp hfound
    have holdest : ∀ other ∈ before, other.call ≠ call := fun other hother ↦ by
      simpa using hbefore other hother
    have hhead : (script :: after).eraseP (·.call = call) = after :=
      List.eraseP_cons_of_pos hname
    have hrest : stage.scripts.eraseP (·.call = call) = before ++ after := by
      rw [hscripts, List.eraseP_append_right _ (by simpa using holdest), hhead]
    exact Or.inr ⟨before, script, after, hscripts, by simpa using hname, holdest, by rw [hrest]⟩

section Told

variable {queue : List Script} {stage : Stage} (h : Told queue stage.records stage.scripts)

include h

theorem told_follow (c : Call client) (serial : Serial) (answer : c.Answer) :
    Told queue (follow stage c serial answer).2.records
      (follow stage c serial answer).2.scripts := by
  rw [follow]
  rcases (stage.record (.called c serial)).takeScript_cases c.name with
    ⟨htake, hnone⟩ | ⟨before, script, after, hscripts, hname, holdest, htake⟩
  · rw [htake]
    exact h.unscripted c serial hnone
  · rw [htake]
    have hqueue : stage.scripts = before ++ script :: after := hscripts
    rw [hqueue] at h
    obtain ⟨within, hrecords, hwithin⟩ := withinCall_foldl script.body
      { stage.record (.called c serial) with scripts := before ++ after }
    simp only
    rw [hrecords, Stage.record, List.append_assoc, List.singleton_append]
    exact h.scripted c serial hname holdest hwithin

theorem told_scripted (c : Call client) :
    Told queue (scripted c stage).2.records (scripted c stage).2.scripts := by
  have hnumbered : Told queue { stage with serial := stage.serial + 1 }.records
      { stage with serial := stage.serial + 1 }.scripts := h
  cases c with
  | window listener id w call =>
    cases listener with
    | silent => exact h
    | recorder r =>
      simp only [scripted]
      split
      · exact told_follow hnumbered _ _ _
      · exact told_follow h _ _ _
  | drag session call =>
    cases session with
    | none => exact h
    | some n => exact told_follow h _ _ _
  | gesture gesture call =>
    cases gesture with
    | none => exact h
    | some n => exact told_follow h _ _ _
  | scaleFactor host id => exact told_follow h _ _ _

/-! ### Steps that are not in a script -/

theorem told_run {S α : Type} {plan : Plan client S α} {Q : α → Prop}
    (hplan : plan.Keeps (fun n ↦ n.window?.isSome = true) Q) :
    Told queue (plan.run (world scripted) stage).2.2.records
      (plan.run (world scripted) stage).2.2.scripts := by
  refine hplan.of_invariant
    (I := fun stage : Stage ↦ Told queue stage.records stage.scripts) ?_ ?_ h
  · rintro n stage hn hstage
    have htold : Told queue stage.records stage.scripts := hstage
    refine htold.notice ?_
    rintro entry handle rfl
    exact nomatch hn
  · exact fun c w hw ↦ told_scripted hw c

end Told

/-- The scripts that a step queues. -/
def Step.queues : Step → List Script
  | .script call body fails => [⟨call, body, fails⟩]
  | _ => []

/-- A step that is not in a script finds a seat that is not busy and leaves one, also when the
client fails. It is not turned away, and all that is turned away meanwhile is nested in a call. -/
theorem told_take {seat : Seat client} (hseat : seat ≠ .busy) {stage : Stage}
    (hstage : stage.records = []) (step : Step) :
    (take scripted seat stage step).1.isReentrant = false ∧
      (take scripted seat stage step).2.1 ≠ .busy ∧
      Told (stage.scripts ++ step.queues) (take scripted seat stage step).2.2.records
        (take scripted seat stage step).2.2.scripts := by
  have h : Told (stage.scripts ++ []) stage.records stage.scripts := by
    rw [List.append_nil, hstage]
    exact .nil
  have hinstall (stage' : Stage) (hstage' : Told (stage.scripts ++ []) stage'.records
      stage'.scripts) (r : Router client) :
      (install seat stage' r).1.isReentrant = false ∧ (install seat stage' r).2.1 ≠ .busy ∧
        Told (stage.scripts ++ []) (install seat stage' r).2.2.records
          (install seat stage' r).2.2.scripts := by
    cases seat with
    | vacant => exact ⟨rfl, Seat.taken_ne_busy r, hstage'⟩
    | taken old => exact ⟨rfl, Seat.taken_ne_busy r, hstage'⟩
    | busy => exact absurd rfl hseat
  cases step with
  | script call body fails =>
    refine ⟨rfl, hseat, ?_⟩
    simp only [take, hstage]
    exact .nil
  | install config => exact hinstall stage h _
  | reinstall config => exact hinstall { stage with stash := none } h _
  | uninstall =>
    cases seat with
    | vacant => exact ⟨rfl, Seat.vacant_ne_busy, h⟩
    | taken old => exact ⟨rfl, Seat.vacant_ne_busy, h⟩
    | busy => exact absurd rfl hseat
  | request q =>
    cases seat with
    | vacant => exact ⟨rfl, Seat.vacant_ne_busy, h⟩
    | busy => exact absurd rfl hseat
    | taken r =>
      simp only [take, serve, Seat.serve, Seat.router, Except.bind]
      cases hplan : r.serve q with
      | error e =>
        have he := Router.ne_reentrant_of_serve hplan
        refine ⟨?_, Seat.taken_ne_busy r, h⟩
        cases e with
        | reentrant => exact absurd rfl he
        | _ => rfl
      | ok plan =>
        have hrun := told_run h (Router.keeps_of_serve hplan)
        simp only
        revert hrun
        rcases plan.run (world scripted) stage with ⟨_ | answer, r', stage'⟩ <;>
          exact fun hrun ↦ ⟨rfl, Seat.taken_ne_busy r', hrun⟩
  | signal hd q =>
    cases seat with
    | vacant => exact ⟨rfl, Seat.vacant_ne_busy, h.notice (by simp)⟩
    | busy => exact absurd rfl hseat
    | taken r =>
      simp only [take, Seat.signal, Seat.router, Except.bind]
      cases hplan : r.signal hd q with
      | error e =>
        have he := Router.ne_reentrant_of_signal hplan
        refine ⟨rfl, Seat.taken_ne_busy r, h.notice fun entry hd' heq ↦ ?_⟩
        obtain ⟨rfl, -, -⟩ := Notice.dropped.inj heq
        exact he rfl
      | ok plan =>
        obtain ⟨id, event, -, -, hdeliver⟩ := Router.signal_eq_ok hplan
        obtain ⟨other, hkeeps⟩ := Router.keeps_of_deliver hdeliver
        have habout (n : Notice) (hn : n.About other) : n.window?.isSome = true := by
          rw [hn, Option.isSome_some]
        have hrun := told_run h (hkeeps.mono habout fun _ hreply ↦ hreply)
        simp only
        revert hrun
        rcases plan.run (world scripted) stage with ⟨_ | answer, r', stage'⟩
        · exact fun hrun ↦ ⟨rfl, Seat.taken_ne_busy r', hrun.notice (by simp)⟩
        · exact fun hrun ↦ ⟨rfl, Seat.taken_ne_busy r', hrun⟩

/-! ### Steps that differ in their scripts -/

/-- The step without the steps of its script. -/
def Step.bare : Step → Step
  | .script call _ fails => .script call [] fails
  | step => step

/-- The script without its steps. -/
def Script.bare (s : Script) : Script := ⟨s.call, [], s.fails⟩

/-- The step does not install the router of the stash, and the steps that it may script queue no
scripts. -/
def Step.Steady : Step → Prop
  | .script _ body _ => ∀ step ∈ body, step.needsSeat = true
  | .reinstall _ => False
  | _ => True

/-- The steps of the queued scripts queue no scripts. -/
def Stage.Steady (s : Stage) : Prop :=
  ∀ script ∈ s.scripts, ∀ step ∈ script.body, step.needsSeat = true

/-- The stages differ in their stashes, in the steps of their scripts and in what nested steps left
on them. -/
structure Stage.Alike (s s' : Stage) : Prop where
  steady : s.Steady
  steady' : s'.Steady
  scripts : s.scripts.map Script.bare = s'.scripts.map Script.bare
  serial : s.serial = s'.serial
  own : s.records.filter Record.own = s'.records.filter Record.own

namespace Stage.Alike

variable {s s' : Stage} (h : s.Alike s')

include h

theorem record (x : Record) : (s.record x).Alike (s'.record x) where
  steady := h.steady
  steady' := h.steady'
  scripts := h.scripts
  serial := h.serial
  own := by simp only [Stage.record, List.filter_append, h.own]

theorem keep (r r' : Option (Router client)) : (s.keep r).Alike (s'.keep r') :=
  ⟨h.steady, h.steady', h.scripts, h.serial, h.own⟩

theorem queue (call : String) {body body' : List Step} (fails : Bool)
    (hbody : ∀ step ∈ body, step.needsSeat = true)
    (hbody' : ∀ step ∈ body', step.needsSeat = true) :
    Stage.Alike { s with scripts := s.scripts ++ [⟨call, body, fails⟩] }
      { s' with scripts := s'.scripts ++ [⟨call, body', fails⟩] } where
  steady := by
    intro script hscript
    rcases List.mem_append.mp hscript with hscript | hscript
    · exact h.steady script hscript
    · exact List.mem_singleton.mp hscript ▸ hbody
  steady' := by
    intro script hscript
    rcases List.mem_append.mp hscript with hscript | hscript
    · exact h.steady' script hscript
    · exact List.mem_singleton.mp hscript ▸ hbody'
  scripts := by
    simp only [List.map_append, h.scripts]
    rfl
  serial := h.serial
  own := h.own

/-- The oldest script for a call is the same but for its steps. -/
theorem takeScript (call : String) :
    (s.takeScript call).1.map Script.bare = (s'.takeScript call).1.map Script.bare ∧
      (s.takeScript call).2.Alike (s'.takeScript call).2 := by
  have hcall : ((fun script : Script ↦ decide (script.call = call)) ∘ Script.bare) =
      fun script ↦ decide (script.call = call) := rfl
  have hfind (s : Stage) : (s.takeScript call).1.map Script.bare =
      (s.scripts.map Script.bare).find? fun script ↦ script.call = call := by
    rw [Stage.takeScript, List.find?_map, hcall]
  have herase (s : Stage) : (s.takeScript call).2.scripts.map Script.bare =
      (s.scripts.map Script.bare).eraseP fun script ↦ script.call = call := by
    rw [Stage.takeScript, List.eraseP_map, hcall]
  have hsteady {s : Stage} (hs : s.Steady) : (s.takeScript call).2.Steady :=
    fun script hscript ↦ hs script (List.mem_of_mem_eraseP hscript)
  refine ⟨by rw [hfind, hfind, h.scripts], hsteady h.steady, hsteady h.steady', ?_, h.serial, h.own⟩
  rw [herase, herase, h.scripts]

end Stage.Alike

/-- Nested steps that queue no scripts change neither the scripts nor the count of sessions, and
record nothing of the session itself. -/
theorem foldl_takeNested (body : List Step) (hbody : ∀ step ∈ body, step.needsSeat = true)
    (stage : Stage) :
    (body.foldl takeNested stage).scripts = stage.scripts ∧
      (body.foldl takeNested stage).serial = stage.serial ∧
      (body.foldl takeNested stage).records.filter Record.own =
        stage.records.filter Record.own := by
  induction body generalizing stage with
  | nil => exact ⟨rfl, rfl, rfl⟩
  | cons step rest ih =>
    obtain ⟨outcome, left, stage', htake, hleft, hserial, hneeds, -⟩ :=
      take_busy unanswered stage step
    obtain ⟨haway, hscripts⟩ := hneeds (hbody step (List.mem_cons_self ..))
    have hnested : takeNested stage step = stage'.record (.nested step outcome) := by
      rw [takeNested, htake]
    have hown : (takeNested stage step).records.filter Record.own =
        stage.records.filter Record.own := by
      rw [hnested, Stage.record, hleft, List.filter_append, List.filter_append, haway.filter_own]
      exact (List.append_nil _).trans (List.append_nil _)
    obtain ⟨hscripts', hserial', hown'⟩ :=
      ih (fun x hx ↦ hbody x (List.mem_cons_of_mem _ hx)) (takeNested stage step)
    refine ⟨hscripts'.trans ?_, hserial'.trans ?_, hown'.trans hown⟩
    · rw [hnested]
      exact hscripts
    · rw [hnested]
      exact hserial

theorem Stage.Alike.foldl {s s' : Stage} (h : s.Alike s') {body body' : List Step}
    (hbody : ∀ step ∈ body, step.needsSeat = true)
    (hbody' : ∀ step ∈ body', step.needsSeat = true) :
    (body.foldl takeNested s).Alike (body'.foldl takeNested s') := by
  obtain ⟨hscripts, hserial, hown⟩ := foldl_takeNested body hbody s
  obtain ⟨hscripts', hserial', hown'⟩ := foldl_takeNested body' hbody' s'
  refine ⟨?_, ?_, ?_, ?_, ?_⟩
  · rw [Stage.Steady, hscripts]
    exact h.steady
  · rw [Stage.Steady, hscripts']
    exact h.steady'
  · rw [hscripts, hscripts', h.scripts]
  · rw [hserial, hserial', h.serial]
  · rw [hown, hown', h.own]

theorem alike_follow {s s' : Stage} (h : s.Alike s') (c : Call client) (serial : Serial)
    (answer : c.Answer) :
    (follow s c serial answer).1 = (follow s' c serial answer).1 ∧
      (follow s c serial answer).2.Alike (follow s' c serial answer).2 := by
  have hcalled := h.record (.called c serial)
  have htake := hcalled.takeScript c.name
  have hmem {s : Stage} (hs : s.Steady) (script : Script)
      (hscript : (s.takeScript c.name).1 = some script) :
      ∀ step ∈ script.body, step.needsSeat = true :=
    hs script (List.mem_of_find?_eq_some hscript)
  have hbody := hmem (s := s.record (.called c serial)) hcalled.steady
  have hbody' := hmem (s := s'.record (.called c serial)) hcalled.steady'
  simp only [follow]
  revert htake hbody hbody'
  rcases (s.record (.called c serial)).takeScript c.name with ⟨_ | script, t⟩ <;>
    rcases (s'.record (.called c serial)).takeScript c.name with ⟨_ | script', t'⟩ <;>
    rintro ⟨hscript, ht⟩ hbody hbody'
  · exact ⟨rfl, ht⟩
  · exact nomatch hscript
  · exact nomatch hscript
  · obtain ⟨-, -, hfails⟩ := Script.mk.inj (Option.some.inj hscript)
    exact ⟨by simp only [hfails], ht.foldl (hbody _ rfl) (hbody' _ rfl)⟩

/-- Scripts that differ in their steps answer the calls alike. -/
theorem alike_scripted : (world scripted).Alike (world scripted) Stage.Alike where
  note h n := h.record (.notice n)
  answer := by
    intro s s' h c
    cases c with
    | window listener id w call =>
      cases listener with
      | silent => exact ⟨rfl, h⟩
      | recorder r =>
        simp only [world, scripted, h.serial]
        split
        · refine alike_follow (s := { s with serial := s'.serial + 1 }) ?_ _ _ _
          exact ⟨h.steady, h.steady', h.scripts, rfl, h.own⟩
        · exact alike_follow h _ _ _
    | drag session call =>
      cases session with
      | none => exact ⟨rfl, h⟩
      | some n => exact alike_follow h _ _ _
    | gesture gesture call =>
      cases gesture with
      | none => exact ⟨rfl, h⟩
      | some n => exact alike_follow h _ _ _
    | scaleFactor host id => exact alike_follow h _ _ _

/-- Steps that differ in their scripts are the same, unless they are what queues the scripts. -/
theorem Step.eq_or_script {x y : Step} (h : x.bare = y.bare) :
    x = y ∨
      ∃ call body body' fails, x = .script call body fails ∧ y = .script call body' fails := by
  cases x with
  | script call body fails =>
    cases y with
    | script call' body' fails' =>
      obtain ⟨rfl, -, rfl⟩ := Step.script.inj h
      exact Or.inr ⟨call, body, body', fails, rfl, rfl⟩
    | _ => exact nomatch h
  | _ =>
    cases y with
    | script call' body' fails' => exact nomatch h
    | _ => exact Or.inl h

/-- Steps that differ in their scripts come to the same. -/
theorem alike_take (seat : Seat client) {s s' : Stage} (h : s.Alike s') {x y : Step}
    (hx : x.Steady) (hy : y.Steady) (hxy : x.bare = y.bare) :
    (take scripted seat s x).1 = (take scripted seat s' y).1 ∧
      (take scripted seat s x).2.1 = (take scripted seat s' y).2.1 ∧
      (take scripted seat s x).2.2.Alike (take scripted seat s' y).2.2 := by
  rcases Step.eq_or_script hxy with rfl | ⟨call, body, body', fails, rfl, rfl⟩
  · cases x with
    | script call body fails => exact ⟨rfl, rfl, h.queue call fails hx hx⟩
    | install config => cases seat <;> exact ⟨rfl, rfl, h.keep _ _⟩
    | reinstall config => exact hx.elim
    | uninstall =>
      cases seat with
      | vacant => exact ⟨rfl, rfl, h.keep _ _⟩
      | taken old => exact ⟨rfl, rfl, h.keep _ _⟩
      | busy => exact ⟨rfl, rfl, h⟩
    | request q =>
      obtain ⟨hanswer, hseat, hstage⟩ := seat.serve_alike alike_scripted h q
      simp only [take, serve]
      revert hanswer hseat hstage
      rcases seat.serve (world scripted) q s with ⟨answer, t, u⟩
      rcases seat.serve (world scripted) q s' with ⟨answer', t', u'⟩
      rintro rfl rfl hstage
      rcases answer with _ | _ | _ <;> exact ⟨rfl, rfl, hstage⟩
    | signal hd q =>
      obtain ⟨hcode, hseat, hstage⟩ := seat.signal_alike alike_scripted h hd q
      exact ⟨congrArg Outcome.code hcode, hseat, hstage⟩
  · exact ⟨rfl, rfl, h.queue call fails hx hy⟩

/-! ### Whole scenarios -/

/-- The seat and the stage after some steps. -/
def afterFrom (seat : Seat client) (stage : Stage) (steps : List Step) : Seat client × Stage :=
  steps.foldl (fun s step ↦ (advance s.1 s.2 step).2) (seat, stage)

/-- The seat after some steps, at first vacant. -/
def seatAfter (steps : List Step) : Seat client := (afterFrom .vacant .empty steps).1

/-- What comes of a step, without what its nested steps left. -/
def ownResult (result : Outcome × List Record) : Outcome × List Record :=
  (result.1, result.2.filter Record.own)

theorem alike_advance (seat : Seat client) {s s' : Stage} (h : s.Alike s') {x y : Step}
    (hx : x.Steady) (hy : y.Steady) (hxy : x.bare = y.bare) :
    ownResult (advance seat s x).1 = ownResult (advance seat s' y).1 ∧
      (advance seat s x).2.1 = (advance seat s' y).2.1 ∧
      (advance seat s x).2.2.Alike (advance seat s' y).2.2 := by
  have hcleared : Stage.Alike { s with records := [] } { s' with records := [] } :=
    ⟨h.steady, h.steady', h.scripts, h.serial, rfl⟩
  obtain ⟨houtcome, hseat, hstage⟩ := alike_take seat hcleared hx hy hxy
  exact ⟨Prod.ext houtcome hstage.own, hseat, hstage⟩

theorem alike_runFrom (seat : Seat client) {s s' : Stage} (h : s.Alike s') {xs ys : List Step}
    (hxs : ∀ x ∈ xs, x.Steady) (hys : ∀ y ∈ ys, y.Steady)
    (hxy : xs.map Step.bare = ys.map Step.bare) :
    (runFrom seat s xs).map ownResult = (runFrom seat s' ys).map ownResult ∧
      (afterFrom seat s xs).1 = (afterFrom seat s' ys).1 := by
  induction xs generalizing seat s s' ys with
  | nil =>
    obtain rfl := List.map_eq_nil_iff.mp hxy.symm
    exact ⟨rfl, rfl⟩
  | cons x xs ih =>
    obtain ⟨y, ys, rfl, hy, hrest⟩ := List.map_eq_cons_iff.mp hxy.symm
    obtain ⟨hresult, hseat, hstage⟩ := alike_advance seat h (hxs x (List.mem_cons_self ..))
      (hys y (List.mem_cons_self ..)) hy.symm
    obtain ⟨hresults, hafter⟩ := ih (advance seat s x).2.1 hstage
      (fun x hx ↦ hxs x (List.mem_cons_of_mem _ hx))
      (fun y hy ↦ hys y (List.mem_cons_of_mem _ hy)) hrest.symm
    have hresults' := hresults.trans (congrArg (fun seat ↦ (runFrom seat _ ys).map ownResult) hseat)
    refine ⟨?_, hafter.trans (congrArg (fun seat ↦ (afterFrom seat _ ys).1) hseat)⟩
    simp only [runFrom, List.map_cons]
    rw [hresult, hresults']

/-- The results of some steps, one for each, when the scripts in `queue` are queued at first. No
step is turned away, and what is recorded follows the scripts that are queued when the step is
taken. -/
inductive Reported : List Script → List Step → List (Outcome × List Record) → Prop
  | nil (queue : List Script) : Reported queue [] []
  | cons {queue queue' : List Script} {step : Step} {outcome : Outcome} {records : List Record}
      (houtcome : outcome.isReentrant = false)
      (htold : Told (queue ++ step.queues) records queue') {rest : List Step}
      {results : List (Outcome × List Record)} (hrest : Reported queue' rest results) :
      Reported queue (step :: rest) ((outcome, records) :: results)

theorem reported_runFrom {seat : Seat client} (hseat : seat ≠ .busy) (stage : Stage)
    (steps : List Step) :
    Reported stage.scripts steps (runFrom seat stage steps) ∧
      (afterFrom seat stage steps).1 ≠ .busy := by
  induction steps generalizing seat stage with
  | nil => exact ⟨.nil _, hseat⟩
  | cons step rest ih =>
    have hcleared : { stage with records := [] }.records = [] := rfl
    obtain ⟨houtcome, hseat', htold⟩ := told_take hseat hcleared step
    obtain ⟨hresults, hafter⟩ := ih hseat' (advance seat stage step).2.2
    exact ⟨.cons houtcome htold hresults, hafter⟩

/-- It is harmless to call back from a call. Scenarios that differ only in the steps of their
scripts, which queue no scripts, have the same outcomes, calls and notices of their own, and the
same seat after every step. A step that needs the seat is turned away if it is nested in a call and
in no other case, whether or not the client fails: no step of the scenario itself is turned away,
and every call that is made meanwhile follows the oldest script of its name, if there is one, and
all steps of the script are recorded. Afterwards the seat can be used again.

The steps of a script are taken at a busy seat. There a step makes no call, whatever would answer
it, and leaves the seat busy. A router that is refused is handed back as it was. -/
theorem reentrancy_harmless :
    (∀ xs ys : List Step, (∀ x ∈ xs, x.Steady) → (∀ y ∈ ys, y.Steady) →
      xs.map Step.bare = ys.map Step.bare →
      (run xs).map ownResult = (run ys).map ownResult ∧
        ∀ n, seatAfter (xs.take n) = seatAfter (ys.take n)) ∧
    (∀ steps, Reported [] steps (run steps) ∧ seatAfter steps ≠ .busy) ∧
    (∀ (answers : Answers) (stage : Stage) (step : Step), ∃ outcome left stage',
      take answers .busy stage step = (outcome, .busy, stage') ∧
      takeNested stage step = stage'.record (.nested step outcome) ∧
      stage'.records = stage.records ++ left ∧ stage'.serial = stage.serial ∧
      (step.needsSeat = true → step.TurnedAway outcome left ∧ stage'.scripts = stage.scripts) ∧
      (step.needsSeat = false → outcome = .queued ∧ left = [])) ∧
    ∀ (seat seat' : Seat client) (stage stage' : Stage) (r : Router client) (e : Error)
      (config : Config), install seat stage r = (.refused e config, seat', stage') →
      seat = .busy ∧ e = .reentrant ∧ config = r.config ∧ seat' = seat ∧
        stage' = { stage with stash := some r } := by
  have hempty : Stage.empty.Alike .empty := ⟨nofun, nofun, rfl, rfl, rfl⟩
  have hvacant : (Seat.vacant : Seat client) ≠ .busy := Seat.vacant_ne_busy
  refine ⟨fun xs ys hxs hys hxy ↦ ⟨(alike_runFrom .vacant hempty hxs hys hxy).1, fun n ↦ ?_⟩,
    fun steps ↦ reported_runFrom hvacant .empty steps, fun answers stage step ↦ ?_,
    fun _ _ _ _ _ _ _ ↦ install_refused⟩
  · exact (alike_runFrom .vacant hempty (fun x hx ↦ hxs x (List.mem_of_mem_take hx))
      (fun y hy ↦ hys y (List.mem_of_mem_take hy)) (by rw [List.map_take, hxy, List.map_take])).2
  · obtain ⟨outcome, left, stage', htake, hrest⟩ := take_busy answers stage step
    refine ⟨outcome, left, stage', htake, ?_, hrest⟩
    rw [takeNested, ← take_busy_eq answers, htake]

/-- A listener that is asked for a drag session and fails may before that have taken the router
away, closed its own window, sent it a signal and installed another router. -/
theorem reentrancy_harmless_failing_drag :
    let press : Step := .request (.send ⟨1, 1⟩ (.button .zero true .left))
    let steps (body : List Step) : List Step := [.install default,
      .request (.create default (.recorder ⟨[], .every true⟩)), .script "mouse_drag" body true,
      press, press]
    let body : List Step :=
      [.uninstall, .request (.close ⟨1, 1⟩), .signal 1 .leave, .install default]
    (run (steps body)).map ownResult = (run (steps [])).map ownResult ∧
      ∀ n, seatAfter ((steps body).take n) = seatAfter ((steps []).take n) := by
  intro press steps body
  have hsteady {body : List Step} (hbody : ∀ step ∈ body, step.needsSeat = true) :
      ∀ step ∈ steps body, step.Steady := by
    simp only [steps, List.forall_mem_cons, Step.Steady, press]
    exact ⟨trivial, trivial, hbody, trivial, trivial, nofun⟩
  exact reentrancy_harmless.1 _ _ (hsteady (by decide)) (hsteady nofun) rfl

end Scenario

end WindowRouting
