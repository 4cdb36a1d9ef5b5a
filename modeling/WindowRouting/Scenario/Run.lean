import WindowRouting.Scenario.Step

/-!
The course of a scenario. Each step is taken at the seat of the scenario; the calls that it leads to
are recorded and answered by rule, after the steps of their script. These nested steps find the seat
busy, so they never lead to a call (`take` with `unanswered`).
-/

set_option autoImplicit false
set_option relaxedAutoImplicit false

namespace WindowRouting.Scenario

/-- How the calls to a client are answered on a stage. -/
abbrev Answers := (c : Call client) → Stage → Option c.Answer × Stage

/-- No call is answered. -/
def unanswered : Answers := fun _ stage ↦ (none, stage)

/-- The world that records the notices on the stage. -/
def world (answers : Answers) : World client Stage :=
  ⟨fun n stage ↦ stage.record (.notice n), answers⟩

/-- Installs a router; the one that is replaced or refused goes to the stash. -/
def install (seat : Seat client) (stage : Stage) (r : Router client) :
    Outcome × Seat client × Stage :=
  match seat.install r with
  | (.ok old, seat) => (.installed old.isSome, seat, stage.keep old)
  | (.error e, seat) => (.refused e r.config, seat, stage.keep (some r))

/-- Serves a request at a seat. -/
def serve (answers : Answers) (seat : Seat client) (stage : Stage) (request : Request client) :
    Outcome × Seat client × Stage :=
  match seat.serve (world answers) request stage with
  | (.error e, seat, stage) => (.error e, seat, stage)
  | (.ok (some answer), seat, stage) => (.answer answer, seat, stage)
  | (.ok none, seat, stage) => (.fault .scripted, seat, stage)

/-- Takes a step. -/
def take (answers : Answers) (seat : Seat client) (stage : Stage) :
    Step → Outcome × Seat client × Stage
  | .script call body fails =>
    (.queued, seat, { stage with scripts := stage.scripts ++ [⟨call, body, fails⟩] })
  | .install config => install seat stage (.new config)
  | .reinstall config =>
    install seat { stage with stash := none } (stage.stash.getD (.new config))
  | .uninstall =>
    match seat.uninstall with
    | (.ok old, seat) => (.uninstalled old.isSome, seat, stage.keep old)
    | (.error e, seat) => (.error e, seat, stage)
  | .request request => serve answers seat stage request
  | .signal handle signal =>
    let (code, seat, stage) := seat.signal (world answers) handle signal stage
    (.code code, seat, stage)

/-- Takes a step of a script, while the seat is busy. -/
def takeNested (stage : Stage) (step : Step) : Stage :=
  let (outcome, _, stage) := take unanswered .busy stage step
  stage.record (.nested step outcome)

/-- Records a call and follows its script; the answer is missing if the script fails. -/
def follow (stage : Stage) (c : Call client) (serial : Serial) (answer : c.Answer) :
    Option c.Answer × Stage :=
  match (stage.record (.called c serial)).takeScript c.name with
  | (none, stage) => (some answer, stage)
  | (some script, stage) =>
    (if script.fails then none else some answer, script.body.foldl takeNested stage)

/-- Answers a call by rule. Silent listeners and what they open leave no record. -/
def scripted : Answers
  | .window .silent _ _ call, stage => (some (silentAnswer call), stage)
  | .window (.recorder r) id w call, stage =>
    let serial := stage.serial + 1
    let answer := r.answer serial call
    if opensSession call then
      follow { stage with serial := serial } (.window (.recorder r) id w call) (some serial) answer
    else follow stage (.window (.recorder r) id w call) none answer
  | .drag none _, stage => (some (), stage)
  | .drag (some n) call, stage => follow stage (.drag (some n) call) none ()
  | .gesture none _, stage => (some (), stage)
  | .gesture (some n) call, stage => follow stage (.gesture (some n) call) none ()
  | .scaleFactor host id, stage => follow stage (.scaleFactor host id) none (host.find id)

/-- Takes a step of the scenario itself, and collects what is recorded meanwhile. -/
def advance (seat : Seat client) (stage : Stage) (step : Step) :
    (Outcome × List Record) × Seat client × Stage :=
  let (outcome, seat, stage) := take scripted seat { stage with records := [] } step
  ((outcome, stage.records), seat, stage)

/-- What comes of the steps, from a given seat and stage. -/
def runFrom (seat : Seat client) (stage : Stage) : List Step → List (Outcome × List Record)
  | [] => []
  | step :: rest =>
    let (result, seat, stage) := advance seat stage step
    result :: runFrom seat stage rest

/-- What comes of the steps, at first with a vacant seat. -/
def run (steps : List Step) : List (Outcome × List Record) :=
  runFrom .vacant .empty steps

end WindowRouting.Scenario
