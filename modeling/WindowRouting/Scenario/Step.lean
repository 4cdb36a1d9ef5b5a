import WindowRouting.Seat.Request
import WindowRouting.Seat.Signal
import WindowRouting.Scenario.Recorder

/-!
The steps of a scenario, what comes of them and what is recorded on the way.
-/

set_option autoImplicit false
set_option relaxedAutoImplicit false

namespace WindowRouting.Scenario

/-- A step of a scenario. -/
inductive Step
  /-- Queues a script for the calls with a name: the steps to take in the call, and whether the
  client then fails. -/
  | script (call : String) (body : List Step) (fails : Bool)
  /-- Installs a new router. -/
  | install (config : Config)
  /-- Installs the router of the stash, or a new one if the stash is empty. -/
  | reinstall (config : Config)
  | uninstall
  | request (request : Request client)
  | signal (handle : Handle) (signal : Signal)

/-- What comes of a step. -/
inductive Outcome
  | queued
  /-- A router was installed; another one may have been replaced. -/
  | installed (replaced : Bool)
  /-- A router was refused and handed back. -/
  | refused (reason : Error) (config : Config)
  /-- The seat was vacated; it may have been vacant. -/
  | uninstalled (occupied : Bool)
  | answer (answer : Answer)
  /-- The number that went back to the native side, if one did. -/
  | code (code : Option Nat)
  | error (reason : Error)
  | fault (fault : Fault)

/-- What is recorded while a step is taken. -/
inductive Record
  | notice (notice : Notice)
  /-- A call, with the number that a new session or gesture gets. -/
  | called (call : Call client) (serial : Serial)
  /-- A step of a script, after what was recorded while it was taken. -/
  | nested (step : Step) (outcome : Outcome)

/-- A script for the next call with a name. -/
structure Script where
  call : String
  body : List Step
  fails : Bool

/-- What a scenario keeps besides its seat. -/
structure Stage where
  /-- The router that was replaced, refused or taken away last. -/
  stash : Option (Router client)
  /-- The queued scripts, the oldest first. -/
  scripts : List Script
  /-- The number of sessions and gestures so far. -/
  serial : Nat
  records : List Record

namespace Stage

/-- Nothing has happened. -/
def empty : Stage := ⟨none, [], 0, []⟩

/-- Adds a record. -/
def record (s : Stage) (r : Record) : Stage := { s with records := s.records ++ [r] }

/-- Puts a router into the stash, if there is one. -/
def keep (s : Stage) (r : Option (Router client)) : Stage := { s with stash := r <|> s.stash }

/-- Takes the oldest script for a call from the queue. -/
def takeScript (s : Stage) (call : String) : Option Script × Stage :=
  (s.scripts.find? (·.call = call), { s with scripts := s.scripts.eraseP (·.call = call) })

end Stage

end WindowRouting.Scenario
