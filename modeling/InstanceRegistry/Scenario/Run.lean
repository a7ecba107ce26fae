import InstanceRegistry.Scenario.Conduct
import InstanceRegistry.Step

/-!
# Running a scenario

The threads of a scenario take turns: one thread makes steps until it is through,
stands at a closed gate or waits for a flight. Then those whose flight has landed
are added to the threads that are ready, and the first of these has its turn. An
act of the scenario is over when no thread is ready.

Threads may go on for ever, so all of this is given up after a number of steps,
and a scenario that was given up has no report.
-/

namespace InstanceRegistry.Scenario

/-- The state of a run of a scenario. -/
abbrev Stage := World Environment

/-- The number of steps after which a run is given up. -/
def patience : Nat := 1000000000

namespace Stage

/-- Changes the environment. -/
def update (w : Stage) (change : Environment → Environment) : Stage :=
  { w with state := change w.state }

/-- Gives the run up. -/
def giveUp (w : Stage) : Stage :=
  w.update fun env => env.abandon "no end in sight"

/-- Lets a thread make steps until it has none or some condition holds of it. -/
def advanceUntil (stop : Thread Environment → Bool) (t : ThreadId) : Nat → Stage → Stage
  | 0, w => w.giveUp
  | steps + 1, w =>
    match w.threads[t]? with
    | none => w
    | some thread =>
      if stop thread then w
      else
        match w.step program t with
        | none => w
        | some w => advanceUntil stop t steps w

/-- Notes where a thread stopped. -/
def park (w : Stage) (t : ThreadId) : Stage :=
  match w.threads[t]? with
  | none => w
  | some thread =>
    match thread.gate?, thread.waitsFor? with
    | some g, _ =>
      w.update fun env => { env with atGates := env.atGates ++ [(t, g)] }.record t (.gate g)
    | none, some f =>
      w.update fun env => { env with inFlights := env.inFlights ++ [(t, f)] }.record t .join
    | none, none => w

/-- Gives those whose flight has landed their turns, in the order in which they joined. -/
def wake (w : Stage) : Stage :=
  let landed (entry : ThreadId × FlightId) : Bool := (w.landing? entry.2).isSome
  w.update fun env =>
    { env with
      ready := env.ready ++ (env.inFlights.filter landed).map Prod.fst
      inFlights := env.inFlights.filter fun entry => !landed entry }

/-- Lets a thread run until it stops. -/
def turn (w : Stage) (t : ThreadId) : Stage :=
  ((advanceUntil (fun _ => false) t patience w).park t).wake

/-- Gives the ready threads their turns until none is left. -/
def drain : Nat → Stage → Stage
  | 0, w => w.giveUp
  | turns + 1, w =>
    match w.state.ready with
    | [] => w
    | t :: rest => drain turns ((w.update fun env => { env with ready := rest }).turn t)

/-- Lets a thread run, and then all that are ready. -/
def runThread (w : Stage) (t : ThreadId) : Stage :=
  drain patience (w.turn t)

/-- Carries out code on the thread of the scenario itself. -/
def runMain (w : Stage) (c : Conduct) : Stage :=
  runThread { w with threads := w.threads.set mainThread (.start c) } mainThread

end Stage

/-- Whether a thread that makes a single call is about to board a flight for it. -/
def isHeld (thread : Thread Environment) : Bool :=
  match thread with
  | ⟨.requesting _ (.board _), [.caller _ _]⟩ => true
  | ⟨.requesting _ (.board _), [.again _, .caller _ _]⟩ => true
  | _ => false

/-- The code of a thread that calls an accessor. -/
def callerConduct (accessor : String) (save : Option String) : Conduct :=
  callAccessor accessor save (.done .unit none) fun _ => .done .unit none

mutual

/-- Carries out an act of the scenario itself. -/
def Act.run : Act → Stage → Stage
  | .call accessor save _, w =>
    let t := w.threads.length
    Stage.runThread (w.spawn (callerConduct accessor save)) t
  | .race accessor save first, w =>
    let t := w.threads.length
    let w := Stage.advanceUntil isHeld t patience (w.spawn (callerConduct accessor save))
    if (w.threads[t]?).any isHeld then
      let w := runActs first (w.update fun env => env.record t .late)
      w.runThread t
    else runActs first (w.runThread t)
  | act, w => w.runMain (act.conduct (.done .unit none))
termination_by structural act => act

/-- Carries out acts of the scenario itself, one after another. -/
def runActs : List Act → Stage → Stage
  | [], w => w
  | act :: rest, w => runActs rest (act.run w)
termination_by structural acts => acts

end

/-- Carries out an act and takes the entries that it made. -/
def runStep (w : Stage) (act : Act) : Stage × List Entry :=
  let w := act.run w
  (w.update fun env => { env with trace := [] }, w.state.trace.reverse)

/-- Carries out acts and takes the entries that each of them made. -/
def runSteps : Stage → List Act → Stage × List (List Entry)
  | w, [] => (w, [])
  | w, act :: rest =>
    let (w, entries) := runStep w act
    let (w, steps) := runSteps w rest
    (w, entries :: steps)

/-- What hinders a thread that is not through. -/
def hindrance? (thread : Thread Environment) : Option Hindrance :=
  match thread.gate?, thread.waitsFor? with
  | some g, _ => some (.gate g)
  | none, some _ => some .flight
  | none, none => none

/-- The threads that never finished, in the order in which they were made. -/
def blocked (w : Stage) : List (ThreadId × Hindrance) :=
  w.threads.zipIdx.filterMap fun (thread, t) => (hindrance? thread).map (t, ·)

/-- How often the constructor of each accessor ran. -/
def invocations (w : Stage) : List (String × Nat) :=
  w.state.accessors.entries.map fun (name, a) =>
    (name, (w.state.builders[a.maker]?.map Builder.invocations).getD 0)

/-- The stage before the first act: nothing is there but the thread of the scenario itself. -/
def Stage.initial : Stage :=
  { threads := [.start (.done .unit none)], state := {} }

/-- Runs a scenario and reports on it, unless it was given up or names what is not there. -/
def run (acts : List Act) : Except String Report :=
  let (w, steps) := runSteps .initial acts
  match w.state.misuse with
  | some reason => .error reason
  | none =>
    .ok {
      steps := steps.map (List.map (Entry.settle w.state.memory))
      blocked := blocked w
      invocations := invocations w }

end InstanceRegistry.Scenario
