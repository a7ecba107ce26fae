import InstanceRegistry.Scenario.Trace

/-!
# The state of a scenario

An environment is the state that the threads of a scenario share: the objects and
variables, what the names of the scenario stand for, the bodies of its constructors
and observers, its gates, the threads that wait, and the trace.
-/

namespace InstanceRegistry.Scenario

/-- The body of a constructor. -/
inductive Builder where
  /-- Makes a pointer to a zero value. -/
  | blank (target : Ty)
  /-- Follows the plans, one for each invocation and the last one from then on. -/
  | planned (accessor : String) (type : Ty) (plans : List Plan) (invocations : Nat)

/-- How often the constructor ran. -/
def Builder.invocations : Builder → Nat
  | .blank _ => 0
  | .planned _ _ _ n => n

/-- A rule and how often it may still be used. -/
structure ActiveRule where
  rule : Rule
  left : Option Nat

/-- An observer: its rules, and the last fault that it was told of. -/
structure Watcher where
  name : String
  style : Style
  rules : List ActiveRule
  lastFault : Option Fault := none

/-- The state of a scenario. -/
structure Environment where
  memory : Memory := {}
  vars : Keyed String (Ty × Value) := {}
  registries : Keyed String RegistryId := {}
  observers : Keyed String ObserverId := {}
  accessors : Keyed String Accessor := {}
  builders : List Builder := []
  watchers : List Watcher := []
  openGates : List Gate := []
  /-- The threads that stand at a gate, in the order in which they came. -/
  atGates : List (ThreadId × Gate) := []
  /-- The threads that wait for a flight, in the order in which they joined. -/
  inFlights : List (ThreadId × FlightId) := []
  /-- The threads that may go on, in the order of their turns. -/
  ready : List ThreadId := []
  /-- The fault of the last call that returned, by thread. -/
  lastCalls : Keyed ThreadId (Option Fault) := {}
  /-- The entries of the current act, the newest first. -/
  trace : List Entry := []
  /-- Why the scenario has no report, if it has none. -/
  misuse : Option String := none

namespace Environment

/-- Adds an entry to the trace. -/
def record (env : Environment) (t : ThreadId) (h : Happening) : Environment :=
  { env with trace := ⟨t, h⟩ :: env.trace }

/-- Notes why the scenario has no report; the first reason stays. -/
def abandon (env : Environment) (reason : String) : Environment :=
  { env with misuse := env.misuse.orElse fun _ => some reason }

/-- Notes that a name stands for nothing. -/
def unknown (env : Environment) (sort name : String) : Environment :=
  env.abandon ("unknown " ++ sort ++ " " ++ name)

/-- Shows a value. -/
def display (env : Environment) (type : Ty) (v : Value) : Environment × Shown :=
  let (memory, shown) := env.memory.display type v
  ({ env with memory }, shown)

/-- Saves a value in a variable, if there is one to save it in. -/
def save (env : Environment) (var : Option String) (type : Ty) (v : Value) : Environment :=
  match var with
  | none => env
  | some var => { env with vars := env.vars.insert var (type, v) }

/-- The last fault that the observer of a name was told of. -/
def lastFault (env : Environment) (observer : String) : Option Fault := do
  let o ← env.observers.get? observer
  let w ← env.watchers[o]?
  w.lastFault

/-- Adds a constructor. -/
def addBuilder (env : Environment) (b : Builder) : Environment × ConstructorId :=
  ({ env with builders := env.builders ++ [b] }, env.builders.length)

/-- Adds an observer under its name. -/
def addWatcher (env : Environment) (w : Watcher) : Environment :=
  { env with
    watchers := env.watchers ++ [w]
    observers := env.observers.insert w.name env.watchers.length }

/-- Opens a gate; the threads that stand at it get their turns in the order in which they came. -/
def unlock (env : Environment) (g : Gate) : Environment :=
  { env with
    openGates := g :: env.openGates
    ready := env.ready ++ (env.atGates.filter fun entry => entry.2 = g).map Prod.fst
    atGates := env.atGates.filter fun entry => entry.2 ≠ g }

end Environment

namespace FaultSpec

mutual

/-- The fault that a specification stands for on a thread, if it stands for one. -/
def eval (env : Environment) (t : ThreadId) : FaultSpec → Option Fault
  | .nothing => none
  | .plain s => some (.plain s)
  | .sentinel s => some (.sentinel s)
  | .labelled label cause => some (.labelled label (eval env t cause))
  | .joined parts =>
    match evalAll env t parts with
    | [] => none
    | parts => some (.joined parts)
  | .construction type name cause => some (.construction type name (eval env t cause))
  | .fielded fields s => some (.fielded (some fields) s)
  | .absentPointer => some .absentPointer
  | .absentConstruction => some .absentConstruction
  | .convertsToAll s => some (.convertsToAll s)
  | .matchesAll s => some (.matchesAll s)
  | .observed observer => env.lastFault observer
  | .lastCall => (env.lastCalls.get? t).join
termination_by structural spec => spec

/-- The faults that several specifications stand for. -/
def evalAll (env : Environment) (t : ThreadId) : List FaultSpec → List Fault
  | [] => []
  | spec :: rest =>
    match eval env t spec with
    | none => evalAll env t rest
    | some e => e :: evalAll env t rest
termination_by structural specs => specs

end

end FaultSpec

/-- The panic value that a specification stands for. -/
def PanicSpec.eval (env : Environment) (t : ThreadId) : PanicSpec → Panic
  | .value p => p
  | .fault spec =>
    match spec.eval env t with
    | some e => .fault e
    | none => .runtime .nilPanic

namespace Environment

/-- Makes an object. -/
def allocate (env : Environment) (c : Cell) : Environment × Value :=
  let (memory, v) := env.memory.allocate c
  ({ env with memory }, v)

end Environment

/-- The value of the given type that a specification stands for; objects in it are made anew. -/
def ValueSpec.eval (t : ThreadId) : Ty → ValueSpec → Environment → Environment × Value
  | type, .zero, env => (env, type.zero)
  | _, .number n, env => (env, .number n)
  | _, .text s, env => (env, .text s)
  | _, .truth b, env => (env, .truth b)
  | _, .triple a b c, env => (env, .triple a b c)
  | _, .numbers ns, env => env.allocate (.numbers ns)
  | _, .table entries, env => env.allocate (.table (.ofList entries))
  | _, .channel capacity, env => env.allocate (.channel capacity)
  | _, .thunk n, env => (env, .thunk (some n))
  | .pointer type, .pointer target, env =>
    let (env, v) := target.eval t type env
    env.allocate (.value v)
  | .base _, .pointer _, env => (env, .reference none)
  | _, .dynamic type value, env =>
    let (env, v) := value.eval t type env
    (env, type.box v)
  | _, .fault spec, env => (env, Value.ofFault? (spec.eval env t))
  | type, .saved var, env =>
    match env.vars.get? var with
    | some (own, v) => (env, type.unbox (own.box v))
    | none => (env.unknown "variable" var, type.zero)

end InstanceRegistry.Scenario
