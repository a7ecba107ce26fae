import InstanceRegistry.Scenario.Memory

/-!
# Traces

What a scenario leaves behind: entries, each made by a thread, and at the end the
threads that never finished and how often each constructor ran.
-/

namespace InstanceRegistry.Scenario

/-- What an entry of a trace tells. -/
inductive Happening where
  /-- An act was carried out. -/
  | did (word : String)
  /-- An act ended in a panic. -/
  | panicked (word : String) (panic : PanicReport)
  | lookup (found : Bool) (value : Shown)
  | size (n : Nat)
  | entries (slots : List Slot)
  | shared (same : Bool) (size : Nat)
  | display (value : Shown)
  /-- A constructor was invoked for the given time. -/
  | maker (accessor : String) (invocation : Nat)
  /-- A call returned a value and perhaps a fault. -/
  | returned (accessor : String) (value : Shown) (fault : Option FaultReport)
  /-- A call panicked. -/
  | raised (accessor : String) (panic : PanicReport)
  /-- A thread stopped at a closed gate. -/
  | gate (g : Gate)
  /-- A thread joined a flight. -/
  | join
  /-- A thread is held before its flight. -/
  | late
  /-- An observer noted down a notice. -/
  | notice (observer : String) (n : Notice) (fault : FaultReport)
  /-- An observer wrote a log entry. -/
  | log (observer : String) (entry : LogEntry)

/-- An entry of a trace. -/
structure Entry where
  thread : ThreadId
  happening : Happening

/-- Settles what an entry shows. -/
def Happening.settle (m : Memory) : Happening → Happening
  | .lookup found value => .lookup found (value.settle m)
  | .display value => .display (value.settle m)
  | .returned accessor value fault => .returned accessor (value.settle m) fault
  | h => h

/-- Settles what an entry shows. -/
def Entry.settle (m : Memory) (e : Entry) : Entry :=
  { e with happening := e.happening.settle m }

/-- What a thread that never finished waits for. -/
inductive Hindrance where
  | gate (g : Gate)
  | flight

/-- What a scenario leaves behind. -/
structure Report where
  /-- The entries of each act. -/
  steps : List (List Entry)
  blocked : List (ThreadId × Hindrance)
  /-- How often the constructor of each accessor ran. -/
  invocations : List (String × Nat)

/-- The thread that carries out the acts of the scenario itself. -/
def mainThread : ThreadId := 0

/-- The name of a thread. -/
def threadName (t : ThreadId) : String :=
  if t = mainThread then "main" else "t" ++ toString t

/-- Slots in the order of their type's name, then of their own. -/
def sortSlots (slots : List Slot) : List Slot :=
  slots.mergeSort fun a b =>
    if a.type.id = b.type.id then a.name ≤ b.name else a.type.id ≤ b.type.id

end InstanceRegistry.Scenario
