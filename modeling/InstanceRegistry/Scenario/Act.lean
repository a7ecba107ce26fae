import InstanceRegistry.Journal

/-!
# Scenarios

A scenario is a list of acts: it sets up registries, observers and accessors, lets
threads call the accessors, and looks at what came of it. The same acts serve as
the bodies of constructors and observers, where they run on the thread that runs
the constructor or observer.

Values, faults and panics are written as specifications, since some of them refer
to what happened before: the value saved in a variable, the fault that an observer
saw last, the fault of the last call.
-/

namespace InstanceRegistry.Scenario

/-- A fault, or the absence of one, as a scenario writes it. -/
inductive FaultSpec where
  | nothing
  | plain (text : String)
  | sentinel (s : Sentinel)
  | labelled (label : String) (cause : FaultSpec)
  | joined (parts : List FaultSpec)
  | construction (type : Option Ty) (name : String) (cause : FaultSpec)
  | fielded (fields : List (String × String)) (text : String)
  | absentPointer
  | absentConstruction
  | convertsToAll (text : String)
  | matchesAll (text : String)
  /-- The last fault that an observer was told of. -/
  | observed (observer : String)
  /-- The fault of the last call that returned on this thread. -/
  | lastCall

/-- A value as a scenario writes it; its type is known from where it stands. -/
inductive ValueSpec where
  /-- The zero value of the type. -/
  | zero
  | number (n : Int)
  | text (s : String)
  | truth (b : Bool)
  | triple (a b c : Int)
  | numbers (ns : List Int)
  | table (entries : List (String × Int))
  | channel (capacity : Nat)
  | thunk (result : Int)
  /-- A pointer to a new object. -/
  | pointer (target : ValueSpec)
  | dynamic (type : Ty) (value : ValueSpec)
  | fault (e : FaultSpec)
  /-- The value saved in a variable. -/
  | saved (var : String)

/-- A panic value as a scenario writes it. -/
inductive PanicSpec where
  | value (p : Panic)
  /-- The fault, or a panic without a value if there is none. -/
  | fault (e : FaultSpec)

/-- A registry as a scenario names it. -/
inductive RegistryName where
  | named (name : String)
  | shared
  | absent

/-- A setting of an accessor as a scenario writes it. -/
inductive SettingSpec where
  | registry (r : RegistryName)
  | name (s : String)
  | absent

/-- The three makes of accessors. -/
inductive Make where
  | fallible | steadfast | blank
deriving DecidableEq

/-- What an observer does with a notice before its rules are looked at. -/
inductive Style where
  /-- It notes down every notice. -/
  | recorder
  /-- It logs every notice. -/
  | journal (logger : Logger)

mutual

/-- An act of a scenario. -/
inductive Act where
  | observer (name : String) (style : Style) (rules : List Rule)
  | registry (name : String) (observers : List (Option String)) (bare : Bool)
  | attach (registry : RegistryName) (observer : Option String)
  | accessor (name : String) (make : Make) (type : Ty) (plans : Option (List Plan))
    (settings : List SettingSpec)
  | lookup (registry : RegistryName) (type : Ty) (name : String) (save : Option String)
  | size (registry : RegistryName)
  | entries (registry : RegistryName)
  | shared
  /-- Hands a notice straight to an observer. -/
  | observe (observer : String) (event : Event) (type : Option Ty) (name : String) (fault : FaultSpec)
  | display (var : String)
  /-- Adds to the number that a variable holds or points to. -/
  | add (var : String) (amount : Int)
  /-- Sets an entry of a table. -/
  | put (var : String) (key : String) (value : Int)
  /-- Sets an element of a run of numbers. -/
  | assign (var : String) (index : Int) (value : Int)
  /-- Calls an accessor; a panic goes on unless it is caught. -/
  | call (accessor : String) (save : Option String) (catches : Bool)
  /-- Waits until a gate is open. -/
  | pass (gate : Gate)
  /-- Opens a gate. -/
  | unlock (gate : Gate)
  /-- Calls an accessor on a new thread, which is held between its first look at the store and
  the flight while the given acts run. -/
  | race (accessor : String) (save : Option String) (first : List Act)

/-- What a constructor does on one invocation. -/
inductive Plan where
  | mk (acts : List Act) (panic : Option PanicSpec) (result : ValueSpec) (fault : FaultSpec)

/-- What an observer does on events of some name, as often as the rule allows. -/
inductive Rule where
  | mk (event : String) (name : Option String) (times : Option Nat) (acts : List Act)
    (panic : Option PanicSpec)

end

/-- The plan of a constructor that gives the zero value. -/
def Plan.zero : Plan := .mk [] none .zero .nothing

/-- Whether a rule is about a notice. -/
def Rule.applies (n : Notice) : Rule → Bool
  | .mk event name _ _ _ => n.event.text == event && name.all (n.name == ·)

/-- How often a rule may be used; always if there is no bound. -/
def Rule.times : Rule → Option Nat
  | .mk _ _ times _ _ => times

/-- The word for an act in a trace. -/
def Act.word : Act → String
  | .observer .. => "observer"
  | .registry .. => "registry"
  | .attach .. => "attach"
  | .accessor .. => "accessor"
  | .lookup .. => "lookup"
  | .size .. => "len"
  | .entries .. => "entries"
  | .shared => "default"
  | .observe .. => "observe"
  | .display .. => "show"
  | .add .. => "add"
  | .put .. => "put"
  | .assign .. => "seti"
  | .call .. => "call"
  | .pass .. => "gate"
  | .unlock .. => "ok"
  | .race .. => "race"

end InstanceRegistry.Scenario
