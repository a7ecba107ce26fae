import InstanceRegistry.Fault

/-!
# Events of a registry

Observers of a registry are told of four kinds of event. An event is its code, so
that a code outside of the four still is an event, one without a name of its own.
-/

namespace InstanceRegistry

/-- An event, given by its code. -/
structure Event where
  code : Int
deriving DecidableEq

namespace Event

/-- A stored instance is given out. -/
def hit : Event := ⟨0⟩

/-- A constructor is about to run. -/
def construct : Event := ⟨1⟩

/-- A caller shared a construction that was in flight. -/
def dedup : Event := ⟨2⟩

/-- A constructor failed. -/
def failure : Event := ⟨3⟩

/-- The name of an event. -/
def text (e : Event) : String :=
  if e = hit then "hit"
  else if e = construct then "construct"
  else if e = dedup then "dedup"
  else if e = failure then "failure"
  else "unknown"

end Event

/-- What an observer is told: an event, the slot it is about, and a fault if there is one. -/
structure Notice where
  event : Event
  type : Option Ty
  name : String
  fault : Option Fault

/-- The notice that a registry sends about one of its slots. -/
def Slot.notice (s : Slot) (event : Event) (fault : Option Fault) : Notice :=
  ⟨event, some s.type, s.name, fault⟩

end InstanceRegistry
