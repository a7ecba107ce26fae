import InstanceRegistry.Fault.Search

/-!
# Reports of faults and panics

A report says what can be learned from a fault without changing it: its form, its
text, which sentinels are in it, and the first failed construction in it together
with the report of that construction's cause.
-/

namespace InstanceRegistry

/-- The word for a fault's form. -/
def Fault.form : Fault → String
  | .plain _ | .sentinel _ => "new"
  | .labelled _ _ | .absentCause _ => "wrap"
  | .joined _ => "join"
  | .construction _ _ _ | .absentConstruction => "construction"
  | .fielded _ _ => "fields"
  | .absentPointer => "typed_nil"
  | .convertsToAll _ => "as_true"
  | .matchesAll _ => "is_all"
  | .constructorPanic _ => "panic"

/-- The sentinels that a report looks for, in the order in which it lists them. -/
def Sentinel.reported : List String := ["boom", "eof", "timeout"]

/-- What a report says about a fault itself. -/
structure Fault.Summary where
  form : String
  text : String
  construction : Bool
  sentinels : List String

/-- The summary of a fault. -/
def Fault.summary (e : Fault) : Fault.Summary where
  form := e.form
  text := e.printed.shown
  construction := e.is .constructionFailed
  sentinels := Sentinel.reported.filter fun s => e.is (.named s)

/-- The report of a fault, or of the absence of one. -/
inductive FaultReport where
  | nothing
  | plain (summary : Fault.Summary)
  /-- The fault holds a failed construction. -/
  | construction (summary : Fault.Summary) (type : Option Ty) (name : String) (cause : FaultReport)

/-- The report of a fault: its summary, and the failed construction that a
conversion finds in it. -/
def Fault.report (e : Fault) : FaultReport :=
  match h : e.findConstruction with
  | .found (some ⟨type, name, none⟩) => .construction e.summary type name .nothing
  | .found (some ⟨type, name, some cause⟩) =>
    have := Fault.findConstruction_cause_lt h
    .construction e.summary type name cause.report
  | _ => .plain e.summary
termination_by sizeOf e

/-- The report of a fault that may be missing. -/
def FaultReport.ofOption : Option Fault → FaultReport
  | none => .nothing
  | some e => e.report

/-- The report of a panic value. -/
inductive PanicReport where
  /-- A value that is known by its text alone. -/
  | text (form text : String)
  | fault (report : FaultReport)
  | flight (inner : PanicReport)

/-- The report of a panic value; a flight's panic is reported around the value that ended it. -/
def Panic.report : Panic → PanicReport
  | .text s => .text "string" s
  | .number n => .text "int" (toString n)
  | .truth b => .text "other" (toString b)
  | .numbers ns => .text "other" (numbersText ns)
  | .runtime e => .text "runtime" e.text
  | .fault e => .fault e.report
  | .flight inner => .flight inner.report

end InstanceRegistry
