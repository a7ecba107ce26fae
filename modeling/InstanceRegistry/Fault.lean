import InstanceRegistry.Slot
import InstanceRegistry.Text

/-!
# Faults and panics

A fault is what a constructor may return in place of an instance; a panic is what
it may raise. Each can hold the other: a panic value may be a fault, and the fault
that reports a panicking constructor carries the panic value.

Asking a fault for its message can itself fail, since a fault may be an absent
pointer. `Fault.message` is the direct question and has no answer then;
`Fault.printed` is the careful one, which always has a text. Asking a fault what it
wraps, or for the fields that it brings to a log, can fail in the same way.
-/

namespace InstanceRegistry

/-- Faults that are told apart by identity, whatever wraps them. -/
inductive Sentinel where
  /-- Stands for the failure of any construction. -/
  | constructionFailed
  | named (name : String)
deriving DecidableEq

/-- The text of a sentinel. -/
def Sentinel.text : Sentinel → String
  | .constructionFailed => "singleton: construction failed"
  | .named s => s

/-- Failures of a primitive operation. -/
inductive RuntimeError where
  | nilDereference
  | indexOutOfRange (index length : Int)
  | boundOutOfRange (bound capacity : Int)
  | nilMapWrite
  | divisionByZero
  | wrongType (is wanted : String)
  | nilPanic
deriving DecidableEq

/-- The text of a failed primitive operation. -/
def RuntimeError.text : RuntimeError → String
  | .nilDereference => "runtime error: invalid memory address or nil pointer dereference"
  | .indexOutOfRange i n =>
    "runtime error: index out of range [" ++ toString i ++ "]" ++
      (if i < 0 then "" else " with length " ++ toString n)
  | .boundOutOfRange b c =>
    "runtime error: slice bounds out of range [:" ++ toString b ++ "] with capacity " ++ toString c
  | .nilMapWrite => "assignment to entry in nil map"
  | .divisionByZero => "runtime error: integer divide by zero"
  | .wrongType is wanted => "interface conversion: interface \x7b\x7d is " ++ is ++ ", not " ++ wanted
  | .nilPanic => "runtime error: panic called with nil argument"

mutual

/-- A returned failure. -/
inductive Fault where
  /-- A fresh fault with a text, equal to no sentinel. -/
  | plain (text : String)
  | sentinel (s : Sentinel)
  /-- A label in front of a cause; without a cause only the label is kept. -/
  | labelled (label : String) (cause : Option Fault)
  /-- Several faults as one. -/
  | joined (parts : List Fault)
  /-- The construction of a slot failed for a cause. -/
  | construction (type : Option Ty) (name : String) (cause : Option Fault)
  /-- A fault that brings fields of its own to a log; without them asking for the fields fails. -/
  | fielded (fields : Option (List (String × String))) (text : String)
  /-- An absent pointer that passes for a fault. -/
  | absentPointer
  /-- An absent pointer that passes for a construction failure. -/
  | absentConstruction
  /-- A fault whose cause lies behind an absent pointer, so that asking what it wraps fails. Without
  a text it is that pointer itself and has no message either. -/
  | absentCause (text : Option String)
  /-- A fault that passes for every form and has none of them. -/
  | convertsToAll (text : String)
  /-- A fault that passes for every sentinel. -/
  | matchesAll (text : String)
  /-- A constructor panicked. -/
  | constructorPanic (value : Panic)

/-- A raised value. -/
inductive Panic where
  | text (s : String)
  | number (n : Int)
  | truth (b : Bool)
  | numbers (ns : List Int)
  | runtime (e : RuntimeError)
  | fault (e : Fault)
  /-- A panic that ended a whole flight, as every caller of the flight sees it. -/
  | flight (inner : Panic)

end

namespace Fault

/-- The careful text of a fault that has no message. -/
def unprintable : Fault → Text
  | .absentPointer | .absentConstruction | .absentCause _ => "<nil>"
  | _ => "%!v(PANIC=Error method: " ++ RuntimeError.nilDereference.text ++ ")"

/-- The words in front of the cause of a failed construction. -/
def constructionLabel (type : Option Ty) (name : String) : String :=
  "singleton: construct " ++ (type.map Ty.text).getD "%!s(<nil>)" ++
    (if name = "" then "" else " (" ++ name ++ ")") ++ ": "

end Fault

/-- Numbers between brackets, with blanks between them. -/
def numbersText (ns : List Int) : String :=
  "[" ++ " ".intercalate (ns.map toString) ++ "]"

mutual

/-- The message of a fault, if asking for it does not fail. -/
def Fault.message : Fault → Option Text
  | .plain s => some s
  | .sentinel s => some s.text
  | .labelled label none => some (label ++ ": %!w(<nil>)" : String)
  | .labelled label (some cause) =>
    some ((label ++ ": " : String) ++ cause.message.getD cause.unprintable)
  | .joined parts => (Fault.messages parts).map (Text.intercalate "\n")
  | .construction type name none => some (Fault.constructionLabel type name ++ "<nil>" : String)
  | .construction type name (some cause) =>
    some (Fault.constructionLabel type name ++ cause.message.getD cause.unprintable)
  | .fielded _ s => some s
  | .absentPointer => none
  | .absentConstruction => none
  | .absentCause text => text.map Text.ofString
  | .convertsToAll s => some s
  | .matchesAll s => some s
  | .constructorPanic v => some ("singleton: constructor panicked: " ++ v.printed)
termination_by structural e => e

/-- The messages of several faults, if each has one. -/
def Fault.messages : List Fault → Option (List Text)
  | [] => some []
  | e :: rest =>
    match e.message, Fault.messages rest with
    | some t, some ts => some (t :: ts)
    | _, _ => none
termination_by structural es => es

/-- The text of a panic value; that of a flight's panic ends in an omitted listing. -/
def Panic.printed : Panic → Text
  | .text s => s
  | .number n => toString n
  | .truth b => toString b
  | .numbers ns => numbersText ns
  | .runtime e => e.text
  | .fault e => e.message.getD e.unprintable
  | .flight inner => inner.printed.omitRest
termination_by structural p => p

end

/-- The text of a fault, whether or not it has a message. -/
def Fault.printed (e : Fault) : Text :=
  e.message.getD e.unprintable

/-- A dereference of an absent pointer. -/
def Panic.nilDereference : Panic := .runtime .nilDereference

end InstanceRegistry
