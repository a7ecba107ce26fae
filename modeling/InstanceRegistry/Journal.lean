import InstanceRegistry.Code

/-!
# Logging the events of a registry

A logger has a threshold and base fields. The log observer turns every notice into
one log entry with the event, the type and the name as fields; a failure also has
the message of its fault, and the fields of the fault itself if it brings any. An
entry below the threshold is dropped, but only after its fields were made, so a
notice whose type is missing, or whose fault cannot be asked for its message or its
fields, panics in any case.
-/

namespace InstanceRegistry

/-- Severities, from the least to the greatest. -/
inductive Level where
  | debug | info | warn | error | fatal
deriving DecidableEq

namespace Level

/-- The position of a severity in the order. -/
def rank : Level → Nat
  | .debug => 0
  | .info => 1
  | .warn => 2
  | .error => 3
  | .fatal => 4

instance : LE Level := ⟨fun a b => a.rank ≤ b.rank⟩

instance (a b : Level) : Decidable (a ≤ b) := inferInstanceAs (Decidable (a.rank ≤ b.rank))

/-- The name of a severity. -/
def text : Level → String
  | .debug => "debug"
  | .info => "info"
  | .warn => "warn"
  | .error => "error"
  | .fatal => "fatal"

/-- The small letter of a character, as far as that is a letter of ASCII: besides the capital
letters of ASCII, the capital I with a dot and the sign of the kelvin have one. -/
def smallLetter (c : Char) : Char :=
  if c = '\u0130' then 'i' else if c = '\u212a' then 'k' else c.toLower

/-- The severity of a name, in letters of either case. -/
def ofName? (name : String) : Option Level :=
  match name.map smallLetter with
  | "debug" => some .debug
  | "info" => some .info
  | "warn" | "warning" => some .warn
  | "error" => some .error
  | "fatal" => some .fatal
  | _ => none

end Level

/-- The fields of a log entry. -/
abbrev Fields := Keyed String String

/-- A log entry. -/
structure LogEntry where
  level : Level
  message : String
  fields : Fields

/-- A logger: the least severity that it lets through and the fields of all its entries. -/
structure Logger where
  level : Level
  fields : Fields := {}

namespace Event

/-- The severity of an event. -/
def level (e : Event) : Level :=
  if e = failure then .error else if e = construct then .info else .debug

/-- The message of the log entry of an event. -/
def message (e : Event) : String :=
  if e = failure then "singleton construction failed"
  else if e = construct then "constructing singleton"
  else if e = dedup then "joined in-flight construction"
  else "singleton hit"

end Event

/-- The fields that a fault brings to a log by itself, if asking for them does not fail. -/
def Fault.fields : Fault → Option Fields
  | .fielded fields _ => fields.map Keyed.mk
  | _ => some {}

/-- The fields of a fault in a log: its message, then its own fields. -/
def Fields.ofFault (e : Fault) : Except Panic Fields :=
  match e.message, e.fields with
  | some message, some own => .ok (Keyed.merge ⟨[("error", message.shown)]⟩ own)
  | _, _ => .error .nilDereference

/-- The fields of every notice. -/
def Fields.ofNotice (type : Ty) (n : Notice) : Fields :=
  ⟨[("event", n.event.text), ("type", type.text), ("name", n.name)]⟩

namespace Logger

/-- The entry of a notice, whatever the threshold. -/
def compose (l : Logger) (n : Notice) : Except Panic LogEntry :=
  match n.type with
  | none => .error .nilDereference
  | some type =>
    let fields := l.fields.merge (Fields.ofNotice type n)
    match n.fault with
    | some e =>
      if n.event = .failure then
        (Fields.ofFault e).map fun own => ⟨n.event.level, n.event.message, fields.merge own⟩
      else .ok ⟨n.event.level, n.event.message, fields⟩
    | none => .ok ⟨n.event.level, n.event.message, fields⟩

/-- The entry of a notice, if its severity reaches the threshold. -/
def log (l : Logger) (n : Notice) : Except Panic (Option LogEntry) :=
  (l.compose n).map fun entry => if l.level ≤ entry.level then some entry else none

/-- The log observer: hands the entry of a notice to a handler. -/
def observe {σ : Type} (l : Logger) (handle : LogEntry → ThreadId → σ → σ) (n : Notice) : Code σ :=
  match l.log n with
  | .error p => .raise p
  | .ok none => .done .unit none
  | .ok (some entry) => .update (handle entry) (.done .unit none)

end Logger

end InstanceRegistry
