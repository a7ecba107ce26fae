/-!
# Types of instances

An instance type is a base type or a pointer to an instance type. Two types are
the same only if their descriptions are: the printed text is a field of a base
type like any other, so two base types may print alike and still differ.

Methods decide which types an interface accepts. An interface lists the methods
it asks for; any other base type lists those of its values and those that only
a pointer to it adds.
-/

namespace InstanceRegistry

/-- The classes into which types fall. -/
inductive Kind where
  | int | int64 | int32 | uint64 | uint8 | string | bool
  | record | slice | array | map | channel | function | interface | pointer
deriving DecidableEq

/-- The word that stands for a kind. -/
def Kind.text : Kind → String
  | .int => "int"
  | .int64 => "int64"
  | .int32 => "int32"
  | .uint64 => "uint64"
  | .uint8 => "uint8"
  | .string => "string"
  | .bool => "bool"
  | .record => "struct"
  | .slice => "slice"
  | .array => "array"
  | .map => "map"
  | .channel => "chan"
  | .function => "func"
  | .interface => "interface"
  | .pointer => "ptr"

/-- What a value of a base type holds. -/
inductive Content where
  | number | text | truth | unit
  /-- A shared run of numbers, or none. -/
  | numbers
  /-- Three numbers, copied with the value. -/
  | triple
  /-- A shared table from texts to numbers, or none. -/
  | table
  /-- A shared channel, or none. -/
  | channel
  /-- A function without arguments, or none. -/
  | thunk
  /-- A value together with its own type, or nothing. -/
  | dynamic
deriving DecidableEq

/-- A base type; `id` tells apart types that print alike. -/
structure BaseType where
  id : String
  text : String
  kind : Kind
  content : Content
  methods : List String := []
  pointerMethods : List String := []
deriving DecidableEq

/-- An instance type. -/
inductive Ty where
  | base (b : BaseType)
  | pointer (target : Ty)
deriving DecidableEq

namespace Ty

/-- The printed text of a type. -/
def text : Ty → String
  | .base b => b.text
  | .pointer t => "*" ++ t.text

/-- The name under which a type is known; distinct types of one catalogue have distinct names. -/
def id : Ty → String
  | .base b => b.id
  | .pointer t => "*" ++ t.id

/-- The kind of a type. -/
def kind : Ty → Kind
  | .base b => b.kind
  | .pointer _ => .pointer

/-- Values of an interface type carry a type of their own. -/
def isInterface : Ty → Bool
  | .base b => b.content == .dynamic
  | .pointer _ => false

/-- Values of the type hold nothing. -/
def isUnit : Ty → Bool
  | .base b => b.content == .unit
  | .pointer _ => false

/-- The methods of a type's values; for an interface, those it asks for. -/
def methods : Ty → List String
  | .base b => b.methods
  | .pointer (.base b) => if b.content = .dynamic then [] else b.methods ++ b.pointerMethods
  | .pointer (.pointer _) => []

/-- A type implements another if it has all of the methods that the other one asks for. -/
def implements (t asked : Ty) : Bool :=
  asked.methods.all t.methods.contains

end Ty

end InstanceRegistry
