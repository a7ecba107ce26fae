import InstanceRegistry.Ty

/-!
# A catalogue of types

The base types that scenarios name. A name is a base type's `id` or an alias of
one, with a star in front for each pointer.
-/

namespace InstanceRegistry.Ty.Catalogue

/-- A base type that prints as its own name. -/
def plain (id : String) (kind : Kind) (content : Content) : BaseType :=
  { id, text := id, kind, content }

/-- A structure type that holds one field. -/
def record (id text : String) (content : Content) : BaseType :=
  { id, text, kind := .record, content }

/-- An interface type that asks for the given methods. -/
def interface (id text : String) (methods : List String) : BaseType :=
  { id, text, kind := .interface, content := .dynamic, methods }

/-- The base types of the catalogue. -/
def baseTypes : List BaseType := [
  plain "int" .int .number,
  plain "int64" .int64 .number,
  plain "int32" .int32 .number,
  plain "uint64" .uint64 .number,
  plain "uint8" .uint8 .number,
  { id := "MyInt", text := "main.MyInt", kind := .int, content := .number, methods := ["String"] },
  plain "string" .string .text,
  plain "bool" .bool .truth,
  record "unit" "struct \x7b\x7d" .unit,
  plain "[]int" .slice .numbers,
  plain "[3]int" .array .triple,
  { id := "map", text := "map[string]int", kind := .map, content := .table },
  { id := "chan", text := "chan int", kind := .channel, content := .channel },
  { id := "func", text := "func() int", kind := .function, content := .thunk },
  { record "Counter" "main.Counter" .number with pointerMethods := ["String"] },
  record "A" "main.A" .text,
  { record "B" "main.B" .text with pointerMethods := ["Read"] },
  record "Box[int]" "main.Box[int]" .number,
  record "Box[string]" "main.Box[string]" .text,
  record "Box[Counter]" "main.Box[main.Counter]" .number,
  record "alpha.Config" "config.Config" .text,
  record "beta.Config" "config.Config" .text,
  record "local1" "main.local" .number,
  record "local2" "main.local" .number,
  interface "any" "interface \x7b\x7d" [],
  interface "stringer" "fmt.Stringer" ["String"],
  interface "reader" "io.Reader" ["Read"],
  interface "error" "error" ["Error"]]

/-- Second names of base types. -/
def aliases : List (String × String) :=
  [("rune", "int32"), ("byte", "uint8"), ("CounterAlias", "Counter")]

/-- The base type known under a name or an alias. -/
def base? (name : String) : Option BaseType :=
  baseTypes.find? (·.id == (aliases.lookup name).getD name)

/-- The type that a list of characters names. -/
def ofChars? : List Char → Option Ty
  | '*' :: rest => (ofChars? rest).map .pointer
  | name => (base? (String.ofList name)).map .base

/-- The type known under a name; each star in front makes a pointer type. -/
def type? (name : String) : Option Ty :=
  ofChars? name.toList

end InstanceRegistry.Ty.Catalogue
