/-!
# Printed texts with an omitted ending

Some texts end in a listing of the moment, such as the calls that were under way.
Such an ending is left out of a text, and so is all that would follow it: a text
is its part before the omission and a mark that tells whether there is one.
-/

namespace InstanceRegistry

/-- A printed text; if `cut` is set, something is left out at its end. -/
structure Text where
  shown : String
  cut : Bool := false
deriving DecidableEq

namespace Text

/-- A text with nothing left out. -/
def ofString (s : String) : Text := ⟨s, false⟩

/-- The empty text. -/
def empty : Text := ofString ""

/-- What follows an omission is left out with it. -/
def append (a b : Text) : Text :=
  if a.cut then a else ⟨a.shown ++ b.shown, b.cut⟩

instance : Append Text := ⟨append⟩

instance : Coe String Text := ⟨ofString⟩

/-- The text with its ending left out from here on. -/
def omitRest (t : Text) : Text := ⟨t.shown, true⟩

/-- Joins texts with a separator between neighbours. -/
def intercalate (separator : Text) : List Text → Text
  | [] => empty
  | [t] => t
  | t :: rest => t ++ separator ++ intercalate separator rest

end Text

end InstanceRegistry
