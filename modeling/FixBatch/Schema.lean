/-!
# FixBatch.Schema

What readers of data say when a value does not fit its place.
-/

namespace FixBatch.Schema

/-- A word between backticks. -/
def ticked (s : String) : String := "`" ++ s ++ "`"

/-- The words that would have fitted. -/
def alternatives : List String → String
  | [a] => ticked a
  | [a, b] => ticked a ++ " or " ++ ticked b
  | l => "one of " ++ String.intercalate ", " (l.map ticked)

def invalidType (found expected : String) : String :=
  "invalid type: " ++ found ++ ", expected " ++ expected

def invalidValue (found expected : String) : String :=
  "invalid value: " ++ found ++ ", expected " ++ expected

def invalidLength (length : Nat) (expected : String) : String :=
  "invalid length " ++ toString length ++ ", expected " ++ expected

def missingField (name : String) : String := "missing field " ++ ticked name

def duplicateField (name : String) : String := "duplicate field " ++ ticked name

def unknownField (name : String) (known : List String) : String :=
  "unknown field " ++ ticked name ++ ", expected " ++ alternatives known

def unknownVariant (name : String) (known : List String) : String :=
  "unknown variant " ++ ticked name ++ ", expected " ++ alternatives known

end FixBatch.Schema
