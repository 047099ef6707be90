import Snowflake.Json.Value
import Snowflake.Text.Quoted

/-!
# JSON of the wrong shape

Well-formed JSON may still not be what a reader wants. `Found` is what stood there, a `Mismatch`
is why it will not do, and `Mismatch.message` words it. A reader of text fails with a `Failure`,
which is a mismatch or text that is no JSON.
-/

namespace Snowflake.Json

/-- What stood where something else was wanted. -/
inductive Found where
  | null
  | bool (value : Bool)
  | number (value : Number)
  | string (value : String)
  | sequence
  | map
  deriving Repr

/-- What a token starts, if it starts a value. -/
def Token.found? : Token → Option Found
  | .null => some .null
  | .bool value => some (.bool value)
  | .number value => value.map .number
  | .string value => value.map .string
  | .openArray => some .sequence
  | .openObject => some .map
  | _ => none

/-- What a value is. -/
def Value.found : Value → Found
  | .null => .null
  | .bool value => .bool value
  | .number value => .number value
  | .string value => .string value
  | .array _ => .sequence
  | .object _ => .map

/-- The wording of what was found. -/
def Found.message : Found → String
  | .null => "null"
  | .bool true => "boolean `true`"
  | .bool false => "boolean `false`"
  | .number (.float x) => "floating point `" ++ String.ofList (floatText x) ++ "`"
  | .number n => "integer `" ++ String.ofList n.text ++ "`"
  | .string value => "string " ++ Text.quoted value
  | .sequence => "sequence"
  | .map => "map"

/-- Why well-formed JSON will not do. -/
inductive Mismatch where
  /-- Another kind of value. -/
  | invalidType (found : Found) (expected : String)
  /-- The right kind of value, but not one of those allowed. -/
  | invalidValue (found : Found) (expected : String)
  /-- Too many or too few items. -/
  | invalidLength (length : Nat) (expected : String)
  /-- A name that is none of those allowed. -/
  | unknownVariant (name : String) (allowed : List String)
  | missingField (name : String)
  | duplicateField (name : String)
  /-- Refused by what the value means. -/
  | rejected (message : String)
  deriving Repr

/-- The wording of a mismatch. -/
def Mismatch.message : Mismatch → String
  | .invalidType found expected => "invalid type: " ++ found.message ++ ", expected " ++ expected
  | .invalidValue found expected => "invalid value: " ++ found.message ++ ", expected " ++ expected
  | .invalidLength length expected =>
    "invalid length " ++ toString length ++ ", expected " ++ expected
  | .unknownVariant name allowed =>
    "unknown variant `" ++ name ++ "`, expected " ++
      " or ".intercalate (allowed.map fun a => "`" ++ a ++ "`")
  | .missingField name => "missing field `" ++ name ++ "`"
  | .duplicateField name => "duplicate field `" ++ name ++ "`"
  | .rejected message => message

/-- Why a text could not be read. -/
inductive Failure where
  /-- It is no JSON. -/
  | malformed
  /-- It is JSON of the wrong shape. -/
  | mismatch (cause : Mismatch)
  deriving Repr

end Snowflake.Json
