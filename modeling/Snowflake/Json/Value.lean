import Snowflake.Json.Token

/-!
# JSON values

`Value.ofTokens?` builds the value that a list of tokens spells. It goes through the tokens once,
with the containers that are still open in a stack; more than `maxDepth` of them are refused. The
fields of an object are kept in ascending order of their keys, each key once: of fields with the
same key the last stays.

`skip` passes over one value without building it. It has no limit on depth and does not mind
numbers and strings without a value.
-/

namespace Snowflake.Json

/-- A JSON value. -/
inductive Value where
  | null
  | bool (value : Bool)
  | number (value : Number)
  | string (value : String)
  | array (items : List Value)
  /-- Fields in ascending order of keys, each key once. -/
  | object (fields : List (String × Value))
  deriving Repr

/-- An open container. -/
inductive Frame where
  /-- An array with the items so far, last first. -/
  | array (done : List Value)
  /-- An object with the fields so far and the key whose value comes next. -/
  | object (done : List (String × Value)) (key : String)

/-- Containers may nest this deep. -/
def maxDepth : Nat := 127

namespace Value

/-- Put a field in its place, over a field with the same key. -/
def put (key : String) (value : Value) : List (String × Value) → List (String × Value)
  | [] => [(key, value)]
  | (other, old) :: rest =>
    if key < other then (key, value) :: (other, old) :: rest
    else if key = other then (key, value) :: rest
    else (other, old) :: put key value rest

mutual

/-- The next token starts a value. -/
def expect (stack : List Frame) : List Token → Option Value
  | .null :: rest => complete stack .null rest
  | .bool value :: rest => complete stack (.bool value) rest
  | .number (some value) :: rest => complete stack (.number value) rest
  | .string (some value) :: rest => complete stack (.string value) rest
  | .openArray :: .closeArray :: rest =>
    if stack.length < maxDepth then complete stack (.array []) rest else none
  | .openArray :: rest =>
    if stack.length < maxDepth then expect (.array [] :: stack) rest else none
  | .openObject :: .closeObject :: rest =>
    if stack.length < maxDepth then complete stack (.object []) rest else none
  | .openObject :: .string (some key) :: .colon :: rest =>
    if stack.length < maxDepth then expect (.object [] key :: stack) rest else none
  | _ => none

/-- A value is complete: it belongs to the innermost open container, or is all there is. -/
def complete : List Frame → Value → List Token → Option Value
  | [], value, [] => some value
  | .array done :: stack, value, .comma :: rest => expect (.array (value :: done) :: stack) rest
  | .array done :: stack, value, .closeArray :: rest =>
    complete stack (.array (value :: done).reverse) rest
  | .object done key :: stack, value, .comma :: .string (some next) :: .colon :: rest =>
    expect (.object (put key value done) next :: stack) rest
  | .object done key :: stack, value, .closeObject :: rest =>
    complete stack (.object (put key value done)) rest
  | _, _, _ => none

end

/-- **The value that tokens spell.** -/
def ofTokens? (list : List Token) : Option Value := expect [] list

end Value

mutual

/-- Pass over a value. The stack tells of each open container whether it is an object. -/
def skipValue (stack : List Bool) : List Token → Option (List Token)
  | .null :: rest => skipRest stack rest
  | .bool _ :: rest => skipRest stack rest
  | .number _ :: rest => skipRest stack rest
  | .string _ :: rest => skipRest stack rest
  | .openArray :: .closeArray :: rest => skipRest stack rest
  | .openArray :: rest => skipValue (false :: stack) rest
  | .openObject :: .closeObject :: rest => skipRest stack rest
  | .openObject :: .string _ :: .colon :: rest => skipValue (true :: stack) rest
  | _ => none

/-- A value has been passed over; go on with the open containers. -/
def skipRest : List Bool → List Token → Option (List Token)
  | [], rest => some rest
  | false :: stack, .comma :: rest => skipValue (false :: stack) rest
  | false :: stack, .closeArray :: rest => skipRest stack rest
  | true :: stack, .comma :: .string _ :: .colon :: rest => skipValue (true :: stack) rest
  | true :: stack, .closeObject :: rest => skipRest stack rest
  | _, _ => none

end

/-- **Pass over one value**: the tokens after it. -/
def skip (list : List Token) : Option (List Token) := skipValue [] list

end Snowflake.Json
