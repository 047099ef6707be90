import Snowflake.Json.Mismatch

/-!
# Codecs

A codec says how values of a type are written as JSON and read back. Reading goes two ways, with
the same mismatches but not always in the same order:

* `read` takes the tokens of a text from the left and fails at the first problem it meets, so that
  a mismatch early in the text wins over a syntax error further on (`Codec.ofText`);
* `ofValue` takes a value that was built from the whole text before (`Codec.ofWholeText`), so that
  a syntax error anywhere wins; object fields come in ascending order, each once.

`scalar` makes a codec from a rule on what is found, and `record` one for objects with named
fields, which may also be written as arrays in the order of the fields. Unknown keys are passed
over.
-/

namespace Snowflake.Json

/-- How a type is written and read. -/
structure Codec (α : Type) where
  /-- The tokens of a value. -/
  write : α → List Token
  /-- Read a value from the left. -/
  read : List Token → Except Failure (α × List Token)
  /-- Read a value that is built already. -/
  ofValue : Value → Except Mismatch α

namespace Codec

variable {α β : Type}

/-- A value as compact text. -/
def toText (codec : Codec α) (a : α) : String := String.ofList (render (codec.write a))

/-- **Read a text in one pass.** -/
def ofText (codec : Codec α) (text : String) : Except Failure α :=
  match codec.read (tokens text.toList) with
  | .error failure => .error failure
  | .ok (a, []) => .ok a
  | .ok _ => .error .malformed

/-- **Read a text by way of the value it spells.** -/
def ofWholeText (codec : Codec α) (text : String) : Except Failure α :=
  match Value.ofTokens? (tokens text.toList) with
  | none => .error .malformed
  | some value =>
    match codec.ofValue value with
    | .error cause => .error (.mismatch cause)
    | .ok a => .ok a

/-- The codec of another type that has the same values, by the two ways between them. -/
def iso (codec : Codec α) (wrap : α → β) (unwrap : β → α) : Codec β where
  write b := codec.write (unwrap b)
  read list :=
    match codec.read list with
    | .error failure => .error failure
    | .ok (a, rest) => .ok (wrap a, rest)
  ofValue value :=
    match codec.ofValue value with
    | .error cause => .error cause
    | .ok a => .ok (wrap a)

end Codec

/-! ## Values of one token -/

/-- Read what the first token starts, by a rule that accepts no array and no object. -/
def readFound {α : Type} (rule : Found → Except Mismatch α) :
    List Token → Except Failure (α × List Token)
  | [] => .error .malformed
  | token :: rest =>
    match token.found? with
    | none => .error .malformed
    | some found =>
      match rule found with
      | .error cause => .error (.mismatch cause)
      | .ok a => .ok (a, rest)

/-- A codec for values of one token. -/
def scalar {α : Type} (write : α → Token) (rule : Found → Except Mismatch α) : Codec α where
  write a := [write a]
  read := readFound rule
  ofValue value := rule value.found

/-- What an unsigned integer below `bound` is read from. -/
def unsignedRule (bound : Nat) (name : String) : Found → Except Mismatch Nat
  | .number (.unsigned n) =>
    if n.toNat < bound then .ok n.toNat
    else .error (.invalidValue (.number (.unsigned n)) name)
  | .number (.signed n) => .error (.invalidValue (.number (.signed n)) name)
  | found => .error (.invalidType found name)

/-- What a signed 64-bit integer is read from. -/
def signedRule (name : String) : Found → Except Mismatch Int64
  | .number (.unsigned n) =>
    if (n.toNat : Int) ≤ Int64.maxValue.toInt then .ok (Int64.ofNat n.toNat)
    else .error (.invalidValue (.number (.unsigned n)) name)
  | .number (.signed n) => .ok n
  | found => .error (.invalidType found name)

/-- Unsigned 64-bit integers. -/
def word64 : Codec UInt64 :=
  scalar (fun n => .number (some (.unsigned n)))
    fun found => (unsignedRule UInt64.size "u64" found).map UInt64.ofNat

/-- Unsigned 16-bit integers. -/
def word16 : Codec UInt16 :=
  scalar (fun n => .number (some (.unsigned n.toUInt64)))
    fun found => (unsignedRule UInt16.size "u16" found).map UInt16.ofNat

/-- Signed 64-bit integers. -/
def int64 : Codec Int64 :=
  scalar
    (fun n =>
      .number (some (if 0 ≤ n.toInt then .unsigned (UInt64.ofNat n.toInt.toNat) else .signed n)))
    (signedRule "i64")

/-- Truth values. -/
def boolean : Codec Bool :=
  scalar .bool fun
    | .bool value => .ok value
    | found => .error (.invalidType found "a boolean")

/-- The unit value, written as null. -/
def unit : Codec Unit :=
  scalar (fun _ => .null) fun
    | .null => .ok ()
    | found => .error (.invalidType found "unit")

/-! ## Records -/

/-- The named fields of a record, in their order. -/
inductive Fields : List Type → Type 1 where
  | nil : Fields []
  | cons {α : Type} {rest : List Type} (name : String) (codec : Codec α) (more : Fields rest) :
    Fields (α :: rest)

/-- One value for each field. -/
def Row : List Type → Type
  | [] => Unit
  | α :: rest => α × Row rest

/-- A value for some of the fields. -/
def Draft : List Type → Type
  | [] => Unit
  | α :: rest => Option α × Draft rest

namespace Fields

variable {types : List Type}

/-- Number of fields. -/
def count : {types : List Type} → Fields types → Nat
  | _, .nil => 0
  | _, .cons _ _ more => more.count + 1

/-- No field has a value. -/
def blank : {types : List Type} → Fields types → Draft types
  | _, .nil => ()
  | _, .cons _ _ more => (none, more.blank)

/-- The row of a draft that has every field; else the first field that is missing. -/
def finish : {types : List Type} → Fields types → Draft types → Except Mismatch (Row types)
  | _, .nil, () => .ok ()
  | _, .cons name _ more, (value?, draft) =>
    match value? with
    | none => .error (.missingField name)
    | some value =>
      match more.finish draft with
      | .error cause => .error cause
      | .ok row => .ok (value, row)

/-- The members of an object, each with a comma before it unless it is the first. -/
def writeMembers : {types : List Type} → Fields types → (first : Bool) → Row types → List Token
  | _, .nil, _, () => []
  | _, .cons name codec more, first, (value, row) =>
    (if first then [] else [.comma]) ++ .string (some name) :: .colon :: codec.write value ++
      more.writeMembers false row

/-! ### From the left -/

/-- Read the value of the field with a key into a draft. `none` if there is no such field. A
field that has a value already is refused before anything is read. -/
def readField : {types : List Type} → Fields types → (key : String) → Draft types → List Token →
    Option (Except Failure (Draft types × List Token))
  | _, .nil, _, _, _ => none
  | _, .cons name codec more, key, (value?, draft), list =>
    if key = name then
      some <|
        match value?, list with
        | some _, _ => .error (.mismatch (.duplicateField name))
        | none, .colon :: list =>
          match codec.read list with
          | .error failure => .error failure
          | .ok (value, rest) => .ok ((some value, draft), rest)
        | none, _ => .error .malformed
    else
      (more.readField key draft list).map fun
        | .error failure => .error failure
        | .ok (draft, rest) => .ok ((value?, draft), rest)

/-- Read one member of an object, its key read already. -/
def readMember (fields : Fields types) (key : String) (draft : Draft types) (list : List Token) :
    Except Failure (Draft types × List Token) :=
  match fields.readField key draft list with
  | some result => result
  | none =>
    match list with
    | .colon :: list =>
      match skip list with
      | none => .error .malformed
      | some rest => .ok (draft, rest)
    | _ => .error .malformed

/-- Read members up to the end of the object. Each takes a token or more, so that `fuel`, the
number of tokens, is never used up. -/
def readMembers (fields : Fields types) : (fuel : Nat) → (first : Bool) → Draft types →
    List Token → Except Failure (Draft types × List Token)
  | 0, _, _, _ => .error .malformed
  | fuel + 1, first, draft, list =>
    match first, list with
    | _, .closeObject :: rest => .ok (draft, rest)
    | true, .string (some key) :: rest =>
      match fields.readMember key draft rest with
      | .error failure => .error failure
      | .ok (draft, rest) => fields.readMembers fuel false draft rest
    | false, .comma :: .string (some key) :: rest =>
      match fields.readMember key draft rest with
      | .error failure => .error failure
      | .ok (draft, rest) => fields.readMembers fuel false draft rest
    | _, _ => .error .malformed

/-- Read the items of an array, one for each field. `place` counts the items so far and
`expected` says what is wanted. -/
def readItems : {types : List Type} → Fields types → (expected : String) → (place : Nat) →
    List Token → Except Failure (Row types × List Token)
  | _, .nil, _, _, list => .ok ((), list)
  | _, .cons _ codec more, expected, place, list =>
    match place, list with
    | _, .closeArray :: _ => .error (.mismatch (.invalidLength place expected))
    | 0, list =>
      match codec.read list with
      | .error failure => .error failure
      | .ok (value, rest) =>
        match more.readItems expected 1 rest with
        | .error failure => .error failure
        | .ok (row, rest) => .ok ((value, row), rest)
    | place + 1, .comma :: list =>
      match codec.read list with
      | .error failure => .error failure
      | .ok (value, rest) =>
        match more.readItems expected (place + 2) rest with
        | .error failure => .error failure
        | .ok (row, rest) => .ok ((value, row), rest)
    | _ + 1, _ => .error .malformed

/-! ### From a value -/

/-- Put the value of the field with a key into a draft. Other keys change nothing. -/
def putField : {types : List Type} → Fields types → (key : String) → Value → Draft types →
    Except Mismatch (Draft types)
  | _, .nil, _, _, draft => .ok draft
  | _, .cons name codec more, key, value, (value?, draft) =>
    if key = name then
      match codec.ofValue value with
      | .error cause => .error cause
      | .ok a => .ok (some a, draft)
    else
      match more.putField key value draft with
      | .error cause => .error cause
      | .ok draft => .ok (value?, draft)

/-- Put the fields of an object into a draft, in their order. -/
def putMembers (fields : Fields types) : List (String × Value) → Draft types →
    Except Mismatch (Draft types)
  | [], draft => .ok draft
  | (key, value) :: rest, draft =>
    match fields.putField key value draft with
    | .error cause => .error cause
    | .ok draft => fields.putMembers rest draft

/-- Take the items of an array, one for each field; also the items left over. -/
def putItems : {types : List Type} → Fields types → (expected : String) → (place : Nat) →
    List Value → Except Mismatch (Row types × List Value)
  | _, .nil, _, _, items => .ok ((), items)
  | _, .cons _ _ _, expected, place, [] => .error (.invalidLength place expected)
  | _, .cons _ codec more, expected, place, item :: items =>
    match codec.ofValue item with
    | .error cause => .error cause
    | .ok value =>
      match more.putItems expected (place + 1) items with
      | .error cause => .error cause
      | .ok (row, left) => .ok ((value, row), left)

end Fields

section Record

variable {types : List Type}

/-- What a record with too few items should have been. -/
def itemsExpected (name : String) (fields : Fields types) : String :=
  "struct " ++ name ++ " with " ++ toString fields.count ++
    (if fields.count = 1 then " element" else " elements")

/-- Read a record from the left: an object with its fields, or an array of them. -/
def readRecord (name : String) (fields : Fields types) :
    List Token → Except Failure (Row types × List Token)
  | .openObject :: list =>
    match fields.readMembers list.length true fields.blank list with
    | .error failure => .error failure
    | .ok (draft, rest) =>
      match fields.finish draft with
      | .error cause => .error (.mismatch cause)
      | .ok row => .ok (row, rest)
  | .openArray :: list =>
    match fields.readItems (itemsExpected name fields) 0 list with
    | .error failure => .error failure
    | .ok (row, .closeArray :: rest) => .ok (row, rest)
    | .ok _ => .error .malformed
  | list => readFound (fun found => .error (.invalidType found ("struct " ++ name))) list

/-- Read a record from a value. -/
def recordOfValue (name : String) (fields : Fields types) : Value → Except Mismatch (Row types)
  | .object members =>
    match fields.putMembers members fields.blank with
    | .error cause => .error cause
    | .ok draft => fields.finish draft
  | .array items =>
    match fields.putItems (itemsExpected name fields) 0 items with
    | .error cause => .error cause
    | .ok (row, []) => .ok row
    | .ok _ => .error (.invalidLength items.length "fewer elements in array")
  | value => .error (.invalidType value.found ("struct " ++ name))

/-- **A codec for records** with named fields. -/
def record (name : String) (fields : Fields types) : Codec (Row types) where
  write row := .openObject :: fields.writeMembers true row ++ [.closeObject]
  read := readRecord name fields
  ofValue := recordOfValue name fields

end Record

end Snowflake.Json
