import Snowflake.Base64

/-!
# What can go wrong

Every failure of the library is one value of `Error`. The wording of each is fixed by
`Error.message`, and `Error.causes` lists the wordings of what lies behind it, nearest first.
-/

namespace Snowflake

/-- A bit field of an identifier. -/
inductive Field where
  | timestamp
  | sequence
  | generatorId
  deriving DecidableEq, Repr

/-- The name of a field in messages. -/
def Field.label : Field → String
  | .timestamp => "timestamp"
  | .sequence => "sequence"
  | .generatorId => "generator id"

/-- Why bytes or a text are not the form of an identifier. -/
inductive EncodingError where
  /-- Not the fixed length: of bytes for the binary form, of characters for the text form. -/
  | invalidLength (expected actual : Nat)
  /-- The text is not canonical URL-safe base64. -/
  | invalidSymbol (cause : Base64.DecodeError)
  deriving DecidableEq, Repr

/-- The wording of an encoding fault. -/
def EncodingError.message : EncodingError → String
  | .invalidLength expected actual => s!"invalid length: expected {expected}, got {actual}"
  | .invalidSymbol cause => s!"invalid symbol: {cause.message}"

/-- What lies behind an encoding fault, in words. -/
def EncodingError.causes : EncodingError → List String
  | .invalidLength _ _ => []
  | .invalidSymbol cause => [cause.message]

/-- A failure of the library (`Error`). -/
inductive Error where
  /-- A value does not fit its bit field. -/
  | fieldOutOfRange (field : Field) (value max : UInt64)
  /-- Bytes or a text could not be decoded. -/
  | invalidEncoding (cause : EncodingError)
  /-- The sequence of the current tick is used up, and the generator does not wait. -/
  | sequenceOverflow (timestamp : UInt64) (sequence : UInt16)
  /-- The clock reads an earlier tick than the last one issued. -/
  | clockRegression (now : Int64) (last : UInt64)
  /-- The current tick does not fit the timestamp field. -/
  | timestampOverflow (tick : UInt64)
  /-- A call failed while it held the generator's lock. -/
  | lockPoisoned
  deriving DecidableEq, Repr

/-- The wording of a failure. -/
def Error.message : Error → String
  | .fieldOutOfRange field value max => s!"{field.label} out of range: {value} > {max}"
  | .invalidEncoding cause => s!"invalid encoding: {cause.message}"
  | .sequenceOverflow timestamp sequence =>
    s!"sequence overflow at timestamp {timestamp} (last sequence {sequence})"
  | .clockRegression now last => s!"clock regression: now {now}, last issued {last}"
  | .timestampOverflow tick => s!"timestamp overflow: {tick}"
  | .lockPoisoned => "generator lock poisoned"

/-- What lies behind a failure, in words, nearest first. -/
def Error.causes : Error → List String
  | .invalidEncoding cause => cause.message :: cause.causes
  | _ => []

end Snowflake
