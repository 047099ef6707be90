import Snowflake.Error

/-!
# Identifiers

An identifier is a 64-bit word. From the high end: one reserved bit, 42 bits of timestamp, 11 bits
of sequence and 10 bits of generator, so that the order of words is the order of creation. Of the
generator field only the low eight bits are given out; an identifier is *canonical* when the other
two and the top bit are clear.

`ofParts` checks each field against its range, timestamp first, and `pack` masks. `bytes` is the
big-endian form.
-/

namespace Snowflake

/-! ## The layout of the word -/

namespace Layout

/-- Width of the generator field. -/
def generatorBits : Nat := 10

/-- Width of the sequence field. -/
def sequenceBits : Nat := 11

/-- Width of the timestamp field. -/
def timestampBits : Nat := 42

/-- Place of the sequence field. -/
def sequenceShift : Nat := generatorBits

/-- Place of the timestamp field. -/
def timestampShift : Nat := generatorBits + sequenceBits

/-- The largest generator id given out: eight bits of the field are in use. -/
def maxGeneratorId : UInt16 := 255

/-- The last sequence number of a tick. -/
def maxSequence : UInt16 := 2047

/-- The last tick that the timestamp field holds. -/
def maxTimestamp : UInt64 := 4398046511103

/-- All bits of the generator field. -/
def generatorMask : UInt64 := 1023

/-- All bits of the sequence field, before it is moved to its place. -/
def sequenceMask : UInt64 := 2047

/-- All bits of the timestamp field, before it is moved to its place. -/
def timestampMask : UInt64 := maxTimestamp

/-- The bits that are clear in every canonical identifier. -/
def reservedMask : UInt64 := (1 : UInt64) <<< 63 ||| 0x300

end Layout

/-- A time-ordered identifier (`FlakeId`). -/
structure Id where
  /-- The identifier as one integer. -/
  bits : UInt64
  deriving DecidableEq, Repr, Inhabited

namespace Id

/-- The least identifier. -/
def min : Id := ⟨0⟩

/-- The greatest identifier. -/
def max : Id := ⟨0xFFFFFFFFFFFFFFFF⟩

/-! ## Fields -/

/-- The three fields in their places, each cut to its width (`FlakeId::pack`). -/
def pack (timestamp : UInt64) (sequence generatorId : UInt16) : Id :=
  ⟨((timestamp &&& Layout.timestampMask) <<< Layout.timestampShift.toUInt64) |||
    ((sequence.toUInt64 &&& Layout.sequenceMask) <<< Layout.sequenceShift.toUInt64) |||
    (generatorId.toUInt64 &&& Layout.generatorMask)⟩

/-- The tick of creation. -/
def timestamp (id : Id) : UInt64 :=
  (id.bits >>> Layout.timestampShift.toUInt64) &&& Layout.timestampMask

/-- The number within the tick. -/
def sequence (id : Id) : UInt16 :=
  ((id.bits >>> Layout.sequenceShift.toUInt64) &&& Layout.sequenceMask).toUInt16

/-- The generator that issued it. -/
def generatorId (id : Id) : UInt16 := (id.bits &&& Layout.generatorMask).toUInt16

/-- The reserved bits are clear. -/
def isCanonical (id : Id) : Bool := id.bits &&& Layout.reservedMask == 0

/-! ## Checked construction -/

/-- A value fits a field if it is at most `max`. -/
def checkField (field : Field) (value max : UInt64) : Except Error Unit :=
  if max < value then .error (.fieldOutOfRange field value max) else .ok ()

/-- A timestamp has to fit its 42 bits. -/
def checkTimestamp (timestamp : UInt64) : Except Error Unit :=
  checkField .timestamp timestamp Layout.maxTimestamp

/-- A sequence number has to fit its 11 bits. -/
def checkSequence (sequence : UInt16) : Except Error Unit :=
  checkField .sequence sequence.toUInt64 Layout.maxSequence.toUInt64

/-- A generator id has to fit eight bits. -/
def checkGeneratorId (generatorId : UInt16) : Except Error Unit :=
  checkField .generatorId generatorId.toUInt64 Layout.maxGeneratorId.toUInt64

/-- **The identifier with the given fields**, if each fits. The first field that does not, in the
order timestamp, sequence, generator id, is reported (`FlakeId::from_parts`). -/
def ofParts (timestamp : UInt64) (sequence generatorId : UInt16) : Except Error Id := do
  checkTimestamp timestamp
  checkSequence sequence
  checkGeneratorId generatorId
  return pack timestamp sequence generatorId

/-! ## Bytes -/

/-- Number of bytes of the binary form. -/
def byteCount : Nat := 8

/-- The binary form, most significant byte first (`FlakeId::to_bytes`). -/
def bytes (id : Id) : List UInt8 :=
  [56, 48, 40, 32, 24, 16, 8, 0].map fun shift => UInt8.ofNat (id.bits.toNat >>> shift)

/-- The number that bytes denote in base 256, most significant byte first. -/
def bigEndian (bytes : List UInt8) : Nat :=
  bytes.foldl (fun n byte => n * 256 + byte.toNat) 0

/-- **The identifier of eight bytes** (`FlakeId::from_bytes`). -/
def ofBytes (bytes : List UInt8) : Except Error Id :=
  if bytes.length = byteCount then .ok ⟨UInt64.ofNat (bigEndian bytes)⟩
  else .error (.invalidEncoding (.invalidLength byteCount bytes.length))

/-! ## Order -/

/-- Identifiers are ordered as integers. -/
instance : Ord Id where
  compare a b := compare a.bits b.bits

/-- Drop what equals its left neighbour. -/
def once : List Id → List Id
  | a :: b :: rest => if a = b then once (b :: rest) else a :: once (b :: rest)
  | ids => ids

/-- **The given identifiers in ascending order, each once.** -/
def sorted (ids : List Id) : List Id := once (ids.mergeSort fun a b => decide (a.bits ≤ b.bits))

end Id

end Snowflake
