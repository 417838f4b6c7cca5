/-
This file states what the client relies on of the VelocyPack library.

A `Slice` is a value as the library's reader sees it. The accessors are the library's
documented ones: reading a member of something that is not an object, or a number out of
something that is not one, throws; a member that is absent reads as the value `none`.

How values are laid out in bytes, parsed from text and dumped to text is the library's
own business and a parameter here, `Velocypack`. `Velocypack.Lawful` names the documented
behaviour that results about well-formed messages rest on: bytes that the builder writes
are read back as the value they were built from, when the format has that value, which is so
of the values that are parsed from texts, and no value dumps to the empty text.
-/

import ArangoCpp.Text

namespace ArangoCpp

/-- The kinds of exception the library throws. -/
inductive VpackException : Type where
  | parseError
  | invalidValueType
  | indexOutOfBounds
  | numberOutOfRange
  | invalidUtf8Sequence
  | other (code : Nat)
  deriving DecidableEq, Repr

/-- A value of the VelocyPack format. `none` is the library's absent value, a double is given by its
64 bits, the members of an object stand in the order of its bytes, and `other` stands for the types
that no JSON text has, a date or a binary, of which only the head is kept. -/
inductive Slice : Type where
  | none
  | null
  | bool (value : Bool)
  | int (value : Int)
  | double (bits : UInt64)
  | string (value : Bytes)
  | array (items : List Slice)
  | object (members : List (Bytes × Slice))
  | other (head : UInt8)

/-- The numbers that are kept as integers: those that a signed or an unsigned word holds. -/
def IsWord (value : Int) : Prop := -0x8000000000000000 ≤ value ∧ value < 0x10000000000000000

namespace Slice

/-- The values that a builder makes of the types of JSON, and that its bytes are read back as. -/
inductive Represented : Slice → Prop where
  | null : Represented .null
  | bool (value : Bool) : Represented (.bool value)
  | int {value : Int} (fits : IsWord value) : Represented (.int value)
  | double (bits : UInt64) : Represented (.double bits)
  | string (value : Bytes) : Represented (.string value)
  | array {items : List Slice} (each : ∀ item ∈ items, Represented item) :
      Represented (.array items)
  | object {members : List (Bytes × Slice)} (each : ∀ member ∈ members, Represented member.2) :
      Represented (.object members)

@[simp] theorem represented_bool (value : Bool) : (Slice.bool value).Represented := .bool value

@[simp] theorem represented_string (value : Bytes) : (Slice.string value).Represented :=
  .string value

@[simp] theorem represented_int_iff (value : Int) :
    (Slice.int value).Represented ↔ IsWord value := by
  constructor
  · intro represented
    cases represented with
    | int fits => exact fits
  · exact .int

@[simp] theorem represented_array_iff (items : List Slice) :
    (Slice.array items).Represented ↔ ∀ item ∈ items, item.Represented := by
  constructor
  · intro represented
    cases represented with
    | array each => exact each
  · exact .array

@[simp] theorem represented_object_iff (members : List (Bytes × Slice)) :
    (Slice.object members).Represented ↔ ∀ member ∈ members, member.2.Represented := by
  constructor
  · intro represented
    cases represented with
    | object each => exact each
  · exact .object

end Slice

/-- Options of the parser and of the dumper, as far as the client sets them. -/
structure VpackOptions where
  validateUtf8Strings : Bool
  nullifyUnsupportedType : Bool
  deriving DecidableEq, Repr

/-- What the library does with bytes and texts. -/
structure Velocypack where
  /-- The value whose first byte is the first of these bytes. -/
  sliceAt : Bytes → Slice
  /-- The length that the value's own header declares. -/
  byteSize : Bytes → Except VpackException Nat
  /-- The bytes a builder writes for a value. -/
  build : Slice → Bytes
  fromJson : VpackOptions → Bytes → Except VpackException Slice
  toJson : VpackOptions → Slice → Except VpackException Bytes
  /-- What stands in the memory that a buffer has reserved behind the bytes it holds. -/
  spare : Bytes → Bytes
  what : VpackException → Bytes

/-- The documented behaviour that the client relies on. -/
structure Velocypack.Lawful (vpack : Velocypack) : Prop where
  build_ne_nil : ∀ value : Slice, value.Represented → vpack.build value ≠ []
  sliceAt_build : ∀ value : Slice, value.Represented → ∀ rest,
    vpack.sliceAt (vpack.build value ++ rest) = value
  byteSize_build : ∀ value : Slice, value.Represented → ∀ rest,
    vpack.byteSize (vpack.build value ++ rest) = .ok (vpack.build value).length
  represented : ∀ options json value, vpack.fromJson options json = .ok value → value.Represented
  toJson_ne_nil : ∀ options value json, vpack.toJson options value = .ok json → json ≠ []

namespace Slice

def isNone : Slice → Bool
  | .none => true
  | _ => false

def isObject : Slice → Bool
  | .object _ => true
  | _ => false

/-- `get`: the member of that name, `none` when the object has no such member. -/
def get (name : Bytes) : Slice → Except VpackException Slice
  | .object members =>
    .ok (((members.find? fun member => member.1 = name).map Prod.snd).getD .none)
  | _ => .error .invalidValueType

/-- Every member of an object can be asked for. -/
theorem exists_get {slice : Slice} (object : slice.isObject = true) (name : Bytes) :
    ∃ member, slice.get name = .ok member := by
  cases slice with
  | object members => exact ⟨_, rfl⟩
  | _ => cases object

/-- `hasKey`. -/
def hasKey (name : Bytes) (slice : Slice) : Except VpackException Bool := do
  let member ← slice.get name
  return !member.isNone

def getBool : Slice → Except VpackException Bool
  | .bool value => .ok value
  | _ => .error .invalidValueType

/-- `getInt`: an unsigned number beyond the signed 64-bit range is refused. -/
def getInt : Slice → Except VpackException Int
  | .int value => if value < 0x8000000000000000 then .ok value else .error .numberOutOfRange
  | _ => .error .invalidValueType

def copyString : Slice → Except VpackException Bytes
  | .string value => .ok value
  | _ => .error .invalidValueType

/-- `length`: the number of members of an array or of an object. -/
def length : Slice → Except VpackException Nat
  | .array items => .ok items.length
  | .object members => .ok members.length
  | _ => .error .invalidValueType

/-- `operator[]` of an array. -/
def itemAt (index : Nat) : Slice → Except VpackException Slice
  | .array items => match items[index]? with
    | some item => .ok item
    | Option.none => .error .indexOutOfBounds
  | _ => .error .invalidValueType

/-- `keyAt` of an object. The library counts members by their names; a client that puts them into a
map cannot tell. -/
def keyAt (index : Nat) : Slice → Except VpackException Slice
  | .object members => match members[index]? with
    | some member => .ok (.string member.1)
    | Option.none => .error .indexOutOfBounds
  | _ => .error .invalidValueType

/-- `valueAt` of an object. -/
def valueAt (index : Nat) : Slice → Except VpackException Slice
  | .object members => match members[index]? with
    | some member => .ok member.2
    | Option.none => .error .indexOutOfBounds
  | _ => .error .invalidValueType

end Slice

/-- The conversion of a 64-bit number to `int`. -/
def toInt32 (value : Int) : Int := value.bmod 0x100000000

end ArangoCpp
