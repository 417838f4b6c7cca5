/-
This file says which bytes the names of collections and the keys of documents are made of.

There are two alphabets of keys. The comment above `sanitization` states the rules of the server
and lists a percent sign among the punctuation characters; the table that the loop of
`sanitization` looks its characters up in leaves it out.
-/

import ArangoCpp.Text

namespace ArangoCpp

/-! ### Alphabets -/

def isAlphanumeric (byte : UInt8) : Bool :=
  (0x30 ≤ byte && byte ≤ 0x39) || (0x41 ≤ byte && byte ≤ 0x5a) || (0x61 ≤ byte && byte ≤ 0x7a)

def isNameByte (byte : UInt8) : Bool := isAlphanumeric byte || (text "_-").contains byte

def isKeyByte (byte : UInt8) : Bool :=
  isAlphanumeric byte || (text "_-:.@()+,=;$!*'").contains byte

/-! ### Names and keys -/

/-- The name of a collection. -/
@[ext] structure CollectionName where
  bytes : Bytes
  nonempty : bytes ≠ []
  legal : ∀ byte ∈ bytes, isNameByte byte = true
  deriving DecidableEq

/-- The key of a document. -/
@[ext] structure DocumentKey where
  bytes : Bytes
  nonempty : bytes ≠ []
  legal : ∀ byte ∈ bytes, isKeyByte byte = true
  notDot : bytes ≠ "."
  notDots : bytes ≠ ".."
  deriving DecidableEq

def percent : UInt8 := UInt8.ofNat '%'.toNat

/-- The keys that the comment above `sanitization` calls legal. -/
@[ext] structure LegalKey where
  bytes : Bytes
  nonempty : bytes ≠ []
  short : bytes.length ≤ 254
  legal : ∀ byte ∈ bytes, isKeyByte byte = true ∨ byte = percent
  deriving DecidableEq

end ArangoCpp
