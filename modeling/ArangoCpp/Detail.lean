/-
This file translates the text helpers of the client: trimming, splitting, lower-casing and
the order-keeping intersection. They work on bytes and in the classic locale.
-/

import ArangoCpp.Text
import Mathlib.Data.List.DropRight
import Std.Data.TreeSet

namespace ArangoCpp

/-- The sets of strings that the client returns. -/
abbrev StringSet := Std.TreeSet Bytes

namespace Detail

/-- `std::isspace`: the blank and the five control characters from tab to carriage return. -/
def isSpace (char : UInt8) : Bool := char = 32 || (9 ≤ char && char ≤ 13)

def ltrim (string : Bytes) : Bytes := string.dropWhile isSpace

def rtrim (string : Bytes) : Bytes := string.rdropWhile isSpace

def trim (string : Bytes) : Bytes := rtrim (ltrim string)

/-- `::tolower` in the classic locale. -/
def toLower (char : UInt8) : UInt8 := if 65 ≤ char && char ≤ 90 then char + 32 else char

/-- The loop of `split`. `token` holds the bytes between `start` and the position reached. -/
def splitFrom (delimiters : Bytes) : Bytes → Bytes → List Bytes
  | token, [] =>
    -- the trailing token is pushed as it is
    if token = [] then [] else [token]
  | token, char :: rest =>
    if char ∈ delimiters then
      -- an empty token is ignored before anything is trimmed
      if token = [] then splitFrom delimiters [] rest
      else trim token :: splitFrom delimiters [] rest
    else splitFrom delimiters (token ++ [char]) rest

/-- `split`: "a;b;c" to the queue "a", "b", "c". -/
def split (string delimiters : Bytes) : List Bytes := splitFrom delimiters [] string

/-- `getSubset`: the elements of a vector that are in a set, in the vector's order. -/
def getSubset (testVector : List Bytes) (fullSet : StringSet) : List Bytes :=
  testVector.filter fun value => fullSet.contains value

end Detail

end ArangoCpp
