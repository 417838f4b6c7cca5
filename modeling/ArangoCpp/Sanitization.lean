/-
This file translates `sanitization`, which makes a text into a key, and proves what it makes.

The loop keeps the characters of its table and writes one underscore for a run of others; a flag
says whether the latest character was in the table. The bytes that the loop keeps are all but one
of those that the comment above it calls legal: the percent sign is missing in the table.
-/

import ArangoCpp.Detail
import ArangoCpp.Names
import Mathlib.Data.Set.Operations

namespace ArangoCpp

namespace ArangoDBAPIBase

/-! ### The loop -/

def keyPunctuationCharacters : Bytes := "_-:.@()+,=;$!*'"

def underscore : UInt8 := UInt8.ofNat '_'.toNat

/-- The body of the loop of `sanitization`, on the key made so far and the flag. -/
def sanitizationStep (state : Bytes × Bool) (c : UInt8) : Bytes × Bool :=
  if isAlphanumeric c || keyPunctuationCharacters.contains c then (state.1 ++ [c], true)
  else if state.2 then (state.1 ++ [underscore], false)
  else state

/-- `sanitization`. -/
def sanitization (documentHandle : Bytes) : Bytes :=
  ((Detail.trim documentHandle).foldl sanitizationStep ([], true)).1.take 254

/-- What `sanitization` is for: the whitespace at both ends is left out, every run of bytes that no
key has becomes an underscore, and a key is cut to its greatest length. -/
def sanitized (documentHandle : Bytes) : Bytes :=
  (Text.squeeze isKeyByte underscore (Detail.trim documentHandle)).take 254

theorem sanitization_eq (documentHandle : Bytes) :
    sanitization documentHandle = sanitized documentHandle := by
  have step : sanitizationStep = Text.squeezeStep isKeyByte underscore := rfl
  rw [sanitization, step, Text.foldl_squeezeStep, List.nil_append, sanitized]

/-! ### What is made -/

theorem isKeyByte_of_mem_sanitized {documentHandle : Bytes} {byte : UInt8}
    (member : byte ∈ sanitized documentHandle) : isKeyByte byte = true := by
  have marked : isKeyByte underscore = true := by decide
  exact Text.wanted_of_mem_squeeze marked (List.mem_of_mem_take member)

theorem isSpace_of_isKeyByte {byte : UInt8} (legal : isKeyByte byte = true) :
    Detail.isSpace byte = false := by
  have each : ∀ number : Fin 256, isKeyByte (UInt8.ofNat number) = true →
      Detail.isSpace (UInt8.ofNat number) = false := by decide +kernel
  exact @forall_byte (fun byte => isKeyByte byte = true → Detail.isSpace byte = false) each
    byte legal

/-- Nothing is trimmed where nothing is whitespace. -/
theorem trim_of_forall {string : Bytes} (solid : ∀ byte ∈ string, Detail.isSpace byte = false) :
    Detail.trim string = string := by
  have front : Detail.ltrim string = string := by
    cases string with
    | nil => rfl
    | cons byte rest =>
      refine List.dropWhile_cons_of_neg ?_
      rw [solid byte List.mem_cons_self]
      exact Bool.false_ne_true
  rw [Detail.trim, front, Detail.rtrim, List.rdropWhile_eq_self_iff]
  intro nonempty
  rw [solid _ (List.getLast_mem nonempty)]
  exact Bool.false_ne_true

theorem trim_eq_nil_iff (string : Bytes) :
    Detail.trim string = [] ↔ ∀ byte ∈ string, Detail.isSpace byte = true := by
  rw [Detail.trim, Detail.rtrim, List.rdropWhile_eq_nil_iff, Detail.ltrim]
  constructor
  · intro all
    have front : string.dropWhile Detail.isSpace = [] := by
      by_contra nonempty
      have stopped := List.head_dropWhile_not Detail.isSpace nonempty
      rw [all _ (List.head_mem nonempty)] at stopped
      cases stopped
    exact List.dropWhile_eq_nil_iff.mp front
  · exact fun all byte member => all byte ((List.dropWhile_sublist _).subset member)

/-- A text of bytes that keys have stays as it is, up to the greatest length. -/
theorem sanitized_of_forall {string : Bytes} (legal : ∀ byte ∈ string, isKeyByte byte = true) :
    sanitized string = string.take 254 := by
  rw [sanitized, trim_of_forall fun byte member => isSpace_of_isKeyByte (legal byte member),
    Text.squeeze_of_forall legal]

/-- `sanitization` makes what it is for. It makes texts of bytes that keys have, no longer than keys
are; it makes a key of every text that is not all whitespace; and what it has made it leaves as it
is. -/
theorem sanitization_sanitizes (documentHandle : Bytes) :
    sanitization documentHandle = sanitized documentHandle ∧
      (∀ byte ∈ sanitization documentHandle, isKeyByte byte = true) ∧
      (sanitization documentHandle).length ≤ 254 ∧
      (sanitization documentHandle ≠ [] ↔
        ∃ byte ∈ documentHandle, Detail.isSpace byte = false) ∧
      sanitization (sanitization documentHandle) = sanitization documentHandle := by
  have length : (sanitized documentHandle).length ≤ 254 := List.length_take_le _ _
  have empty : sanitized documentHandle = [] ↔
      ∀ byte ∈ documentHandle, Detail.isSpace byte = true := by
    rw [sanitized, List.take_eq_nil_iff, or_iff_right (by decide), Text.squeeze_eq_nil_iff,
      trim_eq_nil_iff]
  rw [sanitization_eq (sanitization documentHandle), sanitization_eq]
  refine ⟨rfl, fun byte => isKeyByte_of_mem_sanitized, length, ?_, ?_⟩
  · rw [ne_eq, empty]
    simp only [not_forall, Bool.not_eq_true, exists_prop]
  · rw [sanitized_of_forall fun byte => isKeyByte_of_mem_sanitized,
      List.take_of_length_le length]

/-! ### Keys that are legal already -/

theorem isKeyByte_percent : isKeyByte percent = false := by decide

/-- A legal key stays as it is exactly when it has no percent sign. -/
theorem sanitization_eq_self_iff (key : LegalKey) :
    sanitization key.bytes = key.bytes ↔ percent ∉ key.bytes := by
  rw [sanitization_eq]
  constructor
  · intro same member
    rw [← same] at member
    have legal := isKeyByte_of_mem_sanitized member
    rw [isKeyByte_percent] at legal
    cases legal
  · intro absent
    have legal : ∀ byte ∈ key.bytes, isKeyByte byte = true := by
      intro byte member
      rcases key.legal byte member with legal | rfl
      · exact legal
      · exact absurd member absent
    rw [sanitized_of_forall legal, List.take_of_length_le key.short]

/-- Of a set of legal keys `sanitization` keeps all, and makes different keys of different ones,
exactly when none of them has a percent sign. -/
theorem sanitization_keeps_iff (keys : Set LegalKey) :
    ((∀ key ∈ keys, sanitization key.bytes = key.bytes) ∧
        Set.InjOn (fun key => sanitization key.bytes) keys) ↔
      ∀ key ∈ keys, percent ∉ key.bytes := by
  constructor
  · exact fun kept key member => (sanitization_eq_self_iff key).mp (kept.1 key member)
  · intro absent
    have kept : ∀ key ∈ keys, sanitization key.bytes = key.bytes := fun key member =>
      (sanitization_eq_self_iff key).mpr (absent key member)
    refine ⟨kept, fun key member other memberToo same => ?_⟩
    show key = other
    have bytes : key.bytes = other.bytes := by
      calc key.bytes = sanitization key.bytes := (kept key member).symm
        _ = sanitization other.bytes := same
        _ = other.bytes := kept other memberToo
    exact LegalKey.ext bytes

/-- A key with a percent sign becomes another legal key. -/
theorem not_sanitization_keeps_percent :
    ∃ key other : LegalKey, key.bytes = "a%" ∧ other.bytes = "a_" ∧
      sanitization key.bytes ≠ key.bytes ∧
      sanitization key.bytes = sanitization other.bytes := by
  refine ⟨⟨"a%", by decide, by decide, ?_⟩, ⟨"a_", by decide, by decide, ?_⟩, rfl, rfl, ?_, ?_⟩
  · intro byte member
    rcases List.mem_pair.mp member with rfl | rfl
    · exact Or.inl (by decide)
    · exact Or.inr rfl
  · intro byte member
    rcases List.mem_pair.mp member with rfl | rfl <;> exact Or.inl (by decide)
  · decide
  · decide

end ArangoDBAPIBase

end ArangoCpp
