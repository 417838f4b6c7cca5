/-
This file decodes percent-encoded texts. An escape is a percent sign with two hexadecimal digits
behind it, and stands for the byte of that number; every other byte stands for itself, a percent
sign without two digits too.

What a writer who does not encode needs to know is which texts stay as they are: those in which no
escape occurs, since every escape makes the text shorter. A byte that is neither a digit nor a
percent sign belongs to no escape, so that a text is decoded part by part between such bytes.
-/

import ArangoCpp.Text

namespace Percent

/-! ### Escapes -/

def sign : UInt8 := UInt8.ofNat '%'.toNat

/-- The value of a hexadecimal digit. -/
def hexValue (byte : UInt8) : Option UInt8 :=
  if 0x30 ≤ byte && byte ≤ 0x39 then some (byte - 0x30)
  else if 0x41 ≤ byte && byte ≤ 0x46 then some (byte - 0x37)
  else if 0x61 ≤ byte && byte ≤ 0x66 then some (byte - 0x57)
  else none

/-- The byte that an escape at the front stands for. -/
def escaped : Bytes → Option UInt8
  | first :: high :: low :: _ =>
    if first = sign then do
      let high ← hexValue high
      let low ← hexValue low
      return high * 16 + low
    else none
  | _ => none

/-- An escape occurs in the text. -/
def HasEscape (string : Bytes) : Prop := ∃ tail, tail <:+ string ∧ (escaped tail).isSome

/-- Put the bytes that they stand for in place of the escapes. -/
def decode : Bytes → Bytes
  | [] => []
  | byte :: rest =>
    match escaped (byte :: rest) with
    | some plain => plain :: decode (rest.drop 2)
    | none => byte :: decode rest
termination_by string => string.length
decreasing_by
  · rw [List.length_drop, List.length_cons]
    omega
  · exact Nat.lt_succ_self _

theorem escaped_eq_none_of_ne {byte : UInt8} (plain : byte ≠ sign) (rest : Bytes) :
    escaped (byte :: rest) = none := by
  unfold escaped
  split
  · rename_i same
    injection same with first
    rw [← first, if_neg plain]
  · rfl

/-- An escape is three bytes long. -/
theorem length_of_escaped {byte : UInt8} {rest : Bytes}
    (begins : (escaped (byte :: rest)).isSome) : 2 ≤ rest.length := by
  match rest with
  | [] => cases begins
  | [_] => cases begins
  | _ :: _ :: tail => simp

theorem hasEscape_cons_iff (byte : UInt8) (rest : Bytes) :
    HasEscape (byte :: rest) ↔ (escaped (byte :: rest)).isSome ∨ HasEscape rest := by
  constructor
  · rintro ⟨tail, suffix, begins⟩
    rcases List.suffix_cons_iff.mp suffix with rfl | later
    · exact Or.inl begins
    · exact Or.inr ⟨tail, later, begins⟩
  · rintro (begins | ⟨tail, suffix, begins⟩)
    · exact ⟨_, List.suffix_rfl, begins⟩
    · exact ⟨tail, suffix.trans (List.suffix_cons byte rest), begins⟩

theorem not_hasEscape_nil : ¬ HasEscape [] := by
  rintro ⟨tail, suffix, begins⟩
  rw [List.suffix_nil.mp suffix] at begins
  cases begins

/-- Without a percent sign there is no escape. -/
theorem not_hasEscape_of_sign {string : Bytes} (absent : sign ∉ string) : ¬ HasEscape string := by
  rintro ⟨tail, suffix, begins⟩
  cases tail with
  | nil => cases begins
  | cons byte rest =>
    have plain : byte ≠ sign := by
      rintro rfl
      exact absent (suffix.subset List.mem_cons_self)
    rw [escaped_eq_none_of_ne plain] at begins
    cases begins

/-! ### Texts that stay as they are -/

theorem decode_of_escaped {byte plain : UInt8} {rest : Bytes}
    (begins : escaped (byte :: rest) = some plain) :
    decode (byte :: rest) = plain :: decode (rest.drop 2) := by
  rw [decode]
  simp only [begins]

theorem decode_of_not_escaped {byte : UInt8} {rest : Bytes}
    (none : escaped (byte :: rest) = none) : decode (byte :: rest) = byte :: decode rest := by
  rw [decode]
  simp only [none]

theorem length_decode_le (string : Bytes) : (decode string).length ≤ string.length := by
  induction string using decode.induct with
  | case1 => simp [decode]
  | case2 byte rest plain begins inductionHypothesis =>
    rw [decode_of_escaped begins]
    rw [List.length_drop] at inductionHypothesis
    simp only [List.length_cons]
    omega
  | case3 byte rest none inductionHypothesis =>
    rw [decode_of_not_escaped none]
    exact Nat.succ_le_succ inductionHypothesis

/-- An escape makes the text shorter. -/
theorem length_decode_lt {string : Bytes} (has : HasEscape string) :
    (decode string).length < string.length := by
  induction string using decode.induct with
  | case1 => exact absurd has not_hasEscape_nil
  | case2 byte rest plain begins inductionHypothesis =>
    have long : 2 ≤ rest.length := length_of_escaped (Option.isSome_of_eq_some begins)
    have short := length_decode_le (rest.drop 2)
    rw [decode_of_escaped begins]
    rw [List.length_drop] at short
    simp only [List.length_cons]
    omega
  | case3 byte rest none inductionHypothesis =>
    rw [hasEscape_cons_iff, none] at has
    rw [decode_of_not_escaped none]
    exact Nat.succ_lt_succ (inductionHypothesis (has.resolve_left (by simp)))

/-- A text stays as it is exactly when no escape occurs in it. -/
theorem decode_eq_self_iff (string : Bytes) : decode string = string ↔ ¬ HasEscape string := by
  constructor
  · intro same has
    have shorter := length_decode_lt has
    rw [same] at shorter
    exact lt_irrefl _ shorter
  · intro plain
    induction string with
    | nil => simp [decode]
    | cons byte rest inductionHypothesis =>
      rw [hasEscape_cons_iff, not_or, Option.not_isSome_iff_eq_none] at plain
      rw [decode_of_not_escaped plain.1, inductionHypothesis plain.2]

/-! ### Parts of a text -/

variable {separator : UInt8}

/-- An escape does not reach across a byte that is no digit. -/
theorem escaped_append (digit : hexValue separator = none) (byte : UInt8) (front back : Bytes) :
    escaped (byte :: front ++ separator :: back) = escaped (byte :: front) := by
  match front with
  | [] =>
    cases back with
    | nil => rfl
    | cons low rest => simp [escaped, digit]
  | [high] => simp [escaped, digit]
  | high :: low :: rest => rfl

/-- A text is decoded part by part between bytes that belong to no escape. -/
theorem decode_append (digit : hexValue separator = none) (plain : separator ≠ sign)
    (front back : Bytes) :
    decode (front ++ separator :: back) = decode front ++ separator :: decode back := by
  induction front using decode.induct with
  | case1 => rw [List.nil_append, decode_of_not_escaped (escaped_eq_none_of_ne plain back), decode,
      List.nil_append]
  | case2 byte rest char begins inductionHypothesis =>
    have long : 2 ≤ rest.length := length_of_escaped (Option.isSome_of_eq_some begins)
    have beginsToo := (escaped_append digit byte rest back).trans begins
    rw [List.cons_append] at beginsToo ⊢
    rw [decode_of_escaped beginsToo, decode_of_escaped begins, List.drop_append_of_le_length long,
      inductionHypothesis, List.cons_append]
  | case3 byte rest none inductionHypothesis =>
    have noneToo := (escaped_append digit byte rest back).trans none
    rw [List.cons_append] at noneToo ⊢
    rw [decode_of_not_escaped noneToo, decode_of_not_escaped none, inductionHypothesis,
      List.cons_append]

end Percent
