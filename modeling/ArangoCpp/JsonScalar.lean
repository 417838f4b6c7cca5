/-
This file holds the scalar values of JSON as texts, which are numbers, strings and three literals.

Numbers and strings are what two automata accept. A string ends at the first quote that is not
escaped, so it is read whatever follows it. A number ends where no byte of a number follows.
-/

import ArangoCpp.Reader
import ArangoCpp.Text

namespace JsonScalar

open Reader

def isDigit (byte : UInt8) : Bool := 0x30 ≤ byte && byte ≤ 0x39

/-! ### Numbers -/

/-- What of a number has been read. -/
inductive NumberState : Type where
  | start | negative | zero | whole | point | fraction | letter | sign | exponent
  deriving DecidableEq, Repr

namespace NumberState

/-- The first digit of the whole part. Nothing of it follows a zero. -/
def first (byte : UInt8) : Option NumberState :=
  if byte = 0x30 then some zero else if isDigit byte then some whole else none

/-- The letter of an exponent. -/
def power (byte : UInt8) : Option NumberState :=
  if (text "eE").contains byte then some letter else none

/-- A digit that leads to a state. -/
def digit (state : NumberState) (byte : UInt8) : Option NumberState :=
  if isDigit byte then some state else none

def step : NumberState → UInt8 → Option NumberState
  | start, byte => if byte = 0x2d then some negative else first byte
  | negative, byte => first byte
  | zero, byte => if byte = 0x2e then some point else power byte
  | whole, byte => if byte = 0x2e then some point else (digit whole byte).or (power byte)
  | point, byte => digit fraction byte
  | fraction, byte => (digit fraction byte).or (power byte)
  | letter, byte => if (text "+-").contains byte then some sign else digit exponent byte
  | sign, byte => digit exponent byte
  | exponent, byte => digit exponent byte

def final : NumberState → Bool
  | zero | whole | fraction | exponent => true
  | start | negative | point | letter | sign => false

end NumberState

def numbers : Automaton NumberState UInt8 := ⟨.start, NumberState.step, NumberState.final⟩

/-! ### Strings -/

/-- What of a string has been read. `hexadecimal` counts the digits that follow the next one. -/
inductive StringState : Type where
  | start | inside | escaped | hexadecimal (others : Nat) | closed
  deriving DecidableEq, Repr

namespace StringState

def isHexadecimal (byte : UInt8) : Bool :=
  isDigit byte || (0x41 ≤ byte && byte ≤ 0x46) || (0x61 ≤ byte && byte ≤ 0x66)

def step : StringState → UInt8 → Option StringState
  | start, byte => if byte = 0x22 then some inside else none
  | inside, byte =>
    if byte = 0x22 then some closed
    else if byte = 0x5c then some escaped
    else if 0x20 ≤ byte then some inside
    else none
  | escaped, byte =>
    if byte = 0x75 then some (hexadecimal 3)
    else if (text "\"\\/bfnrt").contains byte then some inside
    else none
  | hexadecimal 0, byte => if isHexadecimal byte then some inside else none
  | hexadecimal (others + 1), byte => if isHexadecimal byte then some (hexadecimal others) else none
  | closed, _ => none

def final (state : StringState) : Bool := state = closed

end StringState

def strings : Automaton StringState UInt8 := ⟨.start, StringState.step, StringState.final⟩

/-! ### Scalars -/

def literals : List Bytes := [text "true", text "false", text "null"]

/-- A number or a literal. -/
def isPlain (written : Bytes) : Bool := numbers.accepts written || literals.contains written

def isScalar (written : Bytes) : Bool := strings.accepts written || isPlain written

/-- A byte of a number or of a literal. -/
def isPlainByte (byte : UInt8) : Bool :=
  isDigit byte || (0x41 ≤ byte && byte ≤ 0x5a) || (0x61 ≤ byte && byte ≤ 0x7a) ||
    (text "+-.").contains byte

/-- The text of a scalar. -/
def scalar : Reader UInt8 Bytes := orElse strings.read (lexeme isPlainByte isPlain)

theorem isPlainByte_of_step (state : NumberState) (byte : UInt8) (next : NumberState)
    (step : state.step byte = some next) : isPlainByte byte = true := by
  have each : ∀ byte, (state.step byte).isSome = true → isPlainByte byte = true := by
    cases state <;> exact forall_byte (by decide +kernel)
  exact each byte (Option.isSome_of_eq_some step)

theorem isPlainByte_of_isPlain {written : Bytes} (plain : isPlain written = true) :
    ∀ byte ∈ written, isPlainByte byte = true := by
  rw [isPlain, Bool.or_eq_true] at plain
  rcases plain with number | literal
  · exact Automaton.forall_of_acceptsFrom isPlainByte_of_step number
  · have each : ∀ literal ∈ literals, literal.all isPlainByte = true := by decide
    exact List.all_eq_true.mp (each written (List.contains_iff_mem.mp literal))

theorem ne_nil_of_isPlain {written : Bytes} (plain : isPlain written = true) : written ≠ [] := by
  rintro rfl
  cases plain

/-- The first byte of a scalar is a quote or a byte of a number or a literal. -/
theorem stops_of_isScalar {written : Bytes} (isScalar : isScalar written = true)
    {kind : UInt8 → Bool} (quote : kind 0x22 = false)
    (excludes : ∀ byte, isPlainByte byte = true → kind byte = false) (rest : Bytes) :
    Stops kind (written ++ rest) := by
  rw [JsonScalar.isScalar, Bool.or_eq_true] at isScalar
  rcases isScalar with isString | plain
  · obtain ⟨first, others, rfl⟩ := List.exists_cons_of_ne_nil
      (Automaton.ne_nil_of_accepts rfl isString)
    obtain ⟨next, step, _⟩ := Automaton.acceptsFrom_cons.mp isString
    have isQuote : first = 0x22 := by
      by_contra other
      cases (if_neg other : StringState.start.step first = none).symm.trans step
    exact stops_cons (isQuote ▸ quote) _
  · exact stops_append (ne_nil_of_isPlain plain) (isPlainByte_of_isPlain plain) excludes rest

theorem reads_scalar {written : Bytes} (isScalar : isScalar written = true) :
    scalar.Reads (Stops isPlainByte) written written := by
  have closed : ∀ state byte, strings.final state = true → strings.step state byte = none := by
    intro state byte final
    rw [of_decide_eq_true final]
    rfl
  have noQuote : ∀ byte, isPlainByte byte = true → strings.step strings.start byte = none :=
    forall_byte (by decide +kernel)
  rw [JsonScalar.isScalar, Bool.or_eq_true] at isScalar
  rcases isScalar with isString | plain
  · exact ((Automaton.reads_readFrom closed rfl isString).imp fun _ _ => trivial).orElse_left _
  · have nonempty := ne_nil_of_isPlain plain
    have all := isPlainByte_of_isPlain plain
    refine (reads_lexeme all nonempty plain).orElse_right fun rest _ => ?_
    obtain ⟨first, others, rfl⟩ := List.exists_cons_of_ne_nil nonempty
    exact Automaton.read_eq_none (noQuote first (all first List.mem_cons_self)) _

end JsonScalar
