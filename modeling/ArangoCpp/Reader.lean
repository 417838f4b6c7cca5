/-
This file holds readers, which take a value from the front of a sequence, and the rules by which a
text that was put together from parts is read back.

A reader reads a text as a value when it does so whatever comes behind the text, as long as that may
follow: a run of letters cannot be followed by one more letter. Texts that are read one after the
other are read by a sequence of readers if each may follow the one before it, and a list that is
written with separators is read back item by item. What an automaton accepts is read symbol by
symbol.
-/

import Mathlib.Data.List.Infix
import Mathlib.Data.List.TakeDrop

/-- A reader takes a value from the front of a sequence, or it fails. -/
def Reader (Symbol Value : Type) : Type := List Symbol → Option (Value × List Symbol)

namespace Reader

variable {Symbol Value Result : Type}

instance : Monad (Reader Symbol) where
  pure value := fun input => some (value, input)
  bind reader next := fun input =>
    match reader input with
    | none => none
    | some (value, rest) => next value rest

/-! ### The readers -/

/-- What the first reader reads, or else what the second one does. -/
def orElse (first second : Reader Symbol Value) : Reader Symbol Value := fun input =>
  match first input with
  | none => second input
  | some read => some read

/-- A value that has been computed, if it has been. -/
def ofOption (computed : Option Value) : Reader Symbol Value := fun input =>
  computed.map fun value => (value, input)

/-- A reader behind blanks. -/
def spaced (blank : Symbol → Bool) (reader : Reader Symbol Value) : Reader Symbol Value :=
  fun input => reader (input.dropWhile blank)

/-- As many symbols of a kind as there are. -/
def span (kind : Symbol → Bool) : Reader Symbol (List Symbol) := fun input =>
  some (input.takeWhile kind, input.dropWhile kind)

/-- As many symbols of a kind as there are, and not none. -/
def run (kind : Symbol → Bool) : Reader Symbol (List Symbol) := do
  let taken ← span kind
  ofOption (if taken = [] then none else some taken)

/-- As many symbols of a kind as there are, if they are such together as is expected. -/
def lexeme (kind : Symbol → Bool) (expected : List Symbol → Bool) :
    Reader Symbol (List Symbol) := do
  let taken ← run kind
  ofOption (if expected taken then some taken else none)

variable [DecidableEq Symbol]

/-- The text that is expected. -/
def exactly (expected : List Symbol) : Reader Symbol Unit := fun input =>
  if expected <+: input then some ((), input.drop expected.length) else none

/-- The word that is expected, among symbols of its kind. -/
def word (kind : Symbol → Bool) (expected : List Symbol) : Reader Symbol Unit := do
  let taken ← run kind
  ofOption (if taken = expected then some () else none)

/-- The symbols of a kind between two marks. -/
def enclosed (opening closing : List Symbol) (kind : Symbol → Bool) :
    Reader Symbol (List Symbol) := do
  exactly opening
  let content ← span kind
  exactly closing
  pure content

omit [DecidableEq Symbol] in
/-- Items with separators between them. The fuel bounds their number. -/
def separated (separator : Reader Symbol Unit) (item : Reader Symbol Value) :
    Nat → Reader Symbol (List Value)
  | 0 => fun _ => none
  | fuel + 1 => do
    let first ← item
    orElse
      (do
        separator
        let others ← separated separator item fuel
        pure (first :: others))
      (pure [first])

omit [DecidableEq Symbol] in
/-- Items with separators between them, as many as the input may hold. -/
def list (separator : Reader Symbol Unit) (item : Reader Symbol Value) :
    Reader Symbol (List Value) := fun input => separated separator item (input.length + 1) input

omit [DecidableEq Symbol] in
/-- The value of a text that is read to its end. -/
def readAll (blank : Symbol → Bool) (reader : Reader Symbol Value) (input : List Symbol) :
    Option Value :=
  match reader input with
  | none => none
  | some (value, rest) => if rest.dropWhile blank = [] then some value else none

/-! ### What is read back -/

omit [DecidableEq Symbol]

/-- The text is read as the value, if the rest is such that it may follow the text. -/
def Reads (reader : Reader Symbol Value) (follows : List Symbol → Prop) (written : List Symbol)
    (value : Value) : Prop :=
  ∀ rest, follows rest → reader (written ++ rest) = some (value, rest)

/-- Everything may follow. -/
def Anything (_ : List Symbol) : Prop := True

/-- What follows begins with no symbol of the kind. -/
def Stops (kind : Symbol → Bool) (rest : List Symbol) : Prop :=
  ∀ symbol ∈ rest.head?, kind symbol = false

theorem stops_nil (kind : Symbol → Bool) : Stops kind [] := fun _ member => by cases member

theorem stops_cons {kind : Symbol → Bool} {symbol : Symbol} (other : kind symbol = false)
    (rest : List Symbol) : Stops kind (symbol :: rest) := by
  intro first same
  cases same
  exact other

/-- What begins with a symbol of another kind stops a kind. -/
theorem stops_append {kind other : Symbol → Bool} {written : List Symbol} (nonempty : written ≠ [])
    (all : ∀ symbol ∈ written, other symbol = true)
    (excludes : ∀ symbol, other symbol = true → kind symbol = false) (rest : List Symbol) :
    Stops kind (written ++ rest) := by
  obtain ⟨first, others, rfl⟩ := List.exists_cons_of_ne_nil nonempty
  exact stops_cons (excludes first (all first List.mem_cons_self)) _

variable {follows followsToo : List Symbol → Prop} {written behind : List Symbol} {value : Value}
  {result : Result}

theorem bind_eq_of_eq_some {reader : Reader Symbol Value} {input rest : List Symbol}
    (read : reader input = some (value, rest)) (next : Value → Reader Symbol Result) :
    (reader >>= next) input = next value rest := by
  show (match reader input with
    | none => none
    | some (value, rest) => next value rest) = _
  rw [read]

theorem bind_eq_of_eq_none {reader : Reader Symbol Value} {input : List Symbol}
    (fails : reader input = none) (next : Value → Reader Symbol Result) :
    (reader >>= next) input = none := by
  show (match reader input with
    | none => none
    | some (value, rest) => next value rest) = _
  rw [fails]

theorem Reads.imp {reader : Reader Symbol Value} (reads : reader.Reads follows written value)
    (narrower : ∀ rest, followsToo rest → follows rest) :
    reader.Reads followsToo written value :=
  fun rest may => reads rest (narrower rest may)

theorem reads_pure (value : Value) :
    Reads (pure value : Reader Symbol Value) Anything [] value := fun _ _ => rfl

theorem reads_ofOption {computed : Option Value} (same : computed = some value) :
    Reads (ofOption computed : Reader Symbol Value) Anything [] value := by
  intro rest _
  rw [ofOption, same]
  rfl

/-- Texts one behind the other are read one after the other. -/
theorem Reads.bind {reader : Reader Symbol Value} {next : Value → Reader Symbol Result}
    (reads : reader.Reads follows written value)
    (readsNext : (next value).Reads followsToo behind result)
    (joins : ∀ rest, followsToo rest → follows (behind ++ rest)) :
    (reader >>= next).Reads followsToo (written ++ behind) result := by
  intro rest may
  rw [List.append_assoc, bind_eq_of_eq_some (reads (behind ++ rest) (joins rest may))]
  exact readsNext rest may

/-- The last step of a sequence, which reads nothing. -/
theorem Reads.bind_nil {reader : Reader Symbol Value} {next : Value → Reader Symbol Result}
    (reads : reader.Reads follows written value)
    (readsNext : (next value).Reads Anything [] result) :
    (reader >>= next).Reads follows written result := by
  intro rest may
  rw [bind_eq_of_eq_some (reads rest may)]
  exact readsNext rest trivial

theorem Reads.orElse_left {first : Reader Symbol Value} (reads : first.Reads follows written value)
    (second : Reader Symbol Value) : (orElse first second).Reads follows written value := by
  intro rest may
  rw [orElse, reads rest may]

theorem Reads.orElse_right {second : Reader Symbol Value}
    (reads : second.Reads follows written value) {first : Reader Symbol Value}
    (fails : ∀ rest, follows rest → first (written ++ rest) = none) :
    (orElse first second).Reads follows written value := by
  intro rest may
  rw [orElse, fails rest may]
  exact reads rest may

/-- A reader that skips blanks sees what stands behind them. -/
theorem spaced_append {blank : Symbol → Bool} {blanks input : List Symbol}
    (all : ∀ symbol ∈ blanks, blank symbol = true) (begins : Stops blank input)
    (reader : Reader Symbol Value) : spaced blank reader (blanks ++ input) = reader input := by
  rw [spaced, List.dropWhile_append_of_pos all]
  cases input with
  | nil => rfl
  | cons symbol rest =>
    rw [List.dropWhile_cons_of_neg (by rw [begins symbol rfl]; exact Bool.false_ne_true)]

theorem Reads.spaced {reader : Reader Symbol Value} (reads : reader.Reads follows written value)
    {blank : Symbol → Bool} {blanks : List Symbol} (all : ∀ symbol ∈ blanks, blank symbol = true)
    (begins : ∀ rest, Stops blank (written ++ rest)) :
    (Reader.spaced blank reader).Reads follows (blanks ++ written) value := by
  intro rest may
  rw [List.append_assoc, spaced_append all (begins rest)]
  exact reads rest may

theorem reads_span {kind : Symbol → Bool} (all : ∀ symbol ∈ written, kind symbol = true) :
    (span kind).Reads (Stops kind) written written := by
  intro rest stops
  have none : rest.takeWhile kind = [] ∧ rest.dropWhile kind = rest := by
    cases rest with
    | nil => exact ⟨rfl, rfl⟩
    | cons symbol rest =>
      have other : ¬ kind symbol = true := by
        rw [stops symbol rfl]
        exact Bool.false_ne_true
      exact ⟨List.takeWhile_cons_of_neg other, List.dropWhile_cons_of_neg other⟩
  rw [span, List.takeWhile_append_of_pos all, List.dropWhile_append_of_pos all, none.1, none.2,
    List.append_nil]

theorem reads_run {kind : Symbol → Bool} (all : ∀ symbol ∈ written, kind symbol = true)
    (nonempty : written ≠ []) : (run kind).Reads (Stops kind) written written :=
  (reads_span all).bind_nil (reads_ofOption (if_neg nonempty))

theorem reads_lexeme {kind : Symbol → Bool} {expected : List Symbol → Bool}
    (all : ∀ symbol ∈ written, kind symbol = true) (nonempty : written ≠ [])
    (such : expected written = true) : (lexeme kind expected).Reads (Stops kind) written written :=
  (reads_run all nonempty).bind_nil (reads_ofOption (if_pos such))

section

variable [DecidableEq Symbol]

theorem reads_exactly (expected : List Symbol) :
    (exactly expected).Reads Anything expected () := by
  intro rest _
  rw [exactly, if_pos (List.prefix_append expected rest), List.drop_left]

/-- A text with another first symbol is not the one that is expected. -/
theorem exactly_eq_none {first : Symbol} {others input : List Symbol}
    (stops : Stops (fun symbol => symbol = first) input) :
    exactly (first :: others) input = none := by
  refine if_neg fun starts => ?_
  obtain ⟨rest, rfl⟩ := starts
  exact of_decide_eq_false (stops first rfl) rfl

theorem reads_word {kind : Symbol → Bool} {expected : List Symbol}
    (all : ∀ symbol ∈ expected, kind symbol = true) (nonempty : expected ≠ []) :
    (word kind expected).Reads (Stops kind) expected () :=
  (reads_run all nonempty).bind_nil (reads_ofOption (if_pos rfl))

/-- Another word is not the one that is expected. -/
theorem word_eq_none {kind : Symbol → Bool} {found expected : List Symbol}
    (all : ∀ symbol ∈ found, kind symbol = true) (nonempty : found ≠ [])
    (other : found ≠ expected) {rest : List Symbol} (stops : Stops kind rest) :
    word kind expected (found ++ rest) = none := by
  rw [word, bind_eq_of_eq_some (reads_run all nonempty rest stops), if_neg other]
  rfl

theorem reads_enclosed {opening closing : List Symbol} {kind : Symbol → Bool}
    (all : ∀ symbol ∈ written, kind symbol = true)
    (closes : ∀ rest, Stops kind (closing ++ rest)) :
    (enclosed opening closing kind).Reads Anything (opening ++ (written ++ closing)) written := by
  refine (reads_exactly opening).bind ?_ fun _ _ => trivial
  refine (reads_span all).bind ?_ fun rest _ => closes rest
  exact (reads_exactly closing).bind_nil (reads_pure written)

end

/-! ### Lists with separators -/

theorem length_le_length_intercalate {mark : List Symbol} (nonempty : mark ≠ [])
    (pieces : List (List Symbol)) : pieces.length ≤ (mark.intercalate pieces).length + 1 := by
  induction pieces with
  | nil => exact Nat.zero_le _
  | cons piece pieces inductionHypothesis =>
    cases pieces with
    | nil => exact Nat.le_add_left _ _
    | cons next pieces =>
      have marks := List.length_pos_of_ne_nil nonempty
      rw [List.intercalate_cons_cons, List.length_append, List.length_append, List.length_cons]
      omega

section

variable {separator : Reader Symbol Unit} {item : Reader Symbol Value}
  {write : Value → List Symbol} {mark blanks : List Symbol} {values : List Value}
  {blank : Symbol → Bool} (separates : separator.Reads Anything mark ())
  (between : ∀ rest, follows (mark ++ rest))
  (ends : ∀ rest, followsToo rest → follows rest ∧ separator rest = none)
  (all : ∀ symbol ∈ blanks, blank symbol = true)
  (items : ∀ value ∈ values, ∀ gap : List Symbol, (∀ symbol ∈ gap, blank symbol = true) →
    item.Reads follows (gap ++ write value) value)

include separates between ends all items

theorem reads_separated (nonempty : values ≠ []) {front : List Symbol}
    (fronts : ∀ symbol ∈ front, blank symbol = true) {fuel : Nat} (enough : values.length ≤ fuel) :
    (separated separator item fuel).Reads followsToo
      (front ++ (mark ++ blanks).intercalate (values.map write)) values := by
  induction values generalizing front fuel with
  | nil => exact absurd rfl nonempty
  | cons first others inductionHypothesis =>
    obtain ⟨fuel, rfl⟩ : ∃ left, fuel = left + 1 := by
      rw [List.length_cons] at enough
      exact ⟨fuel - 1, by omega⟩
    have readsFirst := items first List.mem_cons_self front fronts
    cases others with
    | nil =>
      rw [List.map_singleton, List.intercalate_singleton, ← List.append_nil (front ++ write first)]
      refine readsFirst.bind ?_ fun rest may => (ends rest may).1
      refine ((reads_pure [first]).imp fun _ _ => trivial).orElse_right fun rest may => ?_
      exact bind_eq_of_eq_none (ends rest may).2 _
    | cons next others =>
      have behind := inductionHypothesis
        (fun value member => items value (List.mem_cons_of_mem first member))
        (List.cons_ne_nil next others) all (Nat.le_of_succ_le_succ enough)
      have shape : front ++ (mark ++ blanks).intercalate ((first :: next :: others).map write) =
          (front ++ write first) ++ (mark ++ (blanks ++
            (mark ++ blanks).intercalate ((next :: others).map write))) := by
        simp only [List.map_cons, List.intercalate_cons_cons, List.append_assoc]
      rw [shape]
      refine readsFirst.bind (Reads.orElse_left ?_ _) fun rest _ => ?_
      · exact separates.bind (behind.bind_nil (reads_pure _)) fun _ _ => trivial
      · rw [List.append_assoc]
        exact between _

/-- Items that are written with a separator between them are read one by one. The separator reads
its mark, and the blanks behind it are left to the item. -/
theorem reads_list (marks : mark ≠ []) (nonempty : values ≠ []) {front : List Symbol}
    (fronts : ∀ symbol ∈ front, blank symbol = true) :
    (list separator item).Reads followsToo
      (front ++ (mark ++ blanks).intercalate (values.map write)) values := by
  intro rest may
  have count := length_le_length_intercalate (List.append_ne_nil_of_left_ne_nil marks blanks)
    (values.map write)
  rw [List.length_map] at count
  refine reads_separated separates between ends all items nonempty fronts ?_ rest may
  simp only [List.length_append] at count ⊢
  omega

end

/-- A text that is read to its end. -/
theorem Reads.readAll {reader : Reader Symbol Value} (reads : reader.Reads follows written value)
    {blank : Symbol → Bool} {blanks : List Symbol} (all : ∀ symbol ∈ blanks, blank symbol = true)
    (may : follows blanks) : readAll blank reader (written ++ blanks) = some value := by
  have none := @List.dropWhile_append_of_pos _ blank blanks [] all
  rw [List.append_nil, List.dropWhile_nil] at none
  rw [Reader.readAll, reads blanks may]
  dsimp only
  rw [if_pos none]

end Reader

/-! ### Automata -/

/-- An automaton takes symbols one at a time. Where there is no step the symbol is out of place. -/
structure Automaton (State Symbol : Type) where
  start : State
  step : State → Symbol → Option State
  final : State → Bool

namespace Automaton

variable {State Symbol : Type} (automaton : Automaton State Symbol)

def acceptsFrom : State → List Symbol → Bool
  | state, [] => automaton.final state
  | state, symbol :: rest =>
    match automaton.step state symbol with
    | none => false
    | some next => acceptsFrom next rest

def accepts (written : List Symbol) : Bool := automaton.acceptsFrom automaton.start written

/-- The symbols up to the first final state behind this one. -/
def readFrom : State → Reader Symbol (List Symbol)
  | _, [] => none
  | state, symbol :: rest =>
    match automaton.step state symbol with
    | none => none
    | some next =>
      if automaton.final next then some ([symbol], rest)
      else (readFrom next rest).map fun read => (symbol :: read.1, read.2)

def read : Reader Symbol (List Symbol) := automaton.readFrom automaton.start

variable {automaton}

theorem acceptsFrom_cons {state : State} {symbol : Symbol} {rest : List Symbol} :
    automaton.acceptsFrom state (symbol :: rest) = true ↔
      ∃ next, automaton.step state symbol = some next ∧ automaton.acceptsFrom next rest = true := by
  rw [acceptsFrom]
  cases automaton.step state symbol with
  | none => simp
  | some next => simp

/-- The symbols of what is accepted are of every kind that the steps are for. -/
theorem forall_of_acceptsFrom {kind : Symbol → Bool}
    (steps : ∀ state symbol next, automaton.step state symbol = some next → kind symbol = true)
    {state : State} {written : List Symbol}
    (accepted : automaton.acceptsFrom state written = true) :
    ∀ symbol ∈ written, kind symbol = true := by
  induction written generalizing state with
  | nil => exact fun symbol member => absurd member List.not_mem_nil
  | cons symbol rest inductionHypothesis =>
    obtain ⟨next, step, behind⟩ := acceptsFrom_cons.mp accepted
    exact List.forall_mem_cons.mpr ⟨steps state symbol next step, inductionHypothesis behind⟩

theorem ne_nil_of_accepts (unfinished : automaton.final automaton.start = false)
    {written : List Symbol} (accepted : automaton.accepts written = true) : written ≠ [] := by
  rintro rfl
  cases unfinished.symm.trans accepted

/-- If there is no step out of a final state, then what is accepted is read whatever follows. -/
theorem reads_readFrom
    (closed : ∀ state symbol, automaton.final state = true → automaton.step state symbol = none)
    {state : State} (running : automaton.final state = false) {written : List Symbol}
    (accepted : automaton.acceptsFrom state written = true) :
    (automaton.readFrom state).Reads Reader.Anything written written := by
  intro rest _
  induction written generalizing state with
  | nil => cases running.symm.trans accepted
  | cons symbol others inductionHypothesis =>
    obtain ⟨next, step, behind⟩ := acceptsFrom_cons.mp accepted
    rw [List.cons_append, readFrom, step]
    dsimp only
    by_cases final : automaton.final next = true
    · cases others with
      | nil => rw [if_pos final, List.nil_append]
      | cons other others =>
        obtain ⟨_, out, _⟩ := acceptsFrom_cons.mp behind
        cases (closed next other final).symm.trans out
    · rw [if_neg final, inductionHypothesis (Bool.not_eq_true _ ▸ final) behind]
      rfl

theorem read_eq_none {symbol : Symbol} (nowhere : automaton.step automaton.start symbol = none)
    (rest : List Symbol) : automaton.read (symbol :: rest) = none := by
  rw [read, readFrom, nowhere]

end Automaton
