/-
This file builds lexers. A scanner says how many elements at the front of a sequence match, and a
lexicon is a list of rules, each a scanner and the kind of lexeme that it finds. The lexer takes
the first rule that matches, again and again, until nothing is left of the sequence.

Two questions about a sequence are answered through its lexemes. A needle occurs in the sequence
exactly when it occurs in a lexeme, provided that no lexeme ends in the middle of one; a scanner
keeps needles whole when it stops at elements that they do not have, when it never takes the element
that they begin with, or when it ends in an element that they do not have. And what stands in front
of a separator has the lexemes that it has alone, provided that the scanners are steady: they find
the same in it whatever stands behind the separator.
-/

import Mathlib.Data.List.Infix
import Mathlib.Data.List.TakeDrop
import Mathlib.Data.List.TakeWhile

/-- How many elements at the front match, if they do. -/
abbrev Scanner (α : Type) := List α → Option Nat

namespace Scanner

variable {α : Type}

/-! ### Scanners -/

/-- One element of a kind. -/
def one (wanted : α → Bool) : Scanner α
  | [] => none
  | item :: _ => if wanted item then some 1 else none

/-- The longest run of elements of a kind, which may be empty. -/
def run (wanted : α → Bool) : Scanner α := fun sequence => some (sequence.takeWhile wanted).length

/-- One scanner and then the other. -/
def both (first second : Scanner α) : Scanner α := fun sequence =>
  (first sequence).bind fun count => (second (sequence.drop count)).map (count + ·)

/-- One scanner, or else the other. -/
def either (first second : Scanner α) : Scanner α := fun sequence =>
  (first sequence).or (second sequence)

/-- What a scanner finds, or else nothing. -/
def perhaps (scanner : Scanner α) : Scanner α := either scanner fun _ => some 0

/-- The longest run of elements of a kind, with at least one. -/
def runs (wanted : α → Bool) : Scanner α := both (one wanted) (run wanted)

def everything : Scanner α := fun sequence => some sequence.length

section

variable [DecidableEq α]

/-- The loop of `through`. The flag says that the latest element was an escape. -/
def throughFrom (escape : Option α) (close : List α) : Bool → Scanner α
  | _, [] => none
  | true, _ :: rest => (throughFrom escape close false rest).map (· + 1)
  | false, item :: rest =>
    if close <+: item :: rest then some close.length
    else (throughFrom escape close (escape = some item) rest).map (· + 1)

/-- The rest of a sequence up to the end of a closing mark. An element behind an escape does not
count as the beginning of the mark. -/
def through (escape : Option α) (close : List α) : Scanner α := throughFrom escape close false

end

theorem both_eq_some_iff {first second : Scanner α} {sequence : List α} {count : Nat} :
    both first second sequence = some count ↔
      ∃ front back, first sequence = some front ∧ second (sequence.drop front) = some back ∧
        front + back = count := by
  simp [both, Option.bind_eq_some_iff]

theorem either_eq_some_iff {first second : Scanner α} {sequence : List α} {count : Nat} :
    either first second sequence = some count ↔
      first sequence = some count ∨ first sequence = none ∧ second sequence = some count :=
  Option.or_eq_some_iff

theorem one_eq_some_iff {wanted : α → Bool} {sequence : List α} {count : Nat} :
    one wanted sequence = some count ↔
      ∃ item rest, sequence = item :: rest ∧ wanted item = true ∧ count = 1 := by
  cases sequence with
  | nil => simp [one]
  | cons item rest =>
    rw [one]
    split
    · rename_i wants
      constructor
      · intro found
        cases found
        exact ⟨item, rest, rfl, wants, rfl⟩
      · rintro ⟨_, _, _, _, rfl⟩
        rfl
    · rename_i unwanted
      refine iff_of_false (fun found => by cases found) ?_
      rintro ⟨_, _, same, wants, _⟩
      cases same
      exact unwanted wants

/-! ### Scanners that move -/

/-- Something is taken, and no more than there is. -/
def Advances (scanner : Scanner α) : Prop :=
  ∀ sequence count, scanner sequence = some count → 0 < count ∧ count ≤ sequence.length

/-- No more is taken than there is. -/
def Bounded (scanner : Scanner α) : Prop :=
  ∀ sequence count, scanner sequence = some count → count ≤ sequence.length

theorem Advances.bounded {scanner : Scanner α} (advances : scanner.Advances) : scanner.Bounded :=
  fun sequence count found => (advances sequence count found).2

theorem advances_one (wanted : α → Bool) : (one wanted).Advances := by
  intro sequence count found
  obtain ⟨item, rest, rfl, _, rfl⟩ := one_eq_some_iff.mp found
  simp

theorem bounded_run (wanted : α → Bool) : (run wanted).Bounded := by
  intro sequence count found
  cases found
  exact (List.takeWhile_prefix wanted).length_le

theorem bounded_everything : (everything : Scanner α).Bounded := by
  intro sequence count found
  cases found
  exact le_rfl

theorem Bounded.both {first second : Scanner α} (bounded : first.Bounded)
    (boundedToo : second.Bounded) : (both first second).Bounded := by
  intro sequence count found
  obtain ⟨front, back, matched, matchedToo, rfl⟩ := both_eq_some_iff.mp found
  have short := bounded sequence front matched
  have shortToo := boundedToo _ back matchedToo
  rw [List.length_drop] at shortToo
  omega

theorem Bounded.either {first second : Scanner α} (bounded : first.Bounded)
    (boundedToo : second.Bounded) : (either first second).Bounded := by
  intro sequence count found
  rcases either_eq_some_iff.mp found with found | ⟨_, found⟩
  · exact bounded sequence count found
  · exact boundedToo sequence count found

theorem Bounded.perhaps {scanner : Scanner α} (bounded : scanner.Bounded) :
    (perhaps scanner).Bounded :=
  bounded.either fun _ count found => by
    cases found
    exact Nat.zero_le _

theorem Advances.both {first second : Scanner α} (advances : first.Advances)
    (bounded : second.Bounded) : (both first second).Advances := by
  intro sequence count found
  refine ⟨?_, advances.bounded.both bounded sequence count found⟩
  obtain ⟨front, back, matched, _, rfl⟩ := both_eq_some_iff.mp found
  exact Nat.add_pos_left (advances sequence front matched).1 back

theorem Advances.either {first second : Scanner α} (advances : first.Advances)
    (advancesToo : second.Advances) : (either first second).Advances := by
  intro sequence count found
  rcases either_eq_some_iff.mp found with found | ⟨_, found⟩
  · exact advances sequence count found
  · exact advancesToo sequence count found

theorem advances_runs (wanted : α → Bool) : (runs wanted).Advances :=
  (advances_one wanted).both (bounded_run wanted)

section

variable [DecidableEq α] {escape : Option α} {close : List α}

/-- What the loop finds ends at the closing mark. -/
theorem drop_of_throughFrom {escaped : Bool} {sequence : List α} {count : Nat}
    (found : throughFrom escape close escaped sequence = some count) :
    ∃ content, sequence = content ++ close ++ sequence.drop count ∧
      content.length + close.length = count := by
  induction sequence generalizing escaped count with
  | nil => cases escaped <;> cases found
  | cons item rest inductionHypothesis =>
    have later : ∀ {flag count}, throughFrom escape close flag rest = some count →
        ∃ content, item :: rest = content ++ close ++ (item :: rest).drop (count + 1) ∧
          content.length + close.length = count + 1 := by
      intro flag count found
      obtain ⟨content, split, length⟩ := inductionHypothesis found
      refine ⟨item :: content, ?_, by simp only [List.length_cons]; omega⟩
      rw [List.drop_succ_cons, List.cons_append, List.cons_append, ← split]
    cases escaped with
    | true =>
      obtain ⟨count, matched, rfl⟩ := Option.map_eq_some_iff.mp found
      exact later matched
    | false =>
      rw [throughFrom] at found
      split at found
      · rename_i closes
        cases found
        exact ⟨[], (List.prefix_iff_eq_append.mp closes).symm, Nat.zero_add _⟩
      · obtain ⟨count, matched, rfl⟩ := Option.map_eq_some_iff.mp found
        exact later matched

theorem bounded_through (escape : Option α) (close : List α) : (through escape close).Bounded := by
  intro sequence count found
  obtain ⟨content, split, length⟩ := drop_of_throughFrom found
  have lengths := congrArg List.length split
  simp only [List.length_append, List.length_drop] at lengths
  omega

end

/-! ### Needles that stay whole -/

/-- What is taken and what is left do not share a needle. -/
def Whole (needle : List α) (scanner : Scanner α) : Prop :=
  ∀ sequence count, scanner sequence = some count →
    (needle <:+: sequence ↔
      needle <:+: sequence.take count ∨ needle <:+: sequence.drop count)

/-- A needle that is not cut between two parts is in one of them. -/
theorem infix_take_drop_iff {needle sequence : List α} {count : Nat}
    (cut : ∀ front back, front ≠ [] → back ≠ [] → needle = front ++ back →
      front <:+ sequence.take count → ¬ back <+: sequence.drop count) :
    needle <:+: sequence ↔ needle <:+: sequence.take count ∨ needle <:+: sequence.drop count := by
  conv_lhs => rw [← List.take_append_drop count sequence, List.infix_append_iff_ne_nil]
  constructor
  · rintro (taken | left | ⟨front, back, frontNonempty, backNonempty, split, ends, begins⟩)
    · exact Or.inl taken
    · exact Or.inr left
    · exact absurd begins (cut front back frontNonempty backNonempty split ends)
  · rintro (taken | left)
    · exact Or.inl taken
    · exact Or.inr (Or.inl left)

/-- The scanner stops at an element of a kind, or at the end. -/
def Stops (stop : α → Bool) (scanner : Scanner α) : Prop :=
  ∀ sequence count, scanner sequence = some count →
    ∀ item rest, sequence.drop count = item :: rest → stop item = true

/-- The scanner does not take the element. -/
def Avoids (absent : α) (scanner : Scanner α) : Prop :=
  ∀ sequence count, scanner sequence = some count → absent ∉ sequence.take count

/-- What the scanner takes ends in an element. -/
def EndsIn (last : α) (scanner : Scanner α) : Prop :=
  ∀ sequence count, scanner sequence = some count → [last] <:+ sequence.take count

variable {needle : List α} {scanner first second : Scanner α}

theorem Stops.whole {stop : α → Bool} (stops : scanner.Stops stop)
    (free : ∀ item ∈ needle, stop item = false) : Whole needle scanner := by
  intro sequence count found
  refine infix_take_drop_iff fun front back _ nonempty split _ begins => ?_
  obtain ⟨item, rest, rfl⟩ := List.exists_cons_of_ne_nil nonempty
  obtain ⟨more, same⟩ := begins
  have stopped := stops sequence count found item (rest ++ more) same.symm
  rw [free item (by simp [split])] at stopped
  cases stopped

theorem Avoids.whole {absent : α} {tail : List α} (avoids : scanner.Avoids absent) :
    Whole (absent :: tail) scanner := by
  intro sequence count found
  refine infix_take_drop_iff fun front back nonempty _ split ends _ => ?_
  obtain ⟨item, rest, rfl⟩ := List.exists_cons_of_ne_nil nonempty
  injection split with same
  refine avoids sequence count found ?_
  rw [same]
  exact ends.subset List.mem_cons_self

theorem EndsIn.whole {last : α} (ends : scanner.EndsIn last) (free : last ∉ needle) :
    Whole needle scanner := by
  intro sequence count found
  refine infix_take_drop_iff fun front back nonempty _ split ending _ => ?_
  have common := List.suffix_of_suffix_length_le (ends sequence count found) ending
    (List.length_pos_iff.mpr nonempty)
  refine free ?_
  rw [split]
  exact List.mem_append_left _ (common.subset (List.mem_singleton_self last))

/-! ### Which scanners keep needles whole -/

theorem drop_takeWhile (wanted : α → Bool) (sequence : List α) :
    sequence.drop (sequence.takeWhile wanted).length = sequence.dropWhile wanted := by
  induction sequence with
  | nil => rfl
  | cons item rest inductionHypothesis =>
    by_cases wants : wanted item = true
    · rw [List.takeWhile_cons_of_pos wants, List.dropWhile_cons_of_pos wants, List.length_cons,
        List.drop_succ_cons, inductionHypothesis]
    · rw [List.takeWhile_cons_of_neg wants, List.dropWhile_cons_of_neg wants]
      rfl

theorem stops_run (wanted : α → Bool) : (run wanted).Stops fun item => !wanted item := by
  intro sequence count found item rest left
  cases found
  rw [drop_takeWhile] at left
  have nonempty : sequence.dropWhile wanted ≠ [] := by simp [left]
  have stopped := List.head_dropWhile_not wanted nonempty
  simpa [left] using stopped

theorem stops_everything (stop : α → Bool) : (everything : Scanner α).Stops stop := by
  intro sequence count found item rest left
  cases found
  rw [List.drop_length] at left
  cases left

theorem Stops.both {stop : α → Bool} (first : Scanner α) (stops : second.Stops stop) :
    (both first second).Stops stop := by
  intro sequence count found item rest left
  obtain ⟨front, back, matched, matchedToo, rfl⟩ := both_eq_some_iff.mp found
  rw [← List.drop_drop] at left
  exact stops _ back matchedToo item rest left

theorem Stops.either {stop : α → Bool} (stops : first.Stops stop) (stopsToo : second.Stops stop) :
    (either first second).Stops stop := by
  intro sequence count found
  rcases either_eq_some_iff.mp found with matched | ⟨_, matched⟩
  · exact stops sequence count matched
  · exact stopsToo sequence count matched

section

variable {absent : α}

theorem avoids_one {wanted : α → Bool} (unwanted : wanted absent = false) :
    (one wanted).Avoids absent := by
  intro sequence count found member
  obtain ⟨head, rest, rfl, wants, rfl⟩ := one_eq_some_iff.mp found
  rw [List.take_succ_cons, List.take_zero, List.mem_singleton] at member
  rw [← member, unwanted] at wants
  cases wants

theorem avoids_run {wanted : α → Bool} (unwanted : wanted absent = false) :
    (run wanted).Avoids absent := by
  intro sequence count found member
  cases found
  rw [← List.prefix_iff_eq_take.mp (List.takeWhile_prefix wanted)] at member
  have wants := List.mem_takeWhile_imp member
  rw [unwanted] at wants
  cases wants

theorem Avoids.both (avoids : first.Avoids absent) (avoidsToo : second.Avoids absent) :
    (both first second).Avoids absent := by
  intro sequence count found member
  obtain ⟨front, back, matched, matchedToo, rfl⟩ := both_eq_some_iff.mp found
  rw [List.take_add] at member
  rcases List.mem_append.mp member with taken | taken
  · exact avoids sequence front matched taken
  · exact avoidsToo _ back matchedToo taken

theorem Avoids.either (avoids : first.Avoids absent) (avoidsToo : second.Avoids absent) :
    (either first second).Avoids absent := by
  intro sequence count found
  rcases either_eq_some_iff.mp found with matched | ⟨_, matched⟩
  · exact avoids sequence count matched
  · exact avoidsToo sequence count matched

theorem Avoids.perhaps (avoids : scanner.Avoids absent) : (perhaps scanner).Avoids absent :=
  avoids.either fun _ _ found member => by
    cases found
    cases member

end

theorem EndsIn.both {last : α} (first : Scanner α) (ends : second.EndsIn last) :
    (both first second).EndsIn last := by
  intro sequence count found
  obtain ⟨front, back, matched, matchedToo, rfl⟩ := both_eq_some_iff.mp found
  rw [List.take_add]
  exact (ends _ back matchedToo).trans (List.suffix_append _ _)

theorem endsIn_through [DecidableEq α] (escape : Option α) (mark : List α) (last : α) :
    (through escape (mark ++ [last])).EndsIn last := by
  intro sequence count found
  obtain ⟨content, split, length⟩ := drop_of_throughFrom found
  have taken : sequence.take count = content ++ (mark ++ [last]) := by
    conv_lhs => rw [split]
    exact List.take_left' (by rw [List.length_append, length])
  rw [taken, ← List.append_assoc]
  exact List.suffix_append _ _

/-! ### Steady scanners -/

/-- The scanner finds the same in a plain sequence whatever stands behind a separator. -/
def Steady (plain : α → Bool) (separator : α) (scanner : Scanner α) : Prop :=
  ∀ front back, (∀ item ∈ front, plain item = true) →
    scanner (front ++ separator :: back) = scanner front

variable {plain : α → Bool} {separator : α}

theorem steady_one {wanted : α → Bool} (unwanted : wanted separator = false) :
    (one wanted).Steady plain separator := by
  intro front back _
  cases front with
  | nil => simp [one, unwanted]
  | cons item rest => rfl

theorem steady_run {wanted : α → Bool} (unwanted : wanted separator = false) :
    (run wanted).Steady plain separator := by
  intro front back _
  have behind : (separator :: back).takeWhile wanted = [] :=
    List.takeWhile_cons_of_neg (by simp [unwanted])
  simp only [run, List.takeWhile_append, behind, List.append_nil]
  split
  · rename_i all
    rw [all]
  · rfl

theorem Steady.both (bounded : first.Bounded) (steady : first.Steady plain separator)
    (steadyToo : second.Steady plain separator) : (both first second).Steady plain separator := by
  intro front back all
  unfold Scanner.both
  rw [steady front back all]
  refine Option.bind_congr fun count found => ?_
  rw [List.drop_append_of_le_length (bounded front count found),
    steadyToo _ back fun item member => all item (List.mem_of_mem_drop member)]

theorem Steady.either (steady : first.Steady plain separator)
    (steadyToo : second.Steady plain separator) : (either first second).Steady plain separator := by
  intro front back all
  rw [Scanner.either, steady front back all, steadyToo front back all, Scanner.either]

theorem Steady.perhaps (steady : scanner.Steady plain separator) :
    (perhaps scanner).Steady plain separator :=
  steady.either fun _ _ _ => rfl

/-- What begins with no plain element is not found in plain sequences. -/
theorem steady_both_one {wanted : α → Bool} (unwanted : wanted separator = false)
    (never : ∀ item, plain item = true → wanted item = false) (second : Scanner α) :
    (both (one wanted) second).Steady plain separator := by
  intro front back all
  cases front with
  | nil => simp [Scanner.both, one, unwanted]
  | cons item rest =>
    have missing := never item (all item List.mem_cons_self)
    simp [Scanner.both, one, missing]

end Scanner

/-! ### Lexers -/

/-- A piece of a sequence, and what kind of piece it is. -/
structure Lexeme (Kind α : Type) where
  kind : Kind
  text : List α
  deriving DecidableEq

/-- The rules of a lexer, which move where they match, and the kind of a single element where none
does. -/
structure Lexicon (Kind α : Type) where
  rules : List (Kind × Scanner α)
  other : Kind
  advances : ∀ rule ∈ rules, rule.2.Advances

namespace Lexicon

variable {Kind α : Type} (lexicon : Lexicon Kind α)

/-- The first rule that matches, and how much it takes. -/
def scan (sequence : List α) : Kind × Nat :=
  (lexicon.rules.findSome? fun rule => (rule.2 sequence).map fun count => (rule.1, count)).getD
    (lexicon.other, 1)

/-- At most so many lexemes. -/
def lexemesFrom : Nat → List α → List (Lexeme Kind α)
  | 0, _ => []
  | _ + 1, [] => []
  | fuel + 1, item :: rest =>
    let (kind, count) := lexicon.scan (item :: rest)
    ⟨kind, (item :: rest).take count⟩ :: lexemesFrom fuel ((item :: rest).drop count)

/-- The lexemes of a sequence. Every one has an element. -/
def lexemes (sequence : List α) : List (Lexeme Kind α) :=
  lexicon.lexemesFrom sequence.length sequence

variable {lexicon}

/-- A lexeme is found by a rule, or by none of them. -/
theorem scan_cases (sequence : List α) :
    (∃ rule ∈ lexicon.rules, ∃ count, rule.2 sequence = some count ∧
      lexicon.scan sequence = (rule.1, count)) ∨
      (∀ rule ∈ lexicon.rules, rule.2 sequence = none) ∧
        lexicon.scan sequence = (lexicon.other, 1) := by
  unfold scan
  cases found : lexicon.rules.findSome? fun rule =>
      (rule.2 sequence).map fun count => (rule.1, count) with
  | none =>
    refine Or.inr ⟨fun rule member => ?_, rfl⟩
    exact Option.map_eq_none_iff.mp (List.findSome?_eq_none_iff.mp found rule member)
  | some result =>
    obtain ⟨rule, member, matched⟩ := List.exists_of_findSome?_eq_some found
    obtain ⟨count, matched, same⟩ := Option.map_eq_some_iff.mp matched
    exact Or.inl ⟨rule, member, count, matched, same.symm⟩

/-- What the rules find is all that matters. -/
theorem scan_congr {first second : List α}
    (same : ∀ rule ∈ lexicon.rules, rule.2 first = rule.2 second) :
    lexicon.scan first = lexicon.scan second := by
  unfold scan
  congr 1
  generalize lexicon.rules = rules at same
  induction rules with
  | nil => rfl
  | cons rule rules inductionHypothesis =>
    rw [List.findSome?_cons, List.findSome?_cons, same rule List.mem_cons_self,
      inductionHypothesis fun other member => same other (List.mem_cons_of_mem rule member)]

theorem scan_advances (item : α) (rest : List α) :
    0 < (lexicon.scan (item :: rest)).2 ∧
      (lexicon.scan (item :: rest)).2 ≤ (item :: rest).length := by
  rcases lexicon.scan_cases (item :: rest) with ⟨rule, member, count, matched, same⟩ | ⟨_, same⟩
  · rw [same]
    exact lexicon.advances rule member _ count matched
  · rw [same]
    exact ⟨Nat.one_pos, Nat.succ_le_succ (Nat.zero_le _)⟩

/-- As many lexemes as there are elements are enough. -/
theorem lexemesFrom_of_le {fuel : Nat} {sequence : List α} (enough : sequence.length ≤ fuel) :
    lexicon.lexemesFrom fuel sequence = lexicon.lexemes sequence := by
  unfold lexemes
  induction fuel using Nat.strong_induction_on generalizing sequence with
  | _ fuel inductionHypothesis =>
    cases sequence with
    | nil => cases fuel <;> rfl
    | cons item rest =>
      obtain ⟨positive, _⟩ := @scan_advances _ _ lexicon item rest
      obtain ⟨fuel, rfl⟩ := Nat.exists_eq_succ_of_ne_zero (Nat.ne_zero_of_lt enough)
      have short : ((item :: rest).drop (lexicon.scan (item :: rest)).2).length ≤ rest.length := by
        rw [List.length_drop, List.length_cons]
        omega
      rw [List.length_cons] at enough ⊢
      simp only [lexemesFrom]
      rw [inductionHypothesis fuel (Nat.lt_succ_self _) (by omega)]
      by_cases same : rest.length = fuel
      · rw [same] at short ⊢
        rw [inductionHypothesis fuel (Nat.lt_succ_self _) short]
      · rw [inductionHypothesis rest.length (by omega) short]

theorem lexemes_nil : lexicon.lexemes [] = [] := rfl

/-- The first lexeme, and those of what is left. -/
theorem lexemes_cons (item : α) (rest : List α) :
    lexicon.lexemes (item :: rest) =
      ⟨(lexicon.scan (item :: rest)).1,
          (item :: rest).take (lexicon.scan (item :: rest)).2⟩ ::
        lexicon.lexemes ((item :: rest).drop (lexicon.scan (item :: rest)).2) := by
  obtain ⟨positive, _⟩ := @scan_advances _ _ lexicon item rest
  have short : ((item :: rest).drop (lexicon.scan (item :: rest)).2).length ≤ rest.length := by
    rw [List.length_drop, List.length_cons]
    omega
  rw [← lexemesFrom_of_le short]
  rfl

/-- An induction along the lexemes of a sequence. -/
theorem lexemes_induction {property : List α → Prop} (nil : property [])
    (cons : ∀ item rest,
      property ((item :: rest).drop (lexicon.scan (item :: rest)).2) → property (item :: rest))
    (sequence : List α) : property sequence := by
  induction length : sequence.length using Nat.strong_induction_on generalizing sequence with
  | _ count inductionHypothesis =>
    cases sequence with
    | nil => exact nil
    | cons item rest =>
      obtain ⟨positive, _⟩ := @scan_advances _ _ lexicon item rest
      refine cons item rest (inductionHypothesis _ ?_ _ rfl)
      rw [← length, List.length_drop, List.length_cons]
      omega

/-- A needle that no lexeme cuts occurs in the sequence exactly when it occurs in a lexeme. -/
theorem infix_iff_exists_lexeme {needle : List α} (nonempty : needle ≠ [])
    (whole : ∀ rule ∈ lexicon.rules, rule.2.Whole needle)
    (other : ∀ item rest, (∀ rule ∈ lexicon.rules, rule.2 (item :: rest) = none) →
      item ∉ needle) (sequence : List α) :
    needle <:+: sequence ↔ ∃ lexeme ∈ lexicon.lexemes sequence, needle <:+: lexeme.text := by
  induction sequence using @lexemes_induction _ _ lexicon with
  | nil => simp [lexemes_nil, nonempty]
  | cons item rest inductionHypothesis =>
    have cut : needle <:+: item :: rest ↔
        needle <:+: (item :: rest).take (lexicon.scan (item :: rest)).2 ∨
          needle <:+: (item :: rest).drop (lexicon.scan (item :: rest)).2 := by
      rcases lexicon.scan_cases (item :: rest) with
        ⟨rule, member, count, matched, same⟩ | ⟨unmatched, same⟩
      · rw [same]
        exact whole rule member _ count matched
      · rw [same]
        refine Scanner.infix_take_drop_iff fun front back frontNonempty _ split ends _ => ?_
        obtain ⟨head, tail, rfl⟩ := List.exists_cons_of_ne_nil frontNonempty
        have taken : head = item := by
          simpa using ends.subset List.mem_cons_self
        refine other item rest unmatched ?_
        rw [split, ← taken]
        exact List.mem_cons_self
    rw [lexemes_cons, cut, inductionHypothesis]
    simp

/-- What stands in front of a separator has the lexemes that it has alone. -/
theorem lexemes_append {plain : α → Bool} {separator : α}
    (steady : ∀ rule ∈ lexicon.rules, ∀ item front back, (∀ other ∈ item :: front, plain other) →
      rule.2 (item :: (front ++ separator :: back)) = rule.2 (item :: front))
    {front : List α} (all : ∀ item ∈ front, plain item) (back : List α) :
    lexicon.lexemes (front ++ separator :: back) =
      lexicon.lexemes front ++ lexicon.lexemes (separator :: back) := by
  induction front using @lexemes_induction _ _ lexicon with
  | nil => rfl
  | cons item rest inductionHypothesis =>
    have scanned : lexicon.scan (item :: (rest ++ separator :: back)) =
        lexicon.scan (item :: rest) :=
      scan_congr fun rule member => steady rule member item rest back all
    obtain ⟨_, short⟩ := @scan_advances _ _ lexicon item rest
    have later := inductionHypothesis fun other member => all other (List.mem_of_mem_drop member)
    rw [List.cons_append, lexemes_cons, lexemes_cons, scanned, List.cons_append, ← later,
      ← List.cons_append, List.take_append_of_le_length short,
      List.drop_append_of_le_length short]

end Lexicon
