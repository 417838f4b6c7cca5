/-
This file holds byte strings and the searches that string code is made of. A string is a
sequence of bytes with no encoding attached; the searches are stated over sequences of
anything, so that a reader can use them for other alphabets.

`find` is the position of the first occurrence of one sequence in another. What a caller
needs of it is which occurrences there can be: when the needle ends in a separator that
the haystack holds at most once, an occurrence sits in front of that separator and the
rest of the needle is a suffix of what stands there.

`squeeze` puts a mark in place of every run of unwanted elements. A loop that keeps a flag for
"the last element was wanted" does the same.

`splitAt` undoes the joining of pieces with a separator between them, when the first element of
the separator is in none of the pieces. A loop that puts a separator behind what it has already
joins the pieces, unless one of them is empty.
-/

import Mathlib.Data.List.Infix
import Mathlib.Data.List.TakeDrop

/-- A string of bytes. -/
abbrev Bytes := List UInt8

/-- The bytes of a literal, which holds ASCII characters only. -/
def text (literal : String) : Bytes := literal.toList.map fun char => UInt8.ofNat char.toNat

instance : Coe String Bytes := ⟨text⟩

/-- What holds of each of the 256 bytes holds of all of them. -/
theorem forall_byte {property : UInt8 → Prop}
    (each : ∀ number : Fin 256, property (UInt8.ofNat number)) (byte : UInt8) : property byte := by
  have same := each ⟨byte.toNat, byte.toNat_lt⟩
  rwa [UInt8.ofNat_toNat] at same

/-- A list that has an element of a kind has a last one. -/
theorem exists_last {α : Type} (kind : α → Prop) (elements : List α) :
    (∀ element ∈ elements, ¬ kind element) ∨
      ∃ front last back, elements = front ++ last :: back ∧ kind last ∧
        ∀ later ∈ back, ¬ kind later := by
  induction elements with
  | nil => exact Or.inl fun element member => absurd member List.not_mem_nil
  | cons element elements inductionHypothesis =>
    rcases inductionHypothesis with none | ⟨front, last, back, split, isLast, none⟩
    · by_cases isKind : kind element
      · exact Or.inr ⟨[], element, elements, rfl, isKind, none⟩
      · exact Or.inl (List.forall_mem_cons.mpr ⟨isKind, none⟩)
    · refine Or.inr ⟨element :: front, last, back, ?_, isLast, none⟩
      rw [split, List.cons_append]

namespace Text

variable {α : Type} [DecidableEq α]

/-! ### The first occurrence -/

/-- The position of the first occurrence of a needle, if there is one. -/
def find (needle : List α) : List α → Option Nat
  | [] => if needle = [] then some 0 else none
  | head :: tail =>
    if needle <+: head :: tail then some 0 else (find needle tail).map (· + 1)

theorem find_isSome_iff (needle haystack : List α) :
    (find needle haystack).isSome ↔ needle <:+: haystack := by
  induction haystack with
  | nil =>
    unfold find
    split
    · rename_i empty
      simp [empty]
    · rename_i nonempty
      simp [nonempty]
  | cons head tail inductionHypothesis =>
    unfold find
    rw [List.infix_cons_iff]
    split
    · rename_i atFront
      simp [atFront]
    · rename_i notAtFront
      simp [notAtFront, inductionHypothesis]

theorem find_eq_none_iff (needle haystack : List α) :
    find needle haystack = none ↔ ¬ needle <:+: haystack := by
  rw [← find_isSome_iff, Option.not_isSome_iff_eq_none]

/-! ### Occurrences in front of a separator -/

omit [DecidableEq α] in
/-- A needle that ends in a separator does not occur in a sequence without that separator. -/
theorem not_infix_of_separator {separator : α} {needle haystack : List α}
    (absent : separator ∉ haystack) : ¬ needle ++ [separator] <:+: haystack := by
  intro occurs
  exact absent (occurs.subset (List.mem_append_right _ (List.mem_singleton_self separator)))

/-- In a sequence that holds the separator once, a needle that ends in it occurs exactly when
the rest of the needle is a suffix of what stands before the separator. -/
theorem infix_separator_iff {separator : α} {needle front back : List α}
    (needleFree : separator ∉ needle) (frontFree : separator ∉ front)
    (backFree : separator ∉ back) :
    needle ++ [separator] <:+: front ++ separator :: back ↔ needle <:+ front := by
  constructor
  · rintro ⟨before, after, split⟩
    have cut : before ++ needle ++ separator :: after = front ++ separator :: back := by
      simpa using split
    have beforeFree : separator ∉ before := by
      have counts := congrArg (List.count separator) cut
      simp only [List.count_append, List.count_cons_self, List.count_eq_zero.mpr needleFree,
        List.count_eq_zero.mpr frontFree, List.count_eq_zero.mpr backFree] at counts
      exact List.count_eq_zero.mp (by omega)
    have frontEq : before ++ needle = front := by
      have heads := congrArg (List.takeWhile (· ≠ separator)) cut
      have leftFree : ∀ item ∈ before ++ needle, decide (item ≠ separator) = true := by
        intro item member
        rw [decide_eq_true_iff]
        rintro rfl
        rcases List.mem_append.mp member with inBefore | inNeedle
        · exact beforeFree inBefore
        · exact needleFree inNeedle
      have rightFree : ∀ item ∈ front, decide (item ≠ separator) = true := by
        intro item member
        rw [decide_eq_true_iff]
        rintro rfl
        exact frontFree member
      rw [List.takeWhile_append_of_pos leftFree, List.takeWhile_append_of_pos rightFree] at heads
      simpa using heads
    exact ⟨before, frontEq⟩
  · rintro ⟨before, rfl⟩
    exact ⟨before, back, by simp⟩

/-! ### Squeezing runs -/

section

variable {β : Type}

/-- Keep the wanted elements, and put a mark in place of every maximal run of others. -/
def squeeze (wanted : β → Bool) (mark : β) : List β → List β
  | [] => []
  | item :: rest =>
    if wanted item then item :: squeeze wanted mark rest
    else mark :: squeeze wanted mark (rest.dropWhile fun other => !wanted other)
termination_by sequence => sequence.length
decreasing_by
  · exact Nat.lt_succ_self _
  · exact Nat.lt_succ_of_le (List.dropWhile_sublist _).length_le

/-- The body of a loop that squeezes runs. The flag says that the latest element was wanted. -/
def squeezeStep (wanted : β → Bool) (mark : β) (state : List β × Bool) (item : β) :
    List β × Bool :=
  if wanted item then (state.1 ++ [item], true)
  else if state.2 then (state.1 ++ [mark], false)
  else state

variable {wanted : β → Bool} {mark : β}

/-- Inside of a run the loop does nothing. -/
theorem foldl_squeezeStep_run (kept sequence : List β) :
    sequence.foldl (squeezeStep wanted mark) (kept, false) =
      (sequence.dropWhile fun other => !wanted other).foldl (squeezeStep wanted mark)
        (kept, false) := by
  induction sequence with
  | nil => rfl
  | cons item rest inductionHypothesis =>
    by_cases wants : wanted item = true
    · rw [List.dropWhile_cons_of_neg (by simp [wants])]
    · rw [List.dropWhile_cons_of_pos (by simp [wants]), List.foldl_cons, ← inductionHypothesis]
      simp only [squeezeStep, wants, if_false, Bool.false_eq_true]

/-- Behind a run the flag makes no difference. -/
theorem foldl_squeezeStep_behind (kept sequence : List β) :
    ((sequence.dropWhile fun other => !wanted other).foldl (squeezeStep wanted mark)
        (kept, false)).1 =
      ((sequence.dropWhile fun other => !wanted other).foldl (squeezeStep wanted mark)
        (kept, true)).1 := by
  cases behind : sequence.dropWhile fun other => !wanted other with
  | nil => rfl
  | cons item rest =>
    have wants : wanted item = true := by
      have nonempty : (sequence.dropWhile fun other => !wanted other) ≠ [] := by
        rw [behind]
        exact List.cons_ne_nil item rest
      have stopped := List.head_dropWhile_not (fun other => !wanted other) nonempty
      simpa only [behind, List.head_cons, Bool.not_eq_false'] using stopped
    simp only [List.foldl_cons, squeezeStep, wants, if_true]

/-- The loop squeezes runs. -/
theorem foldl_squeezeStep (kept sequence : List β) :
    (sequence.foldl (squeezeStep wanted mark) (kept, true)).1 =
      kept ++ squeeze wanted mark sequence := by
  induction sequence using squeeze.induct wanted generalizing kept with
  | case1 => simp [squeeze]
  | case2 item rest wants inductionHypothesis =>
    rw [List.foldl_cons, squeeze, if_pos wants]
    simp only [squeezeStep, wants, if_true]
    rw [inductionHypothesis, List.append_assoc, List.singleton_append]
  | case3 item rest unwanted inductionHypothesis =>
    rw [List.foldl_cons, squeeze, if_neg unwanted]
    simp only [squeezeStep, unwanted, if_true, if_false, Bool.false_eq_true]
    rw [foldl_squeezeStep_run, foldl_squeezeStep_behind, inductionHypothesis, List.append_assoc,
      List.singleton_append]

theorem squeeze_of_forall {sequence : List β} (all : ∀ item ∈ sequence, wanted item = true) :
    squeeze wanted mark sequence = sequence := by
  induction sequence with
  | nil => rw [squeeze]
  | cons item rest inductionHypothesis =>
    rw [squeeze, if_pos (all item List.mem_cons_self),
      inductionHypothesis fun other member => all other (List.mem_cons_of_mem item member)]

theorem wanted_of_mem_squeeze (marked : wanted mark = true) {sequence : List β} {item : β}
    (member : item ∈ squeeze wanted mark sequence) : wanted item = true := by
  induction sequence using squeeze.induct wanted with
  | case1 =>
    rw [squeeze] at member
    cases member
  | case2 head rest wants inductionHypothesis =>
    rw [squeeze, if_pos wants] at member
    rcases List.mem_cons.mp member with rfl | later
    · exact wants
    · exact inductionHypothesis later
  | case3 head rest unwanted inductionHypothesis =>
    rw [squeeze, if_neg unwanted] at member
    rcases List.mem_cons.mp member with rfl | later
    · exact marked
    · exact inductionHypothesis later

theorem squeeze_eq_nil_iff {sequence : List β} :
    squeeze wanted mark sequence = [] ↔ sequence = [] := by
  cases sequence with
  | nil => simp [squeeze]
  | cons item rest =>
    rw [squeeze]
    by_cases wants : wanted item = true
    · simp [wants]
    · simp [wants]

end

/-! ### Joining with a separator -/

section

variable {β : Type}

/-- The body of a loop that joins pieces. The separator stands behind what there is already. -/
def joinStep [DecidableEq β] (separator joined piece : List β) : List β :=
  (if joined = [] then [] else joined ++ separator) ++ piece

/-- What is empty may as well be left as it is. -/
theorem joinStep_eq [DecidableEq β] (separator joined piece : List β) :
    joinStep separator joined piece =
      (if joined = [] then joined else joined ++ separator) ++ piece := by
  by_cases empty : joined = []
  · rw [joinStep, if_pos empty, if_pos empty, empty]
  · rw [joinStep, if_neg empty, if_neg empty]

theorem foldl_joinStep_of_ne_nil [DecidableEq β] {separator joined : List β}
    (nonempty : joined ≠ []) (pieces : List (List β)) :
    pieces.foldl (joinStep separator) joined = separator.intercalate (joined :: pieces) := by
  induction pieces generalizing joined with
  | nil => rw [List.foldl_nil, List.intercalate_singleton]
  | cons piece pieces inductionHypothesis =>
    have behind : joinStep separator joined piece = joined ++ separator ++ piece := by
      rw [joinStep, if_neg nonempty]
    have longer : joined ++ separator ++ piece ≠ [] := by simp [nonempty]
    rw [List.foldl_cons, behind, inductionHypothesis longer, List.intercalate_cons_cons]
    cases pieces with
    | nil => rw [List.intercalate_singleton, List.intercalate_singleton]
    | cons next pieces => simp only [List.intercalate_cons_cons, List.append_assoc]

/-- The loop joins the pieces. -/
theorem foldl_joinStep [DecidableEq β] {separator : List β} {pieces : List (List β)}
    (nonempty : ∀ piece ∈ pieces, piece ≠ []) :
    pieces.foldl (joinStep separator) [] = separator.intercalate pieces := by
  cases pieces with
  | nil => rfl
  | cons piece pieces =>
    have first : joinStep separator [] piece = piece := by
      rw [joinStep, if_pos rfl, List.nil_append]
    rw [List.foldl_cons, first, foldl_joinStep_of_ne_nil (nonempty piece List.mem_cons_self)]

/-- What is written around every piece may be taken for parts of the separator. -/
theorem intercalate_map_around {separator : List β} {pieces : List (List β)}
    (nonempty : pieces ≠ []) (front behind : List β) :
    separator.intercalate (pieces.map fun piece => front ++ piece ++ behind) =
      front ++ (behind ++ separator ++ front).intercalate pieces ++ behind := by
  induction pieces with
  | nil => exact absurd rfl nonempty
  | cons piece pieces inductionHypothesis =>
    cases pieces with
    | nil => simp only [List.map_singleton, List.intercalate_singleton]
    | cons next pieces =>
      have rest := inductionHypothesis (List.cons_ne_nil next pieces)
      rw [List.map_cons] at rest ⊢
      rw [List.map_cons, List.intercalate_cons_cons, rest, List.intercalate_cons_cons]
      simp only [List.append_assoc]

/-- A loop that writes items, each with a front and a behind, and joins them. -/
theorem foldl_eq_intercalate [DecidableEq β] {γ : Type} {step : List β → γ → List β}
    {write : γ → List β} {separator front behind : List β} {items : List γ} (some : items ≠ [])
    (steps : ∀ joined item,
      step joined item = joinStep separator joined (front ++ write item ++ behind))
    (nonempty : ∀ item, front ++ write item ++ behind ≠ []) :
    items.foldl step [] =
      front ++ (behind ++ separator ++ front).intercalate (items.map write) ++ behind := by
  have written : ∀ piece ∈ (items.map write).map fun piece => front ++ piece ++ behind,
      piece ≠ [] := by
    intro piece member
    rw [List.map_map] at member
    obtain ⟨item, _, rfl⟩ := List.mem_map.mp member
    exact nonempty item
  have pieces : items.map write ≠ [] := fun empty => some (List.map_eq_nil_iff.mp empty)
  rw [← intercalate_map_around pieces front behind, ← foldl_joinStep written, List.map_map,
    List.foldl_map]
  exact congrArg (fun body => items.foldl body []) (funext fun joined => funext (steps joined))

end

/-! ### Splitting at a separator -/

/-- The pieces between the occurrences of the separator `first :: others`. `piece` is what has been
read of the first of them. -/
def splitAt (first : α) (others : List α) (piece : List α) : List α → List (List α)
  | [] => [piece]
  | item :: rest =>
    if first :: others <+: item :: rest then
      piece :: splitAt first others [] (rest.drop others.length)
    else splitAt first others (piece ++ [item]) rest
termination_by sequence => sequence.length
decreasing_by
  · exact Nat.lt_succ_of_le (List.drop_sublist _ _).length_le
  · exact Nat.lt_succ_self _

/-- What holds no separator is read into the piece. -/
theorem splitAt_append {first : α} {others front : List α} (absent : first ∉ front)
    (piece rest : List α) :
    splitAt first others piece (front ++ rest) = splitAt first others (piece ++ front) rest := by
  induction front generalizing piece with
  | nil => rw [List.nil_append, List.append_nil]
  | cons item front inductionHypothesis =>
    rw [List.mem_cons, not_or] at absent
    have differs : ¬ first :: others <+: item :: (front ++ rest) := fun starts =>
      absent.1 (List.cons_prefix_cons.mp starts).1
    rw [List.cons_append, splitAt, if_neg differs, inductionHypothesis absent.2, List.append_assoc,
      List.singleton_append]

theorem splitAt_separator (first : α) (others piece rest : List α) :
    splitAt first others piece (first :: others ++ rest) =
      piece :: splitAt first others [] rest := by
  have starts : first :: others <+: first :: (others ++ rest) := List.prefix_append _ rest
  rw [List.cons_append, splitAt, if_pos starts, List.drop_left]

/-- Splitting undoes joining. -/
theorem splitAt_intercalate {first : α} {others : List α} {pieces : List (List α)}
    (nonempty : pieces ≠ []) (absent : ∀ piece ∈ pieces, first ∉ piece) :
    splitAt first others [] (List.intercalate (first :: others) pieces) = pieces := by
  induction pieces with
  | nil => exact absurd rfl nonempty
  | cons piece pieces inductionHypothesis =>
    have head := absent piece List.mem_cons_self
    cases pieces with
    | nil =>
      rw [List.intercalate_singleton, ← List.append_nil piece, splitAt_append head, splitAt,
        List.nil_append, List.append_nil]
    | cons next pieces =>
      rw [List.intercalate_cons_cons, List.append_assoc, splitAt_append head, splitAt_separator,
        List.nil_append, inductionHypothesis (List.cons_ne_nil next pieces) fun other member =>
          absent other (List.mem_cons_of_mem piece member)]

end Text
