/-
This file says what `split` makes of the lines that `headerCallback` has glued together.

The loop of `split` keeps two positions, where its token starts and where the next delimiter is;
its translation in `Detail` reads byte by byte, and both find the same tokens. Every line is
followed by a delimiter, so that the loop comes to the end of the text with nothing left, and the
branch for a token behind the last delimiter, which would not be trimmed, is not taken.
-/

import ArangoCpp.HeaderLines

namespace ArangoCpp

namespace Detail

variable {string delimiters : Bytes} {start pos : Nat}

/-! ### The positions of the loop -/

/-- `find_first_of`. -/
def findFirstOf (string delimiters : Bytes) (start : Nat) : Option Nat :=
  ((string.drop start).findIdx? fun char => decide (char ∈ delimiters)).map (start + ·)

theorem bounds_of_findFirstOf (found : findFirstOf string delimiters start = some pos) :
    start ≤ pos ∧ pos < string.length := by
  obtain ⟨index, within, rfl⟩ := Option.map_eq_some_iff.mp found
  have inside := (List.findIdx?_eq_some_iff_findIdx_eq.mp within).1
  rw [List.length_drop] at inside
  omega

/-- The queue behind a turn of the loop. An empty token is ignored before anything is trimmed. -/
def pushToken (string : Bytes) (start pos : Nat) (queue : List Bytes) : List Bytes :=
  if pos ≠ start then queue ++ [trim ((string.drop start).take (pos - start))] else queue

/-- The loop of `split`: the queue that it leaves, and where the token behind it starts. -/
def splitLoop (string delimiters : Bytes) (start : Nat) (queue : List Bytes) : List Bytes × Nat :=
  match found : findFirstOf string delimiters start with
  | none => (queue, start)
  | some pos => splitLoop string delimiters (pos + 1) (pushToken string start pos queue)
termination_by string.length - start
decreasing_by
  have bounds := bounds_of_findFirstOf found
  omega

/-- `split`, with the positions of its loop. -/
def splitByPositions (string delimiters : Bytes) : List Bytes :=
  if string = [] then []
  else
    let ended := splitLoop string delimiters 0 []
    if ended.2 < string.length then ended.1 ++ [string.drop ended.2] else ended.1

theorem splitLoop_of_none (absent : findFirstOf string delimiters start = none)
    (queue : List Bytes) : splitLoop string delimiters start queue = (queue, start) := by
  rw [splitLoop]
  split
  · rfl
  · rename_i found
    cases absent.symm.trans found

theorem splitLoop_of_some (found : findFirstOf string delimiters start = some pos)
    (queue : List Bytes) :
    splitLoop string delimiters start queue =
      splitLoop string delimiters (pos + 1) (pushToken string start pos queue) := by
  rw [splitLoop]
  split
  · rename_i absent
    cases absent.symm.trans found
  · rename_i other same
    cases found.symm.trans same
    rfl

/-! ### Both forms find the same tokens -/

/-- Bytes that delimit nothing are read into the token. -/
theorem splitFrom_append {plain : Bytes} (free : ∀ char ∈ plain, char ∉ delimiters)
    (token rest : Bytes) :
    splitFrom delimiters token (plain ++ rest) = splitFrom delimiters (token ++ plain) rest := by
  induction plain generalizing token with
  | nil => rw [List.nil_append, List.append_nil]
  | cons char plain inductionHypothesis =>
    rw [List.cons_append, splitFrom, if_neg (free char List.mem_cons_self),
      inductionHypothesis fun other member => free other (List.mem_cons_of_mem _ member),
      List.append_assoc, List.singleton_append]

/-- The delimiter that is found stands behind bytes that delimit nothing. -/
theorem drop_of_findFirstOf (found : findFirstOf string delimiters start = some pos) :
    ∃ delimiter ∈ delimiters, (∀ char ∈ (string.drop start).take (pos - start),
      char ∉ delimiters) ∧ string.drop start =
        (string.drop start).take (pos - start) ++ delimiter :: string.drop (pos + 1) := by
  obtain ⟨index, within, rfl⟩ := Option.map_eq_some_iff.mp found
  obtain ⟨inside, delimits, before⟩ := List.findIdx?_eq_some_iff_getElem.mp within
  refine ⟨(string.drop start)[index], of_decide_eq_true delimits, ?_, ?_⟩
  · intro char member
    rw [Nat.add_sub_cancel_left] at member
    obtain ⟨place, short, rfl⟩ := List.mem_take_iff_getElem.mp member
    exact of_decide_eq_false (Bool.eq_false_iff.mpr (before place (by omega)))
  · have behind : string.drop (start + index + 1) = (string.drop start).drop (index + 1) := by
      rw [List.drop_drop, Nat.add_assoc]
    rw [Nat.add_sub_cancel_left, behind, ← List.drop_eq_getElem_cons inside,
      List.take_append_drop]

/-- A last token that is not empty is kept as it is. -/
def trailing (token : Bytes) : List Bytes := if token = [] then [] else [token]

/-- The loop finds the tokens in front of its last position. -/
theorem splitLoop_eq (start : Nat) (queue : List Bytes) :
    (splitLoop string delimiters start queue).1 ++
        trailing (string.drop (splitLoop string delimiters start queue).2) =
      queue ++ splitFrom delimiters [] (string.drop start) := by
  induction start, queue using splitLoop.induct string delimiters with
  | case1 start queue absent =>
    have free : ∀ char ∈ string.drop start, char ∉ delimiters := by
      have none := List.findIdx?_eq_none_iff.mp (Option.map_eq_none_iff.mp absent)
      exact fun char member => of_decide_eq_false (none char member)
    have ended := splitFrom_append free [] []
    rw [List.append_nil, List.nil_append] at ended
    rw [splitLoop_of_none absent, ended]
    rfl
  | case2 start queue pos found inductionHypothesis =>
    obtain ⟨delimiter, delimits, free, split⟩ := drop_of_findFirstOf found
    obtain ⟨reached, inside⟩ := bounds_of_findFirstOf found
    rw [splitLoop_of_some found, inductionHypothesis, split, splitFrom_append free,
      List.nil_append, splitFrom, if_pos delimits, pushToken]
    by_cases empty : pos = start
    · have nothing : (string.drop start).take (pos - start) = [] := by
        rw [empty, Nat.sub_self, List.take_zero]
      rw [if_neg (not_not.mpr empty), if_pos nothing]
    · have something : (string.drop start).take (pos - start) ≠ [] := by
        refine List.ne_nil_of_length_pos ?_
        rw [List.length_take, List.length_drop]
        omega
      rw [if_pos empty, if_neg something, List.append_assoc, List.singleton_append]

/-- Both forms of `split` find the same tokens. -/
theorem splitByPositions_eq (string delimiters : Bytes) :
    splitByPositions string delimiters = Detail.split string delimiters := by
  rw [splitByPositions, Detail.split]
  by_cases empty : string = []
  · rw [if_pos empty, empty]
    rfl
  · have found := @splitLoop_eq string delimiters 0 []
    rw [List.nil_append, List.drop_zero] at found
    rw [if_neg empty, ← found]
    dsimp only
    by_cases more : (splitLoop string delimiters 0 []).2 < string.length
    · have something : string.drop (splitLoop string delimiters 0 []).2 ≠ [] := by
        refine List.ne_nil_of_length_pos ?_
        rw [List.length_drop]
        omega
      rw [if_pos more, trailing, if_neg something]
    · have nothing : string.drop (splitLoop string delimiters 0 []).2 = [] :=
        List.drop_of_length_le (Nat.not_lt.mp more)
      rw [if_neg more, trailing, if_pos nothing, List.append_nil]

end Detail

/-! ### Lines that are glued together -/

/-- Lines with a semicolon behind each. -/
def glued (lines : List Bytes) : Bytes := lines.flatMap (· ++ text ";")

/-- The tokens that are found of lines. -/
def lineTokens (lines : List Bytes) : List Bytes := (lines.filter (· ≠ [])).map Detail.trim

/-- The loop goes over the lines one by one and comes to the end of the text. -/
theorem splitLoop_glued {lines : List Bytes} (plain : ∀ line ∈ lines, semicolon ∉ line)
    (front : Bytes) (queue : List Bytes) :
    Detail.splitLoop (front ++ glued lines) ";" front.length queue =
      (queue ++ lineTokens lines, (front ++ glued lines).length) := by
  have separates : text ";" = [semicolon] := rfl
  induction lines generalizing front queue with
  | nil =>
    have absent : Detail.findFirstOf (front ++ glued []) ";" front.length = none := by
      rw [Detail.findFirstOf, List.drop_left]
      rfl
    rw [Detail.splitLoop_of_none absent, glued, List.flatMap_nil, lineTokens, List.append_nil]
    simp
  | cons line lines inductionHypothesis =>
    have cons : glued (line :: lines) = line ++ semicolon :: glued lines := by
      rw [glued, List.flatMap_cons, List.append_assoc]
      rfl
    have found : Detail.findFirstOf (front ++ glued (line :: lines)) ";" front.length =
        some (front.length + line.length) := by
      have free : line.findIdx? (fun char => decide (char ∈ text ";")) = none := by
        refine List.findIdx?_eq_none_iff.mpr fun char member => decide_eq_false fun delimits => ?_
        rw [separates, List.mem_singleton] at delimits
        exact plain line List.mem_cons_self (delimits ▸ member)
      rw [Detail.findFirstOf, List.drop_left, cons, List.findIdx?_append, free, Option.none_or,
        List.findIdx?_cons, if_pos (by decide), Option.map_some, Option.map_some, Nat.zero_add]
    have pushed : Detail.pushToken (front ++ glued (line :: lines)) front.length
        (front.length + line.length) queue = queue ++ lineTokens [line] := by
      rw [Detail.pushToken, List.drop_left, cons, Nat.add_sub_cancel_left, List.take_left]
      by_cases empty : line = []
      · simp [empty, lineTokens]
      · simp [empty, lineTokens]
    have behind : front.length + line.length + 1 = (front ++ line ++ [semicolon]).length := by
      simp only [List.length_append, List.length_singleton]
    have shape : front ++ glued (line :: lines) =
        (front ++ line ++ [semicolon]) ++ glued lines := by
      simp only [cons, List.append_assoc, List.singleton_append]
    have tokens : lineTokens (line :: lines) = lineTokens [line] ++ lineTokens lines := by
      rw [lineTokens, ← List.singleton_append, List.filter_append, List.map_append]
      rfl
    rw [Detail.splitLoop_of_some found, pushed, behind, shape,
      inductionHypothesis fun other member => plain other (List.mem_cons_of_mem _ member), tokens,
      List.append_assoc]

/-- The text that the callback has put together. -/
def accumulated (object : RequestCurlObject) (lines : List Bytes) : Bytes :=
  (lines.foldl (fun (object : RequestCurlObject) data => object.headerCallback data)
    { object with responseHeaders := [] }).responseHeaders

/-- Lines without semicolons are the tokens of what the callback makes of them, except that empty
lines are left out. The loop finds them all and stops at the end of the text. -/
theorem split_accumulated (object : RequestCurlObject) {lines : List Bytes}
    (plain : ∀ line ∈ lines, semicolon ∉ line) :
    Detail.split (accumulated object lines) ";" = lineTokens lines ∧
      Detail.splitByPositions (accumulated object lines) ";" = lineTokens lines ∧
      Detail.splitLoop (accumulated object lines) ";" 0 [] =
        (lineTokens lines, (accumulated object lines).length) := by
  have text : accumulated object lines = glued lines := by
    rw [accumulated, RequestCurlObject.foldl_headerCallback]
    exact List.nil_append _
  have loop : Detail.splitLoop (glued lines) ";" 0 [] = (lineTokens lines, (glued lines).length) :=
    splitLoop_glued plain [] []
  have found : Detail.splitByPositions (glued lines) ";" = lineTokens lines := by
    rw [Detail.splitByPositions, loop]
    by_cases empty : glued lines = []
    · have stays : Detail.splitLoop [] ";" 0 [] = ([], 0) := Detail.splitLoop_of_none rfl []
      rw [empty, stays] at loop
      rw [if_pos empty]
      exact (Prod.mk.inj loop).1
    · rw [if_neg empty]
      exact if_neg (Nat.lt_irrefl _)
  rw [text, ← Detail.splitByPositions_eq]
  exact ⟨found, found, loop⟩

/-- An empty line is left out, a blank one is not. -/
theorem split_accumulated_blank :
    Detail.split (accumulated .new [" a", "", "\t ", "b: c\x0d\n"]) ";" = ["a", "", "b: c"] :=
  (@split_accumulated .new [" a", "", "\t ", "b: c\x0d\n"] (by decide)).1.trans (by decide)

end ArangoCpp
