/-
This file says which arguments the classification functions of the C library are called with.

`isspace` and `tolower` are defined for the values of an unsigned byte and for EOF. A byte of a
string is a signed character, and is passed on without a conversion, so that the bytes from 0x80 to
0xFE become negative numbers that are no EOF. The scans of `trim` stop at the first byte that is no
space, from either end: only the two bytes at the ends of the solid part of a text matter there, and
the lower-casing of a key looks at all its bytes.
-/

import ArangoCpp.HeaderLines
import ArangoCpp.Sanitization

namespace ArangoCpp

/-! ### The functions of the C library -/

/-- A character as the argument of a C function. Characters are signed. -/
def charToInt (char : UInt8) : Int := char.toInt8.toInt

def eof : Int := -1

/-- What the functions are defined for. -/
def InDomain (arg : Int) : Prop := 0 ≤ arg ∧ arg ≤ 255 ∨ arg = eof

instance (arg : Int) : Decidable (InDomain arg) := inferInstanceAs (Decidable (_ ∨ _))

/-- The classification functions in the classic locale. Outside of their domain they may do
anything. -/
structure CharacterFunctions where
  isspace : Int → Bool
  tolower : Int → Int
  isspace_byte : ∀ char : UInt8, isspace char.toNat = Detail.isSpace char
  isspace_eof : isspace eof = false
  tolower_byte : ∀ char : UInt8, tolower char.toNat = (Detail.toLower char).toNat
  tolower_eof : tolower eof = eof

/-- The bytes from 0x80 to 0xFE. -/
def Foreign (char : UInt8) : Prop := 0x80 ≤ char ∧ char < 0xFF

instance (char : UInt8) : Decidable (Foreign char) := inferInstanceAs (Decidable (_ ∧ _))

theorem inDomain_charToInt_iff (char : UInt8) : InDomain (charToInt char) ↔ ¬ Foreign char := by
  have each : ∀ number : Fin 256,
      InDomain (charToInt (UInt8.ofNat number)) ↔ ¬ Foreign (UInt8.ofNat number) := by
    decide +kernel
  exact @forall_byte (fun char => InDomain (charToInt char) ↔ ¬ Foreign char) each char

theorem charToInt_cases {char : UInt8} (plain : ¬ Foreign char) :
    charToInt char = char.toNat ∨ char = 0xFF := by
  have each : ∀ number : Fin 256, ¬ Foreign (UInt8.ofNat number) →
      charToInt (UInt8.ofNat number) = (UInt8.ofNat number).toNat ∨
        UInt8.ofNat number = 0xFF := by decide +kernel
  exact @forall_byte (fun char => ¬ Foreign char →
    charToInt char = char.toNat ∨ char = 0xFF) each char plain

theorem isSpace_of_foreign {char : UInt8} (foreign : Foreign char) :
    Detail.isSpace char = false := by
  have each : ∀ number : Fin 256, Foreign (UInt8.ofNat number) →
      Detail.isSpace (UInt8.ofNat number) = false := by decide +kernel
  exact @forall_byte (fun char => Foreign char → Detail.isSpace char = false) each char foreign

namespace CharacterFunctions

variable (functions : CharacterFunctions)

/-- In its domain `isspace` finds the spaces. -/
theorem isspace_charToInt {char : UInt8} (plain : ¬ Foreign char) :
    functions.isspace (charToInt char) = Detail.isSpace char := by
  rcases charToInt_cases plain with same | rfl
  · rw [same, functions.isspace_byte]
  · exact functions.isspace_eof

/-- A result of `tolower` as a character again. -/
def lowered (char : UInt8) : UInt8 := (functions.tolower (charToInt char)).toInt8.toUInt8

theorem lowered_eq {char : UInt8} (plain : ¬ Foreign char) :
    functions.lowered char = Detail.toLower char := by
  have back : ∀ number : Fin 256, (((UInt8.ofNat number).toNat : Int)).toInt8.toUInt8 =
      UInt8.ofNat number := by decide +kernel
  rcases charToInt_cases plain with same | rfl
  · rw [lowered, same, functions.tolower_byte]
    exact @forall_byte (fun char => ((char.toNat : Int)).toInt8.toUInt8 = char) back _
  · have value : charToInt 0xFF = eof := by decide
    rw [lowered, value, functions.tolower_eof]
    decide

/-! ### The calls of the scans -/

/-- The scan of `ltrim`: the arguments of its calls, and what begins with the first byte that is no
space. -/
def skipSpaces : Bytes → List Int × Bytes
  | [] => ([], [])
  | char :: rest =>
    if functions.isspace (charToInt char) then
      (charToInt char :: (skipSpaces rest).1, (skipSpaces rest).2)
    else ([charToInt char], char :: rest)

/-- `ltrim`. -/
def ltrimCalls (string : Bytes) : List Int × Bytes := functions.skipSpaces string

/-- `rtrim`, which scans from the end. -/
def rtrimCalls (string : Bytes) : List Int × Bytes :=
  ((functions.skipSpaces string.reverse).1, (functions.skipSpaces string.reverse).2.reverse)

/-- `trim`. -/
def trimCalls (string : Bytes) : List Int × Bytes :=
  let front := functions.ltrimCalls string
  let back := functions.rtrimCalls front.2
  (front.1 ++ back.1, back.2)

/-- The loop of `split`. -/
def splitFromCalls (delimiters : Bytes) : Bytes → Bytes → List Int × List Bytes
  | token, [] => ([], if token = [] then [] else [token])
  | token, char :: rest =>
    if char ∈ delimiters then
      let later := splitFromCalls delimiters [] rest
      if token = [] then later
      else
        let trimmed := functions.trimCalls token
        (trimmed.1 ++ later.1, trimmed.2 :: later.2)
    else splitFromCalls delimiters (token ++ [char]) rest

/-- The loop of `getResponse` over one token: a key is lower-cased before the length is looked at,
and a value is trimmed. -/
def addHeaderCalls (header : Bytes) : List Int × Option (Bytes × Bytes) :=
  match header.findIdx? (· = colon) with
  | none => ([], none)
  | some pit =>
    let key := header.take pit
    if pit + 2 ≥ header.length then (key.map charToInt, none)
    else
      let value := functions.trimCalls (header.drop (pit + 2))
      (key.map charToInt ++ value.1, some (key.map functions.lowered, value.2))

/-- `getResponse`, as far as the header text is concerned. -/
def getResponseCalls (responseHeaders : Bytes) : List Int × List (Option (Bytes × Bytes)) :=
  let headers := functions.splitFromCalls ";" [] responseHeaders
  (headers.1 ++ headers.2.flatMap fun header => (functions.addHeaderCalls header).1,
    headers.2.map fun header => (functions.addHeaderCalls header).2)

/-- `sanitization`, as far as it trims its text. -/
def sanitizationCalls (documentHandle : Bytes) : List Int × Bytes :=
  functions.trimCalls documentHandle

end CharacterFunctions

/-- All arguments are in the domain. -/
def Proper (args : List Int) : Prop := ∀ arg ∈ args, InDomain arg

theorem proper_append_iff {front back : List Int} :
    Proper (front ++ back) ↔ Proper front ∧ Proper back := List.forall_mem_append

theorem proper_map_charToInt_iff {string : Bytes} :
    Proper (string.map charToInt) ↔ ∀ char ∈ string, ¬ Foreign char := by
  rw [Proper, List.forall_mem_map]
  exact forall₂_congr fun char _ => inDomain_charToInt_iff char

/-! ### Texts whose ends are plain -/

/-- The first byte that is no space. -/
def firstSolid (string : Bytes) : Option UInt8 := string.find? fun char => !Detail.isSpace char

/-- The first and the last byte that are no spaces are not foreign. -/
def EdgesPlain (string : Bytes) : Prop :=
  (∀ char ∈ firstSolid string, ¬ Foreign char) ∧
    ∀ char ∈ firstSolid string.reverse, ¬ Foreign char

namespace CharacterFunctions

variable (functions : CharacterFunctions)

theorem proper_skipSpaces_iff (string : Bytes) :
    Proper (functions.skipSpaces string).1 ↔ ∀ char ∈ firstSolid string, ¬ Foreign char := by
  induction string with
  | nil => simp [skipSpaces, firstSolid, Proper]
  | cons char rest inductionHypothesis =>
    rw [skipSpaces, firstSolid, List.find?_cons]
    by_cases foreign : Foreign char
    · have outside : ¬ InDomain (charToInt char) :=
        fun inside => (inDomain_charToInt_iff char).mp inside foreign
      rw [isSpace_of_foreign foreign]
      refine iff_of_false (fun proper => outside ?_) fun plain => plain char rfl foreign
      split at proper
      · exact proper _ List.mem_cons_self
      · exact proper _ List.mem_cons_self
    · have inside := (inDomain_charToInt_iff char).mpr foreign
      rw [functions.isspace_charToInt foreign]
      cases Detail.isSpace char with
      | true =>
        rw [if_pos rfl, Proper, List.forall_mem_cons, and_iff_right inside]
        exact inductionHypothesis
      | false =>
        refine iff_of_true (fun arg member => ?_) fun found same => ?_
        · rw [List.mem_singleton.mp member]
          exact inside
        · cases same
          exact foreign

theorem skipSpaces_of_proper {string : Bytes} (proper : Proper (functions.skipSpaces string).1) :
    (functions.skipSpaces string).2 = string.dropWhile Detail.isSpace := by
  induction string with
  | nil => rfl
  | cons char rest inductionHypothesis =>
    have inside : InDomain (charToInt char) := by
      rw [skipSpaces] at proper
      split at proper
      · exact proper _ List.mem_cons_self
      · exact proper _ List.mem_cons_self
    have space := functions.isspace_charToInt ((inDomain_charToInt_iff char).mp inside)
    rw [skipSpaces, space] at proper ⊢
    cases isSpace : Detail.isSpace char with
    | true =>
      rw [isSpace, if_pos rfl, Proper, List.forall_mem_cons] at proper
      rw [if_pos rfl, inductionHypothesis proper.2, List.dropWhile_cons_of_pos isSpace]
    | false =>
      rw [if_neg Bool.false_ne_true,
        List.dropWhile_cons_of_neg (by rw [isSpace]; exact Bool.false_ne_true)]

end CharacterFunctions

/-- Spaces in front are not what the scan from the end stops at. -/
theorem firstSolid_reverse_ltrim (string : Bytes) :
    firstSolid (Detail.ltrim string).reverse = firstSolid string.reverse := by
  have spaces : (string.takeWhile Detail.isSpace).reverse.find?
      (fun char => !Detail.isSpace char) = none := by
    refine List.find?_eq_none.mpr fun char member => ?_
    rw [List.mem_takeWhile_imp (List.mem_reverse.mp member)]
    exact Bool.false_ne_true
  have whole : string.reverse = (Detail.ltrim string).reverse ++
      (string.takeWhile Detail.isSpace).reverse := by
    rw [← List.reverse_append, Detail.ltrim, List.takeWhile_append_dropWhile]
  rw [whole, firstSolid, firstSolid, List.find?_append, spaces, Option.or_none]

namespace CharacterFunctions

variable (functions : CharacterFunctions)

/-- The arguments of `trim` are in the domain exactly when the solid part of the text has plain
ends. -/
theorem proper_trimCalls_iff (string : Bytes) :
    Proper (functions.trimCalls string).1 ↔ EdgesPlain string := by
  rw [trimCalls, proper_append_iff, ltrimCalls, rtrimCalls, EdgesPlain,
    ← functions.proper_skipSpaces_iff]
  refine and_congr_right fun proper => ?_
  rw [functions.proper_skipSpaces_iff, functions.skipSpaces_of_proper proper]
  show (∀ char ∈ firstSolid (Detail.ltrim string).reverse, _) ↔ _
  rw [firstSolid_reverse_ltrim]

/-- With such arguments `trim` does what its translation does. -/
theorem trimCalls_of_proper {string : Bytes} (proper : Proper (functions.trimCalls string).1) :
    (functions.trimCalls string).2 = Detail.trim string := by
  rw [trimCalls, proper_append_iff] at proper
  have front : (functions.ltrimCalls string).2 = Detail.ltrim string :=
    functions.skipSpaces_of_proper proper.1
  rw [front] at proper
  show (functions.rtrimCalls (functions.ltrimCalls string).2).2 = _
  rw [front, rtrimCalls, functions.skipSpaces_of_proper proper.2]
  rfl

/-! ### The calls of `split` -/

/-- The texts that are trimmed are those in front of semicolons. -/
theorem proper_splitFromCalls_iff (token string : Bytes) :
    Proper (functions.splitFromCalls ";" token string).1 ↔
      ∀ piece ∈ ((pieces string).modifyHead (token ++ ·)).dropLast, EdgesPlain piece := by
  have last : semicolon ∈ text ";" := List.mem_singleton_self _
  induction string generalizing token with
  | nil =>
    rw [splitFromCalls, pieces_nil]
    exact iff_of_true (fun _ member => absurd member List.not_mem_nil)
      fun _ member => absurd member List.not_mem_nil
  | cons char rest inductionHypothesis =>
    obtain ⟨first, others, split⟩ := exists_pieces_eq rest
    rw [splitFromCalls]
    by_cases separates : char = semicolon
    · have unchanged : (pieces rest).modifyHead (([] : Bytes) ++ ·) = pieces rest := by
        rw [split]
        rfl
      have shape : ((pieces (char :: rest)).modifyHead (token ++ ·)).dropLast =
          token :: (pieces rest).dropLast := by
        rw [separates, pieces_semicolon, List.modifyHead_cons, List.append_nil, split,
          List.dropLast_cons_cons]
      rw [if_pos (separates ▸ last), shape, List.forall_mem_cons]
      have later := inductionHypothesis []
      rw [unchanged] at later
      by_cases empty : token = []
      · have plain : EdgesPlain token := by
          rw [empty]
          exact ⟨fun _ found => absurd found (Option.not_mem_none _),
            fun _ found => absurd found (Option.not_mem_none _)⟩
        rw [if_pos empty, and_iff_right plain]
        exact later
      · rw [if_neg empty, proper_append_iff, functions.proper_trimCalls_iff]
        exact and_congr_right fun _ => later
    · have other : char ∉ text ";" := fun member => separates (List.mem_singleton.mp member)
      have same : ((pieces rest).modifyHead (token ++ [char] ++ ·)) =
          (pieces (char :: rest)).modifyHead (token ++ ·) := by
        rw [pieces_cons separates, split]
        simp only [List.modifyHead_cons, List.append_assoc, List.singleton_append]
      rw [if_neg other, ← same]
      exact inductionHypothesis (token ++ [char])

theorem splitFromCalls_of_proper {token string : Bytes}
    (proper : Proper (functions.splitFromCalls ";" token string).1) :
    (functions.splitFromCalls ";" token string).2 = Detail.splitFrom ";" token string := by
  induction string generalizing token with
  | nil => rfl
  | cons char rest inductionHypothesis =>
    rw [splitFromCalls] at proper ⊢
    rw [Detail.splitFrom]
    by_cases separates : char ∈ text ";"
    · rw [if_pos separates] at proper ⊢
      rw [if_pos separates]
      by_cases empty : token = []
      · rw [if_pos empty] at proper ⊢
        rw [if_pos empty, inductionHypothesis proper]
      · rw [if_neg empty, proper_append_iff] at proper
        rw [if_neg empty, if_neg empty]
        exact congrArg₂ List.cons (functions.trimCalls_of_proper proper.1)
          (inductionHypothesis proper.2)
    · rw [if_neg separates] at proper ⊢
      rw [if_neg separates, inductionHypothesis proper]

end CharacterFunctions

/-! ### The calls for a token -/

/-- The key of a token holds no foreign byte, and its value, from the second byte behind the colon
on, has plain ends. -/
def TokenPlain (header : Bytes) : Prop :=
  ∀ pit, header.findIdx? (· = colon) = some pit →
    (∀ char ∈ header.take pit, ¬ Foreign char) ∧
      (pit + 2 < header.length → EdgesPlain (header.drop (pit + 2)))

/-- The texts in front of semicolons have plain ends, and the tokens are plain. -/
structure HeadersPlain (responseHeaders : Bytes) : Prop where
  delimited : ∀ piece ∈ (pieces responseHeaders).dropLast, EdgesPlain piece
  tokens : ∀ header ∈ Detail.split responseHeaders ";", TokenPlain header

namespace CharacterFunctions

variable (functions : CharacterFunctions)

theorem proper_addHeaderCalls_iff (header : Bytes) :
    Proper (functions.addHeaderCalls header).1 ↔ TokenPlain header := by
  unfold addHeaderCalls TokenPlain
  cases header.findIdx? (· = colon) with
  | none =>
    exact iff_of_true (fun _ member => absurd member List.not_mem_nil) fun _ same => by cases same
  | some pit =>
    dsimp only
    have only : (∀ other, some pit = some other →
        (∀ char ∈ header.take other, ¬ Foreign char) ∧
          (other + 2 < header.length → EdgesPlain (header.drop (other + 2)))) ↔
        (∀ char ∈ header.take pit, ¬ Foreign char) ∧
          (pit + 2 < header.length → EdgesPlain (header.drop (pit + 2))) :=
      ⟨fun each => each pit rfl, fun plain other same => Option.some.inj same ▸ plain⟩
    rw [only]
    by_cases short : pit + 2 ≥ header.length
    · rw [if_pos short, proper_map_charToInt_iff]
      exact (and_iff_left fun longer => absurd longer (Nat.not_lt.mpr short)).symm
    · rw [if_neg short, proper_append_iff, proper_map_charToInt_iff,
        functions.proper_trimCalls_iff]
      exact and_congr_right fun _ =>
        ⟨fun plain _ => plain, fun plain => plain (Nat.not_le.mp short)⟩

/-- With such arguments a token makes the entry that it makes in the translation. -/
theorem addHeaderCalls_of_proper {header : Bytes}
    (proper : Proper (functions.addHeaderCalls header).1) :
    (functions.addHeaderCalls header).2 = headerEntry header := by
  have plain := (functions.proper_addHeaderCalls_iff header).mp proper
  rw [addHeaderCalls, headerEntry]
  cases found : header.findIdx? (· = colon) with
  | none => rfl
  | some pit =>
    obtain ⟨key, value⟩ := plain pit found
    dsimp only
    by_cases short : pit + 2 ≥ header.length
    · rw [if_pos short, if_pos short]
    · have trimmed := functions.trimCalls_of_proper
        ((functions.proper_trimCalls_iff _).mpr (value (Nat.not_le.mp short)))
      have lowered : (header.take pit).map functions.lowered =
          (header.take pit).map Detail.toLower :=
        List.map_congr_left fun char member => functions.lowered_eq (key char member)
      rw [if_neg short, if_neg short]
      dsimp only
      rw [trimmed, lowered]

theorem proper_getResponseCalls_iff (responseHeaders : Bytes) :
    Proper (functions.getResponseCalls responseHeaders).1 ↔ HeadersPlain responseHeaders := by
  have unchanged : (pieces responseHeaders).modifyHead (([] : Bytes) ++ ·) =
      pieces responseHeaders := by
    obtain ⟨first, others, split⟩ := exists_pieces_eq responseHeaders
    rw [split]
    rfl
  have pushed := functions.proper_splitFromCalls_iff [] responseHeaders
  rw [unchanged] at pushed
  have each : ∀ headers : List Bytes,
      Proper (headers.flatMap fun header => (functions.addHeaderCalls header).1) ↔
        ∀ header ∈ headers, TokenPlain header := by
    intro headers
    rw [Proper, List.forall_mem_flatMap]
    exact forall₂_congr fun header _ => functions.proper_addHeaderCalls_iff header
  rw [getResponseCalls, proper_append_iff, each]
  constructor
  · rintro ⟨proper, plain⟩
    rw [functions.splitFromCalls_of_proper proper] at plain
    exact ⟨pushed.mp proper, plain⟩
  · rintro ⟨delimited, tokens⟩
    have proper := pushed.mpr delimited
    refine ⟨proper, ?_⟩
    rw [functions.splitFromCalls_of_proper proper]
    exact tokens

/-- With such arguments the header text makes the entries that it makes in the translation. -/
theorem getResponseCalls_of_proper {responseHeaders : Bytes}
    (proper : Proper (functions.getResponseCalls responseHeaders).1) :
    (functions.getResponseCalls responseHeaders).2 =
      (Detail.split responseHeaders ";").map headerEntry := by
  rw [getResponseCalls, proper_append_iff] at proper
  have tokens := functions.splitFromCalls_of_proper proper.1
  have each := proper.2
  rw [tokens, Proper, List.forall_mem_flatMap] at each
  show (functions.splitFromCalls ";" [] responseHeaders).2.map _ = _
  rw [tokens]
  exact List.map_congr_left fun header member =>
    functions.addHeaderCalls_of_proper (each header member)

/-- The functions in the classic locale, outside of whose domain nothing is a space. -/
def classic : CharacterFunctions where
  isspace arg := 0 ≤ arg && Detail.isSpace (UInt8.ofNat arg.toNat)
  tolower arg := if 0 ≤ arg then (Detail.toLower (UInt8.ofNat arg.toNat)).toNat else arg
  isspace_byte char := by simp
  isspace_eof := rfl
  tolower_byte char := by simp
  tolower_eof := rfl

end CharacterFunctions

/-- All arguments that `sanitization` and `getResponse` pass on are in the domain of the functions
that they are passed to. -/
structure ArgumentsProper (functions : CharacterFunctions)
    (documentHandle responseHeaders : Bytes) : Prop where
  sanitization : Proper (functions.sanitizationCalls documentHandle).1
  getResponse : Proper (functions.getResponseCalls responseHeaders).1

/-- The arguments are in the domain exactly when no foreign byte stands at an end of the solid part
of a text that is trimmed, or in a key. -/
theorem argumentsProper_iff (functions : CharacterFunctions)
    (documentHandle responseHeaders : Bytes) :
    ArgumentsProper functions documentHandle responseHeaders ↔
      EdgesPlain documentHandle ∧ HeadersPlain responseHeaders := by
  rw [← functions.proper_trimCalls_iff, ← functions.proper_getResponseCalls_iff]
  exact ⟨fun proper => ⟨proper.1, proper.2⟩, fun proper => ⟨proper.1, proper.2⟩⟩

/-- A key that begins with a letter of two bytes. -/
theorem not_argumentsProper_umlaut :
    ¬ ∀ documentHandle responseHeaders,
      ArgumentsProper .classic documentHandle responseHeaders := by
  intro proper
  have passed := (proper [0xC3, 0xBC] []).sanitization (charToInt 0xC3) (by decide)
  exact absurd passed (by decide)

end ArangoCpp
