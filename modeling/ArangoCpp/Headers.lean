/-
This file says which entries the header lines of a response make.

The lines are glued together with semicolons and split at semicolons again, so that a line that
holds a semicolon itself falls into pieces, and each piece is read as a header of its own. The
piece in front of the first semicolon has the name of its line. So the entries are those that
the lines name exactly when the pieces further behind are named like lines too, and each entry is
that of the lines of its own name exactly when no piece of another line has the last word.
-/

import ArangoCpp.Transmit

namespace ArangoCpp

variable {env : Env}

def semicolon : UInt8 := UInt8.ofNat ';'.toNat

def colon : UInt8 := UInt8.ofNat ':'.toNat

/-! ### The entry of a piece -/

/-- The entry that the loop of `getResponse` makes of a token, if it makes one. -/
def headerEntry (header : Bytes) : Option (Bytes × Bytes) :=
  match header.findIdx? (· = colon) with
  | none => none
  | some pit =>
    if pit + 2 ≥ header.length then none
    else some ((header.take pit).map Detail.toLower, Detail.trim (header.drop (pit + 2)))

/-- The entry of a piece of a line, which is trimmed first. -/
def pieceEntry (piece : Bytes) : Option (Bytes × Bytes) := headerEntry (Detail.trim piece)

/-- The pieces of a line: what stands between its semicolons. -/
def pieces (line : Bytes) : List Bytes := line.splitOn semicolon

/-- The entries that the pieces of the lines make. -/
def entries (lines : List Bytes) : List (Bytes × Bytes) :=
  lines.flatMap fun line => (pieces line).filterMap pieceEntry

theorem addHeader_eq_addMeta (header : Bytes) (response : HttpMessage) :
    RequestCurlObject.addHeader header response =
      match headerEntry header with
      | none => response
      | some entry =>
        { response with header := response.header.addMeta entry.1 entry.2 } := by
  unfold RequestCurlObject.addHeader headerEntry
  show (match header.findIdx? (· = colon) with
    | none => response
    | some pit => _) = _
  cases header.findIdx? (· = colon) with
  | none => rfl
  | some pit =>
    dsimp only
    by_cases short : pit + 2 ≥ header.length
    · rw [if_pos short, if_pos short]
    · rw [if_neg short, if_neg short]

/-! ### Glued lines are split again -/

theorem pieces_nil : pieces [] = [[]] := rfl

theorem pieces_semicolon (line : Bytes) : pieces (semicolon :: line) = [] :: pieces line := by
  rw [pieces, List.splitOn, List.splitOnP_cons_eq_if_modifyHead, if_pos BEq.rfl]
  rfl

theorem pieces_cons {char : UInt8} (plain : char ≠ semicolon) (line : Bytes) :
    pieces (char :: line) = (pieces line).modifyHead (char :: ·) := by
  rw [pieces, List.splitOn, List.splitOnP_cons_eq_if_modifyHead, if_neg (by simpa using plain)]
  rfl

theorem exists_pieces_eq (line : Bytes) : ∃ first rest, pieces line = first :: rest :=
  List.exists_cons_of_ne_nil (List.splitOnP_ne_nil _ line)

/-- A piece is complete at its semicolon. An empty one is left out. -/
theorem splitFrom_line (token line rest : Bytes) :
    Detail.splitFrom [semicolon] token (line ++ semicolon :: rest) =
      (((pieces line).modifyHead (token ++ ·)).filter (· ≠ [])).map Detail.trim ++
        Detail.splitFrom [semicolon] [] rest := by
  have last : semicolon ∈ [semicolon] := List.mem_singleton_self _
  induction line generalizing token with
  | nil =>
    rw [List.nil_append, Detail.splitFrom, if_pos last, pieces_nil]
    by_cases empty : token = []
    · simp [empty]
    · simp [empty]
  | cons char line inductionHypothesis =>
    obtain ⟨first, others, split⟩ := exists_pieces_eq line
    rw [List.cons_append, Detail.splitFrom]
    by_cases separates : char = semicolon
    · subst separates
      rw [if_pos last, inductionHypothesis, pieces_semicolon, split]
      by_cases empty : token = []
      · simp [empty]
      · simp [empty]
    · rw [if_neg (by simpa using separates), inductionHypothesis, pieces_cons separates, split]
      simp

/-- The tokens of glued lines are the pieces of the lines. -/
theorem split_flatMap (lines : List Bytes) :
    Detail.split (lines.flatMap (· ++ text ";")) ";" =
      lines.flatMap fun line => ((pieces line).filter (· ≠ [])).map Detail.trim := by
  have glue : text ";" = [semicolon] := rfl
  unfold Detail.split
  induction lines with
  | nil => simp [Detail.splitFrom]
  | cons line lines inductionHypothesis =>
    obtain ⟨first, others, split⟩ := exists_pieces_eq line
    rw [glue] at inductionHypothesis ⊢
    rw [List.flatMap_cons, List.flatMap_cons, List.append_assoc, List.singleton_append,
      splitFrom_line, inductionHypothesis, split]
    rfl

theorem pieceEntry_nil : pieceEntry [] = none := rfl

/-- The entries of the tokens are the entries of the pieces. -/
theorem filterMap_split_flatMap (lines : List Bytes) :
    (Detail.split (lines.flatMap (· ++ text ";")) ";").filterMap headerEntry = entries lines := by
  rw [split_flatMap, entries, List.filterMap_flatMap]
  congr 1
  funext line
  rw [List.filterMap_map]
  induction pieces line with
  | nil => rfl
  | cons piece rest inductionHypothesis =>
    by_cases empty : piece = []
    · rw [List.filter_cons_of_neg (by simpa using empty), inductionHypothesis, empty,
        List.filterMap_cons_none pieceEntry_nil]
    · rw [List.filter_cons_of_pos (by simpa using empty), List.filterMap_cons,
        List.filterMap_cons, inductionHypothesis]
      rfl

/-! ### The loop over the headers -/

/-- The value of the last entry with the key. -/
def lastValue (key : Bytes) : List (Bytes × Bytes) → Option Bytes
  | [] => none
  | entry :: rest => (lastValue key rest).or (if entry.1 = key then some entry.2 else none)

/-- The loop of `getResponse` over the header lines that the callback has glued together. -/
def headerLoop (lines : List Bytes) (response : HttpMessage) : HttpMessage :=
  (Detail.split (lines.flatMap (· ++ text ";")) ";").foldl
    (fun response header => RequestCurlObject.addHeader header response) response

theorem lastValue_eq_none_iff {key : Bytes} {made : List (Bytes × Bytes)} :
    lastValue key made = none ↔ ∀ entry ∈ made, entry.1 ≠ key := by
  induction made with
  | nil => simp [lastValue]
  | cons entry rest inductionHypothesis =>
    rw [lastValue, Option.or_eq_none_iff, inductionHypothesis, List.forall_mem_cons]
    by_cases same : entry.1 = key
    · simp [same]
    · simp [same]

theorem lastValue_append (key : Bytes) (front back : List (Bytes × Bytes)) :
    lastValue key (front ++ back) = (lastValue key back).or (lastValue key front) := by
  induction front with
  | nil => rw [List.nil_append, lastValue, Option.or_none]
  | cons entry front inductionHypothesis =>
    rw [List.cons_append, lastValue, inductionHypothesis, lastValue, Option.or_assoc]

/-- What the loop leaves is the last value made for the key, or what was there. -/
theorem headerLoop_meta (lines : List Bytes) (response : HttpMessage) (key : Bytes) :
    (headerLoop lines response).header.meta[key]? =
      (lastValue key (entries lines)).or response.header.meta[key]? := by
  rw [← filterMap_split_flatMap, headerLoop]
  generalize Detail.split (lines.flatMap (· ++ text ";")) ";" = tokens
  induction tokens generalizing response with
  | nil => rfl
  | cons token tokens inductionHypothesis =>
    rw [List.foldl_cons, inductionHypothesis, addHeader_eq_addMeta]
    cases made : headerEntry token with
    | none => rw [List.filterMap_cons_none made]
    | some entry =>
      rw [List.filterMap_cons_some made, lastValue, Option.or_assoc]
      congr 1
      rw [MessageHeader.meta_addMeta]
      by_cases same : entry.1 = key
      · rw [if_pos same, if_pos same, Option.some_or]
      · rw [if_neg same, if_neg same, Option.none_or]

/-! ### The names of the lines -/

/-- The lower-cased name of a header line: the text in front of the first colon. -/
def headerName (line : Bytes) : Option Bytes :=
  if colon ∈ line then
    some (((Detail.ltrim line).takeWhile (· ≠ colon)).map Detail.toLower)
  else none

/-- The line is a header of this name. -/
def isLineOf (key line : Bytes) : Bool := headerName line = some key

/-- Up to the first colon a text is that of any beginning with a colon in it. -/
theorem takeWhile_of_prefix {front whole : Bytes} (begins : front <+: whole)
    (member : colon ∈ front) :
    whole.takeWhile (· ≠ colon) = front.takeWhile (· ≠ colon) := by
  obtain ⟨back, rfl⟩ := begins
  rw [List.takeWhile_append, if_neg]
  intro length
  have all := List.takeWhile_eq_self_iff.mp
    ((List.takeWhile_prefix fun byte => decide (byte ≠ colon)).eq_of_length length)
  have apart := all colon member
  simp at apart

/-- An entry has the text in front of the colon as its key. -/
theorem headerEntry_key {header key value : Bytes}
    (made : headerEntry header = some (key, value)) :
    colon ∈ header ∧ key = (header.takeWhile (· ≠ colon)).map Detail.toLower := by
  unfold headerEntry at made
  cases found : header.findIdx? (· = colon) with
  | none =>
    rw [found] at made
    cases made
  | some pit =>
    rw [found] at made
    dsimp only at made
    obtain ⟨inside, first⟩ := List.findIdx?_eq_some_iff_findIdx_eq.mp found
    have front : header.take pit = header.takeWhile (· ≠ colon) := by
      rw [List.takeWhile_eq_take_findIdx_not, ← first]
      congr 2
      funext byte
      simp
    split at made
    · cases made
    · injection made with same
      injection same with same
      refine ⟨?_, by rw [← same, front]⟩
      obtain ⟨byte, member, isColon⟩ := List.findIdx_lt_length.mp (first ▸ inside)
      rwa [decide_eq_true_iff.mp isColon] at member

/-- A line begins with its first piece. -/
theorem exists_first_piece (line : Bytes) :
    ∃ first others, pieces line = first :: others ∧ first <+: line := by
  induction line with
  | nil => exact ⟨[], [], rfl, List.prefix_rfl⟩
  | cons char line inductionHypothesis =>
    obtain ⟨first, others, split, begins⟩ := inductionHypothesis
    by_cases separates : char = semicolon
    · subst separates
      exact ⟨[], pieces line, pieces_semicolon line, List.nil_prefix⟩
    · refine ⟨char :: first, others, ?_, List.cons_prefix_cons.mpr ⟨rfl, begins⟩⟩
      rw [pieces_cons separates, split]
      rfl

/-- The entry of the first piece has the name of the line. -/
theorem headerName_of_first {line first : Bytes} (begins : first <+: line) {key value : Bytes}
    (made : pieceEntry first = some (key, value)) : headerName line = some key := by
  obtain ⟨member, same⟩ := headerEntry_key made
  have inner : Detail.trim first <+: Detail.ltrim first := List.rdropWhile_prefix _ _
  have outer : Detail.ltrim first <+: Detail.ltrim line := by
    obtain ⟨back, rfl⟩ := begins
    have nonempty : (Detail.ltrim first).isEmpty = false := by
      have solid := List.ne_nil_of_mem (inner.subset member)
      simpa using solid
    simp only [Detail.ltrim] at nonempty ⊢
    rw [List.dropWhile_append, nonempty]
    exact List.prefix_append _ _
  have colonMember : colon ∈ line :=
    (List.dropWhile_sublist _).subset ((inner.trans outer).subset member)
  rw [headerName, if_pos colonMember, takeWhile_of_prefix (inner.trans outer) member, same]

/-! ### The entries of a response -/

/-- The loop over these lines adds or overwrites an entry: there is a message in which it changes
it. -/
def Writes (lines : List Bytes) (key : Bytes) : Prop :=
  ∃ response : HttpMessage,
    (headerLoop lines response).header.meta[key]? ≠ response.header.meta[key]?

theorem writes_iff {lines : List Bytes} {key : Bytes} :
    Writes lines key ↔ ∃ value, (key, value) ∈ entries lines := by
  constructor
  · rintro ⟨response, differs⟩
    by_contra absent
    have none : lastValue key (entries lines) = none := by
      refine lastValue_eq_none_iff.mpr fun entry member same => absent ⟨entry.2, ?_⟩
      rw [← same]
      exact member
    rw [headerLoop_meta, none, Option.none_or] at differs
    exact differs rfl
  · rintro ⟨value, member⟩
    refine ⟨⟨.empty, ⟨[], []⟩, 0, []⟩, ?_⟩
    have absent : (∅ : StringMap)[key]? = none := Std.TreeMap.getElem?_emptyc
    rw [headerLoop_meta]
    show (lastValue key (entries lines)).or (∅ : StringMap)[key]? ≠ (∅ : StringMap)[key]?
    rw [absent, Option.or_none]
    exact fun none => lastValue_eq_none_iff.mp none _ member rfl

/-- The value that the lines make for a name: that of the last piece with this name. -/
def valueOf (key : Bytes) (lines : List Bytes) : Option Bytes := lastValue key (entries lines)

/-- The entry that a response has once the lines are read. -/
def entryOf (env : Env) (key : Bytes) (lines : List Bytes) : Option Bytes :=
  (valueOf key lines).or (HttpMessage.createResponse env).header.meta[key]?

/-- The content type that the lines make, or the one that every message starts with. -/
def contentTypeOf (lines : List Bytes) : Bytes :=
  (valueOf fuContentTypeKey lines).getD fuContentTypeVpack

/-- The value that the last piece of a line with this name states. -/
def statedFor (key line : Bytes) : Option Bytes :=
  lastValue key ((pieces line).filterMap pieceEntry)

theorem valueOf_cons (key line : Bytes) (lines : List Bytes) :
    valueOf key (line :: lines) = (valueOf key lines).or (statedFor key line) := by
  rw [valueOf, entries, List.flatMap_cons, lastValue_append]
  rfl

theorem valueOf_append (key : Bytes) (front back : List Bytes) :
    valueOf key (front ++ back) = (valueOf key back).or (valueOf key front) := by
  rw [valueOf, entries, List.flatMap_append, lastValue_append]
  rfl

/-- The lines state no value for the name. -/
def Silent (key : Bytes) (lines : List Bytes) : Prop := ∀ line ∈ lines, statedFor key line = none

theorem Silent.filter {key : Bytes} {lines : List Bytes} (silent : Silent key lines)
    (chosen : Bytes → Bool) : Silent key (lines.filter chosen) :=
  fun line member => silent line (List.mem_of_mem_filter member)

theorem Silent.valueOf {key : Bytes} {lines : List Bytes} (silent : Silent key lines) :
    valueOf key lines = none := by
  induction lines with
  | nil => rfl
  | cons line lines inductionHypothesis =>
    rw [valueOf_cons, silent line List.mem_cons_self, Option.or_none]
    exact inductionHypothesis fun later member => silent later (List.mem_cons_of_mem _ member)

theorem entryOf_append {key : Bytes} {back : List Bytes} (silent : Silent key back)
    (front : List Bytes) : entryOf env key (front ++ back) = entryOf env key front := by
  rw [entryOf, valueOf_append, silent.valueOf, Option.none_or, entryOf]

/-- The last line that states a value for the name settles its entry. -/
theorem entryOf_of_last {key line value : Bytes} (stated : statedFor key line = some value)
    {back : List Bytes} (silent : Silent key back) (front : List Bytes) :
    entryOf env key (front ++ line :: back) = some value := by
  rw [entryOf, valueOf_append, valueOf_cons, silent.valueOf, stated]
  rfl

/-- Lines that state a value for a name have a last one. -/
theorem exists_last_stated (key : Bytes) (lines : List Bytes) :
    Silent key lines ∨ ∃ front line back value, lines = front ++ line :: back ∧
      statedFor key line = some value ∧ Silent key back := by
  rcases exists_last (fun line => statedFor key line ≠ none) lines with
    silent | ⟨front, line, back, split, stated, silent⟩
  · exact Or.inl fun line member => not_not.mp (silent line member)
  · obtain ⟨value, stated⟩ := Option.ne_none_iff_exists'.mp stated
    exact Or.inr ⟨front, line, back, value, split, stated, fun later member =>
      not_not.mp (silent later member)⟩

/-- Lines of other names do not overrule the lines of this name: if one of them is the last line
that states a value for the name, it states the one that the entry has from the lines of the name
in front of it. -/
def NotOverruled (env : Env) (lines : List Bytes) (key : Bytes) : Prop :=
  ∀ front line back value, lines = front ++ line :: back → isLineOf key line = false →
    statedFor key line = some value → Silent key back →
      some value = entryOf env key (front.filter (isLineOf key))

theorem entryOf_filter_iff (key : Bytes) (lines : List Bytes) :
    entryOf env key lines = entryOf env key (lines.filter (isLineOf key)) ↔
      NotOverruled env lines key := by
  constructor
  · intro same front line back value split other stated silent
    rw [split, entryOf_of_last stated silent, List.filter_append,
      List.filter_cons_of_neg (by rw [other]; exact Bool.false_ne_true),
      entryOf_append (silent.filter _)] at same
    exact same
  · intro notOverruled
    rcases exists_last_stated key lines with
      silent | ⟨front, line, back, value, rfl, stated, silent⟩
    · have whole := @entryOf_append env _ _ silent []
      have part := @entryOf_append env _ _ (silent.filter (isLineOf key)) []
      exact whole.trans part.symm
    · cases named : isLineOf key line with
      | true =>
        rw [List.filter_append, List.filter_cons_of_pos named,
          entryOf_of_last stated silent, entryOf_of_last stated (silent.filter _)]
      | false =>
        rw [entryOf_of_last stated silent, List.filter_append,
          List.filter_cons_of_neg (by rw [named]; exact Bool.false_ne_true),
          entryOf_append (silent.filter _)]
        exact notOverruled front line back value rfl named stated silent

/-- The entries of a response before its body is looked at. -/
theorem Transfer.headed_meta (transfer : Transfer) (key : Bytes) :
    (transfer.headed env).header.meta[key]? = entryOf env key transfer.headers :=
  headerLoop_meta transfer.headers { HttpMessage.createResponse env with
    header := { (HttpMessage.createResponse env).header with
      responseCode := transfer.responseCode } } key

/-- The content type of a response before its body is looked at. -/
theorem headed_contentType (transfer : Transfer) :
    (transfer.headed env).header.meta[fuContentTypeKey]? =
      some (contentTypeOf transfer.headers) := by
  rw [transfer.headed_meta, entryOf, contentTypeOf, HttpMessage.createResponse_contentType]
  cases valueOf fuContentTypeKey transfer.headers <;> rfl

/-- The transfer with only its header lines of this name. -/
def Transfer.onlyLinesOf (transfer : Transfer) (key : Bytes) : Transfer :=
  { transfer with headers := transfer.headers.filter (isLineOf key) }

/-- The entries of a response are those that its lines name, and each of them, that of the content
type too, is what the lines of its own name make of it. -/
structure HeadersKept (env : Env) (transfer : Transfer) : Prop where
  named : ∀ key, Writes transfer.headers key →
    ∃ line ∈ transfer.headers, headerName line = some key
  own : ∀ key, (transfer.headed env).header.meta[key]? =
    ((transfer.onlyLinesOf key).headed env).header.meta[key]?

/-- The pieces behind a semicolon that read as headers are named like lines. -/
def PiecesNamed (lines : List Bytes) : Prop :=
  ∀ line ∈ lines, ∀ piece ∈ (pieces line).tail, ∀ key value,
    pieceEntry piece = some (key, value) → ∃ other ∈ lines, headerName other = some key

theorem named_iff (lines : List Bytes) :
    (∀ key, Writes lines key → ∃ line ∈ lines, headerName line = some key) ↔
      PiecesNamed lines := by
  constructor
  · intro named line member piece behind key value made
    refine named key (writes_iff.mpr ⟨value, List.mem_flatMap.mpr ⟨line, member, ?_⟩⟩)
    exact List.mem_filterMap.mpr ⟨piece, List.mem_of_mem_tail behind, made⟩
  · intro named key writes
    obtain ⟨value, member⟩ := writes_iff.mp writes
    obtain ⟨line, listed, member⟩ := List.mem_flatMap.mp member
    obtain ⟨piece, found, made⟩ := List.mem_filterMap.mp member
    obtain ⟨first, others, split, begins⟩ := exists_first_piece line
    rw [split] at found
    rcases List.mem_cons.mp found with same | behind
    · rw [same] at made
      exact ⟨line, listed, headerName_of_first begins made⟩
    · refine named line listed piece ?_ key value made
      rw [split]
      exact behind

/-- The header loop keeps to the names of the lines exactly when every piece behind a semicolon that
reads as a header is named like one of the lines, and the lines of no name are overruled by lines of
another name. -/
theorem headersKept_iff (transfer : Transfer) :
    HeadersKept env transfer ↔
      PiecesNamed transfer.headers ∧ ∀ key, NotOverruled env transfer.headers key := by
  have own (key : Bytes) : (transfer.headed env).header.meta[key]? =
      ((transfer.onlyLinesOf key).headed env).header.meta[key]? ↔
        NotOverruled env transfer.headers key := by
    rw [transfer.headed_meta, (transfer.onlyLinesOf key).headed_meta]
    exact entryOf_filter_iff key transfer.headers
  rw [← named_iff]
  constructor
  · rintro ⟨named, kept⟩
    exact ⟨named, fun key => (own key).mp (kept key)⟩
  · rintro ⟨named, notOverruled⟩
    exact ⟨named, fun key => (own key).mpr (notOverruled key)⟩

/-- The identifier of a legal key in a Location line changes the content type. -/
theorem not_headersKept_location :
    ¬ HeadersKept ⟨.simple [], true, true, [], false⟩
      ⟨0, 201, ["Content-Type: application/json\x0d\n",
        "Location: /_api/document/c/a;content-type:zzz\x0d\n"], []⟩ := by
  intro kept
  have contentType := kept.own fuContentTypeKey
  rw [headed_contentType, headed_contentType] at contentType
  revert contentType
  decide +kernel

end ArangoCpp
