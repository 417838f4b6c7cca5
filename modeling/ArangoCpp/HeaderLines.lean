/-
This file says when the header lines of a response are recorded as they are written.

The loop of `getResponse` takes what stands two bytes behind the beginning of the colon for the
value, and trims it. That is right when there is a blank behind the colon. Without a blank the
first byte of the value is lost, and a value of one byte is lost with its line. So the lines are
recorded exactly when the last line of every name has a blank, or is a lost line whose value happens
to be what the lines before it leave.
-/

import ArangoCpp.Headers
import Mathlib.Data.Bool.AllAny

namespace ArangoCpp

variable {env : Env}

/-! ### Trimming -/

theorem ltrim_append {spaces : Bytes} (all : ∀ byte ∈ spaces, Detail.isSpace byte = true)
    (rest : Bytes) : Detail.ltrim (spaces ++ rest) = Detail.ltrim rest :=
  List.dropWhile_append_of_pos all

theorem rtrim_append {spaces : Bytes} (all : ∀ byte ∈ spaces, Detail.isSpace byte = true)
    (front : Bytes) : Detail.rtrim (front ++ spaces) = Detail.rtrim front := by
  unfold Detail.rtrim List.rdropWhile
  rw [List.reverse_append, List.dropWhile_append_of_pos fun byte member =>
    all byte (List.mem_reverse.mp member)]

/-- Nothing is cut off behind a text that ends in something else than a space. -/
theorem rtrim_of_suffix {back : Bytes} (nonempty : back ≠ []) (kept : Detail.rtrim back = back)
    (front : Bytes) : Detail.rtrim (front ++ back) = front ++ back := by
  refine List.rdropWhile_eq_self_iff.mpr fun whole => ?_
  rw [List.getLast_append_of_ne_nil whole nonempty]
  exact List.rdropWhile_eq_self_iff.mp kept nonempty

theorem ltrim_of_trim {value : Bytes} (trimmed : Detail.trim value = value) :
    Detail.ltrim value = value := by
  have suffix : Detail.ltrim value <:+ value := List.dropWhile_suffix _
  have begins : Detail.trim value <+: Detail.ltrim value := List.rdropWhile_prefix _ _
  refine suffix.eq_of_length (Nat.le_antisymm suffix.length_le ?_)
  have length := begins.length_le
  rwa [trimmed] at length

theorem rtrim_of_trim {value : Bytes} (trimmed : Detail.trim value = value) :
    Detail.rtrim value = value := by
  rw [Detail.trim, ltrim_of_trim trimmed] at trimmed
  exact trimmed

theorem length_trim_le (value : Bytes) : (Detail.trim value).length ≤ value.length :=
  (List.rdropWhile_prefix _ _).length_le.trans (List.dropWhile_suffix _).length_le

/-! ### Header lines -/

/-- A header line without a semicolon: a name, a colon, a value between blanks, and the end of the
line. -/
structure HeaderField where
  name : Bytes
  blanks : Bytes
  value : Bytes
  behind : Bytes
  named : name ≠ []
  colonFree : colon ∉ name
  spaceFree : ∀ byte ∈ name, Detail.isSpace byte = false
  blank : ∀ byte ∈ blanks ++ behind, byte = 0x20 ∨ byte = 0x09
  valued : value ≠ []
  trimmed : Detail.trim value = value
  semicolonFree : semicolon ∉ name ++ value

namespace HeaderField

/-- What stands in front of the blanks that end a line. -/
def front (field : HeaderField) : Bytes := field.name ++ colon :: (field.blanks ++ field.value)

def line (field : HeaderField) : Bytes := field.front ++ (field.behind ++ "\x0d\n")

/-- The name in lower case. -/
def key (field : HeaderField) : Bytes := field.name.map Detail.toLower

/-- A line is lost: it has no blank behind the colon, and a value of one byte. -/
def Lost (field : HeaderField) : Prop := field.blanks = [] ∧ field.value.length = 1

instance (field : HeaderField) : Decidable field.Lost := inferInstanceAs (Decidable (_ ∧ _))

/-- What is left of a value: all of it behind a blank, and what follows its first byte behind the
colon itself. -/
def kept (field : HeaderField) : Bytes :=
  if field.blanks = [] then Detail.trim field.value.tail else field.value

variable (field : HeaderField)

theorem isSpace_of_blank {byte : UInt8} (blank : byte = 0x20 ∨ byte = 0x09) :
    Detail.isSpace byte = true := by
  rcases blank with rfl | rfl <;> rfl

theorem trim_line : Detail.trim field.line = field.front := by
  obtain ⟨first, rest, split⟩ := List.exists_cons_of_ne_nil field.named
  have solid : ¬ Detail.isSpace first = true := by
    rw [field.spaceFree first (split ▸ List.mem_cons_self)]
    exact Bool.false_ne_true
  have begins : Detail.ltrim field.line = field.line := by
    rw [line, front, split]
    exact List.dropWhile_cons_of_neg solid
  have spaces : ∀ byte ∈ field.behind ++ text "\x0d\n", Detail.isSpace byte = true := by
    intro byte member
    rcases List.mem_append.mp member with inBehind | atEnd
    · exact isSpace_of_blank (field.blank byte (List.mem_append_right _ inBehind))
    · exact List.all_eq_true.mp (show (text "\x0d\n").all Detail.isSpace = true from rfl) byte atEnd
  have shape : field.front = (field.name ++ colon :: field.blanks) ++ field.value := by
    rw [front, List.append_assoc, List.cons_append]
  rw [Detail.trim, begins, line, rtrim_append spaces, shape,
    rtrim_of_suffix field.valued (rtrim_of_trim field.trimmed)]

theorem findIdx?_front : field.front.findIdx? (· = colon) = some field.name.length := by
  have absent : field.name.findIdx? (fun byte => decide (byte = colon)) = none := by
    rw [List.findIdx?_eq_none_iff]
    intro byte member
    exact decide_eq_false fun same => field.colonFree (same ▸ member)
  rw [front, List.findIdx?_append, absent, Option.none_or, List.findIdx?_cons]
  simp

/-- What a line is read as. -/
theorem pieceEntry_line :
    pieceEntry field.line = if field.Lost then none else some (field.key, field.kept) := by
  have length : field.front.length =
      field.name.length + 1 + (field.blanks.length + field.value.length) := by
    simp only [front, List.length_append, List.length_cons]
    omega
  have behindColon : field.front.drop (field.name.length + 2) =
      (field.blanks ++ field.value).tail := by
    rw [front, ← List.drop_drop, List.drop_left, List.drop_succ_cons, List.drop_one]
  have name : field.front.take field.name.length = field.name := List.take_left
  have someValue := List.length_pos_iff.mpr field.valued
  rw [pieceEntry, trim_line, headerEntry, findIdx?_front]
  dsimp only
  by_cases tight : field.blanks = []
  · by_cases single : field.value.length = 1
    · rw [if_pos (by rw [length, tight, single]; exact Nat.le_refl _), if_pos ⟨tight, single⟩]
    · rw [if_neg (by rw [length, tight, List.length_nil]; omega),
        if_neg fun lost => single lost.2, name, behindColon, kept, if_pos tight, tight]
      rfl
  · have someBlanks := List.length_pos_iff.mpr tight
    rw [if_neg (by rw [length]; omega), if_neg fun lost => tight lost.1, name, behindColon, kept,
      if_neg tight, List.tail_append_of_ne_nil tight, Detail.trim, ltrim_append fun byte member =>
        isSpace_of_blank (field.blank byte (List.mem_append_left _ (List.mem_of_mem_tail member)))]
    exact congrArg (fun value => some (field.key, value)) field.trimmed

end HeaderField

/-- A line that is delivered: a header line, or one without a colon. -/
inductive HeaderLine : Type where
  | header (field : HeaderField)
  | other (line : Bytes) (colonFree : colon ∉ line)

namespace HeaderLine

def bytes : HeaderLine → Bytes
  | .header field => field.line
  | .other line _ => line

def asField : HeaderLine → Option HeaderField
  | .header field => some field
  | .other _ _ => none

end HeaderLine

/-! ### The entries of the lines -/

theorem pieces_of_notMem {line : Bytes} (absent : semicolon ∉ line) : pieces line = [line] := by
  induction line with
  | nil => rfl
  | cons char line inductionHypothesis =>
    rw [List.mem_cons, not_or] at absent
    rw [pieces_cons (Ne.symm absent.1), inductionHypothesis absent.2]
    rfl

/-- Pieces are made of bytes of the line. -/
theorem mem_of_mem_piece {line piece : Bytes} (found : piece ∈ pieces line) {byte : UInt8}
    (member : byte ∈ piece) : byte ∈ line := by
  induction line generalizing piece with
  | nil =>
    rw [pieces_nil, List.mem_singleton] at found
    rwa [found] at member
  | cons char line inductionHypothesis =>
    by_cases separates : char = semicolon
    · rw [separates, pieces_semicolon] at found
      rcases List.mem_cons.mp found with rfl | later
      · cases member
      · exact List.mem_cons_of_mem _ (inductionHypothesis later member)
    · obtain ⟨first, others, split⟩ := exists_pieces_eq line
      rw [pieces_cons separates, split, List.modifyHead_cons] at found
      rcases List.mem_cons.mp found with rfl | later
      · rcases List.mem_cons.mp member with rfl | inFirst
        · exact List.mem_cons_self
        · exact List.mem_cons_of_mem _
            (inductionHypothesis (split ▸ List.mem_cons_self) inFirst)
      · exact List.mem_cons_of_mem _
          (inductionHypothesis (split ▸ List.mem_cons_of_mem _ later) member)

theorem HeaderField.semicolon_notMem_line (field : HeaderField) : semicolon ∉ field.line := by
  have free := field.semicolonFree
  rw [List.mem_append, not_or] at free
  have blankFree : ∀ byte, byte = 0x20 ∨ byte = 0x09 → byte ≠ semicolon := by
    rintro byte (rfl | rfl) <;> decide
  intro member
  simp only [line, front, List.mem_append, List.mem_cons] at member
  rcases member with (inName | isColon | inBlanks | inValue) | inBehind | atEnd
  · exact free.1 inName
  · revert isColon
    decide
  · exact blankFree _ (field.blank _ (List.mem_append_left _ inBlanks)) rfl
  · exact free.2 inValue
  · exact blankFree _ (field.blank _ (List.mem_append_right _ inBehind)) rfl
  · revert atEnd
    decide

/-- What a header line is recorded as. -/
def HeaderField.recorded (field : HeaderField) : Option (Bytes × Bytes) :=
  if field.Lost then none else some (field.key, field.kept)

/-- The entries of delivered lines are those of their header lines. -/
theorem entries_bytes (lines : List HeaderLine) :
    entries (lines.map HeaderLine.bytes) =
      (lines.filterMap HeaderLine.asField).filterMap HeaderField.recorded := by
  unfold entries
  induction lines with
  | nil => rfl
  | cons line lines inductionHypothesis =>
    rw [List.map_cons, List.flatMap_cons, inductionHypothesis]
    cases line with
    | header field =>
      have taken : HeaderLine.asField (.header field) = some field := rfl
      rw [List.filterMap_cons_some taken, List.filterMap_cons, HeaderLine.bytes,
        pieces_of_notMem field.semicolon_notMem_line, List.filterMap_cons, field.pieceEntry_line,
        HeaderField.recorded]
      split <;> rfl
    | other line colonFree =>
      have skipped : HeaderLine.asField (.other line colonFree) = none := rfl
      rw [List.filterMap_cons_none skipped, HeaderLine.bytes]
      refine (congrArg (· ++ _) (List.filterMap_eq_nil_iff.mpr fun piece found => ?_)).trans
        (List.nil_append _)
      cases made : pieceEntry piece with
      | none => rfl
      | some entry =>
        have member : colon ∈ piece := (List.dropWhile_suffix _).subset
          ((List.rdropWhile_prefix _ _).subset (headerEntry_key made).1)
        exact absurd (mem_of_mem_piece found member) colonFree

/-- Reading the body changes no entry but the content type. -/
theorem Transfer.meta_of_respond {transfer : Transfer} {response : HttpMessage}
    (responds : RequestCurlObject.respond env transfer = .ok response) {key : Bytes}
    (other : key ≠ fuContentTypeKey) :
    response.header.meta[key]? = (transfer.headed env).header.meta[key]? := by
  have typed : ∀ header : MessageHeader,
      (header.addMeta fuContentTypeKey fuContentTypeVpack).meta[key]? = header.meta[key]? := by
    intro header
    rw [MessageHeader.meta_addMeta, if_neg other.symm]
  by_cases empty : transfer.body.flatten = []
  · unfold RequestCurlObject.respond RequestCurlObject.getResponse at responds
    simp only [RequestCurlObject.perform_eq, RequestCurlObject.new, List.nil_append, empty,
      List.length_nil, ne_eq, not_true_eq_false, if_false] at responds
    cases responds
    exact typed _
  · rw [transfer.respond_eq empty] at responds
    split at responds
    · obtain ⟨data, parsed, responds⟩ := bind_eq_ok_iff.mp responds
      obtain ⟨filled, added, final⟩ := bind_eq_ok_iff.mp responds
      obtain ⟨payload, reset, made⟩ := bind_eq_ok_iff.mp added
      cases made
      cases final
      exact typed _
    · obtain ⟨payload, reset, made⟩ := bind_eq_ok_iff.mp responds
      cases made
      rfl

/-! ### What the lines leave -/

/-- The value that header lines state for a name: that of the last line with the name. -/
def statedValue (fields : List HeaderField) (key : Bytes) : Option Bytes :=
  lastValue key (fields.map fun field => (field.key, field.value))

/-- The value that is recorded for a name. -/
def recordedValue (fields : List HeaderField) (key : Bytes) : Option Bytes :=
  lastValue key (fields.filterMap HeaderField.recorded)

variable {fields front back : List HeaderField} {field : HeaderField} {key value : Bytes}

theorem recordedValue_eq_none_iff :
    recordedValue fields key = none ↔ ∀ field ∈ fields, field.key = key → field.Lost := by
  rw [recordedValue, lastValue_eq_none_iff]
  constructor
  · intro absent field member named
    by_contra kept
    refine absent (field.key, field.kept) (List.mem_filterMap.mpr ⟨field, member, ?_⟩) named
    rw [HeaderField.recorded, if_neg kept]
  · intro lost entry member named
    obtain ⟨field, found, made⟩ := List.mem_filterMap.mp member
    rw [HeaderField.recorded] at made
    split at made
    · cases made
    · rename_i kept
      cases made
      exact kept (lost field found named)

theorem recordedValue_append (front back : List HeaderField) (key : Bytes) :
    recordedValue (front ++ back) key =
      (recordedValue back key).or (recordedValue front key) := by
  rw [recordedValue, List.filterMap_append, lastValue_append]
  rfl

theorem recordedValue_cons_of_named (named : field.key = key) (back : List HeaderField) :
    recordedValue (field :: back) key =
      (recordedValue back key).or (if field.Lost then none else some field.kept) := by
  rw [recordedValue, List.filterMap_cons, HeaderField.recorded]
  by_cases lost : field.Lost
  · rw [if_pos lost, if_pos lost, Option.or_none]
    rfl
  · rw [if_neg lost, if_neg lost]
    dsimp only
    rw [lastValue, if_pos named]
    rfl

/-- A line that is not lost has left the value, and every later line of the name is lost. -/
def Leaves (fields : List HeaderField) (key value : Bytes) : Prop :=
  ∃ front field back, fields = front ++ field :: back ∧ field.key = key ∧ ¬ field.Lost ∧
    field.kept = value ∧ ∀ later ∈ back, later.key = key → later.Lost

theorem recordedValue_eq_some_iff : recordedValue fields key = some value ↔
    Leaves fields key value := by
  constructor
  · intro recorded
    rcases exists_last (fun field => field.key = key ∧ ¬ field.Lost) fields with
      none | ⟨front, field, back, rfl, ⟨named, kept⟩, none⟩
    · rw [recordedValue_eq_none_iff.mpr fun field member named =>
        not_not.mp fun kept => none field member ⟨named, kept⟩] at recorded
      cases recorded
    · have lost : ∀ later ∈ back, later.key = key → later.Lost := fun later member named =>
        not_not.mp fun kept => none later member ⟨named, kept⟩
      rw [recordedValue_append, recordedValue_cons_of_named named,
        recordedValue_eq_none_iff.mpr lost, if_neg kept] at recorded
      exact ⟨front, field, back, rfl, named, kept, Option.some.inj recorded, lost⟩
  · rintro ⟨front, field, back, rfl, named, kept, same, lost⟩
    rw [recordedValue_append, recordedValue_cons_of_named named,
      recordedValue_eq_none_iff.mpr lost, if_neg kept, same]
    rfl

/-- The last line of a name has a blank behind its colon, or it is lost and the lines before it have
left its value. -/
def LastsKept (fields : List HeaderField) : Prop :=
  ∀ front field back, fields = front ++ field :: back →
    (∀ later ∈ back, later.key ≠ field.key) →
      field.blanks ≠ [] ∨ field.Lost ∧ Leaves front field.key field.value

theorem statedValue_of_last (later : ∀ other ∈ back, other.key ≠ field.key)
    (front : List HeaderField) :
    statedValue (front ++ field :: back) field.key = some field.value := by
  have silent : lastValue field.key (back.map fun other => (other.key, other.value)) = none := by
    refine lastValue_eq_none_iff.mpr fun entry member => ?_
    obtain ⟨other, found, rfl⟩ := List.mem_map.mp member
    exact later other found
  rw [statedValue, List.map_append, List.map_cons, lastValue_append, lastValue, silent,
    if_pos rfl]
  rfl

theorem recordedValue_of_last (later : ∀ other ∈ back, other.key ≠ field.key)
    (front : List HeaderField) :
    recordedValue (front ++ field :: back) field.key =
      if field.Lost then recordedValue front field.key else some field.kept := by
  have silent : recordedValue back field.key = none :=
    recordedValue_eq_none_iff.mpr fun other member named => absurd named (later other member)
  rw [recordedValue_append, recordedValue_cons_of_named rfl, silent, Option.none_or]
  split
  · rfl
  · rfl

/-- A line without a blank never leaves its own value. -/
theorem HeaderField.kept_ne_value (field : HeaderField) (tight : field.blanks = []) :
    field.kept ≠ field.value := by
  intro same
  rw [kept, if_pos tight] at same
  have shorter := length_trim_le field.value.tail
  have someValue := List.length_pos_iff.mpr field.valued
  rw [same, List.length_tail] at shorter
  omega

/-- An entry is that of the last line of its name when this line has a blank, or is lost behind
lines that leave its value. The entries from the start are no help, since none is of one byte. -/
theorem recorded_eq_stated_iff {initial : Option Bytes}
    (longer : ∀ value, initial = some value → value.length ≠ 1)
    (later : ∀ other ∈ back, other.key ≠ field.key) :
    (recordedValue (front ++ field :: back) field.key).or initial =
        (statedValue (front ++ field :: back) field.key).or initial ↔
      field.blanks ≠ [] ∨ field.Lost ∧ Leaves front field.key field.value := by
  rw [recordedValue_of_last later, statedValue_of_last later, Option.some_or]
  by_cases tight : field.blanks = []
  · by_cases single : field.value.length = 1
    · have lost : field.Lost := ⟨tight, single⟩
      rw [if_pos lost, ← recordedValue_eq_some_iff]
      cases recordedValue front field.key with
      | none =>
        rw [Option.none_or]
        constructor
        · exact fun same => absurd single (longer field.value same)
        · rintro (spaced | ⟨-, absent⟩)
          · exact absurd tight spaced
          · cases absent
      | some value => exact ⟨fun same => Or.inr ⟨lost, same⟩,
          fun left => left.elim (absurd tight) And.right⟩
    · rw [if_neg fun lost => single lost.2, Option.some_or]
      constructor
      · exact fun same => absurd (Option.some.inj same) (field.kept_ne_value tight)
      · rintro (spaced | ⟨lost, -⟩)
        · exact absurd tight spaced
        · exact absurd lost.2 single
  · rw [if_neg fun lost => tight lost.1, HeaderField.kept, if_neg tight, Option.some_or]
    exact ⟨fun _ => Or.inl tight, fun _ => rfl⟩

/-! ### The entries are those of the lines -/

/-- The entry of a name that header lines state: the value of the last line with the name, or what
every response has from the start. -/
def statedEntry (env : Env) (fields : List HeaderField) (key : Bytes) : Option Bytes :=
  (statedValue fields key).or (HttpMessage.createResponse env).header.meta[key]?

/-- The entries that are recorded are those that the header lines state. In a response that is
returned the content type has been written anew. -/
structure FieldsRecorded (env : Env) (transfer : Transfer) (fields : List HeaderField) :
    Prop where
  recorded : ∀ key, (transfer.headed env).header.meta[key]? = statedEntry env fields key
  returned : ∀ response, RequestCurlObject.respond env transfer = .ok response →
    ∀ key, key ≠ fuContentTypeKey → response.header.meta[key]? = statedEntry env fields key

/-- The entries from the start are longer than one byte. -/
theorem length_createResponse_meta (key value : Bytes)
    (initial : (HttpMessage.createResponse env).header.meta[key]? = some value) :
    value.length ≠ 1 := by
  rw [HttpMessage.createResponse_meta] at initial
  split at initial
  · rw [← Option.some.inj initial]
    decide
  · cases initial

theorem forall_recorded_eq_stated_iff :
    (∀ key, (recordedValue fields key).or (HttpMessage.createResponse env).header.meta[key]? =
      statedEntry env fields key) ↔ LastsKept fields := by
  constructor
  · intro same front field back split later
    have last := same field.key
    rw [statedEntry, split] at last
    exact (recorded_eq_stated_iff (length_createResponse_meta field.key) later).mp last
  · intro lastsKept key
    rw [statedEntry]
    rcases exists_last (fun field => field.key = key) fields with
      absent | ⟨front, field, back, split, rfl, later⟩
    · have notRecorded : recordedValue fields key = none :=
        recordedValue_eq_none_iff.mpr fun field member named => absurd named (absent field member)
      have notStated : statedValue fields key = none := by
        refine lastValue_eq_none_iff.mpr fun stated member => ?_
        obtain ⟨field, found, rfl⟩ := List.mem_map.mp member
        exact absent field found
      rw [notRecorded, notStated]
    · rw [split]
      exact (recorded_eq_stated_iff (length_createResponse_meta field.key) later).mpr
        (lastsKept front field back split later)

/-- The lines of a transfer are recorded exactly when the last line of every name has a blank behind
its colon, or is lost behind lines that leave its value. -/
theorem fieldsRecorded_iff (transfer : Transfer) (lines : List HeaderLine) :
    FieldsRecorded env { transfer with headers := lines.map HeaderLine.bytes }
        (lines.filterMap HeaderLine.asField) ↔
      LastsKept (lines.filterMap HeaderLine.asField) := by
  set delivered : Transfer := { transfer with headers := lines.map HeaderLine.bytes }
  have entry : ∀ key, (delivered.headed env).header.meta[key]? =
      (recordedValue (lines.filterMap HeaderLine.asField) key).or
        (HttpMessage.createResponse env).header.meta[key]? := by
    intro key
    rw [delivered.headed_meta, entryOf, valueOf, entries_bytes]
    rfl
  rw [← @forall_recorded_eq_stated_iff env]
  constructor
  · intro exact key
    rw [← entry]
    exact exact.recorded key
  · intro same
    exact ⟨fun key => (entry key).trans (same key), fun response responds key other =>
      (delivered.meta_of_respond responds other).trans ((entry key).trans (same key))⟩

/-- `Server:ArangoDB`, between a status line and a blank one. -/
def serverLines : List HeaderLine :=
  [.other "HTTP/1.1 200 OK\x0d\n" (by decide),
    .header {
      name := "Server"
      blanks := []
      value := "ArangoDB"
      behind := []
      named := by decide
      colonFree := by decide
      spaceFree := List.all_iff_forall_prop.mp rfl
      blank := fun _ member => absurd member List.not_mem_nil
      valued := by decide
      trimmed := by decide
      semicolonFree := by decide },
    .other "\x0d\n" (by decide)]

/-- The server is recorded as `rangoDB`. -/
theorem not_fieldsRecorded_server :
    ¬ FieldsRecorded ⟨.simple [], true, true, [], false⟩
      ⟨0, 200, serverLines.map HeaderLine.bytes, []⟩
      (serverLines.filterMap HeaderLine.asField) := by
  intro exact
  have same := exact.recorded "server"
  rw [Transfer.headed_meta, entryOf, statedEntry, HttpMessage.createResponse_meta] at same
  revert same
  decide +kernel

end ArangoCpp
