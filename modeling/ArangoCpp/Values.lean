/-
This file says which values have JSON texts, and how far a server has a value as it was sent.

The dumper copies a string whose multi-byte sequences are complete, and writes numbers that are
finite; the parser makes no other strings and numbers. On the way between client and server a
value may change: its members may stand in another order, and a double that is written like an
integer is read as one. An object in which a name stands twice, or a string that is not UTF-8, is
sent, but a server need not take it.
-/

import ArangoCpp.Velocypack
import Mathlib.Data.List.Nodup
import Mathlib.Data.List.Perm.Subperm
import Mathlib.Data.Rat.Defs

namespace ArangoCpp

/-! ### Strings -/

/-- The number of bytes that a byte announces in UTF-8, if a sequence begins with it. -/
def following (lead : UInt8) : Option Nat :=
  if lead < 0x80 then some 0
  else if lead < 0xc0 then none
  else if lead < 0xe0 then some 1
  else if lead < 0xf0 then some 2
  else if lead < 0xf8 then some 3
  else none

/-- The byte continues a sequence. -/
def continues (byte : UInt8) : Bool := 0x80 ≤ byte && byte < 0xc0

/-- Every sequence is complete, when so many bytes are still announced. -/
def completeFrom : Nat → Bytes → Bool
  | 0, [] => true
  | _ + 1, [] => false
  | 0, lead :: rest => (following lead).any fun announced => completeFrom announced rest
  | announced + 1, byte :: rest => continues byte && completeFrom announced rest

/-- Every sequence has as many bytes as its first one announces. -/
def Complete (value : Bytes) : Prop := completeFrom 0 value = true

instance (value : Bytes) : Decidable (Complete value) :=
  inferInstanceAs (Decidable (completeFrom 0 value = true))

theorem completeFrom_append {front : Bytes} (back : Bytes) :
    ∀ {announced : Nat}, completeFrom announced front = true →
      completeFrom announced (front ++ back) = completeFrom 0 back := by
  induction front with
  | nil =>
    intro announced complete
    cases announced with
    | zero => rfl
    | succ announced => cases complete
  | cons lead rest inductionHypothesis =>
    intro announced complete
    cases announced with
    | zero =>
      cases begins : following lead with
      | none =>
        rw [completeFrom, begins] at complete
        cases complete
      | some announced =>
        rw [completeFrom, begins] at complete
        rw [List.cons_append, completeFrom, begins]
        exact inductionHypothesis complete
    | succ announced =>
      obtain ⟨byte, complete⟩ := Bool.and_eq_true_iff.mp complete
      rw [List.cons_append, completeFrom, byte, Bool.true_and]
      exact inductionHypothesis complete

theorem Complete.append {front back : Bytes} (first : Complete front) (second : Complete back) :
    Complete (front ++ back) := (completeFrom_append back first).trans second

/-- A string without bytes that announce others. -/
theorem complete_of_ascii {value : Bytes} (ascii : ∀ byte ∈ value, byte < 0x80) :
    Complete value := by
  induction value with
  | nil => rfl
  | cons lead rest inductionHypothesis =>
    obtain ⟨low, ascii⟩ := List.forall_mem_cons.mp ascii
    have single : following lead = some 0 := if_pos low
    show (following lead).any _ = true
    rw [single]
    exact inductionHypothesis ascii

/-- The bytes are the UTF-8 encoding of characters. -/
def Utf8 (value : Bytes) : Prop :=
  ∃ characters : List Char, value = characters.flatMap String.utf8EncodeChar

theorem complete_utf8EncodeChar (character : Char) :
    Complete (String.utf8EncodeChar character) := by
  have one : ∀ number : Fin 128, following (UInt8.ofNat number) = some 0 := by decide
  have two : ∀ number : Fin 32, following (UInt8.ofNat (number + 0xc0)) = some 1 := by decide
  have three : ∀ number : Fin 16, following (UInt8.ofNat (number + 0xe0)) = some 2 := by decide
  have four : ∀ number : Fin 8, following (UInt8.ofNat (number + 0xf0)) = some 3 := by decide
  have next : ∀ number : Fin 64, continues (UInt8.ofNat (number + 0x80)) = true := by decide
  have behind (number : Nat) : continues (UInt8.ofNat (number % 0x40 + 0x80)) = true :=
    next ⟨_, Nat.mod_lt _ (by decide)⟩
  unfold String.utf8EncodeChar Complete
  dsimp only
  split
  · rename_i low
    rw [completeFrom, one ⟨_, Nat.lt_succ_of_le low⟩]
    rfl
  · split
    · rw [completeFrom, two ⟨_, Nat.mod_lt _ (by decide)⟩]
      simp only [Option.any_some, completeFrom, behind, Bool.and_true]
    · split
      · rw [completeFrom, three ⟨_, Nat.mod_lt _ (by decide)⟩]
        simp only [Option.any_some, completeFrom, behind, Bool.and_true]
      · rw [completeFrom, four ⟨_, Nat.mod_lt _ (by decide)⟩]
        simp only [Option.any_some, completeFrom, behind, Bool.and_true]

/-- A string in UTF-8 is complete. -/
theorem Utf8.complete {value : Bytes} (utf8 : Utf8 value) : Complete value := by
  obtain ⟨characters, rfl⟩ := utf8
  induction characters with
  | nil => rfl
  | cons character characters inductionHypothesis =>
    rw [List.flatMap_cons]
    exact (complete_utf8EncodeChar character).append inductionHypothesis

/-! ### Numbers -/

/-- The 11 bits of a double above its fraction, which is the lower 52 bits. -/
def exponentOf (bits : UInt64) : Nat := bits.toNat >>> 52 % 0x800

/-- The highest bit is the sign. -/
def negative (bits : UInt64) : Bool := 0x8000000000000000 ≤ bits.toNat

/-- The binary digits, with a leading one that is not stored when the exponent is not zero. -/
def digitsOf (bits : UInt64) : Nat :=
  let fraction := bits.toNat % 0x10000000000000
  if exponentOf bits = 0 then fraction else 0x10000000000000 + fraction

/-- The power of two that the last of the digits stands for, counted from the 1075th below one. -/
def placeOf (bits : UInt64) : Nat := if exponentOf bits = 0 then 1 else exponentOf bits

/-- A double is a number unless all bits of its exponent are set. -/
def FiniteDouble (bits : UInt64) : Prop := exponentOf bits ≠ 0x7ff

instance (bits : UInt64) : Decidable (FiniteDouble bits) :=
  inferInstanceAs (Decidable (exponentOf bits ≠ 0x7ff))

/-- The number that a double stands for. -/
def doubleValue (bits : UInt64) : ℚ :=
  let digits := digitsOf bits <<< (placeOf bits - 1075)
  mkRat (if negative bits then Int.negOfNat digits else Int.ofNat digits)
    (1 <<< (1075 - placeOf bits))

namespace Slice

/-- The number that a value is. -/
def number : Slice → Option ℚ
  | .int value => some value
  | .double bits => some (doubleValue bits)
  | _ => Option.none

/-! ### Values of JSON texts -/

/-- The values that the parser makes of texts, all of which the dumper writes. -/
inductive Json : Slice → Prop where
  | null : Json .null
  | bool (value : Bool) : Json (.bool value)
  | int {value : Int} (fits : IsWord value) : Json (.int value)
  | double {bits : UInt64} (finite : FiniteDouble bits) : Json (.double bits)
  | string {value : Bytes} (complete : Complete value) : Json (.string value)
  | array {items : List Slice} (each : ∀ item ∈ items, Json item) : Json (.array items)
  | object {members : List (Bytes × Slice)} (names : ∀ member ∈ members, Complete member.1)
      (each : ∀ member ∈ members, Json member.2) : Json (.object members)

@[simp] theorem json_null : Slice.null.Json := .null

@[simp] theorem json_bool (value : Bool) : (Slice.bool value).Json := .bool value

@[simp] theorem json_int_iff (value : Int) : (Slice.int value).Json ↔ IsWord value := by
  constructor
  · intro json
    cases json with
    | int fits => exact fits
  · exact .int

@[simp] theorem json_double_iff (bits : UInt64) : (Slice.double bits).Json ↔ FiniteDouble bits := by
  constructor
  · intro json
    cases json with
    | double finite => exact finite
  · exact .double

@[simp] theorem json_string_iff (value : Bytes) : (Slice.string value).Json ↔ Complete value := by
  constructor
  · intro json
    cases json with
    | string complete => exact complete
  · exact .string

@[simp] theorem json_array_iff (items : List Slice) :
    (Slice.array items).Json ↔ ∀ item ∈ items, item.Json := by
  constructor
  · intro json
    cases json with
    | array each => exact each
  · exact .array

@[simp] theorem json_object_iff (members : List (Bytes × Slice)) :
    (Slice.object members).Json ↔
      ∀ member ∈ members, Complete member.1 ∧ member.2.Json := by
  constructor
  · intro json
    cases json with
    | object names each => exact fun member listed => ⟨names member listed, each member listed⟩
  · exact fun both => .object (fun member listed => (both member listed).1)
      fun member listed => (both member listed).2

theorem Json.represented {value : Slice} (json : value.Json) : value.Represented := by
  induction json with
  | null => exact .null
  | bool value => exact .bool value
  | int fits => exact .int fits
  | double finite => exact .double _
  | string complete => exact .string _
  | array each inductionHypothesis => exact .array inductionHypothesis
  | object names each inductionHypothesis => exact .object inductionHypothesis

/-! ### Values that are sent -/

/-- The second value is read when the first is sent. A double may be read as any value that is the
same number. The members of an object may stand in another order, and of those of one name some
may be left out. -/
inductive Alike : Slice → Slice → Prop where
  | none : Alike .none .none
  | null : Alike .null .null
  | bool (value : Bool) : Alike (.bool value) (.bool value)
  | int (value : Int) : Alike (.int value) (.int value)
  | double {bits : UInt64} {other : Slice} (same : other.number = some (doubleValue bits)) :
      Alike (.double bits) other
  | string (value : Bytes) : Alike (.string value) (.string value)
  | array {items others : List Slice} (each : List.Forall₂ Alike items others) :
      Alike (.array items) (.array others)
  | object {members chosen others : List (Bytes × Slice)} (among : chosen.Subperm members)
      (kept : ∀ member ∈ members, ∃ other ∈ chosen, other.1 = member.1)
      (names : chosen.map Prod.fst = others.map Prod.fst)
      (each : List.Forall₂ Alike (chosen.map Prod.snd) (others.map Prod.snd)) :
      Alike (.object members) (.object others)

/-- Only a string is read as a string. -/
theorem alike_string_iff {first : Slice} {value : Bytes} :
    first.Alike (.string value) ↔ first = .string value := by
  constructor
  · intro alike
    cases alike with
    | double same => cases same
    | string => rfl
  · rintro rfl
    exact .string value

/-- A value of a text may be read as it is. -/
theorem Json.alike {value : Slice} (json : value.Json) : value.Alike value := by
  induction json with
  | null => exact .null
  | bool value => exact .bool value
  | int fits => exact .int _
  | double finite => exact .double rfl
  | string complete => exact .string _
  | array each inductionHypothesis => exact .array (List.forall₂_same.mpr inductionHypothesis)
  | @object members names each inductionHypothesis =>
    refine .object (List.Subperm.refl _) (fun member listed => ⟨member, listed, rfl⟩) rfl ?_
    rw [List.forall₂_map_left_iff, List.forall₂_map_right_iff]
    exact List.forall₂_same.mpr inductionHypothesis

/-! ### Values that are compared -/

/-- A server takes the second value for the first: the same number, or an object with the same
attributes. An attribute that is missing is null. -/
inductive Equal : Slice → Slice → Prop where
  | same (value : Slice) : Equal value value
  | absent : Equal .none .null
  | missing : Equal .null .none
  | number {first second : Slice} {value : ℚ} (one : first.number = some value)
      (other : second.number = some value) : Equal first second
  | array {items others : List Slice} (each : List.Forall₂ Equal items others) :
      Equal (.array items) (.array others)
  | object {members others : List (Bytes × Slice)}
      (each : ∀ name value other, (Slice.object members).get name = .ok value →
        (Slice.object others).get name = .ok other → Equal value other) :
      Equal (.object members) (.object others)

/-- A string is no other value. -/
theorem equal_string_iff {value : Bytes} {other : Slice} :
    (Slice.string value).Equal other ↔ other = .string value := by
  constructor
  · intro equal
    cases equal with
    | same => rfl
    | number one => cases one
  · rintro rfl
    exact .same _

/-! ### Members -/

/-- What is read of the members of an object: the same names, none of them twice when that is so of
what is sent, and each value is one that is sent under its name. -/
structure ReadsMembers (members others : List (Bytes × Slice)) : Prop where
  names : ∀ name, name ∈ others.map Prod.fst ↔ name ∈ members.map Prod.fst
  distinct : (members.map Prod.fst).Nodup → (others.map Prod.fst).Nodup
  each : ∀ other ∈ others, ∃ member ∈ members, member.1 = other.1 ∧ member.2.Alike other.2

theorem exists_of_forall₂ {chosen others : List (Bytes × Slice)}
    (names : chosen.map Prod.fst = others.map Prod.fst)
    (each : List.Forall₂ Alike (chosen.map Prod.snd) (others.map Prod.snd)) :
    ∀ other ∈ others, ∃ member ∈ chosen, member.1 = other.1 ∧ member.2.Alike other.2 := by
  induction chosen generalizing others with
  | nil =>
    cases others with
    | nil => exact fun other listed => absurd listed List.not_mem_nil
    | cons other others => cases names
  | cons member chosen inductionHypothesis =>
    cases others with
    | nil => cases names
    | cons other others =>
      obtain ⟨name, names⟩ := List.cons.inj names
      obtain ⟨alike, each⟩ := List.forall₂_cons.mp each
      intro read listed
      rcases List.mem_cons.mp listed with rfl | listed
      · exact ⟨member, List.mem_cons_self, name, alike⟩
      · obtain ⟨sent, listed, same⟩ := inductionHypothesis names each read listed
        exact ⟨sent, List.mem_cons_of_mem _ listed, same⟩

/-- An object is read as an object with its members. -/
theorem Alike.members {members : List (Bytes × Slice)} {other : Slice}
    (alike : (Slice.object members).Alike other) :
    ∃ others, other = .object others ∧ ReadsMembers members others := by
  cases alike with
  | @object _ chosen others among kept names each =>
    refine ⟨others, rfl, fun name => ?_, fun distinct => ?_, fun other listed => ?_⟩
    · rw [← names, List.mem_map, List.mem_map]
      constructor
      · rintro ⟨member, listed, called⟩
        exact ⟨member, among.subset listed, called⟩
      · rintro ⟨member, listed, called⟩
        obtain ⟨same, listed, alike⟩ := kept member listed
        exact ⟨same, listed, alike.trans called⟩
    · obtain ⟨sorted, reordered, sublist⟩ := among
      rw [← names]
      exact (reordered.map Prod.fst).nodup_iff.mp ((sublist.map Prod.fst).nodup distinct)
    · obtain ⟨member, listed, same⟩ := exists_of_forall₂ names each other listed
      exact ⟨member, among.subset listed, same⟩

/-- What is read as an object is an object. -/
theorem Alike.sent {value : Slice} {others : List (Bytes × Slice)}
    (alike : value.Alike (.object others)) :
    ∃ members, value = .object members ∧ ReadsMembers members others := by
  cases value with
  | object members =>
    obtain ⟨_, same, reads⟩ := alike.members
    cases same
    exact ⟨members, rfl, reads⟩
  | double bits =>
    cases alike with
    | double same => cases same
  | _ => cases alike

theorem Alike.isObject {value other : Slice} (alike : value.Alike other) :
    other.isObject = value.isObject := by
  cases alike with
  | double same => cases other <;> first | rfl | cases same
  | _ => rfl

/-- The member of an object in which no name stands twice. -/
theorem get_of_mem {members : List (Bytes × Slice)} (distinct : (members.map Prod.fst).Nodup)
    {name : Bytes} {value : Slice} (listed : (name, value) ∈ members) :
    (Slice.object members).get name = .ok value := by
  obtain ⟨found, same⟩ : ∃ found, members.find? (fun member => member.1 = name) = some found :=
    Option.isSome_iff_exists.mp (List.find?_isSome.mpr ⟨_, listed, decide_eq_true rfl⟩)
  have called : found.1 = name := by simpa using List.find?_some same
  have equal : found = (name, value) :=
    List.inj_on_of_nodup_map distinct (List.mem_of_find?_eq_some same) listed called
  rw [Slice.get, same, equal]
  rfl

theorem get_of_notMem {members : List (Bytes × Slice)} {name : Bytes}
    (absent : name ∉ members.map Prod.fst) : (Slice.object members).get name = .ok .none := by
  have missing : members.find? (fun member => member.1 = name) = Option.none := by
    rw [List.find?_eq_none]
    intro member listed
    rw [decide_eq_true_eq]
    rintro rfl
    exact absent (List.mem_map.mpr ⟨member, listed, rfl⟩)
  rw [Slice.get, missing]
  rfl

/-- The members of a value of a text are such values. -/
theorem Json.get {value read : Slice} (json : value.Json) {name : Bytes}
    (found : value.get name = .ok read) : read = .none ∨ read.Json := by
  cases json with
  | @object members names each =>
    cases same : members.find? fun member => member.1 = name with
    | none =>
      rw [Slice.get, same] at found
      cases found
      exact Or.inl rfl
    | some member =>
      rw [Slice.get, same] at found
      cases found
      exact Or.inr (each member (List.mem_of_find?_eq_some same))
  | _ => cases found

/-- So are the items. -/
theorem Json.itemAt {value item : Slice} (json : value.Json) {index : Nat}
    (found : value.itemAt index = .ok item) : item.Json := by
  cases json with
  | @array items each =>
    rw [Slice.itemAt] at found
    split at found
    · rename_i here same
      cases found
      exact each _ (List.mem_of_getElem? same)
    · cases found
  | _ => cases found

/-- A text that is read off such a member can be dumped. -/
theorem Json.complete_of_get {value read : Slice} (json : value.Json) {name copied : Bytes}
    (found : value.get name = .ok read) (copies : read.copyString = .ok copied) :
    Complete copied := by
  rcases json.get found with rfl | inner
  · cases copies
  · cases inner with
    | string complete =>
      cases copies
      exact complete
    | _ => cases copies

/-- An object with one member is read as an object with one member. -/
theorem Alike.single {name : Bytes} {value other : Slice}
    (alike : (Slice.object [(name, value)]).Alike other) :
    ∃ read, other = .object [(name, read)] ∧ value.Alike read := by
  cases alike with
  | @object _ chosen others among kept names each =>
    obtain ⟨member, listed, _⟩ := kept _ List.mem_cons_self
    have whole : chosen = [(name, value)] := by
      obtain ⟨sorted, reordered, sublist⟩ := among
      rcases List.sublist_singleton.mp sublist with rfl | rfl
      · cases reordered.nil_eq
        cases listed
      · exact List.perm_singleton.mp reordered.symm
    rw [whole] at names each
    obtain ⟨⟨called, read⟩, rfl⟩ : ∃ other, others = [other] :=
      List.length_eq_one_iff.mp (by simpa using congrArg List.length names.symm)
    cases List.head_eq_of_cons_eq names
    exact ⟨read, rfl, (List.forall₂_cons.mp each).1⟩

/-- Every member is read when no name stands twice. -/
theorem ReadsMembers.exists_of_mem {members others : List (Bytes × Slice)}
    (reads : ReadsMembers members others) (distinct : (members.map Prod.fst).Nodup) {name : Bytes}
    {value : Slice} (listed : (name, value) ∈ members) :
    ∃ read, (name, read) ∈ others ∧ value.Alike read := by
  obtain ⟨⟨_, read⟩, present, rfl⟩ := List.mem_map.mp
    ((reads.names name).mpr (List.mem_map.mpr ⟨_, listed, rfl⟩))
  obtain ⟨member, sent, called, alike⟩ := reads.each _ present
  have same := List.inj_on_of_nodup_map distinct sent listed called
  rw [same] at alike
  exact ⟨read, present, alike⟩

/-- What is read under a name, when no name stands twice in what is sent. -/
theorem Alike.get {members : List (Bytes × Slice)} {other : Slice}
    (alike : (Slice.object members).Alike other) (distinct : (members.map Prod.fst).Nodup)
    (name : Bytes) :
    ∃ value read, (Slice.object members).get name = .ok value ∧ other.get name = .ok read ∧
      value.Alike read := by
  obtain ⟨others, rfl, reads⟩ := alike.members
  by_cases present : name ∈ members.map Prod.fst
  · obtain ⟨⟨_, value⟩, listed, rfl⟩ := List.mem_map.mp present
    obtain ⟨read, found, same⟩ := reads.exists_of_mem distinct listed
    exact ⟨value, read, get_of_mem distinct listed, get_of_mem (reads.distinct distinct) found,
      same⟩
  · exact ⟨.none, .none, get_of_notMem present,
      get_of_notMem fun found => present ((reads.names name).mp found), .none⟩

/-! ### Values that are read as they are sent -/

/-- The value is not read as another one. -/
def Rigid (value : Slice) : Prop := ∀ other, value.Alike other → other = value

theorem rigid_none : Slice.none.Rigid := by
  intro other alike
  cases alike with
  | none => rfl

theorem rigid_bool (value : Bool) : (Slice.bool value).Rigid := by
  intro other alike
  cases alike with
  | bool => rfl

theorem rigid_int (value : Int) : (Slice.int value).Rigid := by
  intro other alike
  cases alike with
  | int => rfl

theorem rigid_string (value : Bytes) : (Slice.string value).Rigid := by
  intro other alike
  cases alike with
  | string => rfl

theorem rigid_array {items : List Slice} (each : ∀ item ∈ items, item.Rigid) :
    (Slice.array items).Rigid := by
  intro other alike
  cases alike with
  | @array _ others related =>
    have same : others = items := List.ext_get related.length_eq.symm fun index bound bound' =>
      each _ (List.get_mem items ⟨index, bound'⟩) _ (related.get bound' bound)
    rw [same]

theorem rigid_single (name : Bytes) {value : Slice} (rigid : value.Rigid) :
    (Slice.object [(name, value)]).Rigid := by
  intro other alike
  obtain ⟨read, rfl, same⟩ := alike.single
  rw [rigid read same]

/-- Such a member is read as it is sent. -/
theorem Alike.get_eq {members : List (Bytes × Slice)} {other : Slice}
    (alike : (Slice.object members).Alike other) (distinct : (members.map Prod.fst).Nodup)
    (name : Bytes) {value : Slice} (rigid : value.Rigid)
    (stated : (Slice.object members).get name = .ok value) : other.get name = .ok value := by
  obtain ⟨sent, read, same, found, alike⟩ := alike.get distinct name
  cases stated.symm.trans same
  rw [found, rigid read alike]

/-! ### Values that need not be taken -/

/-- A value that a server need not take for a document: in an object of it a name stands twice, or a
string of it is not UTF-8. -/
inductive Unfit : Slice → Prop where
  | string {value : Bytes} (garbled : ¬ Utf8 value) : Unfit (.string value)
  | item {items : List Slice} {item : Slice} (listed : item ∈ items) (unfit : Unfit item) :
      Unfit (.array items)
  | name {members : List (Bytes × Slice)} {member : Bytes × Slice} (listed : member ∈ members)
      (garbled : ¬ Utf8 member.1) : Unfit (.object members)
  | twice {members : List (Bytes × Slice)} (twice : ¬ (members.map Prod.fst).Nodup) :
      Unfit (.object members)
  | member {members : List (Bytes × Slice)} {member : Bytes × Slice} (listed : member ∈ members)
      (unfit : Unfit member.2) : Unfit (.object members)

/-- A server does not find a value unfit for anything that is not in what is sent. -/
theorem Alike.unfit {value other : Slice} (alike : value.Alike other) (unfit : other.Unfit) :
    value.Unfit := by
  induction unfit generalizing value with
  | string garbled =>
    rw [alike_string_iff.mp alike]
    exact .string garbled
  | @item items item listed unfit inductionHypothesis =>
    cases alike with
    | double same => cases same
    | @array sent _ each =>
      obtain ⟨index, rfl⟩ := List.mem_iff_get.mp listed
      obtain ⟨length, related⟩ := List.forall₂_iff_get.mp each
      have bound : index < sent.length := length.symm ▸ index.2
      exact .item (List.get_mem sent ⟨index, bound⟩)
        (inductionHypothesis (related index bound index.2))
  | @name others other listed garbled =>
    obtain ⟨members, rfl, reads⟩ := alike.sent
    obtain ⟨member, listed, called, _⟩ := reads.each other listed
    exact .name listed (called ▸ garbled)
  | @twice others twice =>
    obtain ⟨members, rfl, reads⟩ := alike.sent
    exact .twice fun distinct => twice (reads.distinct distinct)
  | @member others other listed unfit inductionHypothesis =>
    obtain ⟨members, rfl, reads⟩ := alike.sent
    obtain ⟨member, listed, _, alike⟩ := reads.each other listed
    exact .member listed (inductionHypothesis alike)

end Slice

end ArangoCpp
