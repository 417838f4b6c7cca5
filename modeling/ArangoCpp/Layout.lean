/-
This file gives one library that keeps the laws of `Velocypack.Lawful`. It lays a value out
as a head byte and its parts behind their number, which is simpler than the real format, and
it knows the values of a given list of JSON texts and of no others.

It serves to run the model on concrete replies, and it shows that the laws can be kept. What
is laid out is read back, by induction on the value with one case per kind of value; the
items of an array and the members of an object are read as many times as announced.
-/

import ArangoCpp.Values

namespace ArangoCpp

namespace Slice

/-! ### A layout that keeps the laws -/

/-- A number in unary, ended by a zero. -/
def unary (number : Nat) : Bytes := List.replicate number 1 ++ [0]

def readUnary : Bytes → Option (Nat × Bytes)
  | [] => Option.none
  | byte :: rest =>
    if byte = 0 then some (0, rest) else (readUnary rest).map fun read => (read.1 + 1, read.2)

mutual

/-- A simple layout: a head byte, and the parts of the value behind their number. -/
def layout : Slice → Bytes
  | .none => [0x00]
  | .null => [0x18]
  | .bool false => [0x19]
  | .bool true => [0x1a]
  | .int (.ofNat number) => 0x28 :: unary number
  | .int (.negSucc number) => 0x20 :: unary number
  | .double bits => 0x1b :: unary bits.toNat
  | .string value => 0xbf :: unary value.length ++ value
  | .array items => 0x13 :: unary items.length ++ layoutItems items
  | .object members => 0x14 :: unary members.length ++ layoutMembers members
  | .other head => [0xf0, head]

def layoutItems : List Slice → Bytes
  | [] => []
  | item :: items => item.layout ++ layoutItems items

def layoutMembers : List (Bytes × Slice) → Bytes
  | [] => []
  | (name, value) :: members =>
    unary name.length ++ name ++ value.layout ++ layoutMembers members

end

/-- Read as many parts as are announced. -/
def readMany {Part : Type} (read : Bytes → Option (Part × Bytes)) :
    Nat → Bytes → Option (List Part × Bytes)
  | 0, bytes => some ([], bytes)
  | count + 1, bytes => do
    let (part, rest) ← read bytes
    let (parts, rest) ← readMany read count rest
    return (part :: parts, rest)

/-- Read a member of an object: its name, and its value by the given reader. -/
def readMember (read : Bytes → Option (Slice × Bytes)) (bytes : Bytes) :
    Option ((Bytes × Slice) × Bytes) := do
  let (length, bytes) ← readUnary bytes
  let (value, rest) ← read (bytes.drop length)
  return ((bytes.take length, value), rest)

/-- Read one value, nested at most as deep as the fuel. -/
def readLayout : Nat → Bytes → Option (Slice × Bytes)
  | 0, _ => Option.none
  | _ + 1, [] => Option.none
  | fuel + 1, head :: rest =>
    if head = 0x00 then some (.none, rest)
    else if head = 0x18 then some (.null, rest)
    else if head = 0x19 then some (.bool false, rest)
    else if head = 0x1a then some (.bool true, rest)
    else if head = 0x28 then
      (readUnary rest).map fun read => (.int (.ofNat read.1), read.2)
    else if head = 0x20 then
      (readUnary rest).map fun read => (.int (.negSucc read.1), read.2)
    else if head = 0x1b then
      (readUnary rest).map fun read => (.double (UInt64.ofNat read.1), read.2)
    else if head = 0xbf then
      (readUnary rest).map fun read => (.string (read.2.take read.1), read.2.drop read.1)
    else if head = 0x13 then do
      let (count, rest) ← readUnary rest
      let (items, rest) ← readMany (readLayout fuel) count rest
      return (.array items, rest)
    else if head = 0x14 then do
      let (count, rest) ← readUnary rest
      let (members, rest) ← readMany (readMember (readLayout fuel)) count rest
      return (.object members, rest)
    else if head = 0xf0 then match rest with
      | [] => Option.none
      | head :: rest => some (.other head, rest)
    else Option.none

theorem readUnary_unary (number : Nat) (rest : Bytes) :
    readUnary (unary number ++ rest) = some (number, rest) := by
  induction number with
  | zero => rfl
  | succ number inductionHypothesis =>
    rw [unary, List.replicate_succ, List.cons_append, List.cons_append, readUnary,
      if_neg (by decide), ← unary, inductionHypothesis]
    rfl

theorem layout_ne_nil (value : Slice) : value.layout ≠ [] := by
  cases value with
  | bool value => cases value <;> exact List.cons_ne_nil _ _
  | int value => cases value <;> exact List.cons_ne_nil _ _
  | _ => exact List.cons_ne_nil _ _

mutual

/-- What is laid out is read back, whatever follows it. -/
theorem readLayout_layout (value : Slice) (fuel : Nat) (rest : Bytes)
    (enough : value.layout.length ≤ fuel) :
    readLayout fuel (value.layout ++ rest) = some (value, rest) := by
  cases fuel with
  | zero => exact absurd (List.eq_nil_of_length_eq_zero (Nat.le_zero.mp enough)) value.layout_ne_nil
  | succ fuel =>
    cases value with
    | none => rfl
    | null => rfl
    | bool value => cases value <;> rfl
    | int value =>
      cases value with
      | ofNat number =>
        show (readUnary (unary number ++ rest)).map _ = _
        rw [readUnary_unary]
        rfl
      | negSucc number =>
        show (readUnary (unary number ++ rest)).map _ = _
        rw [readUnary_unary]
        rfl
    | double bits =>
      show (readUnary (unary bits.toNat ++ rest)).map _ = _
      rw [readUnary_unary, Option.map_some, UInt64.ofNat_toNat]
    | string value =>
      show (readUnary (unary value.length ++ value ++ rest)).map _ = _
      rw [List.append_assoc, readUnary_unary]
      simp
    | array items =>
      have room : (layoutItems items).length ≤ fuel := by
        simp only [layout, List.cons_append, List.length_cons, List.length_append] at enough
        omega
      show (readUnary (unary items.length ++ layoutItems items ++ rest) >>= _) = _
      rw [List.append_assoc, readUnary_unary]
      simp [readMany_layoutItems items fuel rest room]
    | object members =>
      have room : (layoutMembers members).length ≤ fuel := by
        simp only [layout, List.cons_append, List.length_cons, List.length_append] at enough
        omega
      show (readUnary (unary members.length ++ layoutMembers members ++ rest) >>= _) = _
      rw [List.append_assoc, readUnary_unary]
      simp [readMany_layoutMembers members fuel rest room]
    | other head => rfl

theorem readMany_layoutItems (items : List Slice) (fuel : Nat) (rest : Bytes)
    (enough : (layoutItems items).length ≤ fuel) :
    readMany (readLayout fuel) items.length (layoutItems items ++ rest) = some (items, rest) := by
  cases items with
  | nil => rfl
  | cons item items =>
    simp only [layoutItems, List.length_append] at enough
    simp [readMany, layoutItems, readLayout_layout item fuel _ (by omega),
      readMany_layoutItems items fuel rest (by omega)]

theorem readMany_layoutMembers (members : List (Bytes × Slice)) (fuel : Nat) (rest : Bytes)
    (enough : (layoutMembers members).length ≤ fuel) :
    readMany (readMember (readLayout fuel)) members.length (layoutMembers members ++ rest) =
      some (members, rest) := by
  cases members with
  | nil => rfl
  | cons member members =>
    obtain ⟨name, value⟩ := member
    simp only [layoutMembers, List.length_append] at enough
    simp [readMany, readMember, layoutMembers, readUnary_unary,
      readLayout_layout value fuel _ (by omega),
      readMany_layoutMembers members fuel rest (by omega)]

end

end Slice

namespace Velocypack

/-- A library with the simple layout, which knows the values of the given JSON texts. -/
def simple (texts : List (Bytes × Slice)) : Velocypack where
  sliceAt bytes := ((Slice.readLayout bytes.length bytes).map Prod.fst).getD .none
  byteSize bytes := match Slice.readLayout bytes.length bytes with
    | some (_, rest) => .ok (bytes.length - rest.length)
    | none => .error (.other 1)
  build := Slice.layout
  fromJson _ json := match texts.find? fun entry => entry.1 = json with
    | some entry => .ok entry.2
    | none => .error .parseError
  toJson _ value := match texts.find? fun entry => entry.2.layout = value.layout ∧ entry.1 ≠ [] with
    | some entry => .ok entry.1
    | none => .error (.other 2)
  spare _ := []
  what _ := []

theorem simple_lawful (texts : List (Bytes × Slice))
    (represented : ∀ entry ∈ texts, entry.2.Represented := by simp) : (simple texts).Lawful where
  build_ne_nil value _ := value.layout_ne_nil
  sliceAt_build value _ rest := by
    simp [simple, Slice.readLayout_layout value _ rest]
  byteSize_build value _ rest := by
    simp [simple, Slice.readLayout_layout value _ rest]
  represented options json value parsed := by
    simp only [simple] at parsed
    split at parsed
    · rename_i entry found
      cases parsed
      exact represented entry (List.mem_of_find?_eq_some found)
    · cases parsed
  toJson_ne_nil options value json dumped := by
    simp only [simple] at dumped
    split at dumped
    · rename_i entry found
      cases dumped
      have listed := List.find?_some found
      simp only [decide_eq_true_eq] at listed
      exact listed.2
    · cases dumped

end Velocypack

namespace Slice

/-! ### The JSON text of a value -/

/-- The two hexadecimal digits of a byte. -/
def hexDigits (byte : UInt8) : Bytes :=
  let digit (number : UInt8) : UInt8 := if number < 10 then 0x30 + number else 0x57 + number
  [digit (byte / 16), digit (byte % 16)]

/-- A byte of a string, with an escape where JSON asks for one. -/
def escape (byte : UInt8) : Bytes :=
  if byte = 0x22 then text "\\\""
  else if byte = 0x5c then text "\\\\"
  else if byte < 0x20 then text "\\u00" ++ hexDigits byte
  else [byte]

/-- The decimal digits of a number. -/
def printNat (number : Nat) : Bytes :=
  (Nat.toDigits 10 number).map fun digit => UInt8.ofNat digit.toNat

def printString (value : Bytes) : Bytes := 0x22 :: value.flatMap escape ++ [0x22]

/-- The exact decimal expansion of a double, and `null` for one that is no number. -/
def printDouble (bits : UInt64) : Bytes :=
  let sign : Bytes := if negative bits then [0x2d] else []
  let behind := 1075 - placeOf bits
  if exponentOf bits = 0x7ff then text "null"
  else if behind = 0 then
    sign ++ printNat (digitsOf bits <<< (placeOf bits - 1075)) ++ text ".0"
  else sign ++ printNat (digitsOf bits * Nat.pow 5 behind) ++ text "e-" ++ printNat behind

mutual

/-- The text that a value is dumped to. Types that no JSON text has are written as `null`. -/
def print : Slice → Bytes
  | .none | .null | .other _ => text "null"
  | .bool false => text "false"
  | .bool true => text "true"
  | .int (.ofNat number) => printNat number
  | .int (.negSucc number) => 0x2d :: printNat (number + 1)
  | .double bits => printDouble bits
  | .string value => printString value
  | .array items => 0x5b :: printItems items ++ [0x5d]
  | .object members => 0x7b :: printMembers members ++ [0x7d]

def printItems : List Slice → Bytes
  | [] => []
  | [item] => item.print
  | item :: items => item.print ++ 0x2c :: printItems items

def printMembers : List (Bytes × Slice) → Bytes
  | [] => []
  | [(name, value)] => printString name ++ 0x3a :: value.print
  | (name, value) :: members =>
    printString name ++ 0x3a :: value.print ++ 0x2c :: printMembers members

end

theorem printNat_ne_nil (number : Nat) : printNat number ≠ [] := by
  rw [printNat, ne_eq, List.map_eq_nil_iff]
  exact Nat.toDigits_ne_nil

theorem printDouble_ne_nil (bits : UInt64) : printDouble bits ≠ [] := by
  unfold printDouble
  dsimp only
  split
  · exact List.cons_ne_nil _ _
  · split
    · exact List.append_ne_nil_of_right_ne_nil _ (List.cons_ne_nil _ _)
    · exact List.append_ne_nil_of_right_ne_nil _ (printNat_ne_nil _)

theorem print_ne_nil (value : Slice) : value.print ≠ [] := by
  cases value with
  | none => exact List.cons_ne_nil _ _
  | null => exact List.cons_ne_nil _ _
  | other head => exact List.cons_ne_nil _ _
  | bool value =>
    cases value with
    | false => exact List.cons_ne_nil _ _
    | true => exact List.cons_ne_nil _ _
  | int number =>
    cases number with
    | ofNat number =>
      rw [print]
      exact printNat_ne_nil number
    | negSucc number =>
      rw [print]
      exact List.cons_ne_nil _ _
  | double bits =>
    rw [print]
    exact printDouble_ne_nil bits
  | string value =>
    rw [print]
    exact List.cons_ne_nil _ _
  | array items =>
    rw [print]
    exact List.cons_ne_nil _ _
  | object members =>
    rw [print]
    exact List.cons_ne_nil _ _

end Slice

namespace Velocypack

/-- A library with the simple layout that dumps every value, and knows the values of the given JSON
texts. -/
def printing (texts : List (Bytes × Slice)) : Velocypack :=
  { simple texts with toJson := fun _ value => .ok value.print }

/-- The first of the given texts is known. -/
theorem printing_fromJson (options : VpackOptions) (json : Bytes) (value : Slice)
    (texts : List (Bytes × Slice)) :
    (printing ((json, value) :: texts)).fromJson options json = .ok value := by
  simp [printing, simple]

theorem printing_lawful (texts : List (Bytes × Slice))
    (represented : ∀ entry ∈ texts, entry.2.Represented := by simp) :
    (printing texts).Lawful where
  build_ne_nil := (simple_lawful texts represented).build_ne_nil
  sliceAt_build := (simple_lawful texts represented).sliceAt_build
  byteSize_build := (simple_lawful texts represented).byteSize_build
  represented := (simple_lawful texts represented).represented
  toJson_ne_nil options value json dumped := by
    cases dumped
    exact value.print_ne_nil

/-- Read the text of an object with one member, a string, when neither has an escape or a sequence
that is not complete. -/
def parseMember (json : Bytes) : Except VpackException Slice :=
  let field := (json.drop 2).takeWhile (· != 0x22)
  let value := (json.drop (field.length + 6)).takeWhile (· != 0x22)
  if json = "\x7b\"" ++ field ++ "\": \"" ++ value ++ "\" \x7d" ∧ Complete field ∧
      Complete value then
    .ok (.object [(field, .string value)])
  else .error .parseError

theorem parseMember_eq {field value : Bytes} (fieldFree : 0x22 ∉ field)
    (valueFree : 0x22 ∉ value) (fieldComplete : Complete field) (valueComplete : Complete value) :
    parseMember ("\x7b\"" ++ field ++ "\": \"" ++ value ++ "\" \x7d") =
      .ok (.object [(field, .string value)]) := by
  have reads : ∀ {front : Bytes} (rest : Bytes), 0x22 ∉ front →
      (front ++ 0x22 :: rest).takeWhile (· != 0x22) = front := by
    intro front rest free
    rw [List.takeWhile_append_of_pos fun byte member => by
      rw [bne_iff_ne]
      exact fun same => free (same ▸ member)]
    exact List.append_nil front
  have fieldRead : (("\x7b\"" ++ field ++ "\": \"" ++ value ++ "\" \x7d" : Bytes).drop 2).takeWhile
      (· != 0x22) = field := by
    simp only [List.append_assoc]
    exact reads _ fieldFree
  have front : (text "\x7b\"" ++ field ++ "\": \"").length = field.length + 6 := by
    simp only [List.length_append]
    show 2 + field.length + 4 = _
    omega
  have valueRead : (("\x7b\"" ++ field ++ "\": \"" ++ value ++ "\" \x7d" : Bytes).drop
      (field.length + 6)).takeWhile (· != 0x22) = value := by
    rw [← front, List.append_assoc (text "\x7b\"" ++ field ++ text "\": \"") value,
      List.drop_left]
    exact reads _ valueFree
  simp only [parseMember, fieldRead, valueRead, fieldComplete, valueComplete, and_self, if_true]

/-- A library that dumps every value, and parses the objects with one member. -/
def oneMember : Velocypack := { printing [] with fromJson := fun _ json => parseMember json }

/-- What it parses is an object with one string. -/
theorem oneMember_json {options : VpackOptions} {json : Bytes} {value : Slice}
    (parsed : oneMember.fromJson options json = .ok value) : value.Json := by
  simp only [oneMember, parseMember] at parsed
  split at parsed
  · rename_i complete
    cases parsed
    simp [complete.2]
  · cases parsed

theorem oneMember_lawful : oneMember.Lawful where
  represented options json value parsed := (oneMember_json parsed).represented
  build_ne_nil := (printing_lawful []).build_ne_nil
  sliceAt_build := (printing_lawful []).sliceAt_build
  byteSize_build := (printing_lawful []).byteSize_build
  toJson_ne_nil := (printing_lawful []).toJson_ne_nil

end Velocypack

end ArangoCpp
