/-
This file says which document the path of a request names once the server has decoded it.

The client puts a key into a path as it is. The percent sign is legal in keys, so that a key can
hold what reads as an escape; the server decodes it, and the path names another document. Every
other key arrives as it is, since the name of a collection has no percent sign and the slashes
around the name belong to no escape.
-/

import ArangoCpp.Percent
import ArangoCpp.Server

namespace ArangoCpp

variable {env : Env}

/-! ### Decoded paths -/

theorem hexValue_slash : Percent.hexValue slash = none := by decide

theorem slash_ne_sign : slash ≠ Percent.sign := by decide

theorem decode_slash (front back : Bytes) :
    Percent.decode (front ++ slash :: back) =
      Percent.decode front ++ slash :: Percent.decode back :=
  Percent.decode_append hexValue_slash slash_ne_sign front back

/-- The name of a collection stays as it is. -/
theorem CollectionName.decode_eq (name : CollectionName) :
    Percent.decode name.bytes = name.bytes := by
  refine (Percent.decode_eq_self_iff _).mpr (Percent.not_hasEscape_of_sign fun member => ?_)
  have legal := name.legal Percent.sign member
  revert legal
  decide

theorem LegalKey.slash_notMem (key : LegalKey) : slash ∉ key.bytes := by
  intro member
  have legal := key.legal slash member
  revert legal
  decide

/-- A route ends in a slash. -/
theorem exists_front_of_handle {operation : Operation} {route collname handle : Bytes}
    (takes : operation.handle = some (route, collname, handle)) :
    ∃ front, route = front ++ [slash] := by
  have document : ∃ front, text "/_api/document/" = front ++ [slash] :=
    ⟨"/_api/document", by decide⟩
  have gharial : ∀ graphname colltype,
      ∃ front, ArangoDBGraphAPI.recordPath graphname colltype [] = front ++ [slash] :=
    fun graphname colltype => ⟨ArangoDBGraphAPI.graphPath graphname ++ "/" ++ colltype, by
      simp [ArangoDBGraphAPI.recordPath, text_slash]⟩
  cases operation <;> cases takes
  case readDocument => exact document
  case updateDocument => exact document
  case deleteDocument => exact document
  case existsDocument => exact document
  case readRecord => exact gharial _ _
  case updateRecord => exact gharial _ _
  case deleteRecord => exact gharial _ _

/-- Behind a route the server sees the name of the collection, and the decoded key. -/
theorem decode_path {route front : Bytes} (ends : route = front ++ [slash])
    (name : CollectionName) (key : Bytes) :
    Percent.decode (route ++ (name.bytes ++ slash :: key)) =
      Percent.decode route ++ (name.bytes ++ slash :: Percent.decode key) := by
  have whole : route ++ (name.bytes ++ slash :: key) =
      front ++ slash :: (name.bytes ++ slash :: key) := by simp [ends]
  rw [whole, decode_slash, decode_slash, name.decode_eq, ends, decode_slash]
  simp [Percent.decode]

/-! ### The documents that are reached -/

/-- The request goes to a path that the server decodes to that of the document, behind a route. -/
def Transmission.Reaches (sent : Transmission) (connectData : ArangoDBConnection)
    (route collname key : Bytes) : Prop :=
  ∃ path, sent.url = connectData.fullURL path ∧
    Percent.decode path = Percent.decode route ++ (collname ++ slash :: key)

/-- Every request of every operation that takes a handle of a document reaches it. -/
def ReachesOnly (env : Env) (connectData : ArangoDBConnection) (collname key handle : Bytes) :
    Prop :=
  ∀ (operation : Operation) (route : Bytes) (batchSize : Int32) (turns : Nat),
    operation.handle = some (route, collname, handle) →
      (conduct env .base connectData (operation.program env batchSize turns)).Asks fun sent =>
        sent.Reaches connectData route collname key

/-- Both spellings of a document become its identifier. -/
theorem getId_of_spelling {collname key handle : Bytes} (bare : slash ∉ key)
    (spelling : handle = key ∨ handle = collname ++ slash :: key) :
    getId collname handle = collname ++ slash :: key := by
  rcases spelling with rfl | rfl
  · exact getId_of_key bare
  · exact getId_of_infix ⟨[], key, by simp⟩

/-- The request for a document, which has a fixed path. -/
theorem reaches_iff {sent : Transmission} {connectData : ArangoDBConnection}
    {route front : Bytes} (ends : route = front ++ [slash]) {name : CollectionName} {key : Bytes}
    (url : sent.url = connectData.fullURL (route ++ (name.bytes ++ slash :: key))) :
    sent.Reaches connectData route name.bytes key ↔ ¬ Percent.HasEscape key := by
  rw [← Percent.decode_eq_self_iff]
  constructor
  · rintro ⟨path, same, decoded⟩
    have path_eq : path = route ++ (name.bytes ++ slash :: key) :=
      List.append_cancel_left (same.symm.trans url)
    rw [path_eq, decode_path ends] at decoded
    have behind := List.append_cancel_left (List.append_cancel_left decoded)
    injection behind
  · intro same
    exact ⟨_, url, by rw [decode_path ends, same]⟩

theorem reachesOnly_iff (lawful : env.vpack.Lawful) (connectData : ArangoDBConnection)
    (name : CollectionName) (key : LegalKey) {handle : Bytes}
    (spelling : handle = key.bytes ∨ handle = name.bytes ++ slash :: key.bytes) :
    ReachesOnly env connectData name.bytes key.bytes handle ↔ ¬ Percent.HasEscape key.bytes := by
  have identifier := getId_of_spelling key.slash_notMem spelling
  constructor
  · intro reaches
    have asks := reaches (.readDocument name.bytes handle) "/_api/document/" 0 0 rfl
    have encoded := encode_createREQUEST lawful .base connectData (Or.inl rfl)
      (text "/_api/document/" ++ getId name.bytes handle)
    rw [Operation.conduct_eq_through lawful (Operation.asks_program lawful _ _ _)] at asks
    have asked := ((congrArg (Dialogue.Asks _) (Dialogue.through_ask_of_ok encoded _)).mp asks).1
    have ends : text "/_api/document/" = text "/_api/document" ++ [slash] := by decide
    refine (reaches_iff ends ((encode_eq_ok encoded).1.trans ?_)).mp asked
    exact congrArg (fun path => connectData.fullURL (text "/_api/document/" ++ path)) identifier
  · intro plain operation route batchSize turns takes
    obtain ⟨front, ends⟩ := exists_front_of_handle takes
    rw [Operation.conduct_eq_through lawful (Operation.asks_program lawful _ _ _)]
    refine (asks_handle_path batchSize turns takes).through fun rq sent path encoded => ?_
    have url := (encode_eq_ok encoded).1
    rw [path, identifier] at url
    exact (reaches_iff ends url).mpr plain

/-- The operations on a document reach it, by either spelling, exactly when its key holds nothing
that reads as an escape. Of such keys different ones never reach the same document. -/
theorem reaches_document_iff (lawful : env.vpack.Lawful) (connectData : ArangoDBConnection)
    (name : CollectionName) :
    (∀ (key : LegalKey) (handle : Bytes),
      handle = key.bytes ∨ handle = name.bytes ++ slash :: key.bytes →
        (ReachesOnly env connectData name.bytes key.bytes handle ↔
          ¬ Percent.HasEscape key.bytes)) ∧
      ∀ key other : LegalKey, ¬ Percent.HasEscape key.bytes → ¬ Percent.HasEscape other.bytes →
        ∀ front, Percent.decode (front ++ [slash] ++ (name.bytes ++ slash :: key.bytes)) =
            Percent.decode (front ++ [slash] ++ (name.bytes ++ slash :: other.bytes)) →
          key = other := by
  refine ⟨fun key handle => reachesOnly_iff lawful connectData name key, ?_⟩
  intro key other plain plainToo front same
  rw [decode_path rfl, decode_path rfl, (Percent.decode_eq_self_iff _).mpr plain,
    (Percent.decode_eq_self_iff _).mpr plainToo] at same
  have behind := List.append_cancel_left (List.append_cancel_left same)
  injection behind with _ keys
  exact LegalKey.ext keys

/-- A collection and a connection with nothing special about them. -/
theorem reaches_document_iff_default :
    let env : Env := ⟨.simple [], true, true, [], false⟩
    (∀ (key : LegalKey) (handle : Bytes),
      handle = key.bytes ∨ handle = text "c" ++ slash :: key.bytes →
        (ReachesOnly env .default "c" key.bytes handle ↔ ¬ Percent.HasEscape key.bytes)) ∧
      ∀ key other : LegalKey, ¬ Percent.HasEscape key.bytes → ¬ Percent.HasEscape other.bytes →
        ∀ front, Percent.decode (front ++ [slash] ++ (text "c" ++ slash :: key.bytes)) =
            Percent.decode (front ++ [slash] ++ (text "c" ++ slash :: other.bytes)) →
          key = other :=
  reaches_document_iff (Velocypack.simple_lawful []) .default
    ⟨"c", by decide, List.all_eq_true.mp rfl⟩

/-- The key `a%41` reaches the document with the key `aA`. -/
theorem not_reaches_escaped_key :
    let env : Env := ⟨.simple [], true, true, [], false⟩
    ∃ key other : LegalKey, key.bytes = "a%41" ∧ other.bytes = "aA" ∧
      ¬ ReachesOnly env .default "c" key.bytes key.bytes ∧
      Percent.decode (text "/_api/document/" ++ (text "c" ++ slash :: key.bytes)) =
        Percent.decode (text "/_api/document/" ++ (text "c" ++ slash :: other.bytes)) := by
  let name : CollectionName := ⟨"c", by decide, List.all_eq_true.mp rfl⟩
  let key : LegalKey := ⟨"a%41", by decide, by decide, by
    intro byte member
    have each := List.all_eq_true.mp (show ((text "a%41").all fun byte =>
      isKeyByte byte || byte = percent) = true from rfl) byte member
    simpa using each⟩
  let other : LegalKey := ⟨"aA", by decide, by decide, fun byte member =>
    Or.inl (List.all_eq_true.mp (show (text "aA").all isKeyByte = true from rfl) byte member)⟩
  have decoded : Percent.decode (text "a%41") = text "aA" := by
    have front : Percent.decode (text "a%41") = 0x61 :: Percent.decode (text "%41") :=
      Percent.decode_of_not_escaped rfl
    rw [front, show Percent.decode (text "%41") = 0x41 :: Percent.decode [] from
      Percent.decode_of_escaped rfl, Percent.decode]
    rfl
  have plain : Percent.decode (text "aA") = text "aA" :=
    (Percent.decode_eq_self_iff _).mpr (Percent.not_hasEscape_of_sign (by decide))
  refine ⟨key, other, rfl, rfl, fun reaches => ?_, ?_⟩
  · have none := (reachesOnly_iff (Velocypack.simple_lawful []) .default name key
      (Or.inl rfl)).mp reaches
    have same := (Percent.decode_eq_self_iff _).mpr none
    rw [decoded] at same
    revert same
    decide
  · have ends : text "/_api/document/" = text "/_api/document" ++ [slash] := by decide
    have paths := decode_path ends name
    rw [show text "c" = name.bytes from rfl, paths, paths, decoded, plain]

end ArangoCpp
