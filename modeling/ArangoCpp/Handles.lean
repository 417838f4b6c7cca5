/-
This file says which documents the operations address when they are given a document handle.

A handle is a bare key or the identifier of a document, its collection and its key joined
by a slash. `getId` takes a handle for an identifier when the name of the collection and
a slash occur anywhere in it. In the identifier of a document of another collection they
occur when the name is a proper suffix of that collection's name, and this is the one
case in which an operation addresses a document of another collection.
-/

import ArangoCpp.Operation

namespace ArangoCpp

/-- The character between a collection and a key. -/
def slash : UInt8 := UInt8.ofNat '/'.toNat

/-- A document handle: a bare key, or the identifier of a document of some collection. -/
def IsHandle (handle : Bytes) : Prop :=
  slash ∉ handle ∨
    ∃ collection key, slash ∉ collection ∧ slash ∉ key ∧ handle = collection ++ slash :: key

/-- The handle is the identifier of a document of another collection, whose name ends in the given
one. -/
def EndsIn (collname handle : Bytes) : Prop :=
  ∃ collection key, slash ∉ collection ∧ slash ∉ key ∧ handle = collection ++ slash :: key ∧
    collname <:+ collection ∧ collname ≠ collection

/-! ### The identifier of a handle -/

theorem text_slash : text "/" = [slash] := rfl

/-- A handle without the name and a slash in it is completed. -/
theorem getId_of_not_infix {collname handle : Bytes}
    (absent : ¬ collname ++ [slash] <:+: handle) :
    getId collname handle = collname ++ slash :: handle := by
  rw [getId, text_slash, (Text.find_eq_none_iff _ _).mpr absent]
  simp

/-- A handle with the name and a slash in it is kept. -/
theorem getId_of_infix {collname handle : Bytes} (occurs : collname ++ [slash] <:+: handle) :
    getId collname handle = handle := by
  have found := (Text.find_isSome_iff _ _).mpr occurs
  rw [getId, text_slash, if_neg]
  rw [Option.isNone_iff_eq_none]
  intro none
  rw [none] at found
  cases found

theorem getId_of_key {collname key : Bytes} (bare : slash ∉ key) :
    getId collname key = collname ++ slash :: key :=
  getId_of_not_infix (Text.not_infix_of_separator bare)

/-- Of the identifiers of a collection those of a proper extension of its name are kept wrongly. -/
theorem getId_of_id {collname collection key : Bytes} (name : slash ∉ collname)
    (collectionFree : slash ∉ collection) (keyFree : slash ∉ key) :
    getId collname (collection ++ slash :: key) =
      if collname <:+ collection then collection ++ slash :: key
      else collname ++ slash :: (collection ++ slash :: key) := by
  have occurs := Text.infix_separator_iff name collectionFree keyFree
  split
  · rename_i suffix
    exact getId_of_infix (occurs.mpr suffix)
  · rename_i notSuffix
    exact getId_of_not_infix fun found => notSuffix (occurs.mp found)

/-- An identifier is cut at its one slash. -/
theorem id_inj {collection key collection' key' : Bytes} (free : slash ∉ collection)
    (keyFree : slash ∉ key)
    (same : collection ++ slash :: key = collection' ++ slash :: key') :
    collection = collection' ∧ key = key' := by
  obtain ⟨collections, _, keys⟩ := (List.append_cons_inj_of_notMem free keyFree).mp same
  exact ⟨collections, keys⟩

/-- The identifier that a handle is made into begins with the name of the collection and a slash
unless the handle is that of a collection whose name properly ends in it. -/
theorem prefix_getId_iff {collname handle : Bytes} (name : slash ∉ collname)
    (isHandle : IsHandle handle) :
    collname ++ [slash] <+: getId collname handle ↔ ¬ EndsIn collname handle := by
  have completed : ∀ rest, collname ++ [slash] <+: collname ++ slash :: rest := by
    intro rest
    exact ⟨rest, by simp⟩
  rcases isHandle with bare | ⟨collection, key, collectionFree, keyFree, rfl⟩
  · rw [getId_of_key bare]
    refine iff_of_true (completed handle) ?_
    rintro ⟨collection, key, _, _, rfl, _⟩
    exact bare (List.mem_append_right _ (List.mem_cons_self))
  · rw [getId_of_id name collectionFree keyFree]
    constructor
    · rintro begins ⟨collection', key', _, _, same, suffix, differs⟩
      obtain ⟨rfl, rfl⟩ := id_inj collectionFree keyFree same
      rw [if_pos suffix] at begins
      obtain ⟨rest, split⟩ := begins
      rw [List.append_assoc] at split
      exact differs (id_inj collectionFree keyFree split.symm).1.symm
    · intro other
      split
      · rename_i suffix
        have same : collname = collection := by
          by_contra differs
          exact other ⟨collection, key, collectionFree, keyFree, rfl, suffix, differs⟩
        rw [← same]
        exact completed key
      · exact completed _

/-! ### The paths of the operations -/

/-- The route of an operation on a document handle, its collection and the handle. -/
def Operation.handle : Operation → Option (Bytes × Bytes × Bytes)
  | readDocument collname key | updateDocument collname key _ | deleteDocument collname key
  | existsDocument collname key => some ("/_api/document/", collname, key)
  | readRecord graphname colltype collname documentHandle
  | updateRecord graphname colltype collname documentHandle _
  | deleteRecord graphname colltype collname documentHandle =>
    some (ArangoDBGraphAPI.recordPath graphname colltype [], collname, documentHandle)
  | _ => none

variable {env : Env}

theorem recordPath_eq (graphname colltype rid : Bytes) :
    ArangoDBGraphAPI.recordPath graphname colltype rid =
      ArangoDBGraphAPI.recordPath graphname colltype [] ++ rid := by
  simp [ArangoDBGraphAPI.recordPath]

theorem asks_exchange_path {Value : Type} {request : HttpMessage} {path : Bytes}
    (same : request.header.path = path) (read : HttpMessage → Except Fault Value) :
    (Dialogue.exchange request read).Asks fun rq => rq.header.path = path := by
  let property (rq : HttpMessage) : Prop := rq.header.path = path
  have asked : property request := same
  exact Dialogue.asks_exchange asked read

/-- The path of every request of such an operation is its route and the identifier. -/
theorem asks_handle_path (batchSize : Int32) (turns : Nat) {operation : Operation}
    {route collname handle : Bytes} (takes : operation.handle = some (route, collname, handle)) :
    (operation.program env batchSize turns).Asks fun rq =>
      rq.header.path = route ++ getId collname handle := by
  cases operation <;> cases takes
  case readDocument => exact Operation.asks_discard (asks_exchange_path rfl _)
  case existsDocument => exact Operation.asks_discard (asks_exchange_path rfl _)
  case deleteDocument => exact Operation.asks_discard ((asks_exchange_path rfl _).bind fun _ =>
    trivial)
  case updateDocument =>
    exact Operation.asks_discard (asks_writeDocument _ _ _ _ _ _ _ fun _ _ => rfl)
  case readRecord => exact Operation.asks_discard (asks_exchange_path (recordPath_eq _ _ _) _)
  case updateRecord =>
    exact Operation.asks_discard (asks_writeDocument _ _ _ _ _ _ _ fun _ _ => recordPath_eq _ _ _)
  case deleteRecord =>
    exact Operation.asks_discard
      ((asks_exchange_path (recordPath_eq _ _ _) _).bind fun _ => trivial)

/-! ### The collections that are addressed -/

/-- The request goes to a document of a collection, behind a route. -/
def Transmission.Addresses (sent : Transmission) (connectData : ArangoDBConnection)
    (route collname : Bytes) : Prop :=
  ∃ key, sent.url = connectData.fullURL (route ++ (collname ++ slash :: key))

/-- Every request of every operation that takes a handle of a collection addresses it. -/
def AddressesOnly (env : Env) (connectData : ArangoDBConnection) (collname handle : Bytes) :
    Prop :=
  ∀ (operation : Operation) (route : Bytes) (batchSize : Int32) (turns : Nat),
    operation.handle = some (route, collname, handle) →
      (conduct env .base connectData (operation.program env batchSize turns)).Asks fun sent =>
        sent.Addresses connectData route collname

theorem addressesOnly_iff (lawful : env.vpack.Lawful) (connectData : ArangoDBConnection)
    (collname handle : Bytes) :
    AddressesOnly env connectData collname handle ↔
      collname ++ [slash] <+: getId collname handle := by
  constructor
  · intro addresses
    have asks := addresses (.readDocument collname handle) "/_api/document/" 0 0 rfl
    have encoded := encode_createREQUEST lawful .base connectData (Or.inl rfl)
      (text "/_api/document/" ++ getId collname handle)
    rw [Operation.conduct_eq_through lawful (Operation.asks_program lawful _ _ _)] at asks
    have asked := ((congrArg (Dialogue.Asks _) (Dialogue.through_ask_of_ok encoded _)).mp asks).1
    obtain ⟨key, url⟩ := asked
    have path := List.append_cancel_left (url.symm.trans (encode_eq_ok encoded).1)
    have identifier := List.append_cancel_left path
    exact ⟨key, by rw [List.append_assoc]; exact identifier⟩
  · rintro ⟨key, split⟩ operation route batchSize turns takes
    rw [Operation.conduct_eq_through lawful (Operation.asks_program lawful _ _ _)]
    refine (asks_handle_path batchSize turns takes).through fun rq sent path encoded => ⟨key, ?_⟩
    rw [(encode_eq_ok encoded).1, path, ← split, List.append_assoc]
    rfl

/-- The operations that are given a collection and a document handle address documents of that
collection only, exactly when the handle is not the identifier of a document of another
collection whose name ends in the given one. -/
theorem addresses_collection_iff (lawful : env.vpack.Lawful) (connectData : ArangoDBConnection)
    {collname handle : Bytes} (name : slash ∉ collname) (isHandle : IsHandle handle) :
    (collname ++ [slash] <+: getId collname handle ↔ ¬ EndsIn collname handle) ∧
      (AddressesOnly env connectData collname handle ↔ ¬ EndsIn collname handle) :=
  ⟨prefix_getId_iff name isHandle,
    (addressesOnly_iff lawful connectData collname handle).trans (prefix_getId_iff name isHandle)⟩

/-- The identifier of a document of an unrelated collection. -/
theorem addresses_collection_iff_unrelated :
    let env : Env := ⟨.simple [], true, true, [], false⟩
    (text "b" ++ [slash] <+: getId "b" "ac/k" ↔ ¬ EndsIn "b" "ac/k") ∧
      (AddressesOnly env .default "b" "ac/k" ↔ ¬ EndsIn "b" "ac/k") :=
  addresses_collection_iff (Velocypack.simple_lawful []) .default (by decide)
    (Or.inr ⟨"ac", "k", by decide, by decide, rfl⟩)

/-- The identifier of a document of the collection `ab` is kept when `b` is the collection, and
the operations address the document. -/
theorem not_addresses_suffix :
    let env : Env := ⟨.simple [], true, true, [], false⟩
    ¬ text "b" ++ [slash] <+: getId "b" "ab/k" ∧
      ¬ AddressesOnly env .default "b" "ab/k" := by
  have other : ¬ text "b" ++ [slash] <+: getId "b" "ab/k" := by decide
  exact ⟨other, fun addresses =>
    other ((addressesOnly_iff (Velocypack.simple_lawful []) .default "b" "ab/k").mp addresses)⟩

end ArangoCpp
