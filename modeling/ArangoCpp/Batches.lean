/-
This file says which keys the two batch operations send for a list of document handles.

`removeByKeys` makes a key of every handle, with `getKey`; `lookupByKeys` sends the handles as they
are. `getKey` looks for the name of the collection and a slash anywhere in a handle, and cuts
that many bytes from its front. So it makes the key of an identifier of the collection, and
garbles a handle in which they occur further back. What is sent is read off the one value that
the request holds.
-/

import ArangoCpp.Handles

namespace ArangoCpp

variable {env : Env}

/-! ### Lists of keys -/

/-- The request holds an object with these keys. -/
def HttpMessage.CarriesKeys (env : Env) (rq : HttpMessage) (keys : List Bytes) : Prop :=
  ∃ value, rq.Holds env value ∧ value.get "keys" = .ok (.array (keys.map Slice.string))

/-- The program sends one request, which carries these keys. -/
def SendsKeys (env : Env) {Value : Type} (program : Api Value) (keys : List Bytes) : Prop :=
  ∃ rq next, program = .ask rq next ∧ (∀ reply, (next reply).Silent) ∧ rq.CarriesKeys env keys

theorem string_injective : Function.Injective Slice.string := by
  intro first second same
  injection same

/-- A message holds the bytes of one value only. -/
theorem HttpMessage.Holds.unique (lawful : env.vpack.Lawful) {message : HttpMessage}
    {first second : Slice} (holds : message.Holds env first) (other : message.Holds env second) :
    first = second := by
  have value := (holds.reads lawful).value
  rw [(other.reads lawful).value] at value
  exact value.symm

/-- A query that is sent carries the keys that stand in it. -/
theorem sendsKeys_exchangeQuery_iff (lawful : env.vpack.Lawful) {Value : Type} (verb : RestVerb)
    (path : Bytes) {query : Slice} (read : HttpMessage → Except Fault Value)
    {sent keys : List Bytes} (represented : query.Represented)
    (member : query.get "keys" = .ok (.array (sent.map Slice.string))) :
    SendsKeys env (exchangeQuery env verb path query read) keys ↔ keys = sent := by
  have holds := @holds_createREQUESTWith env verb path query represented
  rw [exchangeQuery_eq]
  constructor
  · rintro ⟨rq, next, asked, _, value, held, carried⟩
    injection asked with same
    rw [← same] at held
    rw [held.unique lawful holds, member] at carried
    injection carried with carried
    injection carried with carried
    exact (string_injective.list_map carried).symm
  · intro same
    refine ⟨_, _, rfl, fun reply => ?_, query, holds, same ▸ member⟩
    exact (Dialogue.asks_ofExcept _).bind fun _ => Dialogue.asks_ofExcept _

/-! ### The key of a handle -/

/-- The key of an identifier of the collection, and any other handle as it is. -/
def keyOf (collname handle : Bytes) : Bytes :=
  if collname ++ [slash] <+: handle then handle.drop (collname.length + 1) else handle

theorem keyOf_of_id (collname key : Bytes) : keyOf collname (collname ++ slash :: key) = key := by
  have split : collname ++ slash :: key = (collname ++ [slash]) ++ key := by simp
  rw [keyOf, split, if_pos (List.prefix_append _ _), List.drop_left' (by simp)]

/-- Wherever the name and a slash occur, `getKey` cuts the front. -/
theorem getKey_eq (collname handle : Bytes) :
    getKey collname handle =
      if collname ++ [slash] <:+: handle then handle.drop (collname.length + 1) else handle := by
  have found := Text.find_isSome_iff (collname ++ [slash]) handle
  simp only [getKey, text_slash, found, List.length_append, List.length_singleton]

/-- The front is not cut wrongly exactly when the name and a slash occur at it if they occur. -/
theorem getKey_eq_keyOf_iff (collname handle : Bytes) :
    getKey collname handle = keyOf collname handle ↔
      (collname ++ [slash] <:+: handle → collname ++ [slash] <+: handle) := by
  rw [getKey_eq, keyOf]
  by_cases occurs : collname ++ [slash] <:+: handle
  · by_cases begins : collname ++ [slash] <+: handle
    · rw [if_pos occurs, if_pos begins]
      exact iff_of_true rfl fun _ => begins
    · rw [if_pos occurs, if_neg begins]
      refine iff_of_false (fun same => ?_) fun implies => begins (implies occurs)
      have length := congrArg List.length same
      have long := occurs.length_le
      rw [List.length_append, List.length_singleton] at long
      rw [List.length_drop] at length
      omega
  · have begins : ¬ collname ++ [slash] <+: handle := fun begins => occurs begins.isInfix
    rw [if_neg occurs, if_neg begins]
    exact iff_of_true rfl fun found => absurd found occurs

/-! ### What the batch operations send -/

section

variable (lawful : env.vpack.Lawful) (collname : Bytes) (handles : List Bytes)

include lawful

theorem sendsKeys_removeByKeys_iff (keys : List Bytes) :
    SendsKeys env (ArangoDBCollectionAPI.removeByKeys env collname handles) keys ↔
      keys = handles.map (getKey collname) := by
  refine sendsKeys_exchangeQuery_iff lawful _ _ _ (by simp) ?_
  rw [List.map_map]
  rfl

theorem sendsKeys_lookupByKeys_iff {State : Type} (setfnc : State → Bytes → State) (state : State)
    (keys : List Bytes) :
    SendsKeys env (ArangoDBCollectionAPI.lookupByKeys env collname handles setfnc state) keys ↔
      keys = handles :=
  sendsKeys_exchangeQuery_iff lawful _ _ _ (by simp) rfl

/-- `removeByKeys` sends the keys of the handles, in their order, exactly when no handle has the
name of the collection and a slash anywhere else than at its front. -/
theorem removeByKeys_sends_iff :
    SendsKeys env (ArangoDBCollectionAPI.removeByKeys env collname handles)
        (handles.map (keyOf collname)) ↔
      ∀ handle ∈ handles, collname ++ [slash] <:+: handle → collname ++ [slash] <+: handle := by
  rw [sendsKeys_removeByKeys_iff lawful, eq_comm, List.map_inj_left]
  simp only [getKey_eq_keyOf_iff]

end

/-- A handle of another collection in which the name occurs further back loses its front. -/
theorem not_removeByKeys_sends_other :
    let env : Env := ⟨.simple [], true, true, [], false⟩
    ¬ SendsKeys env (ArangoDBCollectionAPI.removeByKeys env "b" ["ab/k"])
      ([text "ab/k"].map (keyOf "b")) := by
  intro env sends
  have same := (sendsKeys_removeByKeys_iff (Velocypack.simple_lawful []) _ _ _).mp sends
  revert same
  decide

/-- The removal of one document by its identifier. -/
theorem removeByKeys_sends_iff_id :
    let env : Env := ⟨.simple [], true, true, [], false⟩
    SendsKeys env (ArangoDBCollectionAPI.removeByKeys env "b" ["b/k"])
        ([text "b/k"].map (keyOf "b")) ↔
      ∀ handle ∈ [text "b/k"], text "b" ++ [slash] <:+: handle → text "b" ++ [slash] <+: handle :=
  removeByKeys_sends_iff (Velocypack.simple_lawful []) "b" ["b/k"]

/-! ### The same handles for both -/

/-- A handle of the collection: a bare key, or the identifier that `createDocument` returns. -/
def IsHandleOf (collname handle : Bytes) : Prop :=
  slash ∉ handle ∨ ∃ key, slash ∉ key ∧ handle = collname ++ slash :: key

theorem getKey_of_bare {collname key : Bytes} (bare : slash ∉ key) : getKey collname key = key := by
  rw [getKey_eq, if_neg (Text.not_infix_of_separator bare)]

/-- Of a handle of the collection the key is taken unless it is one. -/
theorem getKey_eq_self_iff {collname handle : Bytes} (own : IsHandleOf collname handle) :
    getKey collname handle = handle ↔ slash ∉ handle := by
  rcases own with bare | ⟨key, _, rfl⟩
  · exact iff_of_true (getKey_of_bare bare) bare
  · have begins : collname ++ [slash] <+: collname ++ slash :: key := ⟨key, by simp⟩
    refine iff_of_false (fun same => ?_) fun bare => bare (by simp)
    rw [(getKey_eq_keyOf_iff _ _).mpr fun _ => begins, keyOf_of_id] at same
    have length := congrArg List.length same
    rw [List.length_append, List.length_cons] at length
    omega

/-- The two batch operations send the same keys exactly when every handle is a key. -/
theorem lookupByKeys_removeByKeys_iff (lawful : env.vpack.Lawful) {collname : Bytes}
    {handles : List Bytes} (own : ∀ handle ∈ handles, IsHandleOf collname handle) {State : Type}
    (setfnc : State → Bytes → State) (state : State) :
    (∃ keys, SendsKeys env
        (ArangoDBCollectionAPI.lookupByKeys env collname handles setfnc state) keys ∧
      SendsKeys env (ArangoDBCollectionAPI.removeByKeys env collname handles) keys) ↔
      ∀ handle ∈ handles, slash ∉ handle := by
  simp only [sendsKeys_lookupByKeys_iff lawful, sendsKeys_removeByKeys_iff lawful,
    exists_eq_left]
  constructor
  · intro same handle member
    have kept : getKey collname handle = handle := by
      have each := List.map_inj_left.mp (same.symm.trans (List.map_id handles).symm)
      exact each handle member
    exact (getKey_eq_self_iff (own handle member)).mp kept
  · intro bare
    have each : ∀ handle ∈ handles, getKey collname handle = handle := fun handle member =>
      getKey_of_bare (bare handle member)
    rw [List.map_congr_left each, List.map_id']

/-- Two documents that are given by their keys. -/
theorem lookupByKeys_removeByKeys_iff_bare :
    let env : Env := ⟨.simple [], true, true, [], false⟩
    (∃ keys, SendsKeys env (ArangoDBCollectionAPI.lookupByKeys env "b" ["k", "l"]
        (fun (found : Nat) _ => found + 1) 0) keys ∧
      SendsKeys env (ArangoDBCollectionAPI.removeByKeys env "b" ["k", "l"]) keys) ↔
      ∀ handle ∈ [text "k", text "l"], slash ∉ handle := by
  refine lookupByKeys_removeByKeys_iff (Velocypack.simple_lawful []) ?_ _ _
  intro handle member
  rcases List.mem_pair.mp member with rfl | rfl <;> exact Or.inl (by decide)

/-- A document that is given by its identifier. -/
theorem not_lookupByKeys_removeByKeys_id :
    let env : Env := ⟨.simple [], true, true, [], false⟩
    IsHandleOf "b" "b/k" ∧
      ¬ ∃ keys, SendsKeys env (ArangoDBCollectionAPI.lookupByKeys env "b" ["b/k"]
          (fun (found : Nat) _ => found + 1) 0) keys ∧
        SendsKeys env (ArangoDBCollectionAPI.removeByKeys env "b" ["b/k"]) keys := by
  intro env
  refine ⟨Or.inr ⟨"k", by decide, rfl⟩, ?_⟩
  rintro ⟨keys, looked, removed⟩
  have lawful : env.vpack.Lawful := Velocypack.simple_lawful []
  have given := (sendsKeys_lookupByKeys_iff lawful _ _ _ _ _).mp looked
  have made := (sendsKeys_removeByKeys_iff lawful _ _ _).mp removed
  rw [given] at made
  revert made
  decide

end ArangoCpp
