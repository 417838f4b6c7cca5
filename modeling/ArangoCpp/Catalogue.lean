/-
This file builds catalogues: collections under names, each of which is a partial map from keys
to documents. Names, keys and documents are arbitrary types.

Erasing many documents at once is described as a whole, as the map without them and the
number of those that were there. Erasing them one after the other comes to the same, and a
key that is listed twice counts once. Which documents go may also be said of the documents
themselves; what is lost in several steps is then what is lost in any of them.
-/

import Mathlib.Data.Finset.Card
import Mathlib.Data.Finset.Dedup

/-- Collections of documents. -/
abbrev Catalogue (Name Key Document : Type) : Type := Name → Option (Key → Option Document)

namespace Catalogue

variable {Name Key Document : Type}

/-- The document with a key, if the collection and the document are there. -/
def find (name : Name) (key : Key) (catalogue : Catalogue Name Key Document) : Option Document :=
  (catalogue name).bind fun documents => documents key

/-- How many documents are listed and there. -/
def held [DecidableEq Key] (name : Name) (keys : List Key)
    (catalogue : Catalogue Name Key Document) : Nat :=
  (keys.toFinset.filter fun key => (catalogue.find name key).isSome).card

/-- A catalogue loses the documents that are to go and no others. -/
structure Loses (before : Catalogue Name Key Document) (gone : Name → Document → Prop)
    (after : Catalogue Name Key Document) : Prop where
  collections : ∀ name, (after name).isSome = (before name).isSome
  documents : ∀ name key document, after.find name key = some document ↔
    before.find name key = some document ∧ ¬ gone name document

theorem Loses.congr {before after : Catalogue Name Key Document}
    {gone other : Name → Document → Prop} (loses : before.Loses gone after)
    (same : ∀ name key document, before.find name key = some document →
      (gone name document ↔ other name document)) : before.Loses other after where
  collections := loses.collections
  documents name key document := by
    rw [loses.documents]
    exact and_congr_right fun found => not_congr (same name key document found)

theorem loses_refl (catalogue : Catalogue Name Key Document) :
    catalogue.Loses (fun _ _ => False) catalogue where
  collections _ := rfl
  documents name key document := by rw [not_false_iff, and_true]

/-- Any documents can go. -/
theorem exists_loses (before : Catalogue Name Key Document) (gone : Name → Document → Prop) :
    ∃ after, before.Loses gone after := by
  classical
  refine ⟨fun name => (before name).map fun documents key =>
    (documents key).filter fun document => decide (¬ gone name document), fun name => ?_,
    fun name key document => ?_⟩
  · exact Option.isSome_map
  · cases held : before name with
    | none => simp [find, held]
    | some documents => simp [find, held]

/-- Documents that go in two steps. -/
theorem Loses.trans {before between after : Catalogue Name Key Document}
    {first second : Name → Document → Prop} (loses : before.Loses first between)
    (later : between.Loses second after) :
    before.Loses (fun name document => first name document ∨ second name document) after where
  collections name := (later.collections name).trans (loses.collections name)
  documents name key document := by
    rw [later.documents, loses.documents, and_assoc, not_or]

/-- A document is in a collection. -/
theorem isSome_of_find {name : Name} {key : Key} {document : Document}
    {catalogue : Catalogue Name Key Document} (found : catalogue.find name key = some document) :
    (catalogue name).isSome = true := by
  obtain ⟨documents, held, _⟩ := Option.bind_eq_some_iff.mp found
  exact Option.isSome_of_mem held

theorem held_le [DecidableEq Key] (name : Name) (keys : List Key)
    (catalogue : Catalogue Name Key Document) : catalogue.held name keys ≤ keys.length :=
  (Finset.card_filter_le _ _).trans (List.toFinset_card_le keys)

variable [DecidableEq Name]

/-- Change a collection that is there. -/
def change (name : Name) (revised : (Key → Option Document) → Key → Option Document)
    (catalogue : Catalogue Name Key Document) : Catalogue Name Key Document :=
  Function.update catalogue name ((catalogue name).map revised)

theorem change_change (name : Name) (first second : (Key → Option Document) → Key → Option Document)
    (catalogue : Catalogue Name Key Document) :
    (catalogue.change name first).change name second = catalogue.change name (second ∘ first) := by
  simp only [change, Function.update_self, Function.update_idem, Option.map_map]

theorem change_id (name : Name) (catalogue : Catalogue Name Key Document) :
    catalogue.change name id = catalogue := by
  rw [change, Option.map_id, id, Function.update_eq_self]

variable [DecidableEq Key]

def put (name : Name) (key : Key) (document : Document)
    (catalogue : Catalogue Name Key Document) : Catalogue Name Key Document :=
  catalogue.change name fun documents => Function.update documents key (some document)

def erase (name : Name) (key : Key) (catalogue : Catalogue Name Key Document) :
    Catalogue Name Key Document :=
  catalogue.change name fun documents => Function.update documents key none

theorem find_put (name : Name) (key : Key) (document : Document)
    {catalogue : Catalogue Name Key Document} (collection : (catalogue name).isSome = true) :
    (catalogue.put name key document).find name key = some document := by
  obtain ⟨documents, held⟩ := Option.isSome_iff_exists.mp collection
  rw [find, put, change, Function.update_self, held, Option.map_some, Option.bind_some,
    Function.update_self]

/-! ### Erasing many documents -/

/-- The catalogue without the listed documents. -/
def eraseAll (name : Name) (keys : List Key) (catalogue : Catalogue Name Key Document) :
    Catalogue Name Key Document :=
  catalogue.change name fun documents key => if key ∈ keys then none else documents key

/-- Erase the listed documents one after the other, and count those that were there and those that
were not. -/
def eraseEach (name : Name) :
    List Key → Catalogue Name Key Document → Catalogue Name Key Document × Nat × Nat
  | [], catalogue => (catalogue, 0, 0)
  | key :: keys, catalogue =>
    let (after, erased, absent) := eraseEach name keys (catalogue.erase name key)
    if (catalogue.find name key).isSome then (after, erased + 1, absent)
    else (after, erased, absent + 1)

theorem find_erase (name : Name) (key other : Key) (catalogue : Catalogue Name Key Document) :
    (catalogue.erase name key).find name other =
      if other = key then none else catalogue.find name other := by
  rw [find, erase, change, Function.update_self]
  cases found : catalogue name with
  | none => simp [find, found]
  | some documents => simp [find, found, Function.update_apply]

theorem eraseAll_nil (name : Name) (catalogue : Catalogue Name Key Document) :
    catalogue.eraseAll name [] = catalogue := by
  have same : (fun (documents : Key → Option Document) key =>
      if key ∈ ([] : List Key) then none else documents key) = id := by
    funext documents key
    rw [if_neg List.not_mem_nil, id]
  rw [eraseAll, same, change_id]

theorem eraseAll_cons (name : Name) (key : Key) (keys : List Key)
    (catalogue : Catalogue Name Key Document) :
    catalogue.eraseAll name (key :: keys) = (catalogue.erase name key).eraseAll name keys := by
  rw [eraseAll, eraseAll, erase, change_change]
  refine congrArg (fun revised => catalogue.change name revised) ?_
  funext documents other
  rw [Function.comp, Function.update_apply]
  by_cases same : other = key
  · rw [if_pos (same ▸ List.mem_cons_self), if_pos same, ite_self]
  · simp only [List.mem_cons, same, false_or, if_false]

/-- A document that has been erased is not counted again. -/
theorem held_cons (name : Name) (key : Key) (keys : List Key)
    (catalogue : Catalogue Name Key Document) :
    catalogue.held name (key :: keys) = (catalogue.erase name key).held name keys +
      if (catalogue.find name key).isSome then 1 else 0 := by
  have rest : (keys.toFinset.filter fun other =>
        ((catalogue.erase name key).find name other).isSome) =
      (keys.toFinset.filter fun other => (catalogue.find name other).isSome).erase key := by
    ext other
    rw [Finset.mem_filter, Finset.mem_erase, Finset.mem_filter, find_erase]
    by_cases same : other = key
    · simp [same]
    · simp [same]
  rw [held, held, rest, List.toFinset_cons, Finset.filter_insert]
  by_cases present : (catalogue.find name key).isSome = true
  · rw [if_pos present, if_pos present, ← Finset.erase_insert_eq_erase,
      Finset.card_erase_add_one (Finset.mem_insert_self key _)]
  · rw [if_neg present, if_neg present, Nat.add_zero, Finset.erase_eq_of_notMem]
    exact fun member => present (Finset.mem_filter.mp member).2

theorem eraseEach_eq (name : Name) (keys : List Key) (catalogue : Catalogue Name Key Document) :
    catalogue.eraseEach name keys = (catalogue.eraseAll name keys, catalogue.held name keys,
      keys.length - catalogue.held name keys) := by
  induction keys generalizing catalogue with
  | nil => rw [eraseEach, eraseAll_nil, held]; rfl
  | cons key keys inductionHypothesis =>
    have bound := (catalogue.erase name key).held_le name keys
    rw [eraseEach, inductionHypothesis, eraseAll_cons, held_cons]
    by_cases present : (catalogue.find name key).isSome = true
    · simp only [if_pos present, List.length_cons, Nat.add_sub_add_right]
    · simp only [if_neg present, List.length_cons, Nat.add_zero, Nat.succ_sub bound]

end Catalogue
