/-
This file is a small theory of custody. Handles are made, pass between a common pool and
holders, and are dropped at the end of their life. Nothing is said of what a handle is for.

Four moves change custody: a holder is given a handle made for it, takes the first one of the
pool, gives its handle back, or drops it. The invariant `Exclusive` says that no handle is
in two places; it holds of the empty custody and every move keeps it. What follows from it is
that every handle that was made and not dropped has exactly one owner.
-/

import Mathlib.Data.List.Nodup
import Mathlib.Data.Set.Insert
import Mathlib.Logic.Function.Basic
import Mathlib.Logic.Relation

structure Custody (Holder Handle : Type) where
  pool : List Handle
  held : Holder → Option Handle
  made : Set Handle
  dropped : Set Handle

namespace Custody

variable {Holder Handle : Type}

/-- Nothing has been made yet. -/
def empty : Custody Holder Handle := ⟨[], fun _ => none, ∅, ∅⟩

/-- A place where a handle can be. -/
inductive Owner (Holder : Type) : Type where
  | slot (index : Nat)
  | holder (holder : Holder)

def Owns (custody : Custody Holder Handle) : Owner Holder → Handle → Prop
  | .slot index, handle => custody.pool[index]? = some handle
  | .holder holder, handle => custody.held holder = some handle

/-- A handle is live from when it is made until it is dropped. -/
def Live (custody : Custody Holder Handle) (handle : Handle) : Prop :=
  handle ∈ custody.made ∧ handle ∉ custody.dropped

section

variable [DecidableEq Holder]

/-- One move. -/
inductive Step : Custody Holder Handle → Custody Holder Handle → Prop where
  | make (custody : Custody Holder Handle) (holder : Holder) (handle : Handle)
      (idle : custody.held holder = none) (unmade : handle ∉ custody.made) :
      Step custody { custody with
        held := Function.update custody.held holder (some handle)
        made := insert handle custody.made }
  | take (custody : Custody Holder Handle) (holder : Holder) (handle : Handle)
      (rest : List Handle) (idle : custody.held holder = none)
      (front : custody.pool = handle :: rest) :
      Step custody { custody with
        pool := rest
        held := Function.update custody.held holder (some handle) }
  | give (custody : Custody Holder Handle) (holder : Holder) (handle : Handle)
      (holds : custody.held holder = some handle) :
      Step custody { custody with
        pool := handle :: custody.pool
        held := Function.update custody.held holder none }
  | drop (custody : Custody Holder Handle) (holder : Holder) (handle : Handle)
      (holds : custody.held holder = some handle) :
      Step custody { custody with
        held := Function.update custody.held holder none
        dropped := insert handle custody.dropped }

/-- What any number of moves can lead to. -/
abbrev Reachable (custody : Custody Holder Handle) : Prop :=
  Relation.ReflTransGen Step empty custody

end

/-- No handle is in two places, and the live ones are in one. -/
structure Exclusive (custody : Custody Holder Handle) : Prop where
  pooledOnce : custody.pool.Nodup
  apart : ∀ holder, ∀ handle ∈ custody.pool, custody.held holder ≠ some handle
  heldOnce : ∀ first second handle,
    custody.held first = some handle → custody.held second = some handle → first = second
  live_iff : ∀ handle,
    custody.Live handle ↔ handle ∈ custody.pool ∨ ∃ holder, custody.held holder = some handle
  dropped_made : custody.dropped ⊆ custody.made

theorem exclusive_empty : (empty : Custody Holder Handle).Exclusive where
  pooledOnce := List.nodup_nil
  apart _ _ member := absurd member List.not_mem_nil
  heldOnce _ _ _ holds := by cases holds
  live_iff handle := by simp [Live, empty]
  dropped_made := Set.Subset.rfl

theorem Exclusive.live_of_pool {custody : Custody Holder Handle} (exclusive : custody.Exclusive)
    {handle : Handle} (pooled : handle ∈ custody.pool) : custody.Live handle :=
  (exclusive.live_iff handle).mpr (Or.inl pooled)

theorem Exclusive.live_of_held {custody : Custody Holder Handle} (exclusive : custody.Exclusive)
    {holder : Holder} {handle : Handle} (holds : custody.held holder = some handle) :
    custody.Live handle :=
  (exclusive.live_iff handle).mpr (Or.inr ⟨holder, holds⟩)

/-- Every live handle has exactly one owner. -/
theorem Exclusive.existsUnique_owner {custody : Custody Holder Handle}
    (exclusive : custody.Exclusive) {handle : Handle} (live : custody.Live handle) :
    ∃! owner, custody.Owns owner handle := by
  rcases (exclusive.live_iff handle).mp live with pooled | ⟨holder, holds⟩
  · obtain ⟨index, bound, found⟩ := List.getElem_of_mem pooled
    refine ⟨.slot index, List.getElem?_eq_some_iff.mpr ⟨bound, found⟩, fun owner owns => ?_⟩
    cases owner with
    | slot other =>
      obtain ⟨otherBound, otherFound⟩ := List.getElem?_eq_some_iff.mp owns
      exact congrArg Owner.slot
        ((exclusive.pooledOnce.getElem_inj_iff).mp (otherFound.trans found.symm))
    | holder holder => exact absurd owns (exclusive.apart holder handle pooled)
  · refine ⟨.holder holder, holds, fun owner owns => ?_⟩
    cases owner with
    | slot index => exact absurd holds (exclusive.apart holder handle (List.mem_of_getElem? owns))
    | holder other => exact congrArg Owner.holder (exclusive.heldOnce _ _ handle owns holds)

variable [DecidableEq Holder]

/-- Giving a holder without a handle one that nobody has, and that the pool has lost. -/
theorem Exclusive.receive {custody : Custody Holder Handle} (exclusive : custody.Exclusive)
    {holder : Holder} {handle : Handle} {pool : List Handle} {made : Set Handle}
    (idle : custody.held holder = none) (nodup : pool.Nodup) (gone : handle ∉ pool)
    (unheld : ∀ other, custody.held other ≠ some handle)
    (left : ∀ other ∈ pool, other ∈ custody.pool)
    (live : ∀ other, (other ∈ made ∧ other ∉ custody.dropped) ↔
      other = handle ∨ other ∈ pool ∨ ∃ holder, custody.held holder = some other)
    (dropped : custody.dropped ⊆ made) :
    Exclusive { custody with
      pool, held := Function.update custody.held holder (some handle), made } where
  pooledOnce := nodup
  apart other pooled member := by
    simp only [Function.update_apply]
    split
    · rintro ⟨⟩
      exact gone member
    · exact exclusive.apart other pooled (left pooled member)
  heldOnce first second other := by
    simp only [Function.update_apply]
    intro firstHolds secondHolds
    split at firstHolds <;> split at secondHolds
    · rename_i same same'
      exact same.trans same'.symm
    · cases firstHolds
      exact absurd secondHolds (unheld second)
    · cases secondHolds
      exact absurd firstHolds (unheld first)
    · exact exclusive.heldOnce first second other firstHolds secondHolds
  live_iff other := by
    refine (live other).trans ?_
    constructor
    · rintro (rfl | pooled | ⟨owner, holds⟩)
      · exact Or.inr ⟨holder, Function.update_self ..⟩
      · exact Or.inl pooled
      · refine Or.inr ⟨owner, ?_⟩
        refine (Function.update_of_ne ?_ _ _).trans holds
        rintro rfl
        rw [idle] at holds
        cases holds
    · rintro (pooled | ⟨owner, holds⟩)
      · exact Or.inr (Or.inl pooled)
      · simp only [Function.update_apply] at holds
        split at holds
        · cases holds
          exact Or.inl rfl
        · exact Or.inr (Or.inr ⟨owner, holds⟩)
  dropped_made := dropped

/-- Taking its handle from a holder, and putting it into the pool or dropping it. -/
theorem Exclusive.release {custody : Custody Holder Handle} (exclusive : custody.Exclusive)
    {holder : Holder} {handle : Handle} {pool : List Handle} {dropped : Set Handle}
    (holds : custody.held holder = some handle) (nodup : pool.Nodup)
    (remained : ∀ other ∈ pool, other = handle ∨ other ∈ custody.pool)
    (live : ∀ other, (other ∈ custody.made ∧ other ∉ dropped) ↔
      other ∈ pool ∨ (other ≠ handle ∧ ∃ holder, custody.held holder = some other))
    (made : dropped ⊆ custody.made) :
    Exclusive { custody with
      pool, held := Function.update custody.held holder none, dropped } where
  pooledOnce := nodup
  apart other pooled member := by
    simp only [Function.update_apply]
    split
    · rintro ⟨⟩
    · rename_i different
      intro otherHolds
      rcases remained pooled member with rfl | inPool
      · exact different (exclusive.heldOnce other holder pooled otherHolds holds)
      · exact exclusive.apart other pooled inPool otherHolds
  heldOnce first second other := by
    simp only [Function.update_apply]
    intro firstHolds secondHolds
    split at firstHolds
    · cases firstHolds
    · split at secondHolds
      · cases secondHolds
      · exact exclusive.heldOnce first second other firstHolds secondHolds
  live_iff other := by
    refine (live other).trans (or_congr Iff.rfl ?_)
    constructor
    · rintro ⟨different, owner, ownerHolds⟩
      refine ⟨owner, ?_⟩
      refine (Function.update_of_ne ?_ _ _).trans ownerHolds
      rintro rfl
      rw [holds] at ownerHolds
      cases ownerHolds
      exact different rfl
    · rintro ⟨owner, ownerHolds⟩
      simp only [Function.update_apply] at ownerHolds
      split at ownerHolds
      · cases ownerHolds
      · rename_i different
        refine ⟨?_, owner, ownerHolds⟩
        rintro rfl
        exact different (exclusive.heldOnce owner holder other ownerHolds holds)
  dropped_made := made

/-- Every move keeps the invariant. -/
theorem Exclusive.step {custody next : Custody Holder Handle} (exclusive : custody.Exclusive)
    (move : Step custody next) : next.Exclusive := by
  cases move with
  | make holder handle idle unmade =>
    refine exclusive.receive idle exclusive.pooledOnce
      (fun pooled => unmade (exclusive.live_of_pool pooled).1)
      (fun other holds => unmade (exclusive.live_of_held holds).1)
      (fun _ member => member) (fun other => ?_)
      (exclusive.dropped_made.trans (Set.subset_insert _ _))
    rw [Set.mem_insert_iff, ← exclusive.live_iff, Live]
    constructor
    · rintro ⟨rfl | made, undropped⟩
      · exact Or.inl rfl
      · exact Or.inr ⟨made, undropped⟩
    · rintro (rfl | ⟨made, undropped⟩)
      · exact ⟨Or.inl rfl, fun dropped => unmade (exclusive.dropped_made dropped)⟩
      · exact ⟨Or.inr made, undropped⟩
  | take holder handle rest idle front =>
    have nodup := exclusive.pooledOnce
    rw [front, List.nodup_cons] at nodup
    refine exclusive.receive idle nodup.2 nodup.1
      (fun other => exclusive.apart other handle (by rw [front]; exact List.mem_cons_self))
      (fun other member => by rw [front]; exact List.mem_cons_of_mem _ member) (fun other => ?_)
      exclusive.dropped_made
    rw [← Live, exclusive.live_iff, front, List.mem_cons, or_assoc]
  | give holder handle holds =>
    refine exclusive.release holds
      (List.nodup_cons.mpr ⟨fun member => exclusive.apart holder handle member holds,
        exclusive.pooledOnce⟩)
      (fun other member => List.mem_cons.mp member) (fun other => ?_) exclusive.dropped_made
    rw [← Live, exclusive.live_iff, List.mem_cons]
    by_cases same : other = handle
    · subst same
      exact iff_of_true (Or.inr ⟨holder, holds⟩) (Or.inl (Or.inl rfl))
    · simp only [same, false_or, ne_eq, not_false_eq_true, true_and]
  | drop holder handle holds =>
    have live := exclusive.live_of_held holds
    refine exclusive.release holds exclusive.pooledOnce (fun other member => Or.inr member)
      (fun other => ?_) (Set.insert_subset live.1 exclusive.dropped_made)
    rw [Set.mem_insert_iff, not_or, and_left_comm, ← Live, exclusive.live_iff]
    by_cases same : other = handle
    · subst same
      refine iff_of_false (fun both => both.1 rfl) ?_
      rintro (pooled | ⟨different, _⟩)
      · exact exclusive.apart holder other pooled holds
      · exact different rfl
    · simp only [same, ne_eq, not_false_eq_true, true_and]

theorem exclusive_of_reachable {custody : Custody Holder Handle} (reachable : Reachable custody) :
    custody.Exclusive := by
  induction reachable with
  | refl => exact exclusive_empty
  | tail _ move inductionHypothesis => exact inductionHypothesis.step move

end Custody
