/-
This file models threads that share the pool of request objects, and proves that they do not
get in each other's way.

Every thread runs `sendREQUEST` again and again: it gets an object from the pool, sets its
credentials, sends a request, reads the response and returns the object. The two pool
operations are atomic, since they hold the pool's mutex. A transfer is finer grained than
one step, because libcurl calls back for each header line and each piece of body, and other
threads move in between. An exception may end any step that a thread takes with an object;
the object is destroyed by the pointer that owns it.

Who has which object is a matter of custody, and the threads simulate the moves of
`Custody`: the pool never holds or hands out a null pointer, and a live object has one owner.
What is in an object is then changed by its owner alone, so the credentials of a transfer
are those of the thread that performs it and a response is the response to what the same
thread received last.
-/

import ArangoCpp.Curl
import ArangoCpp.Custody

namespace ArangoCpp

/-! ### The pool -/

/-- The objects of the heap and the stack of owning pointers, the top first. -/
structure CurlPool where
  heap : Nat → Option RequestCurlObject
  fresh : Nat
  stack : List (Option Nat)

namespace CurlPool

def empty : CurlPool := ⟨fun _ => none, 0, []⟩

/-- `get_resource`: releases the pointer on top of the stack and pops what is left of it. -/
def getResource (pool : CurlPool) : Option Nat × CurlPool :=
  let pool := if pool.stack = [] then
      { heap := Function.update pool.heap pool.fresh (some .new)
        fresh := pool.fresh + 1
        stack := [some pool.fresh] }
    else pool
  match pool.stack with
  | [] => (none, pool)
  | top :: rest => (top, { pool with stack := rest })

/-- `return_resource`. -/
def returnResource (pointer : Option Nat) (pool : CurlPool) : CurlPool :=
  { pool with stack := pointer :: pool.stack }

/-- The objects with one of them replaced, or destroyed. -/
def set (handle : Nat) (object : Option RequestCurlObject) (pool : CurlPool) : CurlPool :=
  { pool with heap := Function.update pool.heap handle object }

theorem getResource_of_nil {pool : CurlPool} (empty : pool.stack = []) :
    pool.getResource = (some pool.fresh,
      ⟨Function.update pool.heap pool.fresh (some .new), pool.fresh + 1, []⟩) := by
  simp only [getResource, empty, if_true]

theorem getResource_of_cons {pool : CurlPool} {top : Option Nat} {rest : List (Option Nat)}
    (filled : pool.stack = top :: rest) :
    pool.getResource = (top, { pool with stack := rest }) := by
  simp only [getResource, filled, reduceCtorEq, if_false]

/-- Getting an object changes at most the one that is made for it. -/
theorem getResource_heap {pool : CurlPool} {handle : Nat} (old : handle ≠ pool.fresh) :
    pool.getResource.2.heap handle = pool.heap handle := by
  cases stack : pool.stack with
  | nil =>
    rw [getResource_of_nil stack]
    exact Function.update_of_ne old _ _
  | cons top rest => rw [getResource_of_cons stack]

theorem set_heap_of_ne {pool : CurlPool} {handle other : Nat} (different : other ≠ handle)
    (object : Option RequestCurlObject) : (pool.set handle object).heap other = pool.heap other :=
  Function.update_of_ne different _ _

@[simp] theorem set_heap_self (pool : CurlPool) (handle : Nat)
    (object : Option RequestCurlObject) : (pool.set handle object).heap handle = object :=
  Function.update_self ..

/-- Replacing a live object by another one leaves the same objects alive. -/
theorem set_ne_none_iff {pool : CurlPool} {handle : Nat} (live : pool.heap handle ≠ none)
    (object : RequestCurlObject) (other : Nat) :
    (pool.set handle (some object)).heap other ≠ none ↔ pool.heap other ≠ none := by
  simp only [set, Function.update_apply]
  split
  · rename_i same
    subst same
    exact iff_of_true (Option.some_ne_none _) live
  · exact Iff.rfl

end CurlPool

/-! ### Threads -/

/-- What a thread wants sent, and its credentials. -/
structure Job where
  user : Bytes
  password : Bytes
  url : Bytes
  request : HttpMessage

/-- Where a thread stands in `sendREQUEST`. From the start of its transfer on it carries what
the transfer has delivered. -/
inductive Phase : Type where
  | idle
  | holding (job : Job) (pointer : Option Nat)
  | connected (job : Job) (handle : Nat)
  | transferring (job : Job) (handle : Nat) (received : Transfer)
  | sent (job : Job) (handle : Nat) (received : Transfer)
  | answered (job : Job) (handle : Nat)

/-- The object that a thread owns. -/
def Phase.handle : Phase → Option Nat
  | idle => none
  | holding _ pointer => pointer
  | connected _ handle | transferring _ handle _ | sent _ handle _ | answered _ handle =>
    some handle

/-- What the callbacks have written into an object by the time they received this. -/
structure RequestCurlObject.Received (object : RequestCurlObject) (received : Transfer) : Prop where
  headers : object.responseHeaders = received.headers.flatMap (· ++ text ";")
  body : object.responseBody = received.body.flatten

/-- What a thread can rely on finding in the object that it owns. -/
def Phase.Fits (object : RequestCurlObject) : Phase → Prop
  | .idle | .holding _ _ | .answered _ _ => True
  | .connected job _ => object.dbUser = job.user ∧ object.dbPasswd = job.password
  | .transferring _ _ received => object.Received received
  | .sent _ _ received => object.Received received ∧ object.responseCode = received.responseCode

/-- The threads, the pool, and a record of what has happened: the objects on which a step threw,
the transfers that were started, and the responses with what was received for them. -/
structure Threads (Thread : Type) where
  pool : CurlPool
  phase : Thread → Phase
  faulted : Set Nat
  transfers : List (Thread × Job × Transmission)
  responses : List (Thread × Transfer × HttpMessage)

namespace Threads

variable {Thread : Type} [DecidableEq Thread] {env : Env}

def start : Threads Thread := ⟨.empty, fun _ => .idle, ∅, [], []⟩

/-- The threads after one of them has moved on. -/
def move (thread : Thread) (phase : Phase) (pool : CurlPool) (threads : Threads Thread) :
    Threads Thread :=
  { threads with pool, phase := Function.update threads.phase thread phase }

/-- One step of one thread. -/
inductive Step (env : Env) : Threads Thread → Threads Thread → Prop where
  | get (threads : Threads Thread) (thread : Thread) (job : Job) (pointer : Option Nat)
      (pool : CurlPool) (phase : threads.phase thread = .idle)
      (got : threads.pool.getResource = (pointer, pool)) :
      Step env threads (threads.move thread (.holding job pointer) pool)
  | connect (threads : Threads Thread) (thread : Thread) (job : Job) (handle : Nat)
      (object : RequestCurlObject) (phase : threads.phase thread = .holding job (some handle))
      (live : threads.pool.heap handle = some object) :
      Step env threads (threads.move thread (.connected job handle)
        (threads.pool.set handle (some (object.setConnectData job.user job.password))))
  | perform (threads : Threads Thread) (thread : Thread) (job : Job) (handle : Nat)
      (object prepared : RequestCurlObject) (phase : threads.phase thread = .connected job handle)
      (live : threads.pool.heap handle = some object)
      (ready : object.prepare env job.url job.request = (prepared, .ok ())) :
      Step env threads { threads.move thread (.transferring job handle ⟨0, 0, [], []⟩)
          (threads.pool.set handle (some prepared)) with
        transfers := (thread, job, prepared.options.transmission) :: threads.transfers }
  | header (threads : Threads Thread) (thread : Thread) (job : Job) (handle : Nat)
      (object : RequestCurlObject) (received : Transfer) (data : Bytes)
      (phase : threads.phase thread = .transferring job handle received)
      (live : threads.pool.heap handle = some object) :
      Step env threads (threads.move thread
        (.transferring job handle { received with headers := received.headers ++ [data] })
        (threads.pool.set handle (some (object.headerCallback data))))
  | body (threads : Threads Thread) (thread : Thread) (job : Job) (handle : Nat)
      (object : RequestCurlObject) (received : Transfer) (data : Bytes)
      (phase : threads.phase thread = .transferring job handle received)
      (live : threads.pool.heap handle = some object) :
      Step env threads (threads.move thread
        (.transferring job handle { received with body := received.body ++ [data] })
        (threads.pool.set handle (some (object.bodyCallback data))))
  | finish (threads : Threads Thread) (thread : Thread) (job : Job) (handle : Nat)
      (object : RequestCurlObject) (received : Transfer) (curlCode responseCode : Nat)
      (phase : threads.phase thread = .transferring job handle received)
      (live : threads.pool.heap handle = some object) :
      Step env threads (threads.move thread
        (.sent job handle { received with curlCode, responseCode })
        (threads.pool.set handle (some { object with responseCode })))
  | respond (threads : Threads Thread) (thread : Thread) (job : Job) (handle : Nat)
      (object : RequestCurlObject) (received : Transfer) (response : HttpMessage)
      (phase : threads.phase thread = .sent job handle received)
      (live : threads.pool.heap handle = some object)
      (read : object.getResponse env = .ok response) :
      Step env threads { threads.move thread (.answered job handle) threads.pool with
        responses := (thread, received, response) :: threads.responses }
  | giveBack (threads : Threads Thread) (thread : Thread) (job : Job) (handle : Nat)
      (phase : threads.phase thread = .answered job handle) :
      Step env threads (threads.move thread .idle (threads.pool.returnResource (some handle)))
  | throw (threads : Threads Thread) (thread : Thread) (handle : Nat)
      (holds : (threads.phase thread).handle = some handle) :
      Step env threads { threads.move thread .idle (threads.pool.set handle none) with
        faulted := insert handle threads.faulted }

/-- What any interleaving of the steps of all threads can lead to. -/
abbrev Reachable (env : Env) (threads : Threads Thread) : Prop :=
  Relation.ReflTransGen (Step env) start threads

/-! ### The threads simulate the moves of custody -/

/-- The custody that the threads realise. -/
structure Realises (threads : Threads Thread) (custody : Custody Thread Nat) : Prop where
  stack : threads.pool.stack = custody.pool.map some
  held : ∀ thread, (threads.phase thread).handle = custody.held thread
  idle_of_none : ∀ thread, (threads.phase thread).handle = none → threads.phase thread = .idle
  live_iff : ∀ handle, threads.pool.heap handle ≠ none ↔ custody.Live handle
  made_lt : ∀ handle ∈ custody.made, handle < threads.pool.fresh
  faulted : threads.faulted = custody.dropped

omit [DecidableEq Thread] in
theorem realises_start : (start : Threads Thread).Realises .empty where
  stack := rfl
  held _ := rfl
  idle_of_none _ _ := rfl
  live_iff handle := by simp [start, CurlPool.empty, Custody.Live, Custody.empty]
  made_lt _ made := absurd made (Set.notMem_empty _)
  faulted := rfl

/-- A step in which a thread keeps its object, and which leaves the same objects alive. -/
theorem Realises.keep {threads : Threads Thread} {custody : Custody Thread Nat}
    (realises : threads.Realises custody) {thread : Thread} {handle : Nat} (phase : Phase)
    (pool : CurlPool) (holds : (threads.phase thread).handle = some handle)
    (keeps : phase.handle = some handle) (stack : pool.stack = threads.pool.stack)
    (fresh : pool.fresh = threads.pool.fresh)
    (live : ∀ other, pool.heap other ≠ none ↔ threads.pool.heap other ≠ none) :
    (threads.move thread phase pool).Realises custody where
  stack := stack.trans realises.stack
  held other := by
    rw [← realises.held other]
    simp only [move, Function.update_apply]
    split
    · rename_i same
      rw [keeps, same, holds]
    · rfl
  idle_of_none other := by
    simp only [move, Function.update_apply]
    split
    · intro none
      rw [keeps] at none
      cases none
    · exact realises.idle_of_none other
  live_iff other := (live other).trans (realises.live_iff other)
  made_lt other made := (realises.made_lt other made).trans_eq fresh.symm
  faulted := realises.faulted

/-- A step in which a thread comes by an object or loses one. -/
theorem Realises.exchange {threads : Threads Thread} {custody : Custody Thread Nat}
    (realises : threads.Realises custody) (thread : Thread) (phase : Phase) (pool : CurlPool)
    (handles : List Nat) (made dropped : Set Nat)
    (idle : phase.handle = none → phase = .idle) (stack : pool.stack = handles.map some)
    (live : ∀ other, pool.heap other ≠ none ↔ other ∈ made ∧ other ∉ dropped)
    (fresh : ∀ other ∈ made, other < pool.fresh) :
    Realises { threads.move thread phase pool with faulted := dropped }
      ⟨handles, Function.update custody.held thread phase.handle, made, dropped⟩ where
  stack := stack
  held other := by
    simp only [move, Function.update_apply]
    split
    · rfl
    · exact realises.held other
  idle_of_none other := by
    simp only [move, Function.update_apply]
    split
    · exact idle
    · exact realises.idle_of_none other
  live_iff := live
  made_lt := fresh
  faulted := rfl

/-- Getting an object makes a handle or takes the first one of the pool. -/
theorem Realises.get {threads : Threads Thread} {custody : Custody Thread Nat}
    (realises : threads.Realises custody) (exclusive : custody.Exclusive) {thread : Thread}
    (phase : threads.phase thread = .idle) (job : Job) :
    ∃ next, Custody.Step custody next ∧
      (threads.move thread (.holding job threads.pool.getResource.1)
        threads.pool.getResource.2).Realises next := by
  have stack := realises.stack
  have idle : custody.held thread = none := by
    rw [← realises.held, phase]
    rfl
  cases pool : custody.pool with
  | nil =>
    rw [pool] at stack
    have unmade : threads.pool.fresh ∉ custody.made := fun made =>
      lt_irrefl _ (realises.made_lt _ made)
    refine ⟨_, .make custody thread threads.pool.fresh idle unmade, ?_⟩
    rw [CurlPool.getResource_of_nil stack]
    have moved := realises.exchange thread (.holding job (some threads.pool.fresh))
      ⟨Function.update threads.pool.heap threads.pool.fresh (some .new),
        threads.pool.fresh + 1, []⟩ []
      (insert threads.pool.fresh custody.made) custody.dropped
      (fun none => by cases none) rfl (fun other => ?_) (fun other made => ?_)
    · rw [pool]
      rw [← realises.faulted] at moved ⊢
      exact moved
    · simp only [Function.update_apply, Set.mem_insert_iff]
      split
      · rename_i same
        subst same
        exact iff_of_true (Option.some_ne_none _)
          ⟨Or.inl rfl, fun dropped => unmade (exclusive.dropped_made dropped)⟩
      · rename_i different
        simp only [different, false_or]
        exact realises.live_iff other
    · rcases made with rfl | made
      · exact Nat.lt_succ_self _
      · exact (realises.made_lt other made).trans (Nat.lt_succ_self _)
  | cons handle rest =>
    rw [pool] at stack
    refine ⟨_, .take custody thread handle rest idle pool, ?_⟩
    rw [CurlPool.getResource_of_cons stack]
    have moved := realises.exchange thread (.holding job (some handle))
      { threads.pool with stack := rest.map some } rest custody.made custody.dropped
      (fun none => by cases none) rfl
      realises.live_iff realises.made_lt
    rw [← realises.faulted] at moved ⊢
    exact moved

/-- Every step of a thread is a move of custody or leaves custody as it is. -/
theorem Realises.step {threads next : Threads Thread} {custody : Custody Thread Nat}
    (realises : threads.Realises custody) (exclusive : custody.Exclusive)
    (step : Step env threads next) :
    ∃ after, Relation.ReflGen Custody.Step custody after ∧ next.Realises after := by
  cases step with
  | get thread job pointer pool phase got =>
    obtain ⟨after, made, realised⟩ := realises.get exclusive phase job
    rw [got] at realised
    exact ⟨after, .single made, realised⟩
  | connect thread job handle object phase live =>
    exact ⟨custody, .refl, realises.keep _ _ (by rw [phase]; rfl) rfl rfl rfl
      (CurlPool.set_ne_none_iff (by simp [live]) _)⟩
  | perform thread job handle object prepared phase live =>
    exact ⟨custody, .refl, { realises.keep (.transferring job handle ⟨0, 0, [], []⟩)
      (threads.pool.set handle (some prepared)) (by rw [phase]; rfl) rfl rfl rfl
      (CurlPool.set_ne_none_iff (by simp [live]) _) with }⟩
  | header thread job handle object received data phase live =>
    exact ⟨custody, .refl, realises.keep _ _ (by rw [phase]; rfl) rfl rfl rfl
      (CurlPool.set_ne_none_iff (by simp [live]) _)⟩
  | body thread job handle object received data phase live =>
    exact ⟨custody, .refl, realises.keep _ _ (by rw [phase]; rfl) rfl rfl rfl
      (CurlPool.set_ne_none_iff (by simp [live]) _)⟩
  | finish thread job handle object received curlCode responseCode phase live =>
    exact ⟨custody, .refl, realises.keep _ _ (by rw [phase]; rfl) rfl rfl rfl
      (CurlPool.set_ne_none_iff (by simp [live]) _)⟩
  | respond thread job handle object received response phase live =>
    exact ⟨custody, .refl, { realises.keep (.answered job handle) threads.pool
      (by rw [phase]; rfl) rfl rfl rfl (fun _ => Iff.rfl) with }⟩
  | giveBack thread job handle phase =>
    have holds : custody.held thread = some handle := by
      rw [← realises.held, phase]
      rfl
    refine ⟨_, .single (.give custody thread handle holds), ?_⟩
    have moved := realises.exchange thread .idle (threads.pool.returnResource (some handle))
      (handle :: custody.pool) custody.made custody.dropped (fun _ => rfl)
      (congrArg (some handle :: ·) realises.stack) realises.live_iff realises.made_lt
    rw [← realises.faulted] at moved ⊢
    exact moved
  | throw thread handle holds =>
    rw [realises.held] at holds
    refine ⟨_, .single (.drop custody thread handle holds), ?_⟩
    rw [realises.faulted]
    refine realises.exchange thread .idle _ _ _ _ (fun _ => rfl) realises.stack (fun other => ?_)
      realises.made_lt
    simp only [CurlPool.set, Function.update_apply, Set.mem_insert_iff, not_or]
    split
    · rename_i same
      exact iff_of_false (fun dead => dead rfl) fun both => both.2.1 same
    · rename_i different
      rw [realises.live_iff, Custody.Live]
      simp only [different, not_false_eq_true, true_and]

/-- Whatever the threads can come to is realised by a custody that its moves can come to. -/
theorem realises_of_reachable {threads : Threads Thread} (reachable : Reachable env threads) :
    ∃ custody, Custody.Reachable custody ∧ threads.Realises custody := by
  induction reachable with
  | refl => exact ⟨.empty, .refl, realises_start⟩
  | tail _ step inductionHypothesis =>
    obtain ⟨custody, moved, realises⟩ := inductionHypothesis
    obtain ⟨after, move, realised⟩ :=
      realises.step (Custody.exclusive_of_reachable moved) step
    exact ⟨after, moved.trans move.to_reflTransGen, realised⟩

/-! ### What is in an object -/

/-- Every thread finds in its object what it has put there, and the record shows the credentials
of the right thread in every transfer and the response to what the thread received. -/
structure Faithful (env : Env) (threads : Threads Thread) : Prop where
  fits : ∀ thread handle object, (threads.phase thread).handle = some handle →
    threads.pool.heap handle = some object → (threads.phase thread).Fits object
  credentials : ∀ entry ∈ threads.transfers,
    entry.2.2.username = entry.2.1.user ∧ entry.2.2.password = entry.2.1.password
  responses : ∀ entry ∈ threads.responses,
    RequestCurlObject.respond env entry.2.1 = .ok entry.2.2

omit [DecidableEq Thread] in
theorem faithful_start : (start : Threads Thread).Faithful env where
  fits _ _ _ holds := by cases holds
  credentials _ member := absurd member List.not_mem_nil
  responses _ member := absurd member List.not_mem_nil

/-- A step that changes the object of the thread that takes it and no object of another. -/
theorem Faithful.move {threads : Threads Thread} (faithful : threads.Faithful env)
    {thread : Thread} (phase : Phase) (pool : CurlPool)
    (own : ∀ handle object, phase.handle = some handle → pool.heap handle = some object →
      phase.Fits object)
    (others : ∀ other handle, other ≠ thread → (threads.phase other).handle = some handle →
      pool.heap handle = threads.pool.heap handle) :
    (threads.move thread phase pool).Faithful env where
  fits other handle object := by
    simp only [Threads.move, Function.update_apply]
    split
    · exact own handle object
    · rename_i different
      intro holds found
      rw [others other handle different holds] at found
      exact faithful.fits other handle object holds found
  credentials := faithful.credentials
  responses := faithful.responses

/-- A step in which a thread replaces its object by one that fits its next phase. -/
theorem Faithful.replace {threads : Threads Thread} {custody : Custody Thread Nat}
    (faithful : threads.Faithful env) (realises : threads.Realises custody)
    (exclusive : custody.Exclusive) {thread : Thread} {handle : Nat} (phase : Phase)
    (object : RequestCurlObject) (holds : (threads.phase thread).handle = some handle)
    (keeps : phase.handle = some handle) (fits : phase.Fits object) :
    (threads.move thread phase (threads.pool.set handle (some object))).Faithful env := by
  refine faithful.move _ _ (fun other found same live => ?_) (fun other found different owns => ?_)
  · rw [keeps] at same
    cases same
    rw [CurlPool.set_heap_self] at live
    cases live
    exact fits
  · refine CurlPool.set_heap_of_ne ?_ _
    rintro rfl
    rw [realises.held] at holds owns
    exact different (exclusive.heldOnce _ _ _ owns holds)

/-- Every step of a thread keeps what the threads rely on. -/
theorem Faithful.step {threads next : Threads Thread} {custody : Custody Thread Nat}
    (faithful : threads.Faithful env) (realises : threads.Realises custody)
    (exclusive : custody.Exclusive) (step : Step env threads next) : next.Faithful env := by
  cases step with
  | get thread job pointer pool phase got =>
    refine faithful.move _ _ (fun _ _ _ _ => trivial) (fun other handle _ owns => ?_)
    have live := (exclusive.live_of_held ((realises.held other).symm.trans owns)).1
    rw [← CurlPool.getResource_heap (realises.made_lt handle live).ne, got]
  | connect thread job handle object phase live =>
    exact faithful.replace realises exclusive _ _ (by rw [phase]; rfl) rfl ⟨rfl, rfl⟩
  | perform thread job handle object prepared phase live ready =>
    have holds : (threads.phase thread).handle = some handle := by rw [phase]; rfl
    obtain ⟨headers, body⟩ := @RequestCurlObject.prepare_cleared env job.url job.request
      object
    obtain ⟨_, username, password⟩ := RequestCurlObject.prepare_ready ready
    have fits := faithful.fits thread handle object holds live
    rw [phase] at fits
    rw [ready] at headers body
    refine { faithful.replace realises exclusive (.transferring job handle ⟨0, 0, [], []⟩) prepared
      holds rfl ⟨headers, body⟩ with
      credentials := fun entry member => ?_ }
    rcases List.mem_cons.mp member with rfl | member
    · exact ⟨username.trans fits.1, password.trans fits.2⟩
    · exact faithful.credentials entry member
  | header thread job handle object received data phase live =>
    have holds : (threads.phase thread).handle = some handle := by rw [phase]; rfl
    have fits := faithful.fits thread handle object holds live
    rw [phase] at fits
    refine faithful.replace realises exclusive _ _ holds rfl ⟨?_, fits.body⟩
    simp [RequestCurlObject.headerCallback, fits.headers]
  | body thread job handle object received data phase live =>
    have holds : (threads.phase thread).handle = some handle := by rw [phase]; rfl
    have fits := faithful.fits thread handle object holds live
    rw [phase] at fits
    refine faithful.replace realises exclusive _ _ holds rfl ⟨fits.headers, ?_⟩
    simp [RequestCurlObject.bodyCallback, fits.body]
  | finish thread job handle object received curlCode responseCode phase live =>
    have holds : (threads.phase thread).handle = some handle := by rw [phase]; rfl
    have fits := faithful.fits thread handle object holds live
    rw [phase] at fits
    exact faithful.replace realises exclusive _ _ holds rfl ⟨⟨fits.headers, fits.body⟩, rfl⟩
  | respond thread job handle object received response phase live read =>
    have fits := faithful.fits thread handle object (by rw [phase]; rfl) live
    rw [phase] at fits
    refine { faithful.move (.answered job handle) threads.pool (fun _ _ _ _ => trivial)
      (fun _ _ _ _ => rfl) with responses := fun entry member => ?_ }
    rcases List.mem_cons.mp member with rfl | member
    · exact (RequestCurlObject.respond_of_received fits.1.headers fits.1.body fits.2).trans read
    · exact faithful.responses entry member
  | giveBack thread job handle phase =>
    exact faithful.move _ _ (fun _ _ holds _ => by cases holds) (fun _ _ _ _ => rfl)
  | throw thread handle holds =>
    refine { faithful.move .idle (threads.pool.set handle none)
      (fun _ _ holds _ => by cases holds) (fun other found different owns => ?_) with }
    refine CurlPool.set_heap_of_ne ?_ _
    rintro rfl
    rw [realises.held] at holds owns
    exact different (exclusive.heldOnce _ _ _ owns holds)

theorem faithful_of_reachable {threads : Threads Thread} (reachable : Reachable env threads) :
    threads.Faithful env := by
  induction reachable with
  | refl => exact faithful_start
  | tail reached step inductionHypothesis =>
    obtain ⟨custody, moved, realises⟩ := realises_of_reachable reached
    exact inductionHypothesis.step realises (Custody.exclusive_of_reachable moved) step

/-! ### No thread gets in the way of another -/

/-- An object is owned by a slot of the pool or by a thread. -/
def Owns (threads : Threads Thread) : Custody.Owner Thread → Nat → Prop
  | .slot index, handle => threads.pool.stack[index]? = some (some handle)
  | .holder thread, handle => (threads.phase thread).handle = some handle

omit [DecidableEq Thread] in
theorem Realises.owns_iff {threads : Threads Thread} {custody : Custody Thread Nat}
    (realises : threads.Realises custody) (owner : Custody.Owner Thread) (handle : Nat) :
    threads.Owns owner handle ↔ custody.Owns owner handle := by
  cases owner with
  | slot index => simp [Owns, Custody.Owns, realises.stack]
  | holder thread => simp only [Owns, Custody.Owns, realises.held]

omit [DecidableEq Thread] in
theorem Realises.none_notMem_stack {threads : Threads Thread} {custody : Custody Thread Nat}
    (realises : threads.Realises custody) : none ∉ threads.pool.stack := by
  rw [realises.stack]
  simp

omit [DecidableEq Thread] in
theorem Realises.getResource_ne_none {threads : Threads Thread} {custody : Custody Thread Nat}
    (realises : threads.Realises custody) : threads.pool.getResource.1 ≠ none := by
  cases stack : threads.pool.stack with
  | nil => simp [CurlPool.getResource_of_nil stack]
  | cons top rest =>
    rw [CurlPool.getResource_of_cons stack]
    rintro rfl
    exact realises.none_notMem_stack (stack ▸ List.mem_cons_self)

/-- In whatever order any number of threads take their steps, wherever they throw: a live object
has one owner, a slot of the pool or a thread; the pool holds and hands out no null pointer, nor
an object on which a step threw; a transfer goes out with the credentials of the thread that
performs it; and a response is the response to what that thread received in that transfer. -/
theorem isolated_of_reachable {threads : Threads Thread} (reachable : Reachable env threads) :
    (∀ handle, threads.pool.heap handle ≠ none → ∃! owner, threads.Owns owner handle) ∧
    (threads.pool.getResource.1 ≠ none ∧ none ∉ threads.pool.stack) ∧
    (∀ handle ∈ threads.faulted, some handle ∉ threads.pool.stack) ∧
    (∀ thread job sent, (thread, job, sent) ∈ threads.transfers →
      sent.username = job.user ∧ sent.password = job.password) ∧
    (∀ thread received response, (thread, received, response) ∈ threads.responses →
      RequestCurlObject.respond env received = .ok response) := by
  obtain ⟨custody, moved, realises⟩ := realises_of_reachable reachable
  have exclusive := Custody.exclusive_of_reachable moved
  have faithful := faithful_of_reachable reachable
  refine ⟨fun handle live => ?_, ⟨realises.getResource_ne_none, realises.none_notMem_stack⟩,
    fun handle faulted pooled => ?_,
    fun thread job sent => faithful.credentials (thread, job, sent),
    fun thread received response => faithful.responses (thread, received, response)⟩
  · simp only [realises.owns_iff]
    exact exclusive.existsUnique_owner ((realises.live_iff handle).mp live)
  · rw [realises.stack] at pooled
    obtain ⟨_, pooled, same⟩ := List.mem_map.mp pooled
    cases same
    rw [realises.faulted] at faulted
    exact (exclusive.live_of_pool pooled).2 faulted

/-- Two threads get an object each. One of them sends its request, reads the response and
returns its object; the step of the other one throws. -/
theorem isolated_of_reachable_run :
    ∃ threads : Threads Bool, threads.transfers.length = 1 ∧ threads.responses.length = 1 ∧
      threads.faulted = {1} ∧
      (∀ handle, threads.pool.heap handle ≠ none → ∃! owner, threads.Owns owner handle) := by
  let env : Env := ⟨.simple [], true, true, [], false⟩
  let job : Job := ⟨"root", "secret", "http://h/_api/version",
    .createRequest env .get "/_api/version" ∅⟩
  have run := (Relation.ReflTransGen.refl (r := Step env) (a := start))
    |>.tail (.get _ true job _ _ rfl rfl)
    |>.tail (.get _ false job _ _ rfl rfl)
    |>.tail (.connect _ true job 0 _ rfl rfl)
    |>.tail (.perform _ true job 0 _ _ rfl rfl rfl)
    |>.tail (.header _ true job 0 _ _ "HTTP/1.1 200 OK" rfl rfl)
    |>.tail (.finish _ true job 0 _ _ 0 200 rfl rfl)
    |>.tail (.respond _ true job 0 _ _ _ rfl rfl rfl)
    |>.tail (.giveBack _ true job 0 rfl)
    |>.tail (.throw _ false 1 rfl)
  exact ⟨_, rfl, rfl, insert_empty_eq 1, (isolated_of_reachable run).1⟩

end Threads

end ArangoCpp
