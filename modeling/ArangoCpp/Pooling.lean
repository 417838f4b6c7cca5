/-
This file lets any number of clients send their requests with objects from the shared pool.

Whoever calls `sendREQUEST` gets an object, which may have been used by others before, and is in
the middle of the request while the others take their steps: the object is connected and prepared,
the transmission goes out, the server answers it, the header lines and the pieces of the body come
in one by one, and the response is read before the object goes back. An exception destroys the
object and goes to the program.

None of this can be seen from outside. The steps are those of the threads of the pool, so that every
client finds in its object what it has put there, and what goes on inside of a request comes to what
a client with a fresh object of its own does in one step. The other way round, whatever such clients
can do can be done with the objects of the pool.
-/

import ArangoCpp.Databases
import ArangoCpp.Pool

namespace ArangoCpp

open Dialogue

/-! ### Clients and the pool -/

section

variable {Client Value State Call : Type}

/-- Where the requests of a call go, and whose they are. -/
structure Link where
  dispatch : Dispatch
  connectData : ArangoDBConnection

namespace Link

/-- `sendREQUEST` over a link. -/
def channel (env : Env) (link : Link) :
    Channel HttpMessage HttpMessage Transmission Transfer Fault :=
  link.dispatch.channel env link.connectData

def url (link : Link) (rq : HttpMessage) : Bytes :=
  link.dispatch.url link.connectData rq.header.path

/-- What is made of a response. -/
def check (env : Env) (link : Link) (rq response : HttpMessage) : Except Fault HttpMessage :=
  checkResponse env link.dispatch.title (link.url rq) response

end Link

/-- A request that is being sent, and how the program of its call goes on. -/
structure Errand (Value Call : Type) where
  call : Call
  rq : HttpMessage
  next : Except Fault HttpMessage → Api Value

/-- Where a client stands: in its program, or in `sendREQUEST`. -/
inductive Worker (Value Call : Type) : Type where
  | idle
  | busy (call : Call) (rest : Api Value)
  | holding (errand : Errand Value Call) (pointer : Option Nat)
  | connected (errand : Errand Value Call) (handle : Nat)
  | waiting (errand : Errand Value Call) (handle : Nat) (sent : Transmission)
  | receiving (errand : Errand Value Call) (handle : Nat) (reply : Transfer)
      (headers body : List Bytes)
  | sent (errand : Errand Value Call) (handle : Nat) (reply : Transfer)
  | answered (errand : Errand Value Call) (handle : Nat) (response : HttpMessage)

/-- A client that goes on with its program behind a request. -/
def Errand.resume (errand : Errand Value Call) (result : Except Fault HttpMessage) :
    Worker Value Call :=
  .busy errand.call (errand.next result)

/-- The clients, the pool, and the state of the server. -/
structure Pooled (Client Value State Call : Type) where
  worker : Client → Worker Value Call
  pool : CurlPool
  state : State

namespace Pooled

/-- Nobody has called yet, and no object has been made. -/
def start (state : State) : Pooled Client Value State Call := ⟨fun _ => .idle, .empty, state⟩

variable [DecidableEq Client]

/-- One client has moved on. -/
def move (client : Client) (worker : Worker Value Call) (pool : CurlPool)
    (world : Pooled Client Value State Call) : Pooled Client Value State Call :=
  { world with worker := Function.update world.worker client worker, pool }

/-- One step of one client, or of the server. -/
inductive Step (env : Env) (link : Call → Link) (may : Client → Call → Prop)
    (program : Call → Api Value) (peer : Client → State → Transmission → Transfer → State → Prop) :
    Pooled Client Value State Call → List (Event Client Fault Value Call) →
      Pooled Client Value State Call → Prop where
  | called {world : Pooled Client Value State Call} {client : Client} {call : Call}
      (idle : world.worker client = .idle) (allowed : may client call) :
      Step env link may program peer world [.called client call]
        (world.move client (.busy call (program call)) world.pool)
  | unlogged {world : Pooled Client Value State Call} {client : Client} {errand : Errand Value Call}
      {fault : Fault} (busy : world.worker client = .busy errand.call (ask errand.rq errand.next))
      (fails : logged env errand.rq = .error fault) :
      Step env link may program peer world []
        (world.move client (errand.resume (.error fault)) world.pool)
  | get {world : Pooled Client Value State Call} {client : Client} {errand : Errand Value Call}
      {line : Bytes} {pointer : Option Nat} {pool : CurlPool}
      (busy : world.worker client = .busy errand.call (ask errand.rq errand.next))
      (shown : logged env errand.rq = .ok line)
      (got : world.pool.getResource = (pointer, pool)) :
      Step env link may program peer world [] (world.move client (.holding errand pointer) pool)
  | connect {world : Pooled Client Value State Call} {client : Client} {errand : Errand Value Call}
      {handle : Nat} {object : RequestCurlObject}
      (holds : world.worker client = .holding errand (some handle))
      (live : world.pool.heap handle = some object) :
      Step env link may program peer world [] (world.move client (.connected errand handle)
        (world.pool.set handle (some (object.setConnectData (link errand.call).connectData.user.name
          (link errand.call).connectData.user.password))))
  | perform {world : Pooled Client Value State Call} {client : Client} {errand : Errand Value Call}
      {handle : Nat} {object prepared : RequestCurlObject}
      (connected : world.worker client = .connected errand handle)
      (live : world.pool.heap handle = some object)
      (ready : object.prepare env ((link errand.call).url errand.rq) errand.rq =
        (prepared, .ok ())) :
      Step env link may program peer world []
        (world.move client (.waiting errand handle prepared.options.transmission)
          (world.pool.set handle (some prepared)))
  | refused {world : Pooled Client Value State Call} {client : Client} {errand : Errand Value Call}
      {handle : Nat} {object prepared : RequestCurlObject} {fault : Fault}
      (connected : world.worker client = .connected errand handle)
      (live : world.pool.heap handle = some object)
      (fails : object.prepare env ((link errand.call).url errand.rq) errand.rq =
        (prepared, .error fault)) :
      Step env link may program peer world []
        (world.move client (errand.resume (.error fault)) (world.pool.set handle none))
  | answer {world : Pooled Client Value State Call} {client : Client} {errand : Errand Value Call}
      {handle : Nat} {sent : Transmission} {reply : Transfer} {after : State}
      (waiting : world.worker client = .waiting errand handle sent)
      (answers : peer client world.state sent reply after) :
      Step env link may program peer world []
        { world.move client (.receiving errand handle reply [] []) world.pool with state := after }
  | header {world : Pooled Client Value State Call} {client : Client} {errand : Errand Value Call}
      {handle : Nat} {object : RequestCurlObject} {reply : Transfer} {headers body : List Bytes}
      {data : Bytes} (receiving : world.worker client = .receiving errand handle reply headers body)
      (live : world.pool.heap handle = some object) (more : headers ++ [data] <+: reply.headers) :
      Step env link may program peer world []
        (world.move client (.receiving errand handle reply (headers ++ [data]) body)
          (world.pool.set handle (some (object.headerCallback data))))
  | body {world : Pooled Client Value State Call} {client : Client} {errand : Errand Value Call}
      {handle : Nat} {object : RequestCurlObject} {reply : Transfer} {headers body : List Bytes}
      {data : Bytes} (receiving : world.worker client = .receiving errand handle reply headers body)
      (live : world.pool.heap handle = some object) (more : body ++ [data] <+: reply.body) :
      Step env link may program peer world []
        (world.move client (.receiving errand handle reply headers (body ++ [data]))
          (world.pool.set handle (some (object.bodyCallback data))))
  | finish {world : Pooled Client Value State Call} {client : Client} {errand : Errand Value Call}
      {handle : Nat} {object : RequestCurlObject} {reply : Transfer}
      (received : world.worker client =
        .receiving errand handle reply reply.headers reply.body)
      (live : world.pool.heap handle = some object) :
      Step env link may program peer world [] (world.move client (.sent errand handle reply)
        (world.pool.set handle (some { object with responseCode := reply.responseCode })))
  | respond {world : Pooled Client Value State Call} {client : Client} {errand : Errand Value Call}
      {handle : Nat} {object : RequestCurlObject} {reply : Transfer} {response : HttpMessage}
      (sent : world.worker client = .sent errand handle reply)
      (live : world.pool.heap handle = some object)
      (read : object.getResponse env = .ok response) :
      Step env link may program peer world []
        (world.move client (.answered errand handle response) world.pool)
  | garbled {world : Pooled Client Value State Call} {client : Client} {errand : Errand Value Call}
      {handle : Nat} {object : RequestCurlObject} {reply : Transfer} {fault : Fault}
      (sent : world.worker client = .sent errand handle reply)
      (live : world.pool.heap handle = some object)
      (fails : object.getResponse env = .error fault) :
      Step env link may program peer world []
        (world.move client (errand.resume (.error fault)) (world.pool.set handle none))
  | giveBack {world : Pooled Client Value State Call} {client : Client} {errand : Errand Value Call}
      {handle : Nat} {response : HttpMessage}
      (answered : world.worker client = .answered errand handle response) :
      Step env link may program peer world []
        (world.move client (errand.resume ((link errand.call).check env errand.rq response))
          (world.pool.returnResource (some handle)))
  | returned {world : Pooled Client Value State Call} {client : Client} {call : Call}
      {result : Except Fault Value} (ended : world.worker client = .busy call (ofExcept result)) :
      Step env link may program peer world [.returned client result]
        (world.move client .idle world.pool)

end Pooled

/-! ### Clients are threads of the pool -/

variable {env : Env} {link : Call → Link}

/-- What a thread of the pool wants sent for an errand. -/
def Errand.job (link : Call → Link) (errand : Errand Value Call) : Job :=
  ⟨(link errand.call).connectData.user.name, (link errand.call).connectData.user.password,
    (link errand.call).url errand.rq, errand.rq⟩

/-- Where the thread of a client stands. -/
def Worker.phase (link : Call → Link) : Worker Value Call → Phase
  | .idle | .busy _ _ => .idle
  | .holding errand pointer => .holding (errand.job link) pointer
  | .connected errand handle => .connected (errand.job link) handle
  | .waiting errand handle _ => .transferring (errand.job link) handle ⟨0, 0, [], []⟩
  | .receiving errand handle _ headers body =>
    .transferring (errand.job link) handle ⟨0, 0, headers, body⟩
  | .sent errand handle reply => .sent (errand.job link) handle reply
  | .answered errand handle _ => .answered (errand.job link) handle

/-- The threads use the pool as the clients do. -/
structure Pooled.Tracked [DecidableEq Client] (env : Env) (link : Call → Link)
    (world : Pooled Client Value State Call) (threads : Threads Client) : Prop where
  reachable : Threads.Reachable env threads
  pool : threads.pool = world.pool
  phase : ∀ client, threads.phase client = (world.worker client).phase link

namespace Pooled

variable [DecidableEq Client] {may : Client → Call → Prop} {program : Call → Api Value}
  {peer : Client → State → Transmission → Transfer → State → Prop}
  {world after : Pooled Client Value State Call} {threads : Threads Client}
  {events : List (Event Client Fault Value Call)}

theorem tracked_start (state : State) :
    (start state : Pooled Client Value State Call).Tracked env link .start :=
  ⟨.refl, rfl, fun _ => rfl⟩

/-- A step of the thread of a client. -/
theorem Tracked.move (tracked : world.Tracked env link threads) {next : Threads Client}
    (step : Threads.Step env threads next) {client : Client} {worker : Worker Value Call}
    {pool : CurlPool} {state : State} (pools : next.pool = pool)
    (phases : next.phase = Function.update threads.phase client (worker.phase link)) :
    Tracked env link { world.move client worker pool with state } next where
  reachable := tracked.reachable.tail step
  pool := pools
  phase other := by
    rw [phases]
    simp only [Pooled.move, Function.update_apply]
    split
    · rfl
    · exact tracked.phase other

/-- A step of a client with which its thread stays where it is. -/
theorem Tracked.stay (tracked : world.Tracked env link threads) {client : Client}
    {worker : Worker Value Call} (same : worker.phase link = (world.worker client).phase link)
    {state : State} :
    Tracked env link { world.move client worker world.pool with state } threads where
  reachable := tracked.reachable
  pool := tracked.pool
  phase other := by
    simp only [Pooled.move, Function.update_apply]
    split
    · rename_i here
      rw [here, same]
      exact tracked.phase client
    · exact tracked.phase other

/-- The clients take the steps of threads. -/
theorem Tracked.step (tracked : world.Tracked env link threads)
    (step : Step env link may program peer world events after) :
    ∃ next, after.Tracked env link next := by
  have phase {client : Client} {worker : Worker Value Call}
      (stands : world.worker client = worker) :
      threads.phase client = worker.phase link := by
    rw [tracked.phase, stands]
  have heap {handle : Nat} {object : RequestCurlObject}
      (live : world.pool.heap handle = some object) :
      threads.pool.heap handle = some object := by
    rw [tracked.pool, live]
  cases step with
  | called idle allowed => exact ⟨threads, tracked.stay (by rw [idle]; rfl)⟩
  | unlogged busy fails => exact ⟨threads, tracked.stay (by rw [busy]; rfl)⟩
  | @get client errand line pointer pool busy shown got =>
    refine ⟨_, tracked.move (.get threads client (errand.job link) pointer pool (phase busy) ?_)
      rfl rfl⟩
    rw [tracked.pool, got]
  | @connect client errand handle object holds live =>
    refine ⟨_, tracked.move (.connect threads client (errand.job link) handle object (phase holds)
      (heap live)) ?_ rfl⟩
    rw [← tracked.pool]
    rfl
  | @perform client errand handle object prepared connected live ready =>
    refine ⟨_, tracked.move (.perform threads client (errand.job link) handle object prepared
      (phase connected) (heap live) ready) ?_ rfl⟩
    rw [← tracked.pool]
    rfl
  | @refused client errand handle object prepared fault connected live fails =>
    refine ⟨_, tracked.move (.throw threads client handle (by rw [phase connected]; rfl)) ?_ rfl⟩
    rw [← tracked.pool]
    rfl
  | answer waiting answers => exact ⟨threads, tracked.stay (by rw [waiting]; rfl)⟩
  | @header client errand handle object reply headers body data receiving live more =>
    refine ⟨_, tracked.move (.header threads client (errand.job link) handle object _ data
      (phase receiving) (heap live)) ?_ rfl⟩
    rw [← tracked.pool]
    rfl
  | @body client errand handle object reply headers body data receiving live more =>
    refine ⟨_, tracked.move (.body threads client (errand.job link) handle object _ data
      (phase receiving) (heap live)) ?_ rfl⟩
    rw [← tracked.pool]
    rfl
  | @finish client errand handle object reply received live =>
    refine ⟨_, tracked.move (.finish threads client (errand.job link) handle object _
      reply.curlCode reply.responseCode (phase received) (heap live)) ?_ rfl⟩
    rw [← tracked.pool]
    rfl
  | @respond client errand handle object reply response sent live read =>
    exact ⟨_, tracked.move (.respond threads client (errand.job link) handle object reply response
      (phase sent) (heap live) read) tracked.pool rfl⟩
  | @garbled client errand handle object reply fault sent live fails =>
    refine ⟨_, tracked.move (.throw threads client handle (by rw [phase sent]; rfl)) ?_ rfl⟩
    rw [← tracked.pool]
    rfl
  | @giveBack client errand handle response answered =>
    refine ⟨_, tracked.move (.giveBack threads client (errand.job link) handle (phase answered))
      ?_ rfl⟩
    rw [← tracked.pool]
    rfl
  | returned ended => exact ⟨threads, tracked.stay (by rw [ended]; rfl)⟩

/-- A client finds its object, with what it has put there. -/
theorem Tracked.exists_object (tracked : world.Tracked env link threads) {client : Client}
    {worker : Worker Value Call} (stands : world.worker client = worker) {handle : Nat}
    (holds : (worker.phase link).handle = some handle) :
    ∃ object, world.pool.heap handle = some object ∧ (worker.phase link).Fits object := by
  obtain ⟨custody, moved, realises⟩ := Threads.realises_of_reachable tracked.reachable
  have phase : threads.phase client = worker.phase link := by rw [tracked.phase, stands]
  rw [← phase] at holds ⊢
  have live := (realises.live_iff handle).mpr
    ((Custody.exclusive_of_reachable moved).live_of_held ((realises.held client).symm.trans holds))
  obtain ⟨object, found⟩ := Option.ne_none_iff_exists'.mp live
  exact ⟨object, tracked.pool ▸ found,
    (Threads.faithful_of_reachable tracked.reachable).fits client handle object holds found⟩

/-- The pool hands out an object. -/
theorem Tracked.exists_handle (tracked : world.Tracked env link threads) :
    ∃ handle pool, world.pool.getResource = (some handle, pool) := by
  obtain ⟨custody, moved, realises⟩ := Threads.realises_of_reachable tracked.reachable
  obtain ⟨handle, found⟩ := Option.ne_none_iff_exists'.mp realises.getResource_ne_none
  rw [tracked.pool] at found
  exact ⟨handle, world.pool.getResource.2, Prod.ext found rfl⟩

end Pooled

/-! ### What a client with an object of its own does -/

/-- What a client is seen to do, when it does not share its objects. -/
def Worker.activity (env : Env) (link : Call → Link) :
    Worker Value Call → Activity Transmission Transfer Fault Value Call
  | .idle => .idle
  | .busy call rest => .busy call (rest.through ((link call).channel env))
  | .holding errand _ | .connected errand _ => .busy errand.call
    ((ask errand.rq errand.next).through ((link errand.call).channel env))
  | .waiting errand _ transmission => .busy errand.call (ask transmission fun reply =>
    (errand.next (((link errand.call).channel env).decode errand.rq reply)).through
      ((link errand.call).channel env))
  | .receiving errand _ reply _ _ | .sent errand _ reply => .busy errand.call
    ((errand.next (((link errand.call).channel env).decode errand.rq reply)).through
      ((link errand.call).channel env))
  | .answered errand _ response => .busy errand.call
    ((errand.next ((link errand.call).check env errand.rq response)).through
      ((link errand.call).channel env))

/-- The clients as they are seen. -/
def Pooled.crowd (env : Env) (link : Call → Link) (world : Pooled Client Value State Call) :
    Crowd Client Transmission Transfer Fault Value State Call :=
  ⟨fun client => (world.worker client).activity env link, world.state⟩

/-- The messages that an errand still sends can be sent with any object. -/
def Errand.Proper (errand : Errand Value Call) : Prop :=
  (ask errand.rq errand.next).Asks HttpMessage.Issuable

/-- What is known of a client on its way through `sendREQUEST`. -/
def Worker.Proper (env : Env) (link : Call → Link) : Worker Value Call → Prop
  | .idle => True
  | .busy _ rest => rest.Asks HttpMessage.Issuable
  | .holding errand _ | .connected errand _ =>
    errand.Proper ∧ ∃ line, logged env errand.rq = .ok line
  | .waiting errand _ transmission =>
    errand.Proper ∧ ((link errand.call).channel env).encode errand.rq = .ok transmission
  | .receiving errand _ _ _ _ | .sent errand _ _ | .answered errand _ _ => errand.Proper

/-- What is sent with a connected object is what is sent with a fresh one. -/
theorem Link.encode_eq (lawful : env.vpack.Lawful) (link : Link) {rq : HttpMessage}
    (issuable : rq.Issuable) {line : Bytes} (shown : logged env rq = .ok line)
    {object : RequestCurlObject} (user : object.dbUser = link.connectData.user.name)
    (password : object.dbPasswd = link.connectData.user.password) :
    (link.channel env).encode rq = (object.prepare env (link.url rq) rq).2.map
      fun _ => (object.prepare env (link.url rq) rq).1.options.transmission := by
  have same := @RequestCurlObject.sendRequest_congr env lawful rq issuable (link.url rq)
    ⟨0, 0, [], []⟩ object
    (RequestCurlObject.new.setConnectData link.connectData.user.name link.connectData.user.password)
    user password
  rw [← RequestCurlObject.sendRequest_snd (link.url rq) rq ⟨0, 0, [], []⟩ object, ← same]
  show (logged env rq >>= fun _ => _) = _
  rw [shown]
  rfl

/-- What is read out of an object is what is read out of a fresh one that has received the same. -/
theorem Link.decode_eq (link : Link) (rq : HttpMessage) {object : RequestCurlObject}
    {reply : Transfer} (received : object.Received reply)
    (code : object.responseCode = reply.responseCode) :
    (link.channel env).decode rq reply = object.getResponse env >>= link.check env rq := by
  rw [← RequestCurlObject.respond_of_received received.headers received.body code]
  rfl

namespace Pooled

variable [DecidableEq Client] {may : Client → Call → Prop} {program : Call → Api Value}
  {peer : Client → State → Transmission → Transfer → State → Prop}
  {world after : Pooled Client Value State Call} {threads : Threads Client}
  {events : List (Event Client Fault Value Call)}

/-- The clients share the pool as threads do, and what they still send can be sent with any
object. -/
structure Sound (env : Env) (link : Call → Link) (world : Pooled Client Value State Call) :
    Prop where
  tracked : ∃ threads, world.Tracked env link threads
  proper : ∀ client, (world.worker client).Proper env link

theorem sound_start (state : State) :
    (start state : Pooled Client Value State Call).Sound env link :=
  ⟨⟨.start, tracked_start state⟩, fun _ => trivial⟩

variable (lawful : env.vpack.Lawful) (asks : ∀ call, (program call).Asks HttpMessage.Issuable)

include lawful asks

/-- Every step of a client leaves what is known of the clients. -/
theorem Sound.step (sound : world.Sound env link)
    (step : Step env link may program peer world events after) : after.Sound env link := by
  obtain ⟨threads, tracked⟩ := sound.tracked
  refine ⟨tracked.step step, ?_⟩
  have known {client : Client} {worker : Worker Value Call}
      (stands : world.worker client = worker) : worker.Proper env link := by
    rw [← stands]
    exact sound.proper client
  have moved {client : Client} {worker : Worker Value Call} (proper : worker.Proper env link)
      (other : Client) : (Function.update world.worker client worker other).Proper env link := by
    by_cases same : other = client
    · rw [same, Function.update_self]
      exact proper
    · rw [Function.update_of_ne same]
      exact sound.proper other
  cases step with
  | @called client call idle allowed => exact moved (asks call)
  | unlogged busy fails => exact moved ((known busy).2 _)
  | get busy shown got => exact moved ⟨known busy, _, shown⟩
  | @connect client errand handle object holds live =>
    have proper : errand.Proper ∧ ∃ line, logged env errand.rq = .ok line := known holds
    exact moved proper
  | @perform client errand handle object prepared connected live ready =>
    obtain ⟨proper, line, shown⟩ := known connected
    obtain ⟨found, same, user, password⟩ := tracked.exists_object connected rfl
    cases same.symm.trans live
    refine moved ⟨proper, ?_⟩
    rw [(link errand.call).encode_eq lawful proper.1 shown user password, ready]
    rfl
  | refused connected live fails => exact moved ((known connected).1.2 _)
  | answer waiting answers => exact moved (known waiting).1
  | @header client errand handle object reply headers body data receiving live more =>
    have proper : errand.Proper := known receiving
    exact moved proper
  | @body client errand handle object reply headers body data receiving live more =>
    have proper : errand.Proper := known receiving
    exact moved proper
  | @finish client errand handle object reply received live =>
    have proper : errand.Proper := known received
    exact moved proper
  | @respond client errand handle object reply response sent live read =>
    have proper : errand.Proper := known sent
    exact moved proper
  | garbled sent live fails => exact moved ((known sent).2 _)
  | giveBack answered => exact moved ((known answered).2 _)
  | returned ended => exact moved trivial

omit lawful asks in
theorem activity_move (client : Client) (worker : Worker Value Call) (pool : CurlPool)
    (world : Pooled Client Value State Call) :
    (crowd env link (world.move client worker pool)).activity =
      Function.update (world.crowd env link).activity client (worker.activity env link) :=
  funext fun other => Function.apply_update (fun _ worker => Worker.activity env link worker)
    world.worker client worker other

omit lawful asks in
/-- A step that changes nothing of what a client is seen to do. -/
theorem crowd_stay {client : Client} {worker : Worker Value Call} {pool : CurlPool}
    (same : worker.activity env link = (world.worker client).activity env link) :
    crowd env link (world.move client worker pool) = world.crowd env link := by
  refine congrArg (Crowd.mk · world.state) ((activity_move client worker pool world).trans ?_)
  rw [same]
  exact Function.update_eq_self client _

omit asks in
/-- What a client does with an object of the pool, it is seen to do with one of its own. -/
theorem Sound.followed (sound : world.Sound env link)
    (step : Step env link may program peer world events after) :
    Unfolds (Crowd.Step may (fun call => (program call).through ((link call).channel env)) peer)
      (world.crowd env link) events (after.crowd env link) := by
  obtain ⟨threads, tracked⟩ := sound.tracked
  have quiet {client : Client} {before worker : Worker Value Call} {pool : CurlPool}
      (stands : world.worker client = before)
      (same : worker.activity env link = before.activity env link) :
      Unfolds (Crowd.Step may (fun call => (program call).through ((link call).channel env)) peer)
        (world.crowd env link) [] (crowd env link (world.move client worker pool)) := by
    rw [crowd_stay (same.trans (congrArg (Worker.activity env link) stands.symm))]
    exact .refl _
  have seen {client : Client} {worker : Worker Value Call}
      (stands : world.worker client = worker) :
      (world.crowd env link).activity client = worker.activity env link :=
    congrArg (Worker.activity env link) stands
  have known {client : Client} {worker : Worker Value Call}
      (stands : world.worker client = worker) : worker.Proper env link := by
    rw [← stands]
    exact sound.proper client
  have does {client : Client} {worker : Worker Value Call} {pool : CurlPool} {state : State}
      {events : List (Event Client Fault Value Call)}
      (step : Crowd.Step may (fun call => (program call).through ((link call).channel env)) peer
        (world.crowd env link) events ⟨Function.update (world.crowd env link).activity client
          (worker.activity env link), state⟩) :
      Unfolds (Crowd.Step may (fun call => (program call).through ((link call).channel env)) peer)
        (world.crowd env link) events
        (crowd env link { world.move client worker pool with state }) := by
    rw [← activity_move client worker pool world] at step
    exact .single step
  cases step with
  | called idle allowed => exact does (.called (seen idle) allowed)
  | @unlogged client errand fault busy fails =>
    refine quiet busy (congrArg (Activity.busy errand.call) (through_ask_of_error ?_ _).symm)
    show (logged env errand.rq >>= fun _ => _) = _
    rw [fails]
    rfl
  | get busy shown got => exact quiet busy rfl
  | connect holds live => exact quiet holds rfl
  | @perform client errand handle object prepared connected live ready =>
    obtain ⟨proper, line, shown⟩ := known connected
    obtain ⟨found, same, user, password⟩ := tracked.exists_object connected rfl
    cases same.symm.trans live
    refine quiet connected (congrArg (Activity.busy errand.call) (through_ask_of_ok ?_ _).symm)
    rw [(link errand.call).encode_eq lawful proper.1 shown user password, ready]
    rfl
  | @refused client errand handle object prepared fault connected live fails =>
    obtain ⟨proper, line, shown⟩ := known connected
    obtain ⟨found, same, user, password⟩ := tracked.exists_object connected rfl
    cases same.symm.trans live
    refine quiet connected (congrArg (Activity.busy errand.call) (through_ask_of_error ?_ _).symm)
    rw [(link errand.call).encode_eq lawful proper.1 shown user password, fails]
    rfl
  | answer waiting answers => exact does (.answered (seen waiting) answers)
  | header receiving live more => exact quiet receiving rfl
  | body receiving live more => exact quiet receiving rfl
  | finish received live => exact quiet received rfl
  | @respond client errand handle object reply response sent live read =>
    obtain ⟨found, same, received, code⟩ := tracked.exists_object sent rfl
    cases same.symm.trans live
    refine quiet sent (congrArg (fun result => Activity.busy errand.call
      ((errand.next result).through ((link errand.call).channel env))) ?_)
    rw [(link errand.call).decode_eq errand.rq received code, read]
    rfl
  | @garbled client errand handle object reply fault sent live fails =>
    obtain ⟨found, same, received, code⟩ := tracked.exists_object sent rfl
    cases same.symm.trans live
    refine quiet sent (congrArg (fun result => Activity.busy errand.call
      ((errand.next result).through ((link errand.call).channel env))) ?_)
    rw [(link errand.call).decode_eq errand.rq received code, fails]
    rfl
  | giveBack answered => exact quiet answered rfl
  | @returned client call result ended =>
    refine does (.returned ((seen ended).trans (congrArg (Activity.busy call) ?_)))
    exact through_ofExcept result

/-- What clients with the pool do, clients with objects of their own do. -/
theorem Sound.followed_run (sound : world.Sound env link)
    (run : Unfolds (Step env link may program peer) world events after) :
    after.Sound env link ∧
    Unfolds (Crowd.Step may (fun call => (program call).through ((link call).channel env)) peer)
      (world.crowd env link) events (after.crowd env link) := by
  induction run with
  | refl world => exact ⟨sound, .refl _⟩
  | cons taken _ inductionHypothesis =>
    obtain ⟨kept, later⟩ := inductionHypothesis (sound.step lawful asks taken)
    exact ⟨kept, (sound.followed lawful taken).trans later⟩

end Pooled

/-! ### What can be done with the objects of the pool -/

/-- A client that is not in the middle of a request. -/
def Worker.Resting (worker : Worker Value Call) : Prop :=
  worker = .idle ∨ ∃ call rest, worker = .busy call rest

namespace Pooled

variable [DecidableEq Client]

/-- A client, while the others wait, can come to stand somewhere, with the server in a state. -/
def Leads (env : Env) (link : Call → Link) (may : Client → Call → Prop)
    (program : Call → Api Value) (peer : Client → State → Transmission → Transfer → State → Prop)
    (world : Pooled Client Value State Call) (client : Client) (worker : Worker Value Call)
    (state : State) : Prop :=
  ∃ after, Unfolds (Step env link may program peer) world [] after ∧
    after.worker = Function.update world.worker client worker ∧ after.state = state

variable {may : Client → Call → Prop} {program : Call → Api Value}
  {peer : Client → State → Transmission → Transfer → State → Prop}
  {world next : Pooled Client Value State Call} {client : Client} {errand : Errand Value Call}
  {handle : Nat} {worker between : Worker Value Call} {state : State} {reply : Transfer}

/-- A step of the client, and what it leads to. -/
theorem Leads.step (taken : Step env link may program peer world [] next)
    (moved : next.worker = Function.update world.worker client between)
    (leads : next.Leads env link may program peer client worker state) :
    world.Leads env link may program peer client worker state := by
  obtain ⟨after, run, moves, same⟩ := leads
  refine ⟨after, .cons taken run, ?_, same⟩
  rw [moves, moved, Function.update_idem]

theorem leads_of_step (taken : Step env link may program peer world [] next)
    (moved : next.worker = Function.update world.worker client worker)
    (same : next.state = state) :
    world.Leads env link may program peer client worker state :=
  ⟨next, .single taken, moved, same⟩

theorem leads_answered {response : HttpMessage}
    (answered : world.worker client = .answered errand handle response) :
    world.Leads env link may program peer client
      (errand.resume ((link errand.call).check env errand.rq response)) world.state :=
  leads_of_step (.giveBack answered) rfl rfl

/-- What has come in is read, and the object goes back, unless it cannot be read. -/
theorem leads_sent (sound : world.Sound env link)
    (sent : world.worker client = .sent errand handle reply) :
    world.Leads env link may program peer client
      (errand.resume (((link errand.call).channel env).decode errand.rq reply)) world.state := by
  obtain ⟨threads, tracked⟩ := sound.tracked
  obtain ⟨object, live, received, code⟩ := tracked.exists_object sent rfl
  rw [(link errand.call).decode_eq errand.rq received code]
  cases read : object.getResponse env with
  | error fault => exact leads_of_step (.garbled sent live read) rfl rfl
  | ok response =>
    have answered : (world.move client (.answered errand handle response) world.pool).worker
        client = .answered errand handle response := Function.update_self _ _ _
    exact Leads.step (.respond sent live read) rfl (leads_answered answered)

variable (lawful : env.vpack.Lawful) (asks : ∀ call, (program call).Asks HttpMessage.Issuable)

include lawful asks

/-- The pieces of the body come in, one by one, and the transfer ends. -/
theorem leads_body {before rest : List Bytes} (sound : world.Sound env link)
    (whole : before ++ rest = reply.body)
    (receiving : world.worker client = .receiving errand handle reply reply.headers before) :
    world.Leads env link may program peer client
      (errand.resume (((link errand.call).channel env).decode errand.rq reply)) world.state := by
  induction rest generalizing world before with
  | nil =>
    rw [List.append_nil] at whole
    subst whole
    obtain ⟨threads, tracked⟩ := sound.tracked
    obtain ⟨object, live, _⟩ := tracked.exists_object receiving rfl
    have taken : Step env link may program peer world [] _ := .finish receiving live
    exact Leads.step taken rfl
      (leads_sent (sound.step lawful asks taken) (Function.update_self _ _ _))
  | cons data rest inductionHypothesis =>
    obtain ⟨threads, tracked⟩ := sound.tracked
    obtain ⟨object, live, _⟩ := tracked.exists_object receiving rfl
    have whole : before ++ [data] ++ rest = reply.body := by
      rw [List.append_assoc]
      exact whole
    have taken : Step env link may program peer world [] _ :=
      .body receiving live ⟨rest, whole⟩
    exact Leads.step taken rfl (inductionHypothesis (sound.step lawful asks taken) whole
      (Function.update_self _ _ _))

/-- The header lines come in, one by one, and then the body. -/
theorem leads_receiving {before rest : List Bytes} (sound : world.Sound env link)
    (whole : before ++ rest = reply.headers)
    (receiving : world.worker client = .receiving errand handle reply before []) :
    world.Leads env link may program peer client
      (errand.resume (((link errand.call).channel env).decode errand.rq reply)) world.state := by
  induction rest generalizing world before with
  | nil =>
    rw [List.append_nil] at whole
    subst whole
    exact leads_body lawful asks sound (List.nil_append _) receiving
  | cons data rest inductionHypothesis =>
    obtain ⟨threads, tracked⟩ := sound.tracked
    obtain ⟨object, live, _⟩ := tracked.exists_object receiving rfl
    have whole : before ++ [data] ++ rest = reply.headers := by
      rw [List.append_assoc]
      exact whole
    have taken : Step env link may program peer world [] _ :=
      .header receiving live ⟨rest, whole⟩
    exact Leads.step taken rfl (inductionHypothesis (sound.step lawful asks taken) whole
      (Function.update_self _ _ _))

/-- What the server answers to a transmission comes in. -/
theorem leads_waiting {transmission : Transmission} (sound : world.Sound env link)
    (waiting : world.worker client = .waiting errand handle transmission)
    (answers : peer client world.state transmission reply state) :
    world.Leads env link may program peer client
      (errand.resume (((link errand.call).channel env).decode errand.rq reply)) state := by
  have taken : Step env link may program peer world [] _ := .answer waiting answers
  exact Leads.step taken rfl (leads_receiving lawful asks (sound.step lawful asks taken)
    (List.nil_append reply.headers) (Function.update_self _ _ _))

/-- A request that can be sent is sent, and answered. -/
theorem leads_connected {transmission : Transmission} (sound : world.Sound env link)
    (connected : world.worker client = .connected errand handle)
    (encoded : ((link errand.call).channel env).encode errand.rq = .ok transmission)
    (answers : peer client world.state transmission reply state) :
    world.Leads env link may program peer client
      (errand.resume (((link errand.call).channel env).decode errand.rq reply)) state := by
  obtain ⟨threads, tracked⟩ := sound.tracked
  obtain ⟨object, live, user, password⟩ := tracked.exists_object connected rfl
  have proper := sound.proper client
  rw [connected] at proper
  obtain ⟨proper, line, shown⟩ := proper
  rw [(link errand.call).encode_eq lawful proper.1 shown user password] at encoded
  rcases ready : object.prepare env ((link errand.call).url errand.rq) errand.rq with
    ⟨prepared, fault | ⟨⟨⟩⟩⟩
  · rw [ready] at encoded
    cases encoded
  · rw [ready] at encoded
    cases encoded
    have taken : Step env link may program peer world [] _ := .perform connected live ready
    exact Leads.step taken rfl (leads_waiting lawful asks (sound.step lawful asks taken)
      (Function.update_self _ _ _) answers)

omit asks in
/-- A request that cannot be sent destroys the object. -/
theorem leads_refused {fault : Fault} (sound : world.Sound env link)
    (connected : world.worker client = .connected errand handle)
    (fails : ((link errand.call).channel env).encode errand.rq = .error fault) :
    world.Leads env link may program peer client (errand.resume (.error fault)) world.state := by
  obtain ⟨threads, tracked⟩ := sound.tracked
  obtain ⟨object, live, user, password⟩ := tracked.exists_object connected rfl
  have proper := sound.proper client
  rw [connected] at proper
  obtain ⟨proper, line, shown⟩ := proper
  rw [(link errand.call).encode_eq lawful proper.1 shown user password] at fails
  rcases ready : object.prepare env ((link errand.call).url errand.rq) errand.rq with
    ⟨prepared, other | ⟨⟨⟩⟩⟩
  · rw [ready] at fails
    cases fails
    exact leads_of_step (.refused connected live ready) rfl rfl
  · rw [ready] at fails
    cases fails

/-- A client gets an object and connects it. -/
theorem leads_get {line : Bytes} (sound : world.Sound env link)
    (busy : world.worker client = .busy errand.call (ask errand.rq errand.next))
    (shown : logged env errand.rq = .ok line)
    (later : ∀ (next : Pooled Client Value State Call) handle, next.Sound env link →
      next.worker client = .connected errand handle → next.state = world.state →
      next.Leads env link may program peer client worker state) :
    world.Leads env link may program peer client worker state := by
  obtain ⟨threads, tracked⟩ := sound.tracked
  obtain ⟨handle, pool, got⟩ := tracked.exists_handle
  have taken : Step env link may program peer world [] _ := .get busy shown got
  have kept := sound.step lawful asks taken
  obtain ⟨threads, tracked⟩ := kept.tracked
  have holds : (world.move client (.holding errand (some handle)) pool).worker client =
    .holding errand (some handle) := Function.update_self _ _ _
  obtain ⟨object, live, _⟩ := tracked.exists_object holds rfl
  have connecting : Step env link may program peer _ [] _ := .connect holds live
  exact Leads.step taken rfl (Leads.step connecting rfl (later _ handle
    (kept.step lawful asks connecting) (Function.update_self _ _ _) rfl))

/-- A request that can be sent is sent with some object of the pool, and answered. -/
theorem leads_answer {transmission : Transmission} (sound : world.Sound env link)
    (busy : world.worker client = .busy errand.call (ask errand.rq errand.next))
    (encoded : ((link errand.call).channel env).encode errand.rq = .ok transmission)
    (answers : peer client world.state transmission reply state) :
    world.Leads env link may program peer client
      (errand.resume (((link errand.call).channel env).decode errand.rq reply)) state := by
  cases shown : logged env errand.rq with
  | error fault =>
    have refused : ((link errand.call).channel env).encode errand.rq = .error fault := by
      show (logged env errand.rq >>= fun _ => _) = _
      rw [shown]
      rfl
    rw [refused] at encoded
    cases encoded
  | ok line =>
    refine leads_get lawful asks sound busy shown fun next handle kept connected same => ?_
    rw [← same] at answers
    exact leads_connected lawful asks kept connected encoded answers

/-- A request that cannot be sent ends in a fault. -/
theorem leads_fault {fault : Fault} (sound : world.Sound env link)
    (busy : world.worker client = .busy errand.call (ask errand.rq errand.next))
    (fails : ((link errand.call).channel env).encode errand.rq = .error fault) :
    world.Leads env link may program peer client (errand.resume (.error fault)) world.state := by
  cases shown : logged env errand.rq with
  | error other =>
    have refused : ((link errand.call).channel env).encode errand.rq = .error other := by
      show (logged env errand.rq >>= fun _ => _) = _
      rw [shown]
      rfl
    rw [refused] at fails
    cases fails
    exact leads_of_step (.unlogged busy shown) rfl rfl
  | ok line =>
    refine leads_get lawful asks sound busy shown fun next handle kept connected same => ?_
    rw [← same]
    exact leads_refused lawful kept connected fails

/-- A client goes on to a request that can be sent, or to the end of its program. -/
theorem exists_settled {call : Call} {rest : Api Value} (sound : world.Sound env link)
    (busy : world.worker client = .busy call rest) :
    ∃ settled : Api Value,
      world.Leads env link may program peer client (.busy call settled) world.state ∧
      settled.through ((link call).channel env) = rest.through ((link call).channel env) ∧
      ∀ rq next, settled = ask rq next →
        ∃ transmission, ((link call).channel env).encode rq = .ok transmission := by
  induction rest generalizing world with
  | done value =>
    refine ⟨.done value, ⟨world, .refl _, ?_, rfl⟩, rfl, by rintro _ _ ⟨⟩⟩
    rw [← busy, Function.update_eq_self]
  | raise fault =>
    refine ⟨.raise fault, ⟨world, .refl _, ?_, rfl⟩, rfl, by rintro _ _ ⟨⟩⟩
    rw [← busy, Function.update_eq_self]
  | cut =>
    refine ⟨.cut, ⟨world, .refl _, ?_, rfl⟩, rfl, by rintro _ _ ⟨⟩⟩
    rw [← busy, Function.update_eq_self]
  | ask rq next inductionHypothesis =>
    cases encoded : ((link call).channel env).encode rq with
    | ok transmission =>
      refine ⟨.ask rq next, ⟨world, .refl _, ?_, rfl⟩, rfl, ?_⟩
      · rw [← busy, Function.update_eq_self]
      · rintro _ _ ⟨⟩
        exact ⟨transmission, encoded⟩
    | error fault =>
      let errand : Errand Value Call := ⟨call, rq, next⟩
      have asked : world.worker client = .busy errand.call (ask errand.rq errand.next) := busy
      obtain ⟨after, run, moved, same⟩ := leads_fault lawful asks sound asked encoded
      have there : after.worker client = .busy call (next (.error fault)) := by
        rw [moved, Function.update_self]
        rfl
      obtain ⟨settled, ⟨last, later, moves, stays⟩, through, ready⟩ :=
        inductionHypothesis (.error fault) (sound.followed_run lawful asks run).1 there
      refine ⟨settled, ⟨last, run.trans later, ?_, stays.trans same⟩, ?_, ready⟩
      · rw [moves, moved, Function.update_idem]
      · rw [through, through_ask_of_error encoded]

/-- Nobody is in the middle of a request, and the clients are seen to stand as they do with objects
of their own. -/
structure Rests (env : Env) (link : Call → Link) (world : Pooled Client Value State Call)
    (crowd : Crowd Client Transmission Transfer Fault Value State Call) : Prop where
  sound : world.Sound env link
  seen : world.crowd env link = crowd
  rests : ∀ client, (world.worker client).Resting

variable {crowd seen : Crowd Client Transmission Transfer Fault Value State Call} {call : Call}
  {events : List (Event Client Fault Value Call)}

omit lawful asks

theorem rests_start (state : State) :
    (start state : Pooled Client Value State Call).Rests env link (.start state) :=
  ⟨sound_start state, rfl, fun _ => .inl rfl⟩

/-- A client has gone from rest to rest. -/
theorem Rests.moved (resting : world.Rests env link crowd) (sound : next.Sound env link)
    (moved : next.worker = Function.update world.worker client worker) (still : worker.Resting) :
    next.Rests env link
      ⟨Function.update crowd.activity client (worker.activity env link), next.state⟩ := by
  refine ⟨sound, ?_, fun other => ?_⟩
  · rw [← resting.seen]
    refine congrArg (Crowd.mk · next.state) ?_
    rw [moved]
    exact activity_move client worker world.pool world
  · rw [moved]
    by_cases here : other = client
    · rw [here, Function.update_self]
      exact still
    · rw [Function.update_of_ne here]
      exact resting.rests other

theorem Rests.state_eq (resting : world.Rests env link crowd) : world.state = crowd.state :=
  congrArg Crowd.state resting.seen

/-- A client at rest that is seen to be idle is idle. -/
theorem Rests.idle (resting : world.Rests env link crowd)
    (idle : crowd.activity client = .idle) : world.worker client = .idle := by
  rw [← resting.seen] at idle
  have seen : (world.worker client).activity env link = .idle := idle
  rcases resting.rests client with stands | ⟨calling, rest, stands⟩
  · exact stands
  · rw [stands] at seen
    cases seen

/-- A client at rest that is seen to be busy is busy. -/
theorem Rests.busy {left : Dialogue Transmission Transfer Fault Value}
    (resting : world.Rests env link crowd) (busy : crowd.activity client = .busy call left) :
    ∃ rest, world.worker client = .busy call rest ∧
      rest.through ((link call).channel env) = left := by
  rw [← resting.seen] at busy
  have seen : (world.worker client).activity env link = .busy call left := busy
  rcases resting.rests client with idle | ⟨calling, rest, stands⟩
  · rw [idle] at seen
    cases seen
  · rw [stands] at seen
    cases seen
    exact ⟨rest, stands, rfl⟩

include lawful asks

/-- What a client with an object of its own does in one step, a client does with the pool. -/
theorem Rests.imitated (resting : world.Rests env link crowd)
    (step : Crowd.Step may (fun call => (program call).through ((link call).channel env)) peer
      crowd events seen) :
    ∃ after, Unfolds (Step env link may program peer) world events after ∧
      after.Rests env link seen := by
  have settling {client : Client} {call : Call} {left : Dialogue Transmission Transfer Fault Value}
      (busy : crowd.activity client = .busy call left) :
      ∃ between settled, Unfolds (Step env link may program peer) world [] between ∧
        between.worker client = .busy call settled ∧
        settled.through ((link call).channel env) = left ∧
        (∀ rq next, settled = ask rq next →
          ∃ transmission, ((link call).channel env).encode rq = .ok transmission) ∧
        between.Rests env link ⟨Function.update crowd.activity client (.busy call left),
          crowd.state⟩ := by
    obtain ⟨rest, stands, left_eq⟩ := resting.busy busy
    obtain ⟨settled, leads, through, ready⟩ := exists_settled lawful asks resting.sound stands
    obtain ⟨between, run, moved, same⟩ :
      world.Leads env link may program peer client (.busy call settled) world.state := leads
    have through := through.trans left_eq
    have rests := resting.moved (resting.sound.followed_run lawful asks run).1 moved
      (.inr ⟨call, settled, rfl⟩)
    refine ⟨between, settled, run, ?_, through, ready, ?_⟩
    · rw [moved, Function.update_self]
    · rw [← resting.state_eq, ← same, ← through]
      exact rests
  cases step with
  | @called client call idle allowed =>
    have taken : Step env link may program peer world [.called client call] _ :=
      .called (resting.idle idle) allowed
    refine ⟨_, .single taken, ?_⟩
    rw [← resting.state_eq]
    exact resting.moved (resting.sound.step lawful asks taken) rfl (.inr ⟨call, program call, rfl⟩)
  | @answered client call question next reply after busy answers =>
    obtain ⟨between, settled, run, there, through, ready, rests⟩ := settling busy
    cases settled with
    | done value => cases through
    | raise fault => cases through
    | cut => cases through
    | ask rq more =>
      obtain ⟨transmission, encoded⟩ := ready rq more rfl
      rw [through_ask_of_ok encoded] at through
      cases through
      let errand : Errand Value Call := ⟨call, rq, more⟩
      have asked : between.worker client = .busy errand.call (ask errand.rq errand.next) := there
      rw [← show between.state = crowd.state from rests.state_eq] at answers
      obtain ⟨next, later, moved, same⟩ :
        between.Leads env link may program peer client
          (errand.resume (((link call).channel env).decode rq reply)) after :=
        leads_answer lawful asks rests.sound asked encoded answers
      have final := rests.moved (rests.sound.followed_run lawful asks later).1 moved
        (.inr ⟨_, _, rfl⟩)
      refine ⟨next, run.trans later, ?_⟩
      rw [Function.update_idem, same] at final
      exact final
  | @returned client call result ended =>
    obtain ⟨between, settled, run, there, through, ready, rests⟩ := settling ended
    have same : settled = ofExcept result := by
      cases settled with
      | done value =>
        cases result with
        | error fault => cases through
        | ok other =>
          cases through
          rfl
      | raise fault =>
        cases result with
        | error other =>
          cases through
          rfl
        | ok value => cases through
      | cut => cases result <;> cases through
      | ask rq more =>
        obtain ⟨transmission, encoded⟩ := ready rq more rfl
        rw [through_ask_of_ok encoded] at through
        cases result <;> cases through
    rw [same] at there
    have taken : Step env link may program peer between [.returned client result] _ :=
      .returned there
    have final := rests.moved (rests.sound.step lawful asks taken) rfl (.inl rfl)
    refine ⟨_, run.trans (.single taken), ?_⟩
    rw [Function.update_idem, show (between.move client .idle between.pool).state = crowd.state
      from rests.state_eq] at final
    exact final

end Pooled

/-! ### The pool cannot be seen -/

variable [DecidableEq Client] {may : Client → Call → Prop}
  {program : Call → Api Value} {peer : Client → State → Transmission → Transfer → State → Prop}

/-- The clients of a server, each of which sends every request with an object of its own. -/
abbrev Unshared (env : Env) (link : Call → Link) (may : Client → Call → Prop)
    (program : Call → Api Value)
    (peer : Client → State → Transmission → Transfer → State → Prop) :
    Crowd Client Transmission Transfer Fault Value State Call →
      List (Event Client Fault Value Call) →
      Crowd Client Transmission Transfer Fault Value State Call → Prop :=
  Crowd.Step may
    (fun call => conduct env (link call).dispatch (link call).connectData (program call)) peer

theorem unshared_eq (lawful : env.vpack.Lawful)
    (asks : ∀ call, (program call).Asks (HttpMessage.Issued env)) :
    Unshared env link may program peer =
      Crowd.Step may (fun call => (program call).through ((link call).channel env)) peer := by
  have same : (fun call =>
      conduct env (link call).dispatch (link call).connectData (program call)) =
      fun call => (program call).through ((link call).channel env) :=
    funext fun call => Operation.conduct_eq_through lawful (asks call) _ _
  rw [Unshared, same]

theorem issuable_of_issued (asks : ∀ call, (program call).Asks (HttpMessage.Issued env))
    (call : Call) : (program call).Asks HttpMessage.Issuable :=
  (asks call).mono fun _ issued => issued.toIssuable

/-- What is done with the objects of the pool is seen as what is done without. -/
theorem Pooled.unshared (lawful : env.vpack.Lawful)
    (asks : ∀ call, (program call).Asks (HttpMessage.Issued env)) {state : State}
    {history : List (Event Client Fault Value Call)} {world : Pooled Client Value State Call}
    (run : Unfolds (Pooled.Step env link may program peer) (.start state) history world) :
    Unfolds (Unshared env link may program peer) (.start state) history
      (world.crowd env link) := by
  rw [unshared_eq lawful asks]
  exact ((sound_start state).followed_run lawful (issuable_of_issued asks) run).2

/-- What is done without the pool can be done with it. -/
theorem exists_pooled (lawful : env.vpack.Lawful)
    (asks : ∀ call, (program call).Asks (HttpMessage.Issued env)) {state : State}
    {history : List (Event Client Fault Value Call)}
    {crowd : Crowd Client Transmission Transfer Fault Value State Call}
    (run : Unfolds (Unshared env link may program peer) (.start state) history crowd) :
    ∃ world, Unfolds (Pooled.Step env link may program peer) (.start state) history world ∧
      world.crowd env link = crowd := by
  rw [unshared_eq lawful asks] at run
  obtain ⟨world, followed, resting⟩ := Unfolds.simulates
    (fun _ _ _ _ resting step =>
      Pooled.Rests.imitated lawful (issuable_of_issued asks) resting step) run
    (Pooled.rests_start state)
  exact ⟨world, followed, resting.seen⟩

/-- What the clients see, and what becomes of the server, is the same whether they take the objects
of the pool in turns, each in the middle of its requests while the others go on, or every request
has an object of its own and is sent and answered in one step. -/
theorem pooled_iff (lawful : env.vpack.Lawful)
    (asks : ∀ call, (program call).Asks (HttpMessage.Issued env)) (state final : State)
    (history : List (Event Client Fault Value Call)) :
    (∃ world, Unfolds (Pooled.Step env link may program peer) (.start state) history world ∧
      world.state = final) ↔
    ∃ crowd, Unfolds (Unshared env link may program peer) (.start state) history crowd ∧
      crowd.state = final := by
  constructor
  · rintro ⟨world, run, ends⟩
    exact ⟨_, Pooled.unshared lawful asks run, ends⟩
  · rintro ⟨crowd, run, ends⟩
    obtain ⟨world, followed, seen⟩ := exists_pooled lawful asks run
    exact ⟨world, followed, (congrArg Crowd.state seen).trans ends⟩

end

/-! ### Databases -/

section

variable {Given Client : Type} [DecidableEq Client] {env : Env} {policy : Policy}
  {connectData : ArangoDBConnection} {aql : Aql.Meaning} {rules : GraphRules} {batchSize : Int32}
  {turns : Nat} {expires races : Prop} {may : Client → DatabaseCall Given → Prop}
  {history : List (Event Client Fault (DatabaseReturned Given) (DatabaseCall Given))}
  {database : Database Client}

/-- The clients of a database, which send their requests with the objects of the pool. -/
abbrev PooledDatabase (env : Env) (policy : Policy) (connectData : ArangoDBConnection)
    (aql : Aql.Meaning) (rules : GraphRules) (batchSize : Int32) (turns : Nat) (expires : Prop)
    (may : Client → DatabaseCall Given → Prop) :=
  Pooled.Step env (fun _ => ⟨.base, connectData⟩) may
    (fun call => call.program env batchSize turns)
    (Database.Responds env policy connectData aql rules expires)

/-- What any number of threads see of a database, its collections, documents and graphs, when they
share the pool and each is in the middle of its requests while the others go on, they could see if
each call were served in one instant between its start and its end. -/
theorem databases_pooled (understands : policy.Understands env)
    (apart : races ∨ ∀ client other name, Curates may client name → Curates may other name →
      client = other)
    {world : Pooled Client (DatabaseReturned Given) (Database Client) (DatabaseCall Given)}
    (run : Unfolds (PooledDatabase env policy connectData aql rules batchSize turns expires may)
      (.start database) history world) :
    ∃ object, Unfolds (SharedDatabase Given env policy aql rules batchSize expires races Client)
        (.start database.gallery) history object ∧
      DoesAll (DatabaseCall.Does env policy aql rules batchSize races)
        ((object.log.map Prod.snd).map Prod.fst) database.gallery
        ((object.log.map Prod.snd).map Prod.snd) world.state.gallery ∧
      ∀ client, world.worker client = .idle →
        callsOf client history = (servedTo client object.log).map Prod.fst ∧
        List.Forall₂ (DatabaseAnswer.Agrees env expires)
          ((servedTo client object.log).map Prod.snd) (resultsOf client history) := by
  have unshared := Pooled.unshared understands.lawful
    (issued_databaseCall understands batchSize turns) run
  obtain ⟨object, served, done, each⟩ := databases_linearizable understands apart unshared
  refine ⟨object, served, done, fun client idle => each client ?_⟩
  show (world.worker client).activity env _ = .idle
  rw [idle]
  rfl

end

/-! ### Two clients -/

/-- One client deletes a document while another one, with another object of the pool, asks whether
it exists. -/
theorem pooled_iff_two :
    let name : CollectionName := ⟨"c", by decide, List.all_eq_true.mp rfl⟩
    let key : DocumentKey := ⟨"k", by decide, List.all_eq_true.mp rfl, by decide, by decide⟩
    let env : Env := ⟨.printing [], true, true, [], false⟩
    let policy : Policy := ⟨fun body => some ((Velocypack.printing []).sliceAt body),
      fun _ _ _ _ => True⟩
    let documents : Documents := fun _ => some fun _ => some ⟨.null, .null⟩
    let deletes : Call := .deleteDocument name (.bare key)
    let probes : Call := .existsDocument name (.full key)
    let history : List (Event Bool Fault Returned Call) := [.called true deletes,
      .called false probes, .returned false (.ok (.flag true)), .returned true (.ok (.flag true))]
    ∃ world, Unfolds (Pooled.Step env (fun _ => ⟨.base, .default⟩) (fun _ _ => True)
        (Call.program env) fun _ => policy.Responds env .default) (.start documents) history world ∧
      world.state = documents.erase name key := by
  intro name key env policy documents deletes probes history
  have understands : policy.Understands env :=
    understands_printing fun entry listed => absurd listed List.not_mem_nil
  obtain ⟨probed, deleted⟩ := plays_deleted_probed name name key
  obtain ⟨crowd, run, ends, _⟩ := Crowd.exists_overlapping (fun _ _ => True)
    (fun call : Call => conduct env .base .default (call.program env))
    (fun _ => policy.Responds env .default) (Bool.noConfusion : true ≠ false) trivial trivial
    probed deleted
  exact (pooled_iff understands.lawful (asks_call understands.lawful) documents
    (documents.erase name key) history).mpr ⟨crowd, run, ends⟩

/-- One client removes a graph while another one, with another object of the pool, asks whether it
exists. -/
theorem databases_pooled_two :
    let name : CollectionName := ⟨"g", by decide, List.all_eq_true.mp rfl⟩
    let env : Env := ⟨.printing [], true, true, [], false⟩
    let policy : Policy := ⟨fun body => some ((Velocypack.printing []).sliceAt body),
      fun _ _ _ _ => True⟩
    let rules : GraphRules := ⟨fun _ _ => False, fun _ _ _ => False, fun _ _ => False⟩
    let database : Database Bool := ⟨.empty Bool, fun _ => some ⟨fun _ _ => False⟩⟩
    let may : Bool → DatabaseCall (List Bytes) → Prop := fun client call =>
      ∀ name, call.changes = some name → client = true
    let history : List (Event Bool Fault (DatabaseReturned (List Bytes))
      (DatabaseCall (List Bytes))) :=
        [.called true (.graph (.removeGraph name false)), .called false (.graph (.existGraph name)),
          .returned false (.ok (.graph (.flag true))), .returned true (.ok (.graph .nothing))]
    ∃ world object,
      Unfolds (PooledDatabase env policy .default .refusing rules 500 10 True may)
        (.start database) history world ∧
      Unfolds (SharedDatabase (List Bytes) env policy .refusing rules 500 True False Bool)
        (.start database.gallery) history object ∧
      DoesAll (DatabaseCall.Does env policy .refusing rules 500 False)
        ((object.log.map Prod.snd).map Prod.fst) database.gallery
        ((object.log.map Prod.snd).map Prod.snd) world.state.gallery := by
  intro name env policy rules database may history
  have understands : policy.Understands env :=
    understands_printing fun entry listed => absurd listed List.not_mem_nil
  have found : database.graphs name = some ⟨fun _ _ => False⟩ := rfl
  have probed : Plays (Database.Responds env policy .default .refusing rules True false)
      (conduct env .base .default ((DatabaseCall.graph (.existGraph name) :
        DatabaseCall (List Bytes)).program env 500 10)) database (.ok (.graph (.flag true)))
      database := by
    rw [DatabaseCall.program, conduct_bind, GraphCall.program, conduct_bind]
    exact plays_bind_iff.mpr (Or.inl ⟨_, _, plays_bind_iff.mpr (Or.inl ⟨true, database,
      plays_existGraph understands found, plays_done_iff.mpr ⟨rfl, rfl⟩⟩),
      plays_done_iff.mpr ⟨rfl, rfl⟩⟩)
  obtain ⟨crowd, run, _, _⟩ := Crowd.exists_overlapping may
    (fun call : DatabaseCall (List Bytes) =>
      conduct env .base .default (call.program env 500 10))
    (Database.Responds env policy .default .refusing rules True)
    (Bool.noConfusion : true ≠ false) (fun _ _ => rfl) (fun other changes => by cases changes)
    probed (plays_removeGraph understands found 500 10)
  have unshared : Unfolds (Unshared env (fun _ => ⟨.base, .default⟩) may
    (DatabaseCall.program env 500 10) (Database.Responds env policy .default .refusing rules True))
    (.start database) history crowd := run
  obtain ⟨world, followed, _⟩ := exists_pooled understands.lawful
    (issued_databaseCall understands 500 10) unshared
  obtain ⟨object, served, done, _⟩ := @databases_pooled (List Bytes) Bool _ env policy .default
    .refusing rules 500 10 True False may history database understands
    (Or.inr fun client other name own others => by
      obtain ⟨call, allowed, changes⟩ := own
      obtain ⟨callToo, allowedToo, changesToo⟩ := others
      exact (allowed name changes).trans (allowedToo name changesToo).symm) world followed
  exact ⟨world, object, followed, served, done⟩

end ArangoCpp
