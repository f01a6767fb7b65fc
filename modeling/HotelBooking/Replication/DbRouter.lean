import HotelBooking.Effect.EventLoop
import HotelBooking.Sharding.ShardRouter
import Mathlib.Data.List.Infix

/-! Reads and writes between the primary and its replica. Every instance of the API has its own
health flags and its own map of sticky sessions; the two nodes and Redis are shared. What a
function does between two awaits is one turn of the event loop of its instance. -/
namespace HotelBooking
open Effect

inductive DbNode where
  | primary
  | replica
  deriving DecidableEq

/-- Why a request went to its node, the header X-DB-Route. -/
inductive Route where
  | eventual
  | strong
  | sticky
  | primaryPreferred
  | fallback
  | primaryOnly
  | degraded
  | write
  deriving DecidableEq

/-- The classes of errors that a Prisma call rejects with. -/
inductive PrismaError where
  | initialization (message : Text)
  | knownRequest (code message : Text)
  | unknownRequest (message : Text)
  | rustPanic (message : Text)
  | other (message : Text)
  deriving DecidableEq

namespace PrismaError

def message : PrismaError → Text
  | initialization message | knownRequest _ message | unknownRequest message | rustPanic message
  | other message => message

def connectionCodes : List Text := ["P1001", "P1002", "P1008", "P1017"].map text

/-- The alternatives of CONNECTION_RE, in lower case. -/
def connectionPatterns : List Text :=
  ["can't reach database", "server has closed the connection", "connection refused",
    "connection reset", "connection closed", "terminating connection",
    "the database system is shutting down", "the database system is starting up",
    "the database system is in recovery mode", "econnrefused", "enotfound", "eai_again"].map text

/-- A pattern of ASCII characters somewhere in the text, in any case. -/
def occurs (pattern input : Text) : Bool :=
  decide (pattern <:+: input.map fun unit => if 65 ≤ unit ∧ unit ≤ 90 then unit + 32 else unit)

def isConnectionError : PrismaError → Bool
  | initialization _ => true
  | knownRequest code _ => connectionCodes.contains code
  | unknownRequest message | rustPanic message =>
    connectionPatterns.any fun pattern => occurs pattern message
  | other _ => false

def isRecoveryConflict (err : PrismaError) : Bool :=
  occurs (text "conflict with recovery") err.message

end PrismaError

inductive RouterErr where
  | prisma (err : PrismaError)
  | serviceUnavailable (error message : Text)
  | redis
  deriving DecidableEq

def RouterErr.isConnection : RouterErr → Bool
  | .prisma err => err.isConnectionError
  | _ => false

def RouterErr.isRecoveryConflict : RouterErr → Bool
  | .prisma err => err.isRecoveryConflict
  | _ => false

/-- The mutable fields of one router. -/
structure Instance where
  healthy : DbNode → Bool
  localSticky : Text → Option Instant

namespace Instance

def init (replicaEnabled : Bool) : Instance :=
  ⟨fun node => match node with
    | .primary => true
    | .replica => replicaEnabled, fun _ => none⟩

def mark (inst : Instance) (node : DbNode) (up : Bool) : Instance :=
  { inst with healthy := Function.update inst.healthy node up }

/-- `localUntil && localUntil > Date.now()` -/
def sticks (inst : Instance) (session : Text) (now : Instant) : Bool :=
  match inst.localSticky session with
  | some localUntil => localUntil ≠ 0 && decide (localUntil > now)
  | none => false

def setSticky (inst : Instance) (session : Text) (localUntil : Instant) : Instance :=
  { inst with localSticky := Function.update inst.localSticky session (some localUntil) }

/-- The loop of `probeNodes` over the expired sessions. -/
def purge (inst : Instance) (now : Instant) : Instance :=
  { inst with localSticky := fun session =>
      (inst.localSticky session).filter fun localUntil => !decide (localUntil ≤ now) }

end Instance

section Commands
variable (C : Type)

/-- What is asked of a node. A mutation commits a change of type `C`. -/
inductive NodeCall where
  | query (route : Route)
  | mutation (change : C)
  | probe
  deriving DecidableEq

/-- Synchronous operations: on the fields of the router, and the dispatch of a call to a node. -/
inductive SyncOp where
  | healthy (node : DbNode)
  | markDown (node : DbNode)
  | markUp (node : DbNode)
  | sticks (session : Text)
  | setSticky (session : Text) (ttlMs : Int)
  | purge
  | track (node : DbNode) (route : Route)
  | send (node : DbNode) (call : NodeCall C)
  deriving DecidableEq

inductive AwaitOp where
  | request
  | answer (node : DbNode) (call : NodeCall C)
  | setFlag (session : Text) (ttlMs : Int)
  | hasFlag (session : Text)
  | getEntry (key : Text)
  | setEntry (key : Text) (data : List C)
  deriving DecidableEq

/-- Besides what the instances do, time passes and the replica applies commits. -/
inductive RouterCmd where
  | sync (self : Nat) (op : SyncOp C)
  | await (self : Nat) (op : AwaitOp C)
  | advance (ms : Nat)
  | replay
  deriving DecidableEq

end Commands

variable {C : Type}

/-- A query is answered with the commits that the node has applied. -/
abbrev NodeCall.Answer : NodeCall C → Type
  | .query _ => List C
  | .mutation _ | .probe => Unit

abbrev SyncOp.Answer : SyncOp C → Type
  | .healthy _ | .sticks _ => Bool
  | _ => Unit

abbrev AwaitOp.Answer : AwaitOp C → Type
  | .answer _ call => call.Answer
  | .hasFlag _ => Bool
  | .getEntry _ => Option (List C)
  | .request | .setFlag .. | .setEntry .. => Unit

abbrev RouterCmd.Answer : RouterCmd C → Type
  | .sync _ op => op.Answer
  | .await _ op => op.Answer
  | .advance _ | .replay => Unit

/-- The instance whose event loop the command belongs to. -/
def RouterCmd.self? : RouterCmd C → Option Nat
  | .sync self _ | .await self _ => some self
  | .advance _ | .replay => none

def RouterCmd.isRedis : RouterCmd C → Bool
  | .await _ (.setFlag ..) | .await _ (.hasFlag _) | .await _ (.getEntry _)
  | .await _ (.setEntry ..) => true
  | _ => false

abbrev routerSignature (C : Type) : Signature := ⟨RouterCmd C, RouterCmd.Answer⟩

abbrev Loop (C α : Type) : Type := Program (routerSignature C) RouterErr α

/-- All instances, the two nodes and Redis. A flag is held with the time of its expiry. -/
structure Cluster (C : Type) where
  clock : Nat
  instances : Nat → Instance
  commits : List C
  applied : List C
  flags : Text → Option Instant
  entries : Text → Option (List C)

namespace Cluster

def init (replicaEnabled : Bool) : Cluster C :=
  ⟨0, fun _ => .init replicaEnabled, [], [], fun _ => none, fun _ => none⟩

def setInstance (cluster : Cluster C) (self : Nat) (inst : Instance) : Cluster C :=
  { cluster with instances := Function.update cluster.instances self inst }

def snapshot (cluster : Cluster C) : DbNode → List C
  | .primary => cluster.commits
  | .replica => cluster.applied

def execSync (self : Nat) : (op : SyncOp C) → Cluster C → op.Answer × Cluster C
  | .healthy node, cluster => ((cluster.instances self).healthy node, cluster)
  | .markDown node, cluster =>
    ((), cluster.setInstance self ((cluster.instances self).mark node false))
  | .markUp node, cluster =>
    ((), cluster.setInstance self ((cluster.instances self).mark node true))
  | .sticks session, cluster => ((cluster.instances self).sticks session cluster.clock, cluster)
  | .setSticky session ttlMs, cluster =>
    ((), cluster.setInstance self ((cluster.instances self).setSticky session (cluster.clock + ttlMs)))
  | .purge, cluster => ((), cluster.setInstance self ((cluster.instances self).purge cluster.clock))
  | .track _ _, cluster => ((), cluster)
  | .send _ _, cluster => ((), cluster)

def answer (node : DbNode) : (call : NodeCall C) → Cluster C → call.Answer × Cluster C
  | .query _, cluster => (cluster.snapshot node, cluster)
  | .mutation change, cluster => ((), { cluster with commits := cluster.commits ++ [change] })
  | .probe, cluster => ((), cluster)

def execAwait : (op : AwaitOp C) → Cluster C → op.Answer × Cluster C
  | .request, cluster => ((), cluster)
  | .answer node call, cluster => cluster.answer node call
  | .setFlag session ttlMs, cluster =>
    ((), { cluster with flags := Function.update cluster.flags session (some (cluster.clock + ttlMs)) })
  | .hasFlag session, cluster =>
    ((cluster.flags session).any fun expiry => decide ((cluster.clock : Instant) < expiry), cluster)
  | .getEntry key, cluster => (cluster.entries key, cluster)
  | .setEntry key data, cluster =>
    ((), { cluster with entries := Function.update cluster.entries key (some data) })

/-- Nothing fails of itself, failures are faults. The replica applies the oldest commit that it
has not applied yet. -/
def exec : Executor (routerSignature C) RouterErr (Cluster C)
  | .sync self op, cluster => (.ok (execSync self op cluster).1, (execSync self op cluster).2)
  | .await _ op, cluster => (.ok (execAwait op cluster).1, (execAwait op cluster).2)
  | .advance ms, cluster => (.ok (), { cluster with clock := cluster.clock + ms })
  | .replay, cluster =>
    (.ok (), { cluster with applied := cluster.commits.take (cluster.applied.length + 1) })

end Cluster

/-- One router, serving one request. `session` is that of the request context. -/
structure DbRouter where
  replicaEnabled : Bool
  stickyTtlMs : Int
  self : Nat
  session : Option Text

namespace DbRouter

def sync (db : DbRouter) (op : SyncOp C) : Loop C op.Answer :=
  Program.perform (S := routerSignature C) (.sync db.self op)

def await (db : DbRouter) (op : AwaitOp C) : Loop C op.Answer :=
  Program.perform (S := routerSignature C) (.await db.self op)

/-- `query(node)`, `mutation(node)` or the probe: dispatched now, answered later. -/
def ask (db : DbRouter) (node : DbNode) (call : NodeCall C) : Loop C call.Answer := do
  db.sync (.send node call)
  db.await (.answer node call)

def setFlag (db : DbRouter) (session : Text) (ttlMs : Int) : Loop C Unit :=
  try db.await (.setFlag session ttlMs) catch _ => pure ()

/-- `none` when Redis is unavailable. -/
def hasFlag (db : DbRouter) (session : Text) : Loop C (Option Bool) :=
  tryCatch (do return some (← db.await (.hasFlag session))) fun _ => return none

def readOnlyError : RouterErr :=
  .serviceUnavailable (text "Read-Only Mode") (text
    "Primary Node недоступний: операції запису тимчасово заблоковані, читання каталогу доступне")

def primaryUnavailable (route : Route) : RouterErr :=
  .serviceUnavailable (text "Primary Unavailable") (text (if route = .strong then
    "Primary Node недоступний: строго узгоджене читання неможливе"
    else "Жоден вузол БД недоступний"))

/-- The end of `readPrimary`, where the primary is unavailable. -/
def readDegraded (db : DbRouter) (route : Route) : Loop C (List C) :=
  if (route = .sticky ∨ route = .primaryPreferred) ∧ db.replicaEnabled then do
    if ← db.sync (.healthy .replica) then
      let result ← db.ask .replica (.query .degraded)
      db.sync (.track .replica .degraded)
      return result
    else throw (primaryUnavailable route)
  else throw (primaryUnavailable route)

def readPrimary (db : DbRouter) (route : Route) : Loop C (List C) := do
  if ← db.sync (.healthy .primary) then
    try
      let result ← db.ask .primary (.query route)
      db.sync (.track .primary route)
      pure result
    catch err =>
      if !err.isConnection then throw err
      else
        db.sync (.markDown .primary)
        db.readDegraded route
  else db.readDegraded route

def isSticky (db : DbRouter) : Loop C Bool :=
  match db.session with
  | none => return false
  | some session =>
    if db.stickyTtlMs ≤ 0 then return false
    else do
      if ← db.sync (.sticks session) then return true
      else
        -- another instance may have handled the write
        return (← db.hasFlag session) = some true

def rememberWrite (db : DbRouter) : Loop C Unit :=
  match db.session with
  | none => return ()
  | some session =>
    if !db.replicaEnabled ∨ db.stickyTtlMs ≤ 0 then return ()
    else do
      db.sync (.setSticky session db.stickyTtlMs)
      db.setFlag session db.stickyTtlMs

def write (db : DbRouter) (change : C) : Loop C Unit := do
  if !(← db.sync (.healthy .primary)) then throw readOnlyError
  else
    try db.ask .primary (.mutation change)
    catch err =>
      if !err.isConnection then throw err
      else
        db.sync (.markDown .primary)
        throw readOnlyError
    db.sync (.track .primary .write)
    db.rememberWrite

/-- `read` with `Consistency.EVENTUAL`, once the sticky check is made. -/
def readEventual (db : DbRouter) : Loop C (List C) := do
  if !(← db.sync (.healthy .replica)) then db.readPrimary .fallback
  else
    try
      let result ← db.ask .replica (.query .eventual)
      db.sync (.track .replica .eventual)
      pure result
    catch err =>
      if err.isConnection then
        db.sync (.markDown .replica)
        db.readPrimary .fallback
      else if err.isRecoveryConflict then db.readPrimary .fallback
      else throw err

def read (db : DbRouter) (consistency : Consistency) : Loop C (List C) :=
  match consistency with
  | .strong => db.readPrimary .strong
  | .primaryPreferred => db.readPrimary .primaryPreferred
  | .eventual =>
    if !db.replicaEnabled then db.readPrimary .primaryOnly
    else do
      if ← db.isSticky then db.readPrimary .sticky
      else db.readEventual

/-- The answers to the probes, in the order in which they come. -/
def probed (db : DbRouter) : List DbNode → Loop C Unit
  | [] => return ()
  | node :: rest => do
    try
      db.await (.answer node .probe)
      db.sync (.markUp node)
    catch err =>
      if err.isConnection then db.sync (.markDown node) else pure ()
    db.probed rest

def probeNodes (db : DbRouter) (replicaFirst : Bool) : Loop C Unit := do
  db.sync .purge
  db.sync (.send .primary .probe)
  if db.replicaEnabled then
    db.sync (.send .replica .probe)
    db.probed (if replicaFirst then [.replica, .primary] else [.primary, .replica])
  else db.probed [.primary]

/-- The GET inside `try`, with its error as a value. -/
def getEntry (db : DbRouter) (key : Text) : Loop C (Except RouterErr (Option (List C))) :=
  tryCatch (do return .ok (← db.await (.getEntry key))) fun err => return .error err

/-- `CacheService.getOrSet`, filled from the primary and bypassed by an eventual read. -/
def getOrSet (db : DbRouter) (key : Text) : Loop C (List C) := do
  match ← db.getEntry key with
  | .error _ => db.read .eventual
  | .ok (some data) => return data
  | .ok none =>
    let data ← db.read .primaryPreferred
    try db.await (.setEntry key data) catch _ => pure ()
    return data

end DbRouter

inductive RouterCall (C : Type) where
  | write (change : C)
  | read (consistency : Consistency)
  | probe (replicaFirst : Bool)
  | getOrSet (key : Text)

/-- What runs beside each other: requests and probes of the instances, the clock, replication. -/
inductive Task (C : Type) where
  | serve (self : Nat) (session : Option Text) (call : RouterCall C)
  | advance (ms : Nat)
  | replay

/-- The configuration that all instances share. -/
structure RouterConfig where
  replicaEnabled : Bool
  stickyTtlMs : Int

def RouterConfig.router (config : RouterConfig) (self : Nat) (session : Option Text) : DbRouter :=
  ⟨config.replicaEnabled, config.stickyTtlMs, self, session⟩

def RouterCall.program (db : DbRouter) : RouterCall C → Loop C (Option (List C))
  | .write change => do
    db.write change
    return none
  | .read consistency => return some (← db.read consistency)
  | .probe replicaFirst => do
    db.probeNodes replicaFirst
    return none
  | .getOrSet key => return some (← db.getOrSet key)

def Task.program (config : RouterConfig) : Task C → Loop C (Option (List C))
  | .serve self session call => do
    (config.router self session).await .request
    call.program (config.router self session)
  | .advance ms => do
    Program.perform (S := routerSignature C) (.advance ms)
    return none
  | .replay => do
    Program.perform (S := routerSignature C) .replay
    return none

abbrev Tasks (C : Type) : Type := Pool (routerSignature C) RouterErr (Option (List C)) (Cluster C)

abbrev RouterEvent (C : Type) : Type := Event (routerSignature C) RouterErr

abbrev RouterMove (C : Type) : Type := Transition (Tasks C) (RouterEvent C)

def RouterConfig.start (config : RouterConfig) (cluster : Cluster C) (tasks : List (Task C)) :
    Tasks C := ⟨cluster, tasks.map (Task.program config)⟩

/-- Nodes may fail at any call, with or without its effect. `redis` says what may happen to the
commands of Redis. -/
inductive RouterFaults (redis : Fault RouterErr → Prop) :
    Policy (routerSignature C) RouterErr (Cluster C) where
  | answered {cluster : Cluster C} {cmd : RouterCmd C} : cmd.isRedis = false →
      RouterFaults redis cluster cmd .none
  | refused {cluster : Cluster C} {self : Nat} {node : DbNode} {call : NodeCall C}
      {err : PrismaError} : RouterFaults redis cluster (.await self (.answer node call))
        (.refused (.prisma err))
  | lost {cluster : Cluster C} {self : Nat} {node : DbNode} {call : NodeCall C}
      {err : PrismaError} : RouterFaults redis cluster (.await self (.answer node call))
        (.lost (.prisma err))
  | redis {cluster : Cluster C} {cmd : RouterCmd C} {fault : Fault RouterErr} :
      cmd.isRedis = true → redis fault → RouterFaults redis cluster cmd fault

/-- Every instance has its event loop. Time and replication belong to none. -/
def routerLoops (C : Type) : EventLoop (routerSignature C) Nat where
  owner := RouterCmd.self?
  sync cmd := match cmd with
    | .sync .. => true
    | _ => false

abbrev RouterRun (redis : Fault RouterErr → Prop) (start : Tasks C) (trace : List (RouterMove C))
    (last : Tasks C) : Prop :=
  Run ((routerLoops C).Step Cluster.exec (RouterFaults redis)) start trace last

end HotelBooking
