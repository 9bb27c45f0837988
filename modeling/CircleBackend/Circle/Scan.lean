import CircleBackend.Js
import CircleBackend.Library.Table
import CircleBackend.Library.Transition
import Mathlib.Data.List.Sort
import Mathlib.Data.Prod.Lex

/-!
# The reconcile scan

`reconcileRecent` on any number of instances: a tick takes the job lease, reads the
cursor, scans a page of `CircleMember`, reconciles its circles and stores the next
cursor under its token. Times are milliseconds on one clock. Whether
`ensureCircleConversation` succeeds, and whether the lease is still current, are
arguments of the steps; the lease may be lost at any time.
-/

namespace CircleBackend.Circle.Scan

open Library

abbrev UserId := Nat
abbrev CircleId := Nat
abbrev Token := Nat

/-- `''`, which comes before every id. -/
def noCircle : CircleId := 0

/-- `RECONCILE_WINDOW_MS`, `RECONCILE_SCAN_MAX`, `RETRY_QUEUE_MAX` and
`RECONCILE_CURSOR_TTL_SECONDS`, in milliseconds. -/
structure Limits where
  windowMs : Int
  scanMax : Nat
  retryQueueMax : Nat
  cursorTtlMs : Int
  window : 0 < windowMs
  page : 0 < scanMax

def limits : Limits := ⟨2 * 60000, 10000, 1000, 24 * 60 * 60 * 1000, by decide, by decide⟩

structure CircleMember where
  userID : UserId
  circleID : CircleId
  updatedAt : Int
  deriving DecidableEq, Repr

structure CircleSyncScanRow where
  circleID : CircleId
  updatedAt : Int
  deriving DecidableEq, Repr

/-- What the rows are ordered by. -/
def CircleSyncScanRow.key (r : CircleSyncScanRow) : Int ×ₗ Nat := toLex (r.updatedAt, r.circleID)

def CircleMember.scanRow (m : CircleMember) : CircleSyncScanRow := ⟨m.circleID, m.updatedAt⟩

structure CircleSyncScanCursor where
  windowSince : Int
  updatedAt : Int
  circleID : CircleId
  deriving DecidableEq, Repr

def CircleSyncScanCursor.key (c : CircleSyncScanCursor) : Int ×ₗ Nat :=
  toLex (c.updatedAt, c.circleID)

/-- What `writeScanCursor` stores. -/
inductive Stored
  | cursor (c : CircleSyncScanCursor)
  | completed
  deriving DecidableEq, Repr

structure ChatCircleSyncRetry where
  circleID : CircleId
  nextAttemptAt : Int
  deriving DecidableEq, Repr

/-- The fields of one instance. -/
structure Instance where
  scanCursor : Option CircleSyncScanCursor
  retryQueue : List CircleId
  deriving DecidableEq, Repr

inductive Phase
  | acquiring
  | reading
  /-- The starting window is about to be stored. -/
  | opening
  | querying (cursor : Option CircleSyncScanCursor) (scanSince : Int)
  /-- `reconcileCircles` of the circles of the page. -/
  | starting
  | reconciling (attemptStartedAt : Int) (attempted pending todo : List CircleId)
  | looped (attemptStartedAt : Int) (attempted : List CircleId) (completed : Bool)
  | checkpointing (attemptStartedAt : Int) (attempted : List CircleId) (completed : Bool)
  | storing
  | done
  deriving DecidableEq, Repr

/-- One call of `reconcileRecent`. -/
structure Tick where
  host : Nat
  since : Int
  leaseToken : Option Token
  phase : Phase
  page : List CircleSyncScanRow
  nextCursor : Option CircleSyncScanCursor
  /-- When the page was read. -/
  readAt : Int
  reconciled : List CircleId
  failed : List CircleId
  /-- The failures that `chatCircleSyncRetry` holds. -/
  recorded : List CircleId
  deriving DecidableEq, Repr

structure State where
  now : Int
  lease : Option Token
  stored : Option (Stored × Int)
  members : Table CircleMember (UserId × CircleId) fun m => (m.userID, m.circleID)
  retries : Table ChatCircleSyncRetry CircleId (·.circleID)
  instances : List Instance
  ticks : List Tick
  /-- When the last page of the latest window that was completed was read. -/
  readTo : Int

namespace State

/-! ## What a tick does -/

/-- What Redis holds, else what the instance does. -/
def candidate (s : State) (i : Instance) : Option Stored :=
  nullish ((s.stored.filter fun entry => s.now < entry.2).map Prod.fst)
    (i.scanCursor.map .cursor)

/-- `readScanCursor`: what it returns, and what it leaves in the instance. -/
def readScanCursor (s : State) (i : Instance) (since : Int) :
    Option CircleSyncScanCursor × Instance :=
  match s.candidate i with
  | some .completed => (none, { i with scanCursor := none })
  | some (.cursor c) =>
    if since < c.windowSince ∨ c.updatedAt < c.windowSince then (none, i)
    else (some c, { i with scanCursor := some c })
  | none => (none, i)

/-- The rows of `scanChangedCircles`. -/
def scanRows (max : Nat) (s : State) (cursor : Option CircleSyncScanCursor)
    (scanSince : Int) : List CircleSyncScanRow :=
  (((s.members.rows.map CircleMember.scanRow).filter fun r =>
    scanSince < r.updatedAt && cursor.all (·.key < r.key)).insertionSort
      (·.key ≤ ·.key)).take max

/-- The cursor behind a page that is full. -/
def nextCursor (max : Nat) (scanSince : Int) (rows : List CircleSyncScanRow) :
    Option CircleSyncScanCursor :=
  if max ≤ rows.length then
    rows.getLast?.map fun last => ⟨scanSince, last.updatedAt, last.circleID⟩
  else none

/-- The rows of `chatCircleSyncRetry` that are due. -/
def durable (max : Nat) (s : State) : List CircleId :=
  (((s.retries.select fun r => r.nextAttemptAt ≤ s.now).insertionSort fun a b =>
    toLex (a.nextAttemptAt, a.circleID) ≤ toLex (b.nextAttemptAt, b.circleID)).take max).map
      (·.circleID)

def pushRetry (max : Nat) (queue : List CircleId) (c : CircleId) : List CircleId :=
  if queue.length < max ∧ c ∉ queue then queue ++ [c] else queue

/-- The transaction at the end of `reconcileCircles`. -/
def checkpoint (s : State) (attemptStartedAt : Int) (attempted failed : List CircleId)
    (completed : Bool) : Table ChatCircleSyncRetry CircleId (·.circleID) :=
  let recorded := failed.foldl (fun t c => t.set ⟨c, s.now + 60000⟩) s.retries
  if completed then
    recorded.deleteMany fun r =>
      r.circleID ∈ attempted && r.circleID ∉ failed && r.nextAttemptAt ≤ attemptStartedAt
  else recorded

/-- Redis stores the value if the tick's token is the one of the lease; without a
token only the instance keeps it. -/
def writeScanCursor (limits : Limits) (s : State) (k : Tick)
    (cursor : Option CircleSyncScanCursor) : Option State :=
  let kept : State :=
    { s with
      instances := s.instances.modify k.host fun i => { i with scanCursor := cursor } }
  match k.leaseToken with
  | none => some kept
  | some token =>
    if s.lease = some token then
      some { kept with
        stored := some (cursor.elim .completed .cursor, s.now + limits.cursorTtlMs) }
    else none

end State

inductive Action
  | tick (host : Nat)
  | acquire (n : Nat) (token : Token)
  | read (n : Nat)
  | openWindow (n : Nat)
  | query (n : Nat)
  | start (n : Nat) (current : Bool)
  | reconcile (n : Nat) (current ok : Bool)
  | finish (n : Nat) (current : Bool)
  | checkpoint (n : Nat)
  | store (n : Nat)
  /-- A statement of the tick fails. -/
  | throws (n : Nat)
  | loseLease
  | crash (host : Nat)
  | scheduleRetry (host : Nat) (circleID : CircleId)
  /-- A row is written, or deleted, and this commits. -/
  | update (userID : UserId) (circleID : CircleId)
  | delete (userID : UserId) (circleID : CircleId)
  | pass (ms : Nat)
  deriving DecidableEq, Repr

namespace State

def put (s : State) (n : Nat) (k : Tick) : State := { s with ticks := s.ticks.set n k }

def queue (s : State) (host : Nat) : List CircleId :=
  (s.instances[host]?.map (·.retryQueue)).getD []

def withQueue (s : State) (host : Nat) (queue : List CircleId) : State :=
  { s with instances := s.instances.modify host fun i => { i with retryQueue := queue } }

/-- The step of a tick. -/
def turn (limits : Limits) (s : State) (n : Nat) (k : Tick) : Action → Option State
  | .acquire _ token =>
    match k.phase, s.lease with
    | .acquiring, none =>
      if s.ticks.any fun other => other.leaseToken = some token then none
      else
        some ({ s with lease := some token }.put n
          { k with leaseToken := some token, phase := .reading })
    | .acquiring, some _ =>
      if (s.queue k.host).isEmpty then some (s.put n { k with phase := .done })
      else some (s.put n { k with phase := .starting })
    | _, _ => none
  | .read _ =>
    if k.phase = .reading then do
      let i ← s.instances[k.host]?
      let (cursor, i) := s.readScanCursor i k.since
      let s := { s with instances := s.instances.set k.host i }
      match cursor with
      | some c =>
        return s.put n { k with phase := .querying (some c) c.windowSince }
      | none => return s.put n { k with phase := .opening }
    else none
  | .openWindow _ =>
    if k.phase = .opening then
      match s.writeScanCursor limits k (some ⟨k.since, k.since, noCircle⟩) with
      | some s => some (s.put n { k with phase := .querying none k.since })
      | none => some (s.put n { k with phase := .done })
    else none
  | .query _ =>
    match k.phase with
    | .querying cursor scanSince =>
      let rows := s.scanRows limits.scanMax cursor scanSince
      some (s.put n
        { k with
          phase := .starting, page := rows, readAt := s.now
          nextCursor := nextCursor limits.scanMax scanSince rows })
    | _ => none
  | .start _ current =>
    if k.phase = .starting then
      if k.leaseToken.isSome ∧ !current then some (s.put n { k with phase := .done })
      else
        let due := if k.leaseToken.isSome then s.durable limits.retryQueueMax else []
        let pending := s.queue k.host
        let attempted := (k.page.map (·.circleID) ++ pending ++ due).eraseDups
        some ((s.withQueue k.host []).put n
          { k with phase := .reconciling s.now attempted pending attempted })
    else none
  | .reconcile _ current ok =>
    match k.phase with
    | .reconciling attemptStartedAt attempted pending (c :: todo) =>
      if k.leaseToken.isSome ∧ !current then
        some ((s.withQueue k.host
            (pending.foldl (pushRetry limits.retryQueueMax) (s.queue k.host))).put n
          { k with phase := .looped attemptStartedAt attempted false })
      else if ok then
        some (s.put n
          { k with
            phase := .reconciling attemptStartedAt attempted pending todo
            reconciled := c :: k.reconciled })
      else
        some ((s.withQueue k.host (pushRetry limits.retryQueueMax (s.queue k.host) c)).put n
          { k with
            phase := .reconciling attemptStartedAt attempted pending todo
            failed := c :: k.failed })
    | .reconciling attemptStartedAt attempted _ [] =>
      some (s.put n { k with phase := .looped attemptStartedAt attempted true })
    | _ => none
  | .finish _ current =>
    match k.phase with
    | .looped attemptStartedAt attempted completed =>
      if k.leaseToken.isNone then some (s.put n { k with phase := .done })
      else
        some (s.put n
          { k with phase := .checkpointing attemptStartedAt attempted (completed && current) })
    | _ => none
  | .checkpoint _ =>
    match k.phase with
    | .checkpointing attemptStartedAt attempted completed =>
      some ({ s with
          retries :=
            if attempted.isEmpty then s.retries
            else s.checkpoint attemptStartedAt attempted k.failed completed }.put n
        { k with phase := if completed then .storing else .done, recorded := k.failed ++ k.recorded })
    | _ => none
  | .store _ =>
    if k.phase = .storing then
      match s.writeScanCursor limits k k.nextCursor with
      | some t =>
        some ({ t with
            readTo := if k.nextCursor.isNone then max s.readTo k.readAt else s.readTo }.put n
          { k with phase := .done })
      | none => some (s.put n { k with phase := .done })
    else none
  | .throws _ => some (s.put n { k with phase := .done })
  | _ => none

end State

def Action.tickIndex : Action → Option Nat
  | .acquire n _ | .read n | .openWindow n | .query n | .start n _ | .reconcile n _ _
  | .finish n _ | .checkpoint n | .store n | .throws n => some n
  | _ => none

/-- A call that has computed its lower bound. -/
def Tick.begin (limits : Limits) (host : Nat) (now : Int) : Tick where
  host := host
  since := now - limits.windowMs
  leaseToken := none
  phase := .acquiring
  page := []
  nextCursor := none
  readAt := now
  reconciled := []
  failed := []
  recorded := []

def State.next (limits : Limits) (s : State) : Action → Option State
  | .tick host => some { s with ticks := s.ticks ++ [Tick.begin limits host s.now] }
  | .loseLease => some { s with lease := none }
  | .crash host =>
    some { s with
      instances := s.instances.modify host fun _ => ⟨none, []⟩
      ticks := s.ticks.map fun k => if k.host = host then { k with phase := .done } else k }
  | .scheduleRetry host circleID =>
    some (s.withQueue host (State.pushRetry limits.retryQueueMax (s.queue host) circleID))
  | .update userID circleID =>
    some { s with members := s.members.set ⟨userID, circleID, s.now⟩ }
  | .delete userID circleID =>
    some { s with
      members := s.members.deleteMany fun m => m.userID = userID && m.circleID = circleID }
  | .pass ms => some { s with now := s.now + ms }
  | a => do
    let n ← a.tickIndex
    let k ← s.ticks[n]?
    s.turn limits n k a

def Step (limits : Limits) (s : State) (a : Action) (t : State) : Prop :=
  s.next limits a = some t

end CircleBackend.Circle.Scan
