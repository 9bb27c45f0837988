import CircleBackend.Js
import CircleBackend.Library.Lease
import CircleBackend.Library.Transition
import Mathlib.Data.List.Nodup

/-!
# Job leases

`runWithJobLease` on any number of instances, over the commands of `RedisService`
for one job. A command is sent, executes at some later time and is answered at some
later time still, if at all; a deadline is counted from the time before a command
was sent. `Backed` is what carries the rest: Redis holds the token of a run that
reckons itself current, until its deadline at least.
-/

namespace CircleBackend.Redis

open Library

/-- `randomUUID` -/
abbrev Token := Nat

inductive Renewal
  | none
  | timer (fires : Time)
  | sent (startedAt : Time) (answer : Option Bool)
  deriving DecidableEq, Repr

inductive Phase
  /-- `tryAcquireLease`, and what Redis has answered. -/
  | acquiring (answer : Option Bool)
  | skipped
  | running
  /-- `run` is over; a renewal under way is awaited. -/
  | closing
  /-- `releaseLease`, and whether Redis has executed it. -/
  | releasing (executed : Bool)
  | returned
  deriving DecidableEq, Repr

/-- One call of `runWithJobLease`, with its commands on their way to Redis. -/
structure JobRun where
  token : Token
  ttlMs : Time
  acquiredAt : Time
  phase : Phase
  /-- `undefined` is `none`. -/
  lease : Option Token
  current : Bool
  expiresAt : Time
  renewal : Renewal
  set : Bool
  pexpire : Bool
  del : Bool
  writes : List JsString
  deriving DecidableEq, Repr

namespace JobRun

def isCurrent (r : JobRun) (now : Time) : Bool :=
  if r.lease.isNone then true else if r.expiresAt ≤ now then false else r.current

/-- The run asks `isCurrent`, which marks a deadline that has passed. -/
def consult (r : JobRun) (now : Time) : JobRun :=
  if r.lease.isSome ∧ r.expiresAt ≤ now then { r with current := false } else r

def active (r : JobRun) : Bool := r.phase = .running

def scheduleRenewal (r : JobRun) (now : Time) : JobRun :=
  { r with renewal := .timer (now + max 1 (r.ttlMs / 3)) }

/-- The timer goes off. -/
def fire (r : JobRun) (now : Time) : JobRun :=
  let r := if r.active then r.consult now else r
  if r.active && r.isCurrent now then { r with renewal := .sent now none, pexpire := true }
  else { r with renewal := .none }

/-- The end of a renewal. -/
def settle (r : JobRun) (now : Time) : JobRun :=
  let r := if r.active then r.consult now else r
  if r.active && r.isCurrent now then r.scheduleRenewal now else { r with renewal := .none }

/-- The token is held: Redis has not executed the release. -/
def holds (r : JobRun) : Bool :=
  r.lease.isSome &&
    match r.phase with
    | .running | .closing | .releasing false => true
    | _ => false

end JobRun

structure State where
  now : Time
  lease : Lease Token
  cursor : Option JsString
  runs : List JobRun
  /-- The tokens in the order in which Redis took them. -/
  granted : List Token
  /-- Whose cursors were stored, in order. -/
  written : List Token

inductive Action
  | start (token : Token) (ttlMs : Time)
  | setExecutes (n : Nat)
  | acquired (n : Nat)
  /-- Redis is not there, or gives no answer. -/
  | acquireFails (n : Nat)
  | fire (n : Nat)
  | pexpireExecutes (n : Nat)
  | renewed (n : Nat)
  | renewalFails (n : Nat)
  | check (n : Nat)
  /-- `setJsonIfVersionMatches` with the token of the run. -/
  | write (n : Nat) (value : JsString)
  | writeExecutes (n : Nat) (value : JsString)
  | finish (n : Nat)
  | release (n : Nat)
  | delExecutes (n : Nat)
  | released (n : Nat)
  | pass (ms : Nat)
  deriving DecidableEq, Repr

namespace State

def answer (r : JobRun) (ok : Bool) : Phase :=
  match r.phase with
  | .acquiring _ => .acquiring (some ok)
  | phase => phase

def answerRenewal (r : JobRun) (ok : Bool) : Renewal :=
  match r.renewal with
  | .sent startedAt _ => .sent startedAt (some ok)
  | renewal => renewal

def answerRelease (r : JobRun) : Phase :=
  match r.phase with
  | .releasing _ => .releasing true
  | phase => phase

/-- What a step of one run leaves of the run and of Redis. -/
structure Turn where
  run : JobRun
  lease : Lease Token
  cursor : Option JsString
  granted : List Token
  written : List Token

/-- Redis stays as it is. -/
def goes (s : State) (run : JobRun) : Option Turn :=
  some ⟨run, s.lease, s.cursor, s.granted, s.written⟩

def turn (s : State) (r : JobRun) : Action → Option Turn
  | .setExecutes _ =>
    if r.set then
      match s.lease.acquire s.now r.token r.ttlMs with
      | some lease =>
        some ⟨{ r with set := false, phase := answer r true }, lease, s.cursor,
          s.granted ++ [r.token], s.written⟩
      | none => s.goes { r with set := false, phase := answer r false }
    else none
  | .acquired _ =>
    match r.phase with
    | .acquiring (some true) =>
      s.goes
        ({ r with
            phase := .running, lease := some r.token, current := true
            expiresAt := r.acquiredAt + r.ttlMs }.scheduleRenewal s.now)
    | .acquiring (some false) => s.goes { r with phase := .skipped }
    | _ => none
  | .acquireFails _ =>
    match r.phase with
    | .acquiring _ =>
      s.goes
        { r with
          phase := .running, lease := none, current := true
          expiresAt := r.acquiredAt + r.ttlMs }
    | _ => none
  | .fire _ =>
    match r.renewal with
    | .timer fires => if fires ≤ s.now then s.goes (r.fire s.now) else none
    | _ => none
  | .pexpireExecutes _ =>
    if r.pexpire then
      let (lease, ok) := s.lease.renew s.now r.token r.ttlMs
      some ⟨{ r with pexpire := false, renewal := answerRenewal r ok }, lease, s.cursor,
        s.granted, s.written⟩
    else none
  | .renewed _ =>
    match r.renewal with
    | .sent startedAt (some true) =>
      s.goes ({ r with expiresAt := startedAt + r.ttlMs }.settle s.now)
    | .sent _ (some false) => s.goes ({ r with current := false }.settle s.now)
    | _ => none
  | .renewalFails _ =>
    match r.renewal with
    | .sent _ _ => s.goes ({ r with current := false }.settle s.now)
    | _ => none
  | .check _ => if r.phase = .running then s.goes (r.consult s.now) else none
  | .write _ value =>
    if r.phase = .running ∧ r.lease.isSome then s.goes { r with writes := value :: r.writes }
    else none
  | .writeExecutes _ value =>
    if value ∈ r.writes then
      let r' := { r with writes := r.writes.erase value }
      if s.lease.holder s.now = some r.token then
        some ⟨r', s.lease, some value, s.granted, s.written ++ [r.token]⟩
      else s.goes r'
    else none
  | .finish _ =>
    if r.phase = .running then
      s.goes
        { r with
          phase := .closing
          renewal :=
            match r.renewal with
            | .timer _ => .none
            | renewal => renewal }
    else none
  | .release _ =>
    if r.phase = .closing ∧ r.renewal = .none then
      if r.lease.isSome then s.goes { r with phase := .releasing false, del := true }
      else s.goes { r with phase := .returned }
    else none
  | .delExecutes _ =>
    if r.del then
      some ⟨{ r with del := false, phase := answerRelease r }, s.lease.release s.now r.token,
        s.cursor, s.granted, s.written⟩
    else none
  | .released _ =>
    match r.phase with
    | .releasing _ => s.goes { r with phase := .returned }
    | _ => none
  | .start _ _ | .pass _ => none

def begin (now : Time) (token : Token) (ttlMs : Time) : JobRun where
  token := token
  ttlMs := ttlMs
  acquiredAt := now
  phase := .acquiring none
  lease := none
  current := true
  expiresAt := now + ttlMs
  renewal := .none
  set := true
  pexpire := false
  del := false
  writes := []

end State

def Action.run : Action → Option Nat
  | .setExecutes n | .acquired n | .acquireFails n | .fire n | .pexpireExecutes n | .renewed n
  | .renewalFails n | .check n | .write n _ | .writeExecutes n _ | .finish n | .release n
  | .delExecutes n | .released n => some n
  | .start _ _ | .pass _ => none

def State.after (s : State) (n : Nat) (turn : State.Turn) : State :=
  ⟨s.now, turn.lease, turn.cursor, s.runs.set n turn.run, turn.granted, turn.written⟩

def State.next (s : State) : Action → Option State
  | .start token ttlMs =>
    if token ∈ s.runs.map (·.token) then none
    else some { s with runs := s.runs ++ [State.begin s.now token ttlMs] }
  | .pass ms => some { s with now := s.now + ms }
  | a => do
    let n ← a.run
    let r ← s.runs[n]?
    let turn ← s.turn r a
    return s.after n turn

def Step (s : State) (a : Action) (t : State) : Prop := s.next a = some t

end CircleBackend.Redis
