import CircleBackend.Js
import CircleBackend.Library.Table
import CircleBackend.Library.Transition

/-!
# E-mail codes

The codes of one address and one purpose, and the calls that ask for one and that present
one. A call is a statement a step, but for the transaction under the advisory lock, which
is one; `argon2.verify` and the delivery of the mail come to an end when they do. No code
that bypasses the table is configured.
-/

namespace CircleBackend.Email

open Library

abbrev CodeId := Nat
abbrev CallId := Nat
abbrev CodeHash := Nat

def codeTtlMs : Nat := 10 * 60 * 1000
def resendCooldownMs : Nat := 60 * 1000
def maxAttempts : Nat := 5

inductive EmailCodePurpose
  | register
  | login
  | resetPassword
  | changeEmail
  deriving DecidableEq, Repr

structure EmailVerificationCode where
  id : CodeId
  codeHash : CodeHash
  expiresAt : Time
  attempts : Nat
  consumedAt : Option Time
  createdAt : Time
  deriving DecidableEq, Repr

inductive Op
  | requestCode (codeHash : CodeHash)
  | verifyCode (code : JsString)
  deriving DecidableEq, Repr

/-- The statement that comes next, or how the call has ended. -/
inductive Stage
  | cooling
  | looking
  | creating
  | sending (created : EmailVerificationCode)
  | cleaning (created : EmailVerificationCode)
  | rolling (created : EmailVerificationCode)
  | reading
  | newest (record : EmailVerificationCode)
  | comparing (record : EmailVerificationCode)
  | counting (record : EmailVerificationCode)
  | consuming (record : EmailVerificationCode)
  | counted (record : EmailVerificationCode)
  | uncounted (record : EmailVerificationCode)
  | accepted (record : EmailVerificationCode)
  | finished
  deriving DecidableEq, Repr

structure Call where
  id : CallId
  op : Op
  stage : Stage
  deriving DecidableEq, Repr

structure State where
  clock : Time
  codes : Table EmailVerificationCode CodeId (·.id)
  calls : Table Call CallId (·.id)
  /-- The rows created so far and when the last of them was. -/
  issued : CodeId
  created : Time
  /-- The rows that were rolled back. -/
  rolled : List CodeId

/-- `orderBy: { createdAt: 'desc' }` -/
def EmailVerificationCode.newer (a b : EmailVerificationCode) : Bool := b.createdAt < a.createdAt

def State.latest (s : State) : Option EmailVerificationCode :=
  s.codes.findFirst (fun _ => true) EmailVerificationCode.newer

def State.coolingDown (s : State) : Bool :=
  s.latest.any fun last => s.clock < last.createdAt + resendCooldownMs

/-- The silent ends against enumeration. -/
def EmailCodePurpose.skips (purpose : EmailCodePurpose) (userExists : Bool) : Bool :=
  match purpose with
  | .register => userExists
  | .login | .resetPassword => !userExists
  | .changeEmail => false

def State.goto (s : State) (call : Call) (stage : Stage) : State :=
  { s with calls := s.calls.put { call with stage := stage } }

def EmailVerificationCode.live (row : EmailVerificationCode) (now : Time) : Bool :=
  row.consumedAt = none && decide (now < row.expiresAt)

section Step

variable (purpose : EmailCodePurpose) (verify : CodeHash → JsString → Bool)

/-- `answer` is whether the user exists, or whether the mail was sent. -/
def State.step (s : State) (call : Call) (answer : Bool) : Option State :=
  match call.op, call.stage with
  | .requestCode _, .cooling => some (s.goto call (if s.coolingDown then .finished else .looking))
  | .requestCode _, .looking => some (s.goto call (if purpose.skips answer then .finished else .creating))
  | .requestCode codeHash, .creating =>
    if s.coolingDown then some (s.goto call .finished)
    else
      let created : EmailVerificationCode := ⟨s.issued, codeHash, s.clock + codeTtlMs, 0, none, s.clock⟩
      if s.created < s.clock then
        (s.codes.insert created).map fun codes =>
          { s.goto call (.sending created) with
            codes := codes, issued := s.issued + 1, created := s.clock }
      else none
  | .requestCode _, .sending created =>
    some (s.goto call (if answer then .cleaning created else .rolling created))
  | .requestCode _, .cleaning created =>
    some { s.goto call .finished with
      codes := s.codes.deleteMany fun row =>
        row.consumedAt = none && decide (row.createdAt < created.createdAt) }
  | .requestCode _, .rolling created =>
    some { s.goto call .finished with
      codes := s.codes.deleteMany (·.id = created.id), rolled := created.id :: s.rolled }
  | .verifyCode _, .reading =>
    some (s.goto call (match s.codes.findFirst (·.live s.clock) EmailVerificationCode.newer with
      | some record => if maxAttempts ≤ record.attempts then .finished else .newest record
      | none => .finished))
  | .verifyCode _, .newest record =>
    some (s.goto call (if s.latest.any (·.id ≠ record.id) then .finished else .comparing record))
  | .verifyCode code, .comparing record =>
    some (s.goto call (if verify record.codeHash code then .consuming record else .counting record))
  | .verifyCode _, .counting record =>
    some <| match s.codes.find record.id with
    | some row =>
      { s.goto call (.counted record) with codes := s.codes.put { row with attempts := row.attempts + 1 } }
    | none => s.goto call (.uncounted record)
  | .verifyCode _, .consuming record =>
    some <| match (s.codes.find record.id).filter (·.consumedAt = none) with
    | some row =>
      { s.goto call (.accepted record) with codes := s.codes.put { row with consumedAt := some s.clock } }
    | none => s.goto call .finished
  | _, _ => none

/-- A statement that fails, or the end of the process. -/
def Stage.thrown : Stage → Stage
  | .counting record => .uncounted record
  | .counted record => .counted record
  | .uncounted record => .uncounted record
  | .accepted record => .accepted record
  | _ => .finished

def Op.start : Op → Stage
  | .requestCode _ => .cooling
  | .verifyCode _ => .reading

inductive Act
  | start (c : CallId) (op : Op)
  | step (c : CallId) (answer : Bool)
  | throws (c : CallId)
  | tick (now : Time)
  deriving DecidableEq, Repr

def State.next (s : State) : Act → Option State
  | .start c op => (s.calls.insert ⟨c, op, op.start⟩).map fun calls => { s with calls := calls }
  | .step c answer => (s.calls.find c).bind fun call => s.step purpose verify call answer
  | .throws c => (s.calls.find c).map fun call => s.goto call call.stage.thrown
  | .tick now => if s.clock ≤ now then some { s with clock := now } else none

def Step (s : State) (act : Act) (t : State) : Prop := s.next purpose verify act = some t

end Step

def State.empty : State := ⟨1, .empty, .empty, 0, 0, []⟩

end CircleBackend.Email
