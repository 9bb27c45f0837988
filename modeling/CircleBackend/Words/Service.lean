import CircleBackend.Library.Transition
import CircleBackend.Words.Matcher
import Mathlib.Logic.Function.Basic

/-!
# The sensitive word service

One process with its matcher, the calls of `addWords` and `removeWords` and the reloads that
are under way. A statement of the database is a step; its result reaches the process in a later
one, or the call fails.

* `words_stand`: where reloads arrive in the order they were read, an added word is enforced
  and a removed one is not;
* `words_stale`: an older reload takes an added word out again.
-/

namespace CircleBackend.Words

open Library

namespace Service

abbrev JobId := Nat

def refreshTtlMs : Nat := 60000
def reloadBackoffBaseMs : Nat := 5000
def reloadBackoffMaxMs : Nat := 5 * 60000

/-- Rows that were read, and at which statement of the database. -/
structure Loaded where
  rows : List JsString
  readAt : Nat
  deriving DecidableEq

inductive Task
  | onModuleInit
  | background
  | addWords (words : List JsString)
  | removeWords (words : List JsString)
  deriving DecidableEq

inductive Stage
  /-- `createMany` or `deleteMany` is to run. -/
  | writing
  /-- `findMany` is to run. -/
  | reading
  /-- The rows are on their way. -/
  | loaded (result : Loaded)
  | returned
  | threw
  deriving DecidableEq

structure Job where
  task : Task
  stage : Stage
  /-- Which of its words the database still has as its statement left them. -/
  standing : List JsString
  deriving DecidableEq

structure State where
  db : List JsString
  /-- Statements so far, and at which one a word last came or went. -/
  statements : Nat
  changedAt : JsString → Nat
  matcher : Option Loaded
  loadedAt : Time
  reloadPromise : Option JobId
  nextRetryAt : Time
  consecutiveFailures : Nat
  jobs : JobId → Option Job
  /-- Words of an `addWords` that has returned, not deleted since they were added. -/
  added : List JsString
  /-- Words of a `removeWords` that has returned, not inserted since they were deleted. -/
  removed : List JsString

def new (db : List JsString) : State where
  db := db
  statements := 0
  changedAt := fun _ => 0
  matcher := none
  loadedAt := 0
  reloadPromise := none
  nextRetryAt := 0
  consecutiveFailures := 0
  jobs := fun _ => none
  added := []
  removed := []

inductive Act
  | onModuleInit (id : JobId)
  | addWords (id : JobId) (rawWords : List JsString)
  | removeWords (id : JobId) (rawWords : List JsString)
  | write (id : JobId)
  | read (id : JobId)
  | deliver (id : JobId) (now : Time)
  | fail (id : JobId) (now : Time)
  /-- The id is for the reload it may schedule. -/
  | check (text : JsString) (now : Time) (id : JobId)

variable (u : Unicode)

def normalizeBatch (rawWords : List JsString) : List JsString :=
  ((rawWords.map u.normalizeSensitiveWord).filter (· ≠ [])).eraseDups

structure SensitiveWordVerdict where
  blocked : Bool
  word : Option JsString
  deriving DecidableEq

namespace State

variable (s : State)

def setJob (id : JobId) (job : Job) : State :=
  { s with jobs := Function.update s.jobs id (some job) }

def begin (id : JobId) (task : Task) (stage : Stage) : Option State :=
  if (s.jobs id).isSome then none else some (s.setJob id ⟨task, stage, []⟩)

/-- A statement that moves words into the table or out of it. What a job or a list says of a
word it moved no longer stands. -/
def moves (db : List JsString) (moved : JsString → Bool) : State :=
  { s with
    db := db
    statements := s.statements + 1
    changedAt := fun w => if moved w then s.statements + 1 else s.changedAt w
    jobs := fun id => (s.jobs id).map fun job =>
      { job with standing := job.standing.filter fun w => !moved w }
    added := s.added.filter fun w => !moved w
    removed := s.removed.filter fun w => !moved w }

/-- `createMany` with `skipDuplicates` -/
def createMany (words : List JsString) : State :=
  s.moves (s.db ++ words.filter (· ∉ s.db)) fun w => decide (w ∈ words ∧ w ∉ s.db)

def deleteMany (words : List JsString) : State :=
  s.moves (s.db.filter (· ∉ words)) fun w => decide (w ∈ words ∧ w ∈ s.db)

def write (id : JobId) : Option State := do
  let job ← s.jobs id
  match job.stage, job.task with
  | .writing, .addWords words =>
    some ((s.createMany words).setJob id ⟨job.task, .reading, words⟩)
  | .writing, .removeWords words =>
    some ((s.deleteMany words).setJob id ⟨job.task, .reading, words⟩)
  | _, _ => none

/-- `findMany` -/
def read (id : JobId) : Option State := do
  let job ← s.jobs id
  match job.stage with
  | .reading =>
    some ({ s with statements := s.statements + 1 }.setJob id
      { job with stage := .loaded ⟨s.db, s.statements + 1⟩ })
  | _ => none

/-- The end of `reload`. -/
def adopt (result : Loaded) (now : Time) : State :=
  { s with
    matcher := some result
    loadedAt := now
    consecutiveFailures := 0
    nextRetryAt := 0 }

/-- What follows `reload` in the call that made it. -/
def conclude (id : JobId) (job : Job) : State :=
  let s := s.setJob id { job with stage := .returned }
  match job.task with
  | .onModuleInit => s
  | .background => { s with reloadPromise := none }
  | .addWords _ => { s with added := s.added ++ job.standing }
  | .removeWords _ => { s with removed := s.removed ++ job.standing }

def deliver (id : JobId) (now : Time) : Option State := do
  let job ← s.jobs id
  match job.stage with
  | .loaded result => some ((s.adopt result now).conclude id job)
  | _ => none

def fail (id : JobId) (now : Time) : Option State := do
  let job ← s.jobs id
  match job.stage with
  | .returned | .threw => none
  | _ =>
    let s := s.setJob id { job with stage := .threw }
    match job.task with
    | .background =>
      let failures := s.consecutiveFailures + 1
      some { s with
        reloadPromise := none
        consecutiveFailures := failures
        nextRetryAt := now + min (reloadBackoffBaseMs * 2 ^ (failures - 1)) reloadBackoffMaxMs }
    | _ => some s

def scheduleReload (id : JobId) : Option State :=
  match s.reloadPromise with
  | some _ => some s
  | none => do
    let s ← s.begin id .background .reading
    some { s with reloadPromise := some id }

/-- What `check` answers; the reload it schedules comes later. -/
def verdict (text : JsString) : SensitiveWordVerdict :=
  match s.matcher with
  | none => ⟨false, none⟩
  | some loaded =>
    match (buildSensitiveWordMatcher u loaded.rows).findFirst u text with
    | none => ⟨false, none⟩
    | some word => ⟨true, some word⟩

def next : Act → Option State
  | .onModuleInit id => s.begin id .onModuleInit .reading
  | .addWords id rawWords =>
    if normalizeBatch u rawWords = [] then some s
    else s.begin id (.addWords (normalizeBatch u rawWords)) .writing
  | .removeWords id rawWords =>
    if normalizeBatch u rawWords = [] then some s
    else s.begin id (.removeWords (normalizeBatch u rawWords)) .writing
  | .write id => s.write id
  | .read id => s.read id
  | .deliver id now => s.deliver id now
  | .fail id now => s.fail id now
  | .check _ now id =>
    if refreshTtlMs ≤ now - s.loadedAt ∧ s.nextRetryAt ≤ now then s.scheduleReload id
    else some s

end State

def Step (s : State) (act : Act) (t : State) : Prop := s.next u act = some t

/-- Every text with an added word is blocked, however the word was spelled when it was added, and
no answer is a removed word. -/
structure State.Enforces (s : State) : Prop where
  added : ∀ raw, u.normalizeSensitiveWord raw ∈ s.added → ∀ text,
    (buildSensitiveWordMatcher u [raw]).findFirst u text ≠ none →
      (s.verdict u text).blocked = true
  removed : ∀ w ∈ s.removed, ∀ text, (s.verdict u text).word ≠ some w

def Job.result (job : Job) : Option Loaded :=
  match job.stage with
  | .loaded result => some result
  | _ => none

/-- A reload arrives no earlier than those read before it, and a word that is added is stored in
a form that `normalizeSensitiveWord` keeps. -/
def inOrder (s : State) : Act → Bool
  | .deliver id _ =>
    match (s.jobs id).bind Job.result, s.matcher with
    | some result, some shown => decide (shown.readAt ≤ result.readAt)
    | _, _ => true
  | .addWords _ rawWords =>
    (normalizeBatch u rawWords).all fun w => decide (u.normalizeSensitiveWord w = w)
  | _ => true

/-! ## What the words in the table and in a snapshot of it have to do with each other -/

/-- Of a word that has not moved since, the rows say whether it is there. -/
structure Snapshot (s : State) (loaded : Loaded) : Prop where
  past : loaded.readAt ≤ s.statements
  rows : ∀ w, s.changedAt w ≤ loaded.readAt → (w ∈ loaded.rows ↔ w ∈ s.db)
  fixed : ∀ w ∈ loaded.rows, u.normalizeSensitiveWord w = w

structure Sane (s : State) (job : Job) : Prop where
  words : ∀ words, job.task = .addWords words → ∀ w ∈ words, u.normalizeSensitiveWord w = w
  added : ∀ words, job.task = .addWords words → ∀ w ∈ job.standing, w ∈ s.db
  removed : ∀ words, job.task = .removeWords words → ∀ w ∈ job.standing, w ∉ s.db
  result : ∀ result, job.stage = .loaded result → Snapshot u s result
  seen : ∀ result, job.stage = .loaded result → ∀ w ∈ job.standing,
    s.changedAt w ≤ result.readAt

structure Sound (s : State) : Prop where
  stored : ∀ w ∈ s.db, u.normalizeSensitiveWord w = w
  past : ∀ w, s.changedAt w ≤ s.statements
  jobs : ∀ id job, s.jobs id = some job → Sane u s job
  matcher : ∀ shown, s.matcher = some shown → Snapshot u s shown
  added : ∀ w ∈ s.added, w ∈ s.db
  removed : ∀ w ∈ s.removed, w ∉ s.db
  shown : ∀ w, w ∈ s.added ∨ w ∈ s.removed →
    ∃ shown, s.matcher = some shown ∧ s.changedAt w ≤ shown.readAt

variable {u : Unicode} {s t : State} {id : JobId} {job : Job} {loaded : Loaded}

theorem Snapshot.later (snapshot : Snapshot u s loaded) (db : t.db = s.db)
    (changedAt : t.changedAt = s.changedAt) (statements : s.statements ≤ t.statements) :
    Snapshot u t loaded where
  past := snapshot.past.trans statements
  rows w unmoved := by
    rw [changedAt] at unmoved
    rw [db]
    exact snapshot.rows w unmoved
  fixed := snapshot.fixed

theorem Sane.later (sane : Sane u s job) (db : t.db = s.db)
    (changedAt : t.changedAt = s.changedAt) (statements : s.statements ≤ t.statements) :
    Sane u t job where
  words := sane.words
  added := by
    rw [db]
    exact sane.added
  removed := by
    rw [db]
    exact sane.removed
  result result loaded := (sane.result result loaded).later db changedAt statements
  seen := by
    rw [changedAt]
    exact sane.seen

/-- A call before its first statement, or one whose result is gone. -/
theorem Sane.stage {stage : Stage} (sane : Sane u s job)
    (gone : ∀ result, stage ≠ .loaded result) :
    Sane u s { job with stage := stage } where
  words := sane.words
  added := sane.added
  removed := sane.removed
  result result loaded := absurd loaded (gone result)
  seen result loaded := absurd loaded (gone result)

theorem Sound.setJob (sound : Sound u s) (sane : Sane u s job) : Sound u (s.setJob id job) := by
  refine { sound with jobs := ?jobs, matcher := ?matcher }
  case jobs =>
    intro other found here
    by_cases own : other = id
    · have here : Function.update s.jobs id (some job) other = some found := here
      rw [own, Function.update_self] at here
      cases here
      exact sane.later rfl rfl le_rfl
    · have here : Function.update s.jobs id (some job) other = some found := here
      rw [Function.update_of_ne own] at here
      exact (sound.jobs other found here).later rfl rfl le_rfl
  case matcher =>
    intro shown here
    exact (sound.matcher shown here).later rfl rfl le_rfl

theorem Sound.begin {task : Task} {stage : Stage} (sound : Sound u s)
    (step : s.begin id task stage = some t)
    (words : ∀ words, task = .addWords words → ∀ w ∈ words, u.normalizeSensitiveWord w = w)
    (first : ∀ result, stage ≠ .loaded result) : Sound u t := by
  unfold State.begin at step
  split at step
  case isTrue => cases step
  case isFalse =>
    cases step
    apply sound.setJob
    constructor
    case words => exact words
    case added => intro _ _ w member; cases member
    case removed => intro _ _ w member; cases member
    case result => exact fun result loaded => absurd loaded (first result)
    case seen => exact fun result loaded => absurd loaded (first result)

/-! ## The statements -/

section Moves

variable {db : List JsString} {moved : JsString → Bool}
  (same : ∀ w, moved w = false → (w ∈ db ↔ w ∈ s.db))

include same in
theorem Snapshot.moves (snapshot : Snapshot u s loaded) : Snapshot u (s.moves db moved) loaded where
  past := Nat.le_succ_of_le snapshot.past
  rows w unmoved := by
    have unmoved : (if moved w then s.statements + 1 else s.changedAt w) ≤ loaded.readAt :=
      unmoved
    have past := snapshot.past
    split at unmoved
    case isTrue => omega
    case isFalse stays =>
      rw [snapshot.rows w unmoved]
      exact (same w (eq_false_of_ne_true stays)).symm
  fixed := snapshot.fixed

theorem changedAt_moves {w : JsString} (stays : moved w = false) :
    (s.moves db moved).changedAt w = s.changedAt w := by
  simp [State.moves, stays]

theorem mem_standing {words : List JsString} {w : JsString}
    (member : w ∈ words.filter fun w => !moved w) : w ∈ words ∧ moved w = false := by
  simpa using member

include same in
theorem Sane.moves (sane : Sane u s job) :
    Sane u (s.moves db moved) { job with standing := job.standing.filter fun w => !moved w } where
  words := sane.words
  added words task w member := by
    obtain ⟨stands, stays⟩ := mem_standing member
    exact (same w stays).mpr (sane.added words task w stands)
  removed words task w member := by
    obtain ⟨stands, stays⟩ := mem_standing member
    exact fun there => sane.removed words task w stands ((same w stays).mp there)
  result result loaded := (sane.result result loaded).moves same
  seen result loaded w member := by
    obtain ⟨stands, stays⟩ := mem_standing member
    rw [changedAt_moves stays]
    exact sane.seen result loaded w stands

include same in
theorem Sound.moves (sound : Sound u s) (stored : ∀ w ∈ db, u.normalizeSensitiveWord w = w) :
    Sound u (s.moves db moved) := by
  constructor
  case stored => exact stored
  case past =>
    intro w
    have past := sound.past w
    show (if moved w then s.statements + 1 else s.changedAt w) ≤ s.statements + 1
    split <;> omega
  case jobs =>
    intro id found here
    obtain ⟨job, own, rfl⟩ := Option.map_eq_some_iff.mp here
    exact (sound.jobs id job own).moves same
  case matcher =>
    intro shown here
    exact (sound.matcher shown here).moves same
  case added =>
    intro w member
    obtain ⟨stands, stays⟩ := mem_standing member
    exact (same w stays).mpr (sound.added w stands)
  case removed =>
    intro w member there
    obtain ⟨stands, stays⟩ := mem_standing member
    exact sound.removed w stands ((same w stays).mp there)
  case shown =>
    intro w member
    have listed : (w ∈ s.added ∨ w ∈ s.removed) ∧ moved w = false := by
      rcases member with member | member
      · exact ⟨.inl (mem_standing member).1, (mem_standing member).2⟩
      · exact ⟨.inr (mem_standing member).1, (mem_standing member).2⟩
    rw [changedAt_moves listed.2]
    exact sound.shown w listed.1

end Moves

theorem write_cases (step : s.write id = some t) : ∃ job words, s.jobs id = some job ∧
    (job.task = .addWords words ∧
        t = (s.createMany words).setJob id ⟨job.task, .reading, words⟩ ∨
      job.task = .removeWords words ∧
        t = (s.deleteMany words).setJob id ⟨job.task, .reading, words⟩) := by
  obtain ⟨job, own, step⟩ := Option.bind_eq_some_iff.mp step
  split at step
  · rename_i words _ task
    cases step
    exact ⟨job, words, own, .inl ⟨task, rfl⟩⟩
  · rename_i words _ task
    cases step
    exact ⟨job, words, own, .inr ⟨task, rfl⟩⟩
  · cases step

theorem Sound.write (sound : Sound u s) (step : s.write id = some t) : Sound u t := by
  obtain ⟨job, words, own, ⟨task, rfl⟩ | ⟨task, rfl⟩⟩ := write_cases step
  · have fixed := (sound.jobs id job own).words words task
    have after : Sound u (s.createMany words) := by
      apply sound.moves
      · intro w stays
        have stays := of_decide_eq_false stays
        rw [List.mem_append, List.mem_filter, decide_eq_true_eq]
        tauto
      · intro w member
        rcases List.mem_append.mp member with there | fresh
        · exact sound.stored w there
        · exact fixed w (List.mem_of_mem_filter fresh)
    apply after.setJob
    constructor
    case words => exact (sound.jobs id job own).words
    case added =>
      intro _ _ w member
      show w ∈ s.db ++ words.filter (· ∉ s.db)
      rw [List.mem_append, List.mem_filter, decide_eq_true_eq]
      tauto
    case removed =>
      intro _ other
      rw [task] at other
      cases other
    case result => intro _ loaded; cases loaded
    case seen => intro _ loaded; cases loaded
  · have after : Sound u (s.deleteMany words) := by
      apply sound.moves
      · intro w stays
        have stays := of_decide_eq_false stays
        rw [List.mem_filter, decide_eq_true_eq]
        tauto
      · intro w member
        exact sound.stored w (List.mem_of_mem_filter member)
    apply after.setJob
    constructor
    case words =>
      intro _ other
      rw [task] at other
      cases other
    case added =>
      intro _ other
      rw [task] at other
      cases other
    case removed =>
      intro _ _ w member there
      have there : w ∈ s.db.filter (· ∉ words) := there
      rw [List.mem_filter, decide_eq_true_eq] at there
      exact there.2 member
    case result => intro _ loaded; cases loaded
    case seen => intro _ loaded; cases loaded

theorem Sound.read (sound : Sound u s) (step : s.read id = some t) : Sound u t := by
  obtain ⟨job, own, step⟩ := Option.bind_eq_some_iff.mp step
  split at step
  case h_2 => cases step
  case h_1 =>
    cases step
    have later : Sound u { s with statements := s.statements + 1 } := by
      refine { sound with past := ?past, jobs := ?jobs, matcher := ?matcher }
      case past => exact fun w => Nat.le_succ_of_le (sound.past w)
      case jobs =>
        exact fun id job own => (sound.jobs id job own).later rfl rfl (Nat.le_succ _)
      case matcher =>
        exact fun shown here => (sound.matcher shown here).later rfl rfl (Nat.le_succ _)
    apply later.setJob
    have before := later.jobs id job own
    refine { before with result := ?result, seen := ?seen }
    case result =>
      intro result loaded
      cases loaded
      exact ⟨le_rfl, fun w _ => Iff.rfl, sound.stored⟩
    case seen =>
      intro result loaded w _
      cases loaded
      exact later.past w

/-! ## The results -/

theorem Sound.adopt {result : Loaded} (now : Time) (sound : Sound u s) (own : Snapshot u s result)
    (newer : ∀ shown, s.matcher = some shown → shown.readAt ≤ result.readAt) :
    Sound u (s.adopt result now) := by
  refine { sound with jobs := ?jobs, matcher := ?matcher, shown := ?shown }
  case jobs => exact fun id job here => (sound.jobs id job here).later rfl rfl le_rfl
  case matcher =>
    intro shown here
    cases here
    exact own.later rfl rfl le_rfl
  case shown =>
    intro w member
    obtain ⟨shown, here, seen⟩ := sound.shown w member
    exact ⟨result, rfl, seen.trans (newer shown here)⟩

theorem Sound.conclude {result : Loaded} (sound : Sound u s) (own : s.jobs id = some job)
    (stage : job.stage = .loaded result) (shown : s.matcher = some result) :
    Sound u (s.conclude id job) := by
  have sane := sound.jobs id job own
  have after : Sound u (s.setJob id { job with stage := .returned }) :=
    sound.setJob (sane.stage fun _ other => by cases other)
  have seen := sane.seen result stage
  unfold State.conclude
  dsimp only
  split
  · exact after
  · refine { after with jobs := ?jobs, matcher := ?matcher }
    case jobs => exact fun id job here => (after.jobs id job here).later rfl rfl le_rfl
    case matcher => exact fun shown here => (after.matcher shown here).later rfl rfl le_rfl
  · rename_i words task
    refine { after with jobs := ?jobs, matcher := ?matcher, added := ?added, shown := ?shown }
    case jobs => exact fun id job here => (after.jobs id job here).later rfl rfl le_rfl
    case matcher => exact fun shown here => (after.matcher shown here).later rfl rfl le_rfl
    case added =>
      intro w member
      rcases List.mem_append.mp member with before | new'
      · exact sound.added w before
      · exact sane.added words task w new'
    case shown =>
      rintro w (member | member)
      · rcases List.mem_append.mp member with before | new'
        · exact sound.shown w (.inl before)
        · exact ⟨result, shown, seen w new'⟩
      · exact sound.shown w (.inr member)
  · rename_i words task
    refine { after with jobs := ?jobs, matcher := ?matcher, removed := ?removed, shown := ?shown }
    case jobs => exact fun id job here => (after.jobs id job here).later rfl rfl le_rfl
    case matcher => exact fun shown here => (after.matcher shown here).later rfl rfl le_rfl
    case removed =>
      intro w member
      rcases List.mem_append.mp member with before | new'
      · exact sound.removed w before
      · exact sane.removed words task w new'
    case shown =>
      rintro w (member | member)
      · exact sound.shown w (.inl member)
      · rcases List.mem_append.mp member with before | new'
        · exact sound.shown w (.inr before)
        · exact ⟨result, shown, seen w new'⟩

theorem deliver_cases {now : Time} (step : s.deliver id now = some t) :
    ∃ job result, s.jobs id = some job ∧ job.stage = .loaded result ∧
      t = (s.adopt result now).conclude id job := by
  obtain ⟨job, own, step⟩ := Option.bind_eq_some_iff.mp step
  split at step
  · rename_i result stage
    cases step
    exact ⟨job, result, own, stage, rfl⟩
  · cases step

theorem Sound.deliver {now : Time} (sound : Sound u s) (step : s.deliver id now = some t)
    (order : inOrder u s (.deliver id now) = true) : Sound u t := by
  obtain ⟨job, result, own, stage, rfl⟩ := deliver_cases step
  have newer : ∀ shown, s.matcher = some shown → shown.readAt ≤ result.readAt := by
    intro shown here
    unfold inOrder at order
    simp only [own, Option.bind_some, Job.result, stage, here] at order
    exact of_decide_eq_true order
  have after := sound.adopt now ((sound.jobs id job own).result result stage) newer
  exact after.conclude own stage rfl

theorem Sound.fail {now : Time} (sound : Sound u s) (step : s.fail id now = some t) :
    Sound u t := by
  obtain ⟨job, own, step⟩ := Option.bind_eq_some_iff.mp step
  have after : Sound u (s.setJob id { job with stage := .threw }) :=
    sound.setJob ((sound.jobs id job own).stage fun _ other => by cases other)
  split at step
  · cases step
  · cases step
  · dsimp only at step
    split at step
    · cases step
      refine { after with jobs := ?jobs, matcher := ?matcher }
      case jobs => exact fun id job here => (after.jobs id job here).later rfl rfl le_rfl
      case matcher => exact fun shown here => (after.matcher shown here).later rfl rfl le_rfl
    · cases step
      exact after

theorem Sound.scheduleReload (sound : Sound u s) (step : s.scheduleReload id = some t) :
    Sound u t := by
  unfold State.scheduleReload at step
  split at step
  · cases step
    exact sound
  · obtain ⟨mid, begins, step⟩ := Option.bind_eq_some_iff.mp step
    cases step
    have after : Sound u mid := by
      apply sound.begin begins
      · intro _ other
        cases other
      · intro _ other
        cases other
    refine { after with jobs := ?jobs, matcher := ?matcher }
    case jobs => exact fun id job here => (after.jobs id job here).later rfl rfl le_rfl
    case matcher => exact fun shown here => (after.matcher shown here).later rfl rfl le_rfl

theorem Sound.step {act : Act} (step : Step u s act t) (order : inOrder u s act = true)
    (sound : Sound u s) : Sound u t := by
  unfold Step at step
  cases act with
  | onModuleInit id =>
    apply sound.begin step
    · intro _ other
      cases other
    · intro _ other
      cases other
  | addWords id rawWords =>
    dsimp only [State.next] at step
    split at step
    · cases step
      exact sound
    · apply sound.begin step
      · intro words task w member
        cases task
        exact of_decide_eq_true (List.all_eq_true.mp order w member)
      · intro _ other
        cases other
  | removeWords id rawWords =>
    dsimp only [State.next] at step
    split at step
    · cases step
      exact sound
    · apply sound.begin step
      · intro _ other
        cases other
      · intro _ other
        cases other
  | write id => exact sound.write step
  | read id => exact sound.read step
  | deliver id now => exact sound.deliver step order
  | fail id now => exact sound.fail step
  | check text now id =>
    dsimp only [State.next] at step
    split at step
    · exact sound.scheduleReload step
    · cases step
      exact sound

theorem sound_new {db : List JsString} (stored : ∀ w ∈ db, u.normalizeSensitiveWord w = w) :
    Sound u (new db) := by
  constructor
  case stored => exact stored
  case past => exact fun _ => le_rfl
  case jobs => intro _ _ here; cases here
  case matcher => intro _ here; cases here
  case added => intro _ member; cases member
  case removed => intro _ member; cases member
  case shown => rintro _ (member | member) <;> cases member

/-! ## The verdicts -/

theorem verdict_shown {text : JsString} (shown : s.matcher = some loaded) :
    ((s.verdict u text).blocked = true ↔
      (buildSensitiveWordMatcher u loaded.rows).findFirst u text ≠ none) ∧
    (s.verdict u text).word = (buildSensitiveWordMatcher u loaded.rows).findFirst u text := by
  unfold State.verdict
  rw [shown]
  dsimp only
  cases (buildSensitiveWordMatcher u loaded.rows).findFirst u text <;> simp

theorem Sound.enforces (sound : Sound u s) : s.Enforces u := by
  constructor
  case added =>
    intro raw member text found
    obtain ⟨shown, here, seen⟩ := sound.shown _ (.inl member)
    have stored := sound.added _ member
    have listed := ((sound.matcher shown here).rows _ seen).mpr stored
    have key : u.key (u.normalizeSensitiveWord raw) = u.key raw := by
      unfold Unicode.key
      rw [sound.stored _ stored]
    rw [(verdict_shown here).1, (Holds.build u shown.rows).findFirst_ne_none]
    obtain ⟨w, only, nonempty, inside⟩ :=
      ((Holds.build u [raw]).findFirst_ne_none text).mp found
    rw [List.mem_singleton.mp only, ← key] at nonempty inside
    exact ⟨_, listed, nonempty, inside⟩
  case removed =>
    intro w member text answer
    obtain ⟨shown, here, seen⟩ := sound.shown w (.inr member)
    have snapshot := sound.matcher shown here
    rw [(verdict_shown here).2] at answer
    obtain ⟨v, listed, own, -⟩ := (matcher_exact u shown.rows text).2.1 w answer
    rw [snapshot.fixed v listed] at own
    rw [← own] at listed
    exact sound.removed w member ((snapshot.rows w seen).mp listed)

/-- Where reloads arrive in the order they were read and every word is stored in a form that
`normalizeSensitiveWord` keeps, what a call has returned for is enforced. -/
theorem words_stand (u : Unicode) {db : List JsString} {acts : List Act} {s : State}
    (stored : ∀ w ∈ db, u.normalizeSensitiveWord w = w)
    (run : Run (Run.Where (Step u) fun s act => inOrder u s act = true) (new db) acts s) :
    s.Enforces u := by
  have sound : Sound u s := by
    apply run.preserves _ (sound_new stored)
    intro s act t step sound
    exact sound.step step.1 step.2
  exact sound.enforces

/-- `ab` is added and `c` removed, with a background reload before them. -/
def tidy : List Act :=
  [.onModuleInit 0, .read 0, .deliver 0 0, .check [97, 98] 60000 1, .read 1, .deliver 1 60001,
    .addWords 2 [[97, 98]], .write 2, .read 2, .deliver 2 60002,
    .removeWords 3 [[99]], .write 3, .read 3, .deliver 3 60003]

theorem words_stand_tidy : ∃ s, Run (Step acute) (new [[99]]) tidy s ∧ s.added = [[97, 98]] ∧
    s.removed = [[99]] ∧ s.Enforces acute := by
  have played : tidy.foldlM (Run.whenever (inOrder acute) (State.next acute)) (new [[99]]) = some _ :=
    rfl
  have run := Run.where_of_foldlM played
  exact ⟨_, run.mono fun s act t step => step.1, by decide, by decide,
    words_stand acute (by decide) run⟩

/-- A check schedules a reload, which reads the table before `ab` is added to it and arrives
after the call has returned. -/
def overtaken : List Act :=
  [.check [] 60000 0, .read 0, .addWords 1 [[97, 98]], .write 1, .read 1, .deliver 1 60001,
    .deliver 0 60002]

theorem words_stale : ∃ s, Run (Step acute) (new []) overtaken s ∧ [97, 98] ∈ s.added ∧
    (buildSensitiveWordMatcher acute [[97, 98]]).findFirst acute [97, 98] ≠ none ∧
    s.verdict acute [97, 98] = ⟨false, none⟩ ∧ ¬ s.Enforces acute := by
  refine ⟨_, Run.of_foldlM (show overtaken.foldlM (State.next acute) (new []) = some _ from rfl),
    by decide, by decide, by decide, ?_⟩
  intro enforces
  have blocked := enforces.added [97, 98] (by decide) [97, 98] (by decide)
  revert blocked
  decide

end Service

end CircleBackend.Words
