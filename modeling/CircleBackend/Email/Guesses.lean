import CircleBackend.Email.Codes

/-!
# Guesses at an e-mail code

A code is consumed once, and a newer one stands before it. The guesses at it are within
its budget where no call reads it while the guesses that are not yet counted use the
budget up (`codes_hold`); calls that overlap make more of them (`guesses_overlap`).
-/

namespace CircleBackend.Email

open Library

section Turn

variable (purpose : EmailCodePurpose) (verify : CodeHash → JsString → Bool)

/-! ## What a call does -/

/-- A call that has compared a wrong guess with the hash of a row. -/
def Call.counted (id : CodeId) (call : Call) : Bool :=
  match call.stage with
  | .counted record => record.id = id
  | _ => false

/-- The guess of the call is wrong, and not counted. -/
def Call.owed (id : CodeId) (call : Call) : Bool :=
  match call.stage with
  | .counting record | .uncounted record => record.id = id
  | _ => false

/-- A call with a wrong guess that has read the row and not compared it yet. -/
def Call.waiting (id : CodeId) (call : Call) : Bool :=
  match call.op, call.stage with
  | .verifyCode code, .newest record | .verifyCode code, .comparing record =>
    record.id = id && !verify record.codeHash code
  | _, _ => false

def Call.outstanding (id : CodeId) (call : Call) : Bool := call.waiting verify id || call.owed id

/-- The row that the call has made. -/
def Stage.made : Stage → Option EmailVerificationCode
  | .sending created | .cleaning created | .rolling created => some created
  | _ => none

/-- The row that the call has read. -/
def Stage.read : Stage → Option EmailVerificationCode
  | .newest record | .comparing record | .counting record | .consuming record | .counted record
  | .uncounted record | .accepted record => some record
  | _ => none

def Stage.quiet : Stage → Bool
  | .counting _ | .counted _ | .uncounted _ | .accepted _ => false
  | _ => true

inductive Turn (s : State) (call : Call) : State → Prop
  | leaves (quiet : call.stage.quiet = true) : Turn s call (s.goto call .finished)
  | stays : Turn s call (s.goto call call.stage)
  | looks (stage : call.stage = .cooling) : Turn s call (s.goto call .looking)
  | allowed (stage : call.stage = .looking) : Turn s call (s.goto call .creating)
  | creates (codeHash : CodeHash) (codes : Table EmailVerificationCode CodeId (·.id))
      (stage : call.stage = .creating) (later : s.created < s.clock)
      (inserted : s.codes.insert ⟨s.issued, codeHash, s.clock + codeTtlMs, 0, none, s.clock⟩ =
        some codes) :
      Turn s call { s.goto call (.sending ⟨s.issued, codeHash, s.clock + codeTtlMs, 0, none, s.clock⟩) with
        codes := codes, issued := s.issued + 1, created := s.clock }
  | sent (created : EmailVerificationCode) (stage : call.stage = .sending created) :
      Turn s call (s.goto call (.cleaning created))
  | unsent (created : EmailVerificationCode) (stage : call.stage = .sending created) :
      Turn s call (s.goto call (.rolling created))
  | cleans (created : EmailVerificationCode) (stage : call.stage = .cleaning created) :
      Turn s call { s.goto call .finished with
        codes := s.codes.deleteMany fun row =>
          row.consumedAt = none && decide (row.createdAt < created.createdAt) }
  | rolls (created : EmailVerificationCode) (stage : call.stage = .rolling created) :
      Turn s call { s.goto call .finished with
        codes := s.codes.deleteMany (·.id = created.id), rolled := created.id :: s.rolled }
  | reads (code : JsString) (record : EmailVerificationCode) (op : call.op = .verifyCode code)
      (stage : call.stage = .reading)
      (found : s.codes.findFirst (·.live s.clock) EmailVerificationCode.newer = some record)
      (left : record.attempts < maxAttempts) : Turn s call (s.goto call (.newest record))
  | checks (record : EmailVerificationCode) (stage : call.stage = .newest record)
      (newest : s.latest.any (·.id ≠ record.id) = false) :
      Turn s call (s.goto call (.comparing record))
  | right (code : JsString) (record : EmailVerificationCode) (op : call.op = .verifyCode code)
      (stage : call.stage = .comparing record) (valid : verify record.codeHash code = true) :
      Turn s call (s.goto call (.consuming record))
  | wrong (code : JsString) (record : EmailVerificationCode) (op : call.op = .verifyCode code)
      (stage : call.stage = .comparing record) (invalid : verify record.codeHash code = false) :
      Turn s call (s.goto call (.counting record))
  | counts (record row : EmailVerificationCode) (stage : call.stage = .counting record)
      (found : s.codes.find record.id = some row) :
      Turn s call { s.goto call (.counted record) with
        codes := s.codes.put { row with attempts := row.attempts + 1 } }
  | fails (record : EmailVerificationCode) (stage : call.stage = .counting record) :
      Turn s call (s.goto call (.uncounted record))
  | consumes (record row : EmailVerificationCode) (stage : call.stage = .consuming record)
      (found : s.codes.find record.id = some row) (unconsumed : row.consumedAt = none) :
      Turn s call { s.goto call (.accepted record) with
        codes := s.codes.put { row with consumedAt := some s.clock } }

variable {purpose verify} {s t : State} {call : Call}

theorem step_turn {answer : Bool} (did : s.step purpose verify call answer = some t) :
    Turn verify s call t := by
  unfold State.step at did
  split at did
  case h_1 stage =>
    cases did
    split
    · exact .leaves (stage ▸ rfl)
    · exact .looks stage
  case h_2 stage =>
    cases did
    split
    · exact .leaves (stage ▸ rfl)
    · exact .allowed stage
  case h_3 codeHash op stage =>
    split at did
    · cases did
      exact .leaves (stage ▸ rfl)
    · dsimp only at did
      split at did
      case isTrue later =>
        obtain ⟨codes, inserted, rfl⟩ := Option.map_eq_some_iff.mp did
        exact .creates codeHash codes stage later inserted
      case isFalse => cases did
  case h_4 created op stage =>
    cases did
    split
    · exact .sent created stage
    · exact .unsent created stage
  case h_5 created op stage =>
    cases did
    exact .cleans created stage
  case h_6 created op stage =>
    cases did
    exact .rolls created stage
  case h_7 code op stage =>
    cases did
    split
    case h_1 record found =>
      split
      · exact .leaves (stage ▸ rfl)
      case isFalse left => exact .reads code record op stage found (Nat.not_le.mp left)
    case h_2 => exact .leaves (stage ▸ rfl)
  case h_8 record op stage =>
    cases did
    split
    · exact .leaves (stage ▸ rfl)
    case isFalse newest => exact .checks record stage (Bool.not_eq_true _ ▸ newest)
  case h_9 code record op stage =>
    cases did
    split
    case isTrue valid => exact .right code record op stage valid
    case isFalse invalid => exact .wrong code record op stage (Bool.not_eq_true _ ▸ invalid)
  case h_10 record op stage =>
    cases did
    split
    case h_1 row found => exact .counts record row stage found
    case h_2 => exact .fails record stage
  case h_11 record op stage =>
    cases did
    split
    case h_1 row chosen =>
      obtain ⟨found, unconsumed⟩ := Option.filter_eq_some_iff.mp chosen
      exact .consumes record row stage found (of_decide_eq_true unconsumed)
    case h_2 => exact .leaves (stage ▸ rfl)
  case h_12 => cases did

theorem thrown_turn : Turn verify s call (s.goto call call.stage.thrown) := by
  cases stage : call.stage with
  | counting record => exact .fails record stage
  | counted | uncounted | accepted =>
    have same : Turn verify s call (s.goto call call.stage) := .stays
    rw [stage] at same
    exact same
  | cooling | looking | creating | sending | cleaning | rolling | reading | newest | comparing
  | consuming | finished => exact .leaves (stage ▸ rfl)

/-! ## Rows and their calls -/

structure Sound (s : State) : Prop where
  rows : ∀ row ∈ s.codes.rows, row.id < s.issued ∧ row.createdAt ≤ s.created
  dates : ∀ row ∈ s.codes.rows, ∀ other ∈ s.codes.rows, row.createdAt = other.createdAt →
    row.id = other.id
  made : ∀ id call created, s.calls.find id = some call → call.stage.made = some created →
    created.id < s.issued ∧ created.createdAt ≤ s.created ∧
      ∀ row, s.codes.find created.id = some row → row.createdAt = created.createdAt
  maker : ∀ id id' call call' created created', s.calls.find id = some call →
    s.calls.find id' = some call' → call.stage.made = some created →
      call'.stage.made = some created' → created.id = created'.id → id = id'
  read : ∀ id call record, s.calls.find id = some call → call.stage.read = some record →
    record.id < s.issued ∧
      ∀ row, s.codes.find record.id = some row → row.createdAt = record.createdAt
  consumed : ∀ id call record row, s.calls.find id = some call → call.stage = .accepted record →
    s.codes.find record.id = some row → row.consumedAt ≠ none
  single : ∀ id id' call call' record record', s.calls.find id = some call →
    s.calls.find id' = some call' → call.stage = .accepted record →
      call'.stage = .accepted record' → record.id = record'.id → id = id'
  rolled : ∀ id ∈ s.rolled, id < s.issued ∧ s.codes.find id = none

/-- The rows known so far are gone or keep their dates and stay consumed, at most one row is
new, and so is at most the call `c`, which fits its stage. -/
theorem Sound.next {c : Option CallId} (sound : Sound s) (issued : s.issued ≤ t.issued)
    (one : t.issued ≤ s.issued + 1) (time : s.created ≤ t.created)
    (kept : ∀ id row, id < s.issued → t.codes.find id = some row → ∃ old,
      s.codes.find id = some old ∧ row.createdAt = old.createdAt ∧
        (old.consumedAt ≠ none → row.consumedAt ≠ none))
    (fresh : ∀ row, s.issued ≤ row.id → row ∈ t.codes.rows →
      row.id < t.issued ∧ row.createdAt ≤ t.created ∧ s.created < row.createdAt)
    (calls : ∀ id call, t.calls.find id = some call → c = some id ∨ s.calls.find id = some call)
    (made : ∀ id call created, c = some id → t.calls.find id = some call →
      call.stage.made = some created → (created.id < t.issued ∧ created.createdAt ≤ t.created ∧
        ∀ row, t.codes.find created.id = some row → row.createdAt = created.createdAt) ∧
      ∀ id' call' created', s.calls.find id' = some call' → call'.stage.made = some created' →
        created'.id = created.id → id' = id)
    (read : ∀ id call record, c = some id → t.calls.find id = some call →
      call.stage.read = some record → record.id < t.issued ∧
        ∀ row, t.codes.find record.id = some row → row.createdAt = record.createdAt)
    (accepted : ∀ id call record, c = some id → t.calls.find id = some call →
      call.stage = .accepted record →
      (∀ row, t.codes.find record.id = some row → row.consumedAt ≠ none) ∧
      ∀ id' call' record', s.calls.find id' = some call' → call'.stage = .accepted record' →
        record'.id = record.id → id' = id)
    (rolled : ∀ id ∈ t.rolled, id ∈ s.rolled ∨ id < t.issued ∧ t.codes.find id = none) :
    Sound t := by
  have origin (row : EmailVerificationCode) (inside : row ∈ t.codes.rows) (old : row.id < s.issued) :
      ∃ row₀ ∈ s.codes.rows, row₀.id = row.id ∧ row.createdAt = row₀.createdAt := by
    obtain ⟨row₀, found, date, -⟩ := kept row.id row old (Table.mem_find inside)
    exact ⟨row₀, Table.find_mem found, Table.find_key found, date⟩
  -- the rows known so far are older than the new one
  have older (row : EmailVerificationCode) (inside : row ∈ t.codes.rows) (old : row.id < s.issued) :
      row.createdAt ≤ s.created := by
    obtain ⟨row₀, inside₀, -, date⟩ := origin row inside old
    exact date ▸ (sound.rows row₀ inside₀).2
  have newest (id : CodeId) (new : s.issued ≤ id) (up : id < t.issued) : id = s.issued :=
    Nat.le_antisymm (Nat.le_of_lt_succ (Nat.lt_of_lt_of_le up one)) new
  constructor
  case rows =>
    intro row inside
    rcases Nat.lt_or_ge row.id s.issued with old | new
    · exact ⟨Nat.lt_of_lt_of_le old issued, Nat.le_trans (older row inside old) time⟩
    · exact ⟨(fresh row new inside).1, (fresh row new inside).2.1⟩
  case dates =>
    intro a inside b inside' same
    rcases Nat.lt_or_ge a.id s.issued with old | new
    · have before := older a inside old
      rcases Nat.lt_or_ge b.id s.issued with old' | new'
      · obtain ⟨a₀, inside₀, id, date⟩ := origin a inside old
        obtain ⟨b₀, inside₁, id', date'⟩ := origin b inside' old'
        rw [← id, ← id']
        exact sound.dates a₀ inside₀ b₀ inside₁ (date.symm.trans (same.trans date'))
      · exact absurd (same ▸ before) (Nat.not_le.mpr (fresh b new' inside').2.2)
    · obtain ⟨up, -, after⟩ := fresh a new inside
      rcases Nat.lt_or_ge b.id s.issued with old' | new'
      · exact absurd (same ▸ older b inside' old') (Nat.not_le.mpr after)
      · exact (newest a.id new up).trans (newest b.id new' (fresh b new' inside').1).symm
  case made =>
    intro id call created calling own
    rcases calls id call calling with here | old
    · exact (made id call created here calling own).1
    · obtain ⟨before, date, same⟩ := sound.made id call created old own
      refine ⟨Nat.lt_of_lt_of_le before issued, Nat.le_trans date time, fun row found => ?_⟩
      obtain ⟨row₀, found₀, stays, -⟩ := kept _ row before found
      exact stays.trans (same row₀ found₀)
  case maker =>
    intro id id' call call' created created' calling calling' own own' same
    rcases calls id call calling with here | old
    · rcases calls id' call' calling' with here' | old'
      · exact Option.some.inj (here.symm.trans here')
      · exact ((made id call created here calling own).2 id' call' created' old' own' same.symm).symm
    · rcases calls id' call' calling' with here' | old'
      · exact (made id' call' created' here' calling' own').2 id call created old own same
      · exact sound.maker id id' call call' created created' old old' own own' same
  case read =>
    intro id call record calling own
    rcases calls id call calling with here | old
    · exact read id call record here calling own
    · obtain ⟨before, same⟩ := sound.read id call record old own
      refine ⟨Nat.lt_of_lt_of_le before issued, fun row found => ?_⟩
      obtain ⟨row₀, found₀, stays, -⟩ := kept _ row before found
      exact stays.trans (same row₀ found₀)
  case consumed =>
    intro id call record row calling own found
    rcases calls id call calling with here | old
    · exact (accepted id call record here calling own).1 row found
    · have before := (sound.read id call record old (own ▸ rfl)).1
      obtain ⟨row₀, found₀, -, stays⟩ := kept _ row before found
      exact stays (sound.consumed id call record row₀ old own found₀)
  case single =>
    intro id id' call call' record record' calling calling' own own' same
    rcases calls id call calling with here | old
    · rcases calls id' call' calling' with here' | old'
      · exact Option.some.inj (here.symm.trans here')
      · exact ((accepted id call record here calling own).2 id' call' record' old' own' same.symm).symm
    · rcases calls id' call' calling' with here' | old'
      · exact (accepted id' call' record' here' calling' own').2 id call record old own same
      · exact sound.single id id' call call' record record' old old' own own' same
  case rolled =>
    intro id inside
    rcases rolled id inside with old | new
    · obtain ⟨before, gone⟩ := sound.rolled id old
      refine ⟨Nat.lt_of_lt_of_le before issued, ?_⟩
      cases found : t.codes.find id with
      | none => rfl
      | some row =>
        obtain ⟨row₀, found₀, -⟩ := kept id row before found
        cases gone.symm.trans found₀
    · exact new

variable {stage : Stage} {codes : Table EmailVerificationCode CodeId (·.id)}

variable (stage) in
theorem goto_calls (calling : s.calls.find call.id = some call) :
    (s.goto call stage).calls.find call.id = some { call with stage := stage } ∧
      ∀ id call', (s.goto call stage).calls.find id = some call' →
        some call.id = some id ∨ s.calls.find id = some call' := by
  have there : s.calls.find ({ call with stage := stage } : Call).id = some call := calling
  refine ⟨(Table.find_put_of_find there _).trans (if_pos rfl), fun id call' after => ?_⟩
  exact (Table.of_find_put there after).imp (fun own => congrArg some own.1.symm) And.right

theorem old_rows (sound : Sound s) (row : EmailVerificationCode) (new : s.issued ≤ row.id) :
    row ∉ s.codes.rows := fun inside => absurd (sound.rows row inside).1 (Nat.not_lt.mpr new)

/-- Beyond the rows, a state that the calls' stages fit. -/
theorem sound_goto (sound : Sound s) (calling : s.calls.find call.id = some call)
    (made : ∀ created, stage.made = some created → call.stage.made = some created)
    (read : ∀ record, stage.read = some record → record.id < s.issued ∧
      ∀ row, s.codes.find record.id = some row → row.createdAt = record.createdAt)
    (accepted : ∀ record, stage = .accepted record →
      (∀ row, s.codes.find record.id = some row → row.consumedAt ≠ none) ∧
        ∀ id call' record', s.calls.find id = some call' → call'.stage = .accepted record' →
          record'.id = record.id → id = call.id) : Sound (s.goto call stage) := by
  obtain ⟨own, calls⟩ := goto_calls stage calling
  refine sound.next le_rfl (Nat.le_succ _) le_rfl (fun id row _ found => ⟨row, found, rfl, fun h => h⟩)
    (fun row new inside => absurd inside (old_rows sound row new)) calls ?_ ?_ ?_ fun _ => .inl
  · rintro _ call' created ⟨⟩ after makes
    cases own.symm.trans after
    refine ⟨sound.made _ _ created calling (made created makes), ?_⟩
    intro id call' created' calling' makes' same
    exact sound.maker _ _ _ _ _ _ calling' calling makes' (made created makes) same
  · rintro _ call' record ⟨⟩ after reads
    cases own.symm.trans after
    exact read record reads
  · rintro _ call' record ⟨⟩ after stage
    cases own.symm.trans after
    exact accepted record stage

/-- Other rows, with the dates of those before them. -/
theorem sound_codes (sound : Sound s)
    (kept : ∀ id row, codes.find id = some row → ∃ old, s.codes.find id = some old ∧
      row.createdAt = old.createdAt ∧ (old.consumedAt ≠ none → row.consumedAt ≠ none)) :
    Sound { s with codes := codes } := by
  refine sound.next (c := none) le_rfl (Nat.le_succ _) le_rfl (fun id row _ => kept id row) ?_
    (fun _ _ => .inr) nofun nofun nofun fun _ => .inl
  intro row new inside
  obtain ⟨old, found, -⟩ := kept row.id row (Table.mem_find inside)
  exact absurd (Table.find_mem found) (old_rows sound old (Table.find_key found ▸ new))

theorem sound_deleted {p : EmailVerificationCode → Bool} (sound : Sound s) :
    Sound { s with codes := s.codes.deleteMany p } := by
  refine sound_codes sound fun id row found => ?_
  rw [Table.find_deleteMany] at found
  exact ⟨row, (Option.filter_eq_some_iff.mp found).1, rfl, fun h => h⟩

/-- A row in its own place, with its dates. -/
theorem sound_put {row row' : EmailVerificationCode} (sound : Sound s)
    (found : s.codes.find row.id = some row) (id : row'.id = row.id)
    (time : row'.createdAt = row.createdAt)
    (consumed : row.consumedAt ≠ none → row'.consumedAt ≠ none) :
    Sound { s with codes := s.codes.put row' } := by
  have there : s.codes.find row'.id = some row := id ▸ found
  refine sound_codes sound fun k row'' after => ?_
  rcases Table.of_find_put there after with ⟨rfl, rfl⟩ | ⟨-, old⟩
  · exact ⟨row, there, time, consumed⟩
  · exact ⟨row'', old, rfl, fun h => h⟩

theorem sound_creates {codeHash : CodeHash}
    (sound : Sound s) (calling : s.calls.find call.id = some call) (later : s.created < s.clock)
    (inserted : s.codes.insert ⟨s.issued, codeHash, s.clock + codeTtlMs, 0, none, s.clock⟩ =
      some codes) :
    Sound { s.goto call (.sending ⟨s.issued, codeHash, s.clock + codeTtlMs, 0, none, s.clock⟩) with
      codes := codes, issued := s.issued + 1, created := s.clock } := by
  obtain ⟨own, calls⟩ := goto_calls
    (.sending ⟨s.issued, codeHash, s.clock + codeTtlMs, 0, none, s.clock⟩) calling
  refine sound.next (Nat.le_succ _) le_rfl (Nat.le_of_lt later) ?_ ?_ calls ?_ ?_ ?_ fun _ => .inl
  · intro id row old found
    rcases Table.of_find_insert inserted found with ⟨rfl, -⟩ | ⟨-, before⟩
    · exact absurd old (Nat.lt_irrefl _)
    · exact ⟨row, before, rfl, fun h => h⟩
  · intro row new inside
    rcases (Table.mem_insert inserted).mp inside with before | rfl
    · exact absurd before (old_rows sound row new)
    · exact ⟨Nat.lt_succ_self _, le_rfl, later⟩
  · rintro _ call' created ⟨⟩ after makes
    cases own.symm.trans after
    cases makes
    refine ⟨⟨Nat.lt_succ_self _, le_rfl, fun row found => ?_⟩, ?_⟩
    · dsimp only at found
      rw [Table.find_insert inserted, if_pos rfl] at found
      cases found
      rfl
    · intro id call' created' calling' makes' same
      have issued := (sound.made id call' created' calling' makes').1
      exact absurd (same ▸ issued) (Nat.lt_irrefl _)
  · rintro _ call' record ⟨⟩ after reads
    cases own.symm.trans after
    cases reads
  · rintro _ call' record ⟨⟩ after stage
    cases own.symm.trans after
    cases stage

theorem sound_turn (turn : Turn verify s call t) (sound : Sound s)
    (calling : s.calls.find call.id = some call) : Sound t := by
  have read (record : EmailVerificationCode) (own : call.stage.read = some record) :=
    sound.read call.id call record calling own
  cases turn with
  | leaves | looks | allowed => exact sound_goto sound calling nofun nofun nofun
  | stays =>
    refine sound_goto sound calling (fun _ own => own) (fun record own => read record own) ?_
    intro record own
    refine ⟨fun row found => sound.consumed call.id call record row calling own found, ?_⟩
    intro id call' record' calling' own' same
    exact sound.single id call.id call' call record' record calling' calling own' own same
  | creates codeHash codes stage later inserted => exact sound_creates sound calling later inserted
  | sent created stage | unsent created stage =>
    refine sound_goto sound calling (fun created' own => ?_) nofun nofun
    cases own
    rw [stage]
    rfl
  | cleans created stage =>
    exact sound_goto (s := { s with codes := s.codes.deleteMany _ }) (sound_deleted sound) calling
      nofun nofun nofun
  | rolls created stage =>
    have deleted : Sound (State.goto { s with codes := s.codes.deleteMany (·.id = created.id) }
        call .finished) := sound_goto (sound_deleted sound) calling nofun nofun nofun
    refine { deleted with rolled := fun id inside => ?_ }
    rcases List.mem_cons.mp inside with rfl | before
    · refine ⟨(sound.made call.id call created calling (stage ▸ rfl)).1, ?_⟩
      refine Table.find_eq_none.mpr fun row inside same => ?_
      have other := (Table.mem_deleteMany.mp inside).2
      simp [same] at other
    · exact deleted.rolled id before
  | reads code record op stage found left =>
    refine sound_goto sound calling nofun (fun record' own => ?_) nofun
    cases own
    have inside := (Table.findFirst_some found).1
    refine ⟨(sound.rows record inside).1, fun row there => ?_⟩
    cases there.symm.trans (Table.mem_find inside)
    rfl
  | checks record stage | right code record op stage | wrong code record op stage
  | fails record stage =>
    refine sound_goto sound calling nofun (fun record' own => ?_) nofun
    cases own
    exact read record (stage ▸ rfl)
  | counts record row stage found =>
    have there : s.codes.find row.id = some row := Table.mem_find (Table.find_mem found)
    have stored : Sound { s with
        codes := s.codes.put { row with attempts := row.attempts + 1 } } :=
      sound_put sound there rfl rfl fun h => h
    refine sound_goto stored calling nofun (fun record' own => ?_) nofun
    cases own
    exact stored.read call.id call record calling (stage ▸ rfl)
  | consumes record row stage found unconsumed =>
    have there : s.codes.find row.id = some row := Table.mem_find (Table.find_mem found)
    have id : row.id = record.id := Table.find_key found
    have stored : Sound { s with
        codes := s.codes.put { row with consumedAt := some s.clock } } :=
      sound_put sound there rfl rfl fun _ => nofun
    refine sound_goto stored calling nofun (fun record' own => ?_) fun record' own => ?_
    · cases own
      exact stored.read call.id call record calling (stage ▸ rfl)
    · cases own
      constructor
      · intro row' after
        have there' : s.codes.find ({ row with consumedAt := some s.clock } :
          EmailVerificationCode).id = some row := there
        dsimp only at after
        rw [Table.find_put_of_find there', if_pos id.symm] at after
        cases after
        exact nofun
      · intro k call' record' calling' own' same
        exact absurd unconsumed
          (sound.consumed k call' record' row calling' own' (same ▸ found))

/-! ## The budget -/

variable (verify) in
structure Within (s : State) : Prop where
  attempts : ∀ id row, s.codes.find id = some row → s.calls.count (·.counted id) = row.attempts
  guesses : ∀ id, s.calls.count (·.counted id) + s.calls.count (·.owed id) +
    s.calls.count (·.waiting verify id) ≤ maxAttempts

section Count

variable (stage : Stage) (p : Call → Bool) (calling : s.calls.find call.id = some call)

include calling

end Count

variable {act : Act}

inductive Move (verify : CodeHash → JsString → Bool) (s : State) : State → Prop
  | starts (c : CallId) (op : Op) (calls : Table Call CallId (·.id))
      (inserted : s.calls.insert ⟨c, op, op.start⟩ = some calls) :
      Move verify s { s with calls := calls }
  | turns (call : Call) (t : State) (calling : s.calls.find call.id = some call)
      (turn : Turn verify s call t) : Move verify s t
  | ticks (now : Time) (later : s.clock ≤ now) : Move verify s { s with clock := now }

theorem step_move (step : Step purpose verify s act t) : Move verify s t := by
  unfold Step State.next at step
  cases act with
  | start c op =>
    obtain ⟨calls, inserted, rfl⟩ := Option.map_eq_some_iff.mp step
    exact .starts c op calls inserted
  | step c answer =>
    obtain ⟨call, calling, did⟩ := Option.bind_eq_some_iff.mp step
    obtain rfl : call.id = c := Table.find_key calling
    exact .turns call t calling (step_turn did)
  | throws c =>
    obtain ⟨call, calling, rfl⟩ := Option.map_eq_some_iff.mp step
    obtain rfl : call.id = c := Table.find_key calling
    exact .turns call _ calling thrown_turn
  | tick now =>
    dsimp only at step
    split at step
    case isTrue later =>
      cases step
      exact .ticks now later
    case isFalse => cases step

theorem started {c : CallId} {op : Op} {calls : Table Call CallId (·.id)}
    (inserted : s.calls.insert ⟨c, op, op.start⟩ = some calls) (id : CallId) (call' : Call)
    (after : calls.find id = some call') :
    call' = ⟨c, op, op.start⟩ ∨ s.calls.find id = some call' :=
  (Table.of_find_insert inserted after).imp And.right And.right

theorem start_plain (op : Op) : op.start.made = none ∧ op.start.read = none := by
  cases op <;> exact ⟨rfl, rfl⟩

theorem sound_step (step : Step purpose verify s act t) (sound : Sound s) : Sound t := by
  cases step_move step with
  | starts c op calls inserted =>
    obtain ⟨made, read⟩ := start_plain op
    have begun (call : Call) (after : calls.find c = some call) : call = ⟨c, op, op.start⟩ := by
      rw [Table.find_insert inserted, if_pos rfl] at after
      exact (Option.some.inj after).symm
    refine sound.next (c := some c) le_rfl (Nat.le_succ _) le_rfl
      (fun id row _ found => ⟨row, found, rfl, fun h => h⟩)
      (fun row new inside => absurd inside (old_rows sound row new)) ?_ ?_ ?_ ?_ fun _ => .inl
    · intro id call after
      exact (Table.of_find_insert inserted after).imp (fun own => congrArg some own.1.symm) And.right
    · rintro _ call created ⟨⟩ after makes
      rw [begun call after, made] at makes
      cases makes
    · rintro _ call record ⟨⟩ after reads
      rw [begun call after, read] at reads
      cases reads
    · rintro _ call record ⟨⟩ after stage
      have reads : call.stage.read = some record := stage ▸ rfl
      rw [begun call after, read] at reads
      cases reads
  | turns call t calling turn => exact sound_turn turn sound calling
  | ticks =>
    exact ⟨sound.rows, sound.dates, sound.made, sound.maker, sound.read, sound.consumed,
      sound.single, sound.rolled⟩

theorem sound_empty : Sound .empty := by
  constructor <;> intros <;> contradiction

end Turn

end CircleBackend.Email
