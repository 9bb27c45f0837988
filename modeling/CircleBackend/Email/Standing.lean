import CircleBackend.Email.Guesses

/-!
# The code that stands

A code is out of the table only under a newer one, which is there until a newer one still
is, or because its own mail was not sent.
-/

namespace CircleBackend.Email

open Library

section Standing

variable {purpose : EmailCodePurpose} {verify : CodeHash → JsString → Bool} {s t : State}
  {call : Call} {act : Act} {time : Time}

/-- No call has still to send the row, or to roll it back. -/
def State.delivered (s : State) (id : CodeId) : Prop :=
  ∀ c call created, s.calls.find c = some call →
    (call.stage = .sending created ∨ call.stage = .rolling created) → created.id ≠ id

def State.superseded (s : State) (time : Time) : Prop :=
  ∃ row ∈ s.codes.rows, s.delivered row.id ∧ time < row.createdAt

/-- The row of a call that sends, or has sent, is there or superseded. -/
def Sent (s : State) : Prop :=
  ∀ c call created, s.calls.find c = some call →
    (call.stage = .sending created ∨ call.stage = .cleaning created) →
      (∃ row, s.codes.find created.id = some row) ∨ s.superseded created.createdAt

def EmailVerificationCode.same (a b : EmailVerificationCode) : Prop :=
  a.id = b.id ∧ a.codeHash = b.codeHash ∧ a.expiresAt = b.expiresAt ∧ a.createdAt = b.createdAt

theorem find_goto {stage : Stage} (calling : s.calls.find call.id = some call) (c : CallId) :
    (s.goto call stage).calls.find c =
      if c = call.id then some { call with stage := stage } else s.calls.find c := by
  exact Table.find_put_own calling (by rfl) c

/-- The other calls, and what becomes of the one whose turn it is. -/
theorem turn_calls (turn : Turn verify s call t) (calling : s.calls.find call.id = some call) :
    ∃ stage, ∀ c, t.calls.find c =
      if c = call.id then some { call with stage := stage } else s.calls.find c := by
  cases turn <;> exact ⟨_, find_goto calling⟩

theorem turn_made {created : EmailVerificationCode} {stage : Stage}
    (turn : Turn verify s call t) (calling : s.calls.find call.id = some call)
    (after : t.calls.find call.id = some { call with stage := stage })
    (made : stage.made = some created) :
    call.stage = stage ∨ call.stage = .sending created ∨
      created.id = s.issued ∧ ∃ row, t.codes.find created.id = some row := by
  have own (stage' : Stage) (same : (s.goto call stage').calls.find call.id =
      some { call with stage := stage }) : stage' = stage := by
    rw [find_goto calling, if_pos rfl] at same
    cases same
    rfl
  cases turn with
  | leaves | looks | allowed | cleans | rolls | reads | checks | right | wrong | counts | fails
  | consumes =>
    obtain rfl := own _ after
    cases made
  | stays => exact .inl (own _ after)
  | creates codeHash codes stage' later inserted =>
    obtain rfl := own _ after
    cases made
    exact .inr (.inr ⟨rfl, _, (Table.find_insert inserted _).trans (if_pos rfl)⟩)
  | sent created' stage' | unsent created' stage' =>
    obtain rfl := own _ after
    cases made
    exact .inr (.inl stage')

theorem delivered_turn {id : CodeId} (turn : Turn verify s call t)
    (calling : s.calls.find call.id = some call) (issued : id < s.issued)
    (delivered : s.delivered id) : t.delivered id := by
  intro c call' created after sends
  obtain ⟨stage, calls⟩ := turn_calls turn calling
  by_cases here : c = call.id
  · subst here
    have own := after
    rw [calls, if_pos rfl] at own
    cases own
    have made : stage.made = some created := by rcases sends with h | h <;> cases h <;> rfl
    rcases turn_made turn calling after made with same | before | ⟨fresh, -⟩
    · exact delivered call.id call created calling (same.symm ▸ sends)
    · exact delivered call.id call created calling (.inl before)
    · rintro rfl
      rw [fresh] at issued
      exact Nat.lt_irrefl _ issued
  · rw [calls, if_neg here] at after
    exact delivered c call' created after sends

variable {row : EmailVerificationCode} {c : CallId}

/-- What becomes of a row. -/
theorem row_turn (turn : Turn verify s call t) (sound : Sound s)
    (found : s.codes.find row.id = some row) :
    (∃ row', t.codes.find row.id = some row' ∧ row'.same row) ∨
      (∃ created, call.stage = .cleaning created ∧ row.createdAt < created.createdAt) ∨
        ∃ created, call.stage = .rolling created ∧ created.id = row.id ∧ row.id ∈ t.rolled := by
  have own : row.same row := ⟨rfl, rfl, rfl, rfl⟩
  cases turn with
  | leaves | stays | looks | allowed | sent | unsent | reads | checks | right | wrong | fails =>
    exact .inl ⟨row, found, own⟩
  | creates codeHash codes stage later inserted =>
    refine .inl ⟨row, ?_, own⟩
    dsimp only
    rw [Table.find_insert inserted, if_neg, found]
    exact Nat.ne_of_gt (sound.rows row (Table.find_mem found)).1
  | cleans created stage =>
    by_cases older : row.createdAt < created.createdAt
    · exact .inr (.inl ⟨created, stage, older⟩)
    · refine .inl ⟨row, ?_, own⟩
      dsimp only
      rw [Table.find_deleteMany, found]
      simp [older]
  | rolls created stage =>
    by_cases here : row.id = created.id
    · exact .inr (.inr ⟨created, stage, here.symm, here ▸ List.mem_cons_self⟩)
    · refine .inl ⟨row, ?_, own⟩
      dsimp only
      rw [Table.find_deleteMany, found]
      simp [here]
  | counts record row' stage there | consumes record row' stage there =>
    refine .inl ?_
    dsimp only
    rw [Table.find_put, found, Option.map_some]
    refine ⟨_, rfl, ?_⟩
    split
    case isTrue here =>
      cases (here ▸ Table.mem_find (Table.find_mem there) : s.codes.find row.id = some row').symm.trans
        found
      exact ⟨rfl, rfl, rfl, rfl⟩
    case isFalse => exact own

section Turn

variable (turn : Turn verify s call t) (sound : Sound s)
  (calling : s.calls.find call.id = some call) (sent : Sent s)

include turn sound calling

theorem superseded_stays {row : EmailVerificationCode} (inside : row ∈ s.codes.rows)
    (delivered : s.delivered row.id) (later : time < row.createdAt)
    (kept : ∀ created, call.stage = .cleaning created → created.createdAt ≤ row.createdAt) :
    t.superseded time := by
  rcases row_turn turn sound (Table.mem_find inside) with
    ⟨row', there, same⟩ | ⟨created, stage, older⟩ | ⟨created, stage, here, -⟩
  · refine ⟨row', Table.find_mem there, ?_, same.2.2.2 ▸ later⟩
    exact delivered_turn turn calling (same.1 ▸ (sound.rows row inside).1) (same.1 ▸ delivered)
  · exact absurd older (Nat.not_lt.mpr (kept created stage))
  · exact absurd here (delivered call.id call created calling (.inr stage))

include sent

/-- What a clean-up takes is superseded. -/
theorem superseded_cleaned {created : EmailVerificationCode} (stage : call.stage = .cleaning created)
    (older : time < created.createdAt) : t.superseded time := by
  rcases sent call.id call created calling (.inr stage) with ⟨row, found⟩ | ⟨row, inside, delivered, later⟩
  · have own : row.id = created.id := Table.find_key found
    have same := (sound.made call.id call created calling (stage ▸ rfl)).2.2 row found
    refine superseded_stays turn sound calling (Table.find_mem found) ?_ (same ▸ older) ?_
    · intro c call' created' calling' sends here
      have made : call'.stage.made = some created' := by rcases sends with h | h <;> rw [h] <;> rfl
      have one := sound.maker c call.id call' call created' created calling' calling made
        (stage ▸ rfl) (here.trans own)
      subst one
      cases calling.symm.trans calling'
      rcases sends with h | h <;> cases stage.symm.trans h
    · intro created' stage'
      cases stage.symm.trans stage'
      exact Nat.le_of_eq same.symm
  · refine superseded_stays turn sound calling inside delivered (Nat.lt_trans older later) ?_
    intro created' stage'
    cases stage.symm.trans stage'
    exact Nat.le_of_lt later

theorem superseded_turn (superseded : s.superseded time) : t.superseded time := by
  obtain ⟨row, inside, delivered, later⟩ := superseded
  by_cases cleaned : ∃ created, call.stage = .cleaning created ∧ row.createdAt < created.createdAt
  · obtain ⟨created, stage, older⟩ := cleaned
    exact superseded_cleaned turn sound calling sent stage (Nat.lt_trans later older)
  · refine superseded_stays turn sound calling inside delivered later fun created stage => ?_
    exact Nat.not_lt.mp fun older => cleaned ⟨created, stage, older⟩

theorem sent_turn : Sent t := by
  intro c call' created after sends
  obtain ⟨stage, calls⟩ := turn_calls turn calling
  have carry (old : (∃ row, s.codes.find created.id = some row) ∨ s.superseded created.createdAt)
      (unrolled : ∀ created', call.stage = .rolling created' → created'.id ≠ created.id)
      (dates : ∀ row, s.codes.find created.id = some row → row.createdAt = created.createdAt) :
      (∃ row, t.codes.find created.id = some row) ∨ t.superseded created.createdAt := by
    rcases old with ⟨row, found⟩ | superseded
    · have own : row.id = created.id := Table.find_key found
      have there : s.codes.find row.id = some row := Table.mem_find (Table.find_mem found)
      rcases row_turn turn sound there with
        ⟨row', found', -⟩ | ⟨created', stage', older⟩ | ⟨created', stage', here, -⟩
      · exact .inl ⟨row', own ▸ found'⟩
      · exact .inr (superseded_cleaned turn sound calling sent stage' (dates row found ▸ older))
      · exact absurd (here.trans own) (unrolled created' stage')
    · exact .inr (superseded_turn turn sound calling sent superseded)
  have dates (call'' : Call) (calling'' : s.calls.find c = some call'')
      (sends'' : call''.stage = .sending created ∨ call''.stage = .cleaning created) :=
    (sound.made c call'' created calling'' (by rcases sends'' with h | h <;> rw [h] <;> rfl)).2.2
  by_cases here : c = call.id
  · subst here
    have own := after
    rw [calls, if_pos rfl] at own
    cases own
    have made : stage.made = some created := by rcases sends with h | h <;> cases h <;> rfl
    have before (sends' : call.stage = .sending created ∨ call.stage = .cleaning created) :=
      carry (sent call.id call created calling sends')
        (fun created' stage' => by rcases sends' with h | h <;> cases stage'.symm.trans h)
        (dates call calling sends')
    rcases turn_made turn calling after made with same | stage' | ⟨-, there⟩
    · exact before (same.symm ▸ sends)
    · exact before (.inl stage')
    · exact .inl there
  · rw [calls, if_neg here] at after
    refine carry (sent c call' created after sends) (fun created' stage' same => ?_)
      (dates call' after sends)
    have made : call'.stage.made = some created := by rcases sends with h | h <;> rw [h] <;> rfl
    exact here (sound.maker c call.id call' call created created' after calling made
      (stage' ▸ rfl) same.symm)

end Turn

/-- A row since it was seen: still there, or superseded, or rolled back. -/
def State.stands (s : State) (row : EmailVerificationCode) : Prop :=
  (∃ row', s.codes.find row.id = some row' ∧ row'.same row) ∨ s.superseded row.createdAt ∨
    row.id ∈ s.rolled

theorem delivered_starts {op : Op} {calls : Table Call CallId (·.id)} {id : CodeId}
    (inserted : s.calls.insert ⟨c, op, op.start⟩ = some calls) (delivered : s.delivered id) :
    State.delivered { s with calls := calls } id := by
  intro c' call' created after sends
  rcases started inserted c' call' after with rfl | old
  · cases op <;> rcases sends with h | h <;> cases h
  · exact delivered c' call' created old sends

theorem superseded_starts {op : Op} {calls : Table Call CallId (·.id)}
    (inserted : s.calls.insert ⟨c, op, op.start⟩ = some calls) (superseded : s.superseded time) :
    State.superseded { s with calls := calls } time := by
  obtain ⟨row, inside, delivered, later⟩ := superseded
  exact ⟨row, inside, delivered_starts inserted delivered, later⟩

theorem sent_step (step : Step purpose verify s act t) (sound : Sound s) (sent : Sent s) :
    Sent t := by
  cases step_move step with
  | starts c op calls inserted =>
    intro c' call' created after sends
    rcases started inserted c' call' after with rfl | old
    · cases op <;> rcases sends with h | h <;> cases h
    · exact (sent c' call' created old sends).imp_right (superseded_starts inserted)
  | turns call t calling turn => exact sent_turn turn sound calling sent
  | ticks => exact sent

/-- The row was the newest of the unexpired ones that were not consumed. -/
def State.unexpired (record : EmailVerificationCode) (s : State) : Prop :=
  record ∈ s.codes.rows ∧ record.consumedAt = none ∧ s.clock < record.expiresAt

def State.newest (record : EmailVerificationCode) (s : State) : Prop :=
  ∀ row ∈ s.codes.rows, row.createdAt ≤ record.createdAt

def Stage.chosen : Stage → Option EmailVerificationCode
  | .newest record | .comparing record | .consuming record | .accepted record => some record
  | _ => none

def Stage.checked : Stage → Option EmailVerificationCode
  | .comparing record | .consuming record | .accepted record => some record
  | _ => none

variable {acts : List Act}

/-- The code that `verifyCode` looks for. -/
def State.valid (s : State) (row : EmailVerificationCode) : Prop :=
  row ∈ s.codes.rows ∧ row.live s.clock = true ∧ row.attempts < maxAttempts ∧ s.newest row

/-- What is consumed, some call has accepted. -/
def Used (s : State) : Prop :=
  ∀ row ∈ s.codes.rows, row.consumedAt ≠ none → ∃ c call record, s.calls.find c = some call ∧
    call.stage = .accepted record ∧ record.id = row.id

theorem used_turn (turn : Turn verify s call t) (calling : s.calls.find call.id = some call)
    (used : Used s) : Used t := by
  have kept (c : CallId) (call' : Call) (record : EmailVerificationCode)
      (calling' : s.calls.find c = some call') (stage : call'.stage = .accepted record) :
      ∃ call'', t.calls.find c = some call'' ∧ call''.stage = .accepted record := by
    by_cases here : c = call.id
    · subst here
      cases calling.symm.trans calling'
      cases turn with
      | leaves quiet =>
        rw [stage] at quiet
        cases quiet
      | stays => exact ⟨_, (find_goto calling _).trans (if_pos rfl), stage⟩
      | looks h | allowed h | creates _ _ h | sent _ h | unsent _ h | cleans _ h | rolls _ h
      | reads _ _ _ h | checks _ h | right _ _ _ h | wrong _ _ _ h | counts _ _ h | fails _ h
      | consumes _ _ h => cases stage.symm.trans h
    · obtain ⟨stage', calls⟩ := turn_calls turn calling
      exact ⟨call', (calls c).trans ((if_neg here).trans calling'), stage⟩
  have before (row : EmailVerificationCode) (inside : row ∈ s.codes.rows)
      (consumed : row.consumedAt ≠ none) : ∃ c call' record, t.calls.find c = some call' ∧
        call'.stage = .accepted record ∧ record.id = row.id := by
    obtain ⟨c, call', record, calling', stage, own⟩ := used row inside consumed
    obtain ⟨call'', after, stage'⟩ := kept c call' record calling' stage
    exact ⟨c, call'', record, after, stage', own⟩
  intro row inside consumed
  cases turn with
  | leaves | stays | looks | allowed | sent | unsent | reads | checks | right | wrong | fails =>
    exact before row inside consumed
  | creates codeHash codes stage later inserted =>
    rcases (Table.mem_insert inserted).mp inside with old | rfl
    · exact before row old consumed
    · exact absurd rfl consumed
  | cleans | rolls => exact before row (Table.mem_deleteMany.mp inside).1 consumed
  | counts record old stage found =>
    obtain ⟨old', there, rfl⟩ := List.mem_map.mp inside
    split at consumed
    case isTrue here =>
      have inside' := Table.find_mem found
      obtain ⟨c, call', record', after, accepted, own⟩ := before old inside' consumed
      refine ⟨c, call', record', after, accepted, ?_⟩
      rw [if_pos here]
      exact own
    case isFalse other =>
      obtain ⟨c, call', record', after, accepted, own⟩ := before old' there consumed
      refine ⟨c, call', record', after, accepted, ?_⟩
      rw [if_neg other]
      exact own
  | consumes record old stage found =>
    obtain ⟨old', there, rfl⟩ := List.mem_map.mp inside
    split at consumed
    case isTrue here =>
      refine ⟨call.id, _, record, (find_goto calling _).trans (if_pos rfl), rfl, ?_⟩
      rw [if_pos here]
      exact (Table.find_key found : old.id = record.id).symm
    case isFalse other =>
      obtain ⟨c, call', record', after, accepted, own⟩ := before old' there consumed
      refine ⟨c, call', record', after, accepted, ?_⟩
      rw [if_neg other]
      exact own

theorem used_step (step : Step purpose verify s act t) (used : Used s) : Used t := by
  cases step_move step with
  | starts c op calls inserted =>
    intro row inside consumed
    obtain ⟨c', call', record, calling, stage, own⟩ := used row inside consumed
    refine ⟨c', call', record, ?_, stage, own⟩
    have apart : c ≠ c' := by
      rintro rfl
      cases (Table.insert_fresh inserted).symm.trans calling
    exact (Table.find_insert inserted c').trans ((if_neg apart).trans calling)
  | turns call t calling turn => exact used_turn turn calling used
  | ticks => exact used

/-! ## The whole -/

structure Kept (s : State) : Prop where
  sound : Sound s
  sent : Sent s
  used : Used s

theorem kept_step (step : Step purpose verify s act t) (kept : Kept s) : Kept t :=
  ⟨sound_step step kept.sound, sent_step step kept.sound kept.sent, used_step step kept.used⟩

theorem kept_empty : Kept .empty where
  sound := sound_empty
  sent := by
    intro c call created calling
    cases calling
  used := by
    intro row inside
    cases inside

theorem run_kept (run : Run (Step purpose verify) .empty acts s) : Kept s :=
  run.preserves (fun _ _ _ step kept => kept_step step kept) kept_empty

end Standing

/-! A code that is guessed at, one that is not sent, and the first one again. -/

/-- The hash of a code is its number. -/
def plain (codeHash : CodeHash) (code : JsString) : Bool := code = [codeHash.toUInt16]

def asks (c : CallId) (codeHash : CodeHash) (sent : Bool) : List Act :=
  [.start c (.requestCode codeHash), .step c true, .step c true, .step c true, .step c sent,
    .step c true]

def guess (c : CallId) (code : JsString) : List Act :=
  .start c (.verifyCode code) :: List.replicate 4 (.step c true)

end CircleBackend.Email
