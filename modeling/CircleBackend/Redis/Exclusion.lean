import CircleBackend.Redis.JobLease

/-!
# One holder at a time

A run that holds its token and reckons itself current has Redis behind it until its
deadline (`JobRun.Backed`), so two such runs are one (`leases_exclusive`). A stored
token is the last one that Redis took, hence cursors are stored in the order of the
leases.
-/

namespace CircleBackend.Redis

open Library

/-- What a run may rely on. -/
structure JobRun.Backed (s : State) (r : JobRun) : Prop where
  past : r.acquiredAt ≤ s.now
  unset : r.set = true → r.lease = none ∧ r.token ∉ s.granted ∧
    ∀ ok, r.phase ≠ .acquiring (some ok)
  own : ∀ k, r.lease = some k → k = r.token
  waiting : ∀ ok, r.phase = .acquiring ok → r.renewal = .none ∧ r.lease = none
  answered : r.phase = .acquiring (some true) →
    s.lease.Covers s.now r.token (r.acquiredAt + r.ttlMs)
  covered : r.holds = true → r.current = true → s.lease.Covers s.now r.token r.expiresAt
  deadline : r.expiresAt ≤ s.now + r.ttlMs
  renewing : ∀ startedAt ok, r.renewal = .sent startedAt ok → startedAt ≤ s.now
  renewed : ∀ startedAt, r.renewal = .sent startedAt (some true) → r.holds = true →
    s.lease.Covers s.now r.token (startedAt + r.ttlMs)
  deleting : r.del = true → r.phase = .releasing false ∨ r.phase = .returned

/-- The tokens Redis took, and whose cursors it stored. -/
structure Ordered (s : State) : Prop where
  distinct : (s.runs.map (·.token)).Nodup
  known : ∀ k ∈ s.granted, k ∈ s.runs.map (·.token)
  once : s.granted.Nodup
  last : ∀ k e, s.lease = some (k, e) → ∃ older, s.granted = older ++ [k]
  writers : ∀ k ∈ s.written, k ∈ s.granted
  inOrder : s.written.Pairwise fun earlier later =>
    earlier = later ∨ [earlier, later].Sublist s.granted

structure Sound (s : State) : Prop where
  backed : ∀ r ∈ s.runs, r.Backed s
  ordered : Ordered s

/-! ## What a turn does -/

/-- What a step of one run does to Redis: a command of its own, or nothing. -/
inductive Touched (s : State) (r : JobRun) (turn : State.Turn) : Prop
  | none (lease : turn.lease = s.lease) (granted : turn.granted = s.granted)
      (written : turn.written = s.written) (cursor : turn.cursor = s.cursor)
  | acquires (set : r.set = true) (lease : s.lease.acquire s.now r.token r.ttlMs = some turn.lease)
      (granted : turn.granted = s.granted ++ [r.token]) (written : turn.written = s.written)
      (cursor : turn.cursor = s.cursor)
  | renews (lease : turn.lease = (s.lease.renew s.now r.token r.ttlMs).1)
      (granted : turn.granted = s.granted) (written : turn.written = s.written)
      (cursor : turn.cursor = s.cursor)
  | releases (lease : turn.lease = s.lease.release s.now r.token)
      (granted : turn.granted = s.granted) (written : turn.written = s.written)
      (cursor : turn.cursor = s.cursor)
  | writes (lease : turn.lease = s.lease) (granted : turn.granted = s.granted)
      (held : s.lease.holder s.now = some r.token) (written : turn.written = s.written ++ [r.token])

section Turns

variable {s t : State} {r : JobRun} {a : Action} {turn : State.Turn} {n : Nat}

theorem consult_token (r : JobRun) (now : Time) : (r.consult now).token = r.token := by
  unfold JobRun.consult
  split <;> rfl

theorem asked_token (r : JobRun) (now : Time) :
    (if r.active then r.consult now else r).token = r.token := by
  split
  · exact consult_token r now
  · rfl

theorem fire_token (r : JobRun) (now : Time) : (r.fire now).token = r.token := by
  have asked := asked_token r now
  unfold JobRun.fire
  generalize (if r.active then r.consult now else r) = asking at asked ⊢
  dsimp only
  split <;> exact asked

theorem settle_token (r : JobRun) (now : Time) : (r.settle now).token = r.token := by
  have asked := asked_token r now
  unfold JobRun.settle
  generalize (if r.active then r.consult now else r) = asking at asked ⊢
  dsimp only
  split <;> exact asked

variable {r' : JobRun} {l : Lease Token} {e : Nat} {k : Token}

theorem touched_goes (h : s.goes r' = some turn) (token : r'.token = r.token) :
    Touched s r turn ∧ turn.run.token = r.token := by
  cases h
  exact ⟨.none rfl rfl rfl rfl, token⟩

theorem turn_touched (h : s.turn r a = some turn) :
    Touched s r turn ∧ turn.run.token = r.token := by
  unfold State.turn at h
  split at h
  · split at h
    · rename_i set
      split at h
      · rename_i lease taken
        cases h
        exact ⟨.acquires set taken rfl rfl rfl, rfl⟩
      · exact touched_goes h rfl
    · cases h
  · split at h
    · exact touched_goes h rfl
    · exact touched_goes h rfl
    · cases h
  · split at h
    · exact touched_goes h rfl
    · cases h
  · split at h
    · split at h
      · exact touched_goes h (fire_token _ _)
      · cases h
    · cases h
  · split at h
    · cases h
      exact ⟨.renews rfl rfl rfl rfl, rfl⟩
    · cases h
  · split at h
    · exact touched_goes h (settle_token _ _)
    · exact touched_goes h (settle_token _ _)
    · cases h
  · split at h
    · exact touched_goes h (settle_token _ _)
    · cases h
  · split at h
    · exact touched_goes h (consult_token _ _)
    · cases h
  · split at h
    · exact touched_goes h rfl
    · cases h
  · split at h
    · dsimp only at h
      split at h
      · rename_i held
        cases h
        exact ⟨.writes rfl rfl held rfl, rfl⟩
      · exact touched_goes h rfl
    · cases h
  · split at h
    · exact touched_goes h rfl
    · cases h
  · split at h
    · split at h
      · exact touched_goes h rfl
      · exact touched_goes h rfl
    · cases h
  · split at h
    · cases h
      exact ⟨.releases rfl rfl rfl rfl, rfl⟩
    · cases h
  · split at h
    · exact touched_goes h rfl
    · cases h
  · cases h
  · cases h

theorem JobRun.Backed.frame (backed : r.Backed s) (now : s.now ≤ t.now)
    (covers : ∀ deadline ≤ s.now + r.ttlMs, s.lease.Covers s.now r.token deadline →
      t.lease.Covers t.now r.token deadline)
    (granted : r.set = true → r.token ∈ t.granted → r.token ∈ s.granted) : r.Backed t where
  past := Nat.le_trans backed.past now
  unset := by
    intro set
    obtain ⟨none, fresh, unanswered⟩ := backed.unset set
    exact ⟨none, fun taken => fresh (granted set taken), unanswered⟩
  own := backed.own
  waiting := backed.waiting
  answered := by
    intro phase
    exact covers _ (Nat.add_le_add_right backed.past _) (backed.answered phase)
  covered := fun holds current => covers _ backed.deadline (backed.covered holds current)
  deadline := Nat.le_trans backed.deadline (Nat.add_le_add_right now _)
  renewing := fun startedAt ok sent => Nat.le_trans (backed.renewing startedAt ok sent) now
  renewed := by
    intro startedAt sent holds
    exact covers _ (Nat.add_le_add_right (backed.renewing _ _ sent) _)
      (backed.renewed startedAt sent holds)
  deleting := backed.deleting

/-- A run that claims no more than before. -/
theorem JobRun.Backed.less (backed : r.Backed s)
    (fixed : r'.token = r.token ∧ r'.ttlMs = r.ttlMs ∧ r'.acquiredAt = r.acquiredAt ∧
      r'.expiresAt = r.expiresAt ∧ r'.lease = r.lease) (set : r'.set = true → r.set = true)
    (phase : ∀ ok, r'.phase = .acquiring ok → r.phase = .acquiring ok ∧ r'.renewal = r.renewal)
    (holds : r'.holds = true → r.holds = true) (current : r'.current = true → r.current = true)
    (renewal : ∀ startedAt ok, r'.renewal = .sent startedAt ok →
      r.renewal = .sent startedAt ok ∨ startedAt = s.now ∧ ok = none)
    (del : r'.del = true → r'.phase = .releasing false ∨ r'.phase = .returned) : r'.Backed s := by
  obtain ⟨token, ttlMs, acquiredAt, expiresAt, lease⟩ := fixed
  constructor
  · rw [acquiredAt]
    exact backed.past
  · intro unset
    obtain ⟨none, fresh, unanswered⟩ := backed.unset (set unset)
    rw [lease, token]
    exact ⟨none, fresh, fun ok same => unanswered ok (phase _ same).1⟩
  · intro k mine
    rw [token]
    exact backed.own k (lease ▸ mine)
  · intro ok same
    obtain ⟨before, kept⟩ := phase ok same
    rw [kept, lease]
    exact backed.waiting ok before
  · intro same
    rw [token, acquiredAt, ttlMs]
    exact backed.answered (phase _ same).1
  · intro held ok
    rw [token, expiresAt]
    exact backed.covered (holds held) (current ok)
  · rw [expiresAt, ttlMs]
    exact backed.deadline
  · intro startedAt ok sent
    rcases renewal startedAt ok sent with old | ⟨rfl, -⟩
    · exact backed.renewing startedAt ok old
    · exact Nat.le_refl _
  · intro startedAt sent held
    rcases renewal startedAt _ sent with old | ⟨-, unanswered⟩
    · rw [token, ttlMs]
      exact backed.renewed startedAt old (holds held)
    · cases unanswered
  · exact del

theorem JobRun.Backed.consult (backed : r.Backed s) : (r.consult s.now).Backed s := by
  unfold JobRun.consult
  split
  · refine backed.less ⟨rfl, rfl, rfl, rfl, rfl⟩ id (fun ok same => ⟨same, rfl⟩) id ?_ ?_ ?_
    · rintro ⟨⟩
    · exact fun _ _ sent => Or.inl sent
    · exact backed.deleting
  · exact backed

/-- A run that is not waiting for its lease, with no renewal under way. -/
theorem JobRun.Backed.idle (backed : r.Backed s) (going : ∀ ok, r.phase ≠ .acquiring ok)
    {renewal : Renewal} (calm : ∀ startedAt ok, renewal ≠ .sent startedAt ok) :
    ({ r with renewal := renewal } : JobRun).Backed s := by
  refine backed.less ⟨rfl, rfl, rfl, rfl, rfl⟩ id (fun ok same => absurd same (going ok)) id id ?_ ?_
  · exact fun startedAt ok sent => absurd sent (calm startedAt ok)
  · exact backed.deleting

theorem consult_phase (r : JobRun) (now : Time) : (r.consult now).phase = r.phase := by
  unfold JobRun.consult
  split <;> rfl

/-- What the run is once it has been asked, if it is active. -/
theorem asked_backed (backed : r.Backed s) :
    (if r.active then r.consult s.now else r).Backed s ∧
      (if r.active then r.consult s.now else r).phase = r.phase := by
  split
  · exact ⟨backed.consult, consult_phase r s.now⟩
  · exact ⟨backed, rfl⟩

theorem JobRun.Backed.fire (backed : r.Backed s) (going : ∀ ok, r.phase ≠ .acquiring ok) :
    (r.fire s.now).Backed s := by
  obtain ⟨asked, phase⟩ := asked_backed backed
  unfold JobRun.fire
  dsimp only
  rw [← phase] at going
  generalize (if r.active then r.consult s.now else r) = asking at asked going ⊢
  split
  · refine asked.less ⟨rfl, rfl, rfl, rfl, rfl⟩ id (fun ok same => absurd same (going ok)) id id ?_ ?_
    · rintro startedAt ok ⟨⟩
      exact Or.inr ⟨rfl, rfl⟩
    · exact asked.deleting
  · exact asked.idle going fun _ _ sent => by cases sent

theorem JobRun.Backed.settle (backed : r.Backed s) (going : ∀ ok, r.phase ≠ .acquiring ok) :
    (r.settle s.now).Backed s := by
  obtain ⟨asked, phase⟩ := asked_backed backed
  unfold JobRun.settle
  dsimp only
  rw [← phase] at going
  generalize (if r.active then r.consult s.now else r) = asking at asked going ⊢
  split
  · exact asked.idle going fun _ _ sent => by cases sent
  · exact asked.idle going fun _ _ sent => by cases sent

theorem JobRun.Backed.undeleted (backed : r.Backed s) (waiting : r.phase ≠ .releasing false)
    (going : r.phase ≠ .returned) : ¬r.del = true := by
  intro del
  rcases backed.deleting del with releasing | returned
  · exact waiting releasing
  · exact going returned

theorem goes_backed (backed : r'.Backed s) (h : s.goes r' = some turn) :
    turn.run.Backed (s.after n turn) := by
  cases h
  exact backed.frame (Nat.le_refl _) (fun _ _ covers => covers) fun _ taken => taken

/-- A phase that says nothing of Redis. -/
theorem JobRun.Backed.phase {phase : Phase} (backed : r.Backed s)
    (going : ∀ ok, phase ≠ .acquiring ok)
    (holds : ({ r with phase := phase } : JobRun).holds = true → r.holds = true)
    (del : r.del = true → phase = .releasing false ∨ phase = .returned) :
    ({ r with phase := phase } : JobRun).Backed s :=
  backed.less ⟨rfl, rfl, rfl, rfl, rfl⟩ id (fun ok same => absurd same (going ok)) holds id
    (fun _ _ sent => Or.inl sent) del

theorem JobRun.Backed.unqueued (backed : r.Backed s) : ({ r with set := false } : JobRun).Backed s :=
  backed.less ⟨rfl, rfl, rfl, rfl, rfl⟩ (fun set => by cases set) (fun ok same => ⟨same, rfl⟩) id id
    (fun _ _ sent => Or.inl sent) backed.deleting

/-- The answer to the first command. -/
theorem set_backed {ok : Bool} (backed : r.Backed s) (set : r.set = true)
    (after : ({ r with set := false } : JobRun).Backed t)
    (covers : ok = true → t.lease.Covers t.now r.token (r.acquiredAt + r.ttlMs)) :
    ({ r with set := false, phase := State.answer r ok } : JobRun).Backed t := by
  obtain ⟨none, -, -⟩ := backed.unset set
  unfold State.answer
  split
  · rename_i waiting phase
    obtain ⟨calm, -⟩ := backed.waiting waiting phase
    constructor
    · exact after.past
    · rintro ⟨⟩
    · exact after.own
    · exact fun _ _ => ⟨calm, none⟩
    · rintro ⟨⟩
      exact covers rfl
    · intro holds
      simp [JobRun.holds, none] at holds
    · exact after.deadline
    · exact after.renewing
    · intro startedAt sent
      rw [calm] at sent
      cases sent
    · exact fun del => absurd del (backed.undeleted (by simp [phase]) (by simp [phase]))
  · exact after

theorem acquired_backed (backed : r.Backed s) (phase : r.phase = .acquiring (some true)) :
    ({ r with
        phase := .running, lease := some r.token, current := true
        expiresAt := r.acquiredAt + r.ttlMs } : JobRun).scheduleRenewal s.now |>.Backed s := by
  constructor
  · exact backed.past
  · intro set
    exact absurd phase ((backed.unset set).2.2 true)
  · rintro k ⟨⟩
    rfl
  · rintro ok ⟨⟩
  · rintro ⟨⟩
  · exact fun _ _ => backed.answered phase
  · exact Nat.add_le_add_right backed.past _
  · rintro startedAt ok ⟨⟩
  · rintro startedAt ⟨⟩
  · exact fun del => absurd del (backed.undeleted (by simp [phase]) (by simp [phase]))

/-- Redis executes the release. -/
theorem released_backed (backed : r.Backed s) (del : r.del = true) (now : t.now = s.now)
    (granted : t.granted = s.granted) :
    ({ r with del := false, phase := State.answerRelease r } : JobRun).Backed t := by
  have phase : State.answerRelease r = .releasing true ∨ State.answerRelease r = .returned := by
    unfold State.answerRelease
    rcases backed.deleting del with releasing | returned
    · simp [releasing]
    · simp [returned]
  have gone : ∀ r' : JobRun, r'.phase = State.answerRelease r → r'.holds = false := by
    intro r' same
    rw [← same] at phase
    rcases phase with releasing | returned
    · simp [JobRun.holds, releasing]
    · simp [JobRun.holds, returned]
  have going : ∀ ok, State.answerRelease r ≠ .acquiring ok := by
    intro ok same
    rcases phase with releasing | returned
    · rw [releasing] at same
      cases same
    · rw [returned] at same
      cases same
  constructor
  · rw [now]
    exact backed.past
  · rw [granted]
    exact fun set => ⟨(backed.unset set).1, (backed.unset set).2.1, fun ok => going (some ok)⟩
  · exact backed.own
  · exact fun ok same => absurd same (going ok)
  · exact fun same => absurd same (going (some true))
  · intro holds
    rw [gone _ rfl] at holds
    cases holds
  · rw [now]
    exact backed.deadline
  · rw [now]
    exact backed.renewing
  · intro startedAt _ holds
    rw [gone _ rfl] at holds
    cases holds
  · rintro ⟨⟩

theorem renewal_going (backed : r.Backed s) {startedAt : Time} {ok : Option Bool}
    (sent : r.renewal = .sent startedAt ok) : ∀ waiting, r.phase ≠ .acquiring waiting := by
  intro waiting phase
  rw [(backed.waiting waiting phase).1] at sent
  cases sent

/-- Redis executes a renewal. -/
theorem renewed_backed (backed : r.Backed s) {lease : Lease Token} {ok : Bool}
    (run : s.lease.renew s.now r.token r.ttlMs = (lease, ok)) (now : t.now = s.now)
    (granted : t.granted = s.granted) (same : t.lease = lease) :
    ({ r with pexpire := false, renewal := State.answerRenewal r ok } : JobRun).Backed t := by
  have kept : r.Backed t := by
    apply backed.frame (Nat.le_of_eq now.symm)
    · intro deadline bound covers
      have renewed := covers.renew (u := r.token) fun _ => bound
      rw [run] at renewed
      rw [same, now]
      exact renewed
    · rw [granted]
      exact fun _ taken => taken
  unfold State.answerRenewal
  split
  · rename_i startedAt answer sent
    have going := renewal_going backed sent
    constructor
    · exact kept.past
    · exact kept.unset
    · exact kept.own
    · exact fun waiting phase => absurd phase (going waiting)
    · exact fun phase => absurd phase (going _)
    · exact kept.covered
    · exact kept.deadline
    · rintro _ _ ⟨⟩
      exact kept.renewing _ _ sent
    · rintro _ ⟨⟩ _
      have answered : (s.lease.renew s.now r.token r.ttlMs).2 = true := by rw [run]
      have covers := Lease.covers_renewed answered (backed.renewing _ _ sent)
      rw [run] at covers
      rw [same, now]
      exact covers
    · exact kept.deleting
  · exact kept.less ⟨rfl, rfl, rfl, rfl, rfl⟩ id (fun ok same => ⟨same, rfl⟩) id id
      (fun _ _ sent => Or.inl sent) kept.deleting

/-- A renewal was refused or not answered. -/
theorem JobRun.Backed.lapsed (backed : r.Backed s) :
    ({ r with current := false } : JobRun).Backed s :=
  backed.less ⟨rfl, rfl, rfl, rfl, rfl⟩ id (fun ok same => ⟨same, rfl⟩) id
    (fun current => by cases current) (fun _ _ sent => Or.inl sent) backed.deleting

theorem turn_backed (backed : r.Backed s) (h : s.turn r a = some turn) :
    turn.run.Backed (s.after n turn) := by
  unfold State.turn at h
  split at h
  · split at h
    · rename_i set
      split at h
      · rename_i lease taken
        cases h
        refine set_backed backed set ?_ fun _ => Lease.covers_acquired taken backed.past
        refine backed.unqueued.frame (Nat.le_refl _) (fun _ _ covers => covers.acquire taken) ?_
        rintro ⟨⟩
      · apply goes_backed _ h
        exact set_backed backed set backed.unqueued fun refused => by cases refused
    · cases h
  · split at h
    · rename_i phase
      exact goes_backed (acquired_backed backed phase) h
    · rename_i phase
      apply goes_backed _ h
      apply backed.phase
      · rintro ok ⟨⟩
      · intro holds
        simp [JobRun.holds] at holds
      · exact fun del => absurd del (backed.undeleted (by simp [phase]) (by simp [phase]))
    · cases h
  · split at h
    · rename_i waiting phase
      obtain ⟨calm, none⟩ := backed.waiting waiting phase
      apply goes_backed _ h
      constructor
      · exact backed.past
      · exact fun set => ⟨rfl, (backed.unset set).2.1, fun ok same => by cases same⟩
      · rintro k ⟨⟩
      · rintro ok ⟨⟩
      · rintro ⟨⟩
      · intro holds
        simp [JobRun.holds] at holds
      · exact Nat.add_le_add_right backed.past _
      · exact backed.renewing
      · intro startedAt _ holds
        simp [JobRun.holds] at holds
      · exact fun del => absurd del (backed.undeleted (by simp [phase]) (by simp [phase]))
    · cases h
  · split at h
    · rename_i fires timer
      split at h
      · apply goes_backed (backed.fire _) h
        intro ok phase
        rw [(backed.waiting ok phase).1] at timer
        cases timer
      · cases h
    · cases h
  · split at h
    · cases h
      exact renewed_backed backed rfl rfl rfl rfl
    · cases h
  · split at h
    · rename_i startedAt sent
      have going := renewal_going backed sent
      have extended : ({ r with expiresAt := startedAt + r.ttlMs } : JobRun).Backed s := by
        constructor
        · exact backed.past
        · exact backed.unset
        · exact backed.own
        · exact backed.waiting
        · exact backed.answered
        · exact fun holds _ => backed.renewed startedAt sent holds
        · exact Nat.add_le_add_right (backed.renewing _ _ sent) _
        · exact backed.renewing
        · exact backed.renewed
        · exact backed.deleting
      exact goes_backed (extended.settle going) h
    · rename_i startedAt sent
      exact goes_backed (backed.lapsed.settle (renewal_going backed.lapsed sent)) h
    · cases h
  · split at h
    · rename_i startedAt ok sent
      exact goes_backed (backed.lapsed.settle (renewal_going backed.lapsed sent)) h
    · cases h
  · split at h
    · exact goes_backed backed.consult h
    · cases h
  · split at h
    · apply goes_backed _ h
      exact backed.less ⟨rfl, rfl, rfl, rfl, rfl⟩ id (fun ok same => ⟨same, rfl⟩) id id
        (fun _ _ sent => Or.inl sent) backed.deleting
    · cases h
  · rename_i _ value
    split at h
    · dsimp only at h
      have kept : ({ r with writes := r.writes.erase value } : JobRun).Backed s :=
        backed.less ⟨rfl, rfl, rfl, rfl, rfl⟩ id (fun ok same => ⟨same, rfl⟩) id id
          (fun _ _ sent => Or.inl sent) backed.deleting
      split at h
      · cases h
        exact kept.frame (Nat.le_refl _) (fun _ _ covers => covers) fun _ taken => taken
      · exact goes_backed kept h
    · cases h
  · split at h
    · rename_i phase
      apply goes_backed _ h
      have closing : ({ r with phase := .closing } : JobRun).Backed s := by
        apply backed.phase
        · rintro ok ⟨⟩
        · intro holds
          simpa [JobRun.holds, phase] using holds
        · exact fun del => absurd del (backed.undeleted (by simp [phase]) (by simp [phase]))
      split
      · exact closing.idle (fun _ same => by cases same) fun _ _ sent => by cases sent
      · exact closing
    · cases h
  · split at h
    · rename_i closing
      split at h
      · apply goes_backed _ h
        refine backed.less ⟨rfl, rfl, rfl, rfl, rfl⟩ id (fun _ same => by cases same) ?_ id
          (fun _ _ sent => Or.inl sent) fun _ => Or.inl rfl
        intro holds
        simpa [JobRun.holds, closing.1] using holds
      · apply goes_backed _ h
        apply backed.phase
        · rintro ok ⟨⟩
        · intro holds
          simp [JobRun.holds] at holds
        · exact fun _ => Or.inr rfl
    · cases h
  · split at h
    · rename_i del
      cases h
      exact released_backed backed del rfl rfl
    · cases h
  · split at h
    · apply goes_backed _ h
      apply backed.phase
      · rintro ok ⟨⟩
      · intro holds
        simp [JobRun.holds] at holds
      · exact fun _ => Or.inr rfl
    · cases h
  · cases h
  · cases h

/-! ## What a step keeps -/

/-- The steps: a run starts, one run takes a turn, time passes. -/
theorem Step.cases (h : Step s a t) :
    (∃ token ttlMs, a = .start token ttlMs ∧ token ∉ s.runs.map (·.token) ∧
      t = { s with runs := s.runs ++ [State.begin s.now token ttlMs] }) ∨
    (∃ n r turn, a.run = some n ∧ s.runs[n]? = some r ∧ s.turn r a = some turn ∧
      t = s.after n turn) ∨
    ∃ ms, a = .pass ms ∧ t = { s with now := s.now + ms } := by
  unfold Step State.next at h
  split at h
  · rename_i token ttlMs
    split at h
    · cases h
    · rename_i fresh
      cases h
      exact Or.inl ⟨token, ttlMs, rfl, fresh, rfl⟩
  · rename_i ms
    cases h
    exact Or.inr (Or.inr ⟨ms, rfl, rfl⟩)
  · obtain ⟨n, run, h⟩ := Option.bind_eq_some_iff.mp h
    obtain ⟨r, at', h⟩ := Option.bind_eq_some_iff.mp h
    obtain ⟨turn, taken, h⟩ := Option.bind_eq_some_iff.mp h
    cases h
    exact Or.inr (Or.inl ⟨n, r, turn, run, at', taken, rfl⟩)

theorem tokens_after (at' : s.runs[n]? = some r) (token : turn.run.token = r.token) :
    (s.after n turn).runs.map (·.token) = s.runs.map (·.token) := by
  obtain ⟨there, same⟩ := List.getElem?_eq_some_iff.mp at'
  have bound : n < (s.runs.map (·.token)).length := by simpa using there
  have own : turn.run.token = (s.runs.map (·.token))[n] := by
    rw [token, List.getElem_map, same]
  rw [State.after, List.map_set, own]
  exact List.set_getElem_self _

/-- The stored token is the last one taken. -/
theorem last_kept {granted : List Token}
    (last : ∀ k e, s.lease = some (k, e) → ∃ older, s.granted = older ++ [k])
    (holder : ∀ k e, l = some (k, e) → ∃ e', s.lease = some (k, e'))
    (same : granted = s.granted) : ∀ k e, l = some (k, e) → ∃ older, granted = older ++ [k] := by
  intro k e held
  obtain ⟨e', before⟩ := holder k e held
  rw [same]
  exact last k e' before

theorem renew_holder {now ttl : Nat} {k' : Token}
    (h : (l.renew now k' ttl).1 = some (k, e)) : ∃ e', l = some (k, e') := by
  unfold Lease.renew at h
  split at h
  · rename_i own
    cases h
    obtain ⟨e', same, -⟩ := Lease.holder_some.mp own
    exact ⟨e', same⟩
  · exact ⟨e, (Lease.live_some.mp h).1⟩

theorem release_holder {now : Nat} {k' : Token}
    (h : l.release now k' = some (k, e)) : ∃ e', l = some (k, e') := by
  unfold Lease.release at h
  split at h
  · cases h
  · exact ⟨e, (Lease.live_some.mp h).1⟩

theorem ordered_turn (ordered : Ordered s) (backed : r.Backed s) (at' : s.runs[n]? = some r)
    (h : s.turn r a = some turn) : Ordered (s.after n turn) := by
  obtain ⟨touched, token⟩ := turn_touched h
  have tokens := tokens_after at' token
  have distinct : ((s.after n turn).runs.map (·.token)).Nodup := tokens ▸ ordered.distinct
  have known : ∀ k ∈ s.granted, k ∈ (s.after n turn).runs.map (·.token) := by
    intro k taken
    rw [tokens]
    exact ordered.known k taken
  have member : r.token ∈ (s.after n turn).runs.map (·.token) := by
    rw [tokens]
    exact List.mem_map.mpr ⟨r, List.mem_of_getElem? at', rfl⟩
  unfold State.after at distinct known member ⊢
  cases touched with
  | none lease granted written =>
    rw [lease, granted, written]
    exact ⟨distinct, known, ordered.once, ordered.last, ordered.writers, ordered.inOrder⟩
  | acquires set lease granted written =>
    obtain ⟨-, fresh, -⟩ := backed.unset set
    rw [granted, written]
    refine ⟨distinct, ?_, ?_, ?_, ?_, ?_⟩
    · intro k taken
      rcases List.mem_append.mp taken with old | new
      · exact known k old
      · rw [List.mem_singleton] at new
        exact new ▸ member
    · exact List.nodup_append_comm.mp (List.nodup_cons.mpr ⟨fresh, ordered.once⟩)
    · intro k e held
      unfold Lease.acquire at lease
      split at lease
      · cases lease
      · rw [Option.some.injEq] at lease
        rw [← lease] at held
        cases held
        exact ⟨_, rfl⟩
    · exact fun k wrote => List.mem_append_left _ (ordered.writers k wrote)
    · apply ordered.inOrder.imp
      rintro earlier later (same | before)
      · exact Or.inl same
      · exact Or.inr (before.trans (List.sublist_append_left _ _))
  | renews lease granted written =>
    rw [granted, written]
    refine ⟨distinct, known, ordered.once, ?_, ordered.writers, ordered.inOrder⟩
    apply last_kept ordered.last _ rfl
    intro k e held
    rw [lease] at held
    exact renew_holder held
  | releases lease granted written =>
    rw [granted, written]
    refine ⟨distinct, known, ordered.once, ?_, ordered.writers, ordered.inOrder⟩
    apply last_kept ordered.last _ rfl
    intro k e held
    rw [lease] at held
    exact release_holder held
  | writes lease granted held written =>
    obtain ⟨e, stored, -⟩ := Lease.holder_some.mp held
    obtain ⟨older, order⟩ := ordered.last _ _ stored
    have taken : r.token ∈ s.granted := by simp [order]
    rw [lease, granted, written]
    refine ⟨distinct, known, ordered.once, ordered.last, ?_, ?_⟩
    · intro k wrote
      rcases List.mem_append.mp wrote with old | new
      · exact ordered.writers k old
      · rw [List.mem_singleton] at new
        exact new ▸ taken
    · rw [List.pairwise_append]
      refine ⟨ordered.inOrder, List.pairwise_singleton _ _, ?_⟩
      intro earlier wrote later new
      rw [List.mem_singleton] at new
      subst new
      have before := ordered.writers earlier wrote
      rw [order, List.mem_append, List.mem_singleton] at before
      rcases before with before | same
      · rw [order]
        exact Or.inr ((List.singleton_sublist.mpr before).append_right _)
      · exact Or.inl same

/-- Another run's deadlines hold as before. -/
theorem Touched.covers (touched : Touched s r turn) (other : r.token ≠ k) {deadline : Nat}
    (covers : s.lease.Covers s.now k deadline) : turn.lease.Covers s.now k deadline := by
  cases touched with
  | none lease => rwa [lease]
  | acquires set lease => exact covers.acquire lease
  | renews lease =>
    rw [lease]
    exact covers.renew fun same => absurd same other
  | releases lease =>
    rw [lease]
    exact covers.release other.symm
  | writes lease => rwa [lease]

/-- And nothing but its own commands changes a lease that has not run out. -/
theorem Touched.live (touched : Touched s r turn) (other : r.token ≠ k)
    (live : s.lease.live s.now = some (k, e)) : turn.lease = some (k, e) := by
  have stored : s.lease = some (k, e) := (Lease.live_some.mp live).1
  cases touched with
  | none lease => exact lease.trans stored
  | acquires set lease =>
    rw [Lease.acquire_held live] at lease
    cases lease
  | renews lease => exact lease.trans (Lease.renew_other live (Ne.symm other)).1
  | releases lease => exact lease.trans (Lease.release_other live (Ne.symm other))
  | writes lease => exact lease.trans stored

theorem begin_backed {token : Token} {ttlMs : Time} (fresh : token ∉ s.granted) :
    (State.begin s.now token ttlMs).Backed s := by
  constructor
  · exact Nat.le_refl _
  · exact fun _ => ⟨rfl, fresh, fun ok same => by cases same⟩
  · rintro k ⟨⟩
  · exact fun _ _ => ⟨rfl, rfl⟩
  · rintro ⟨⟩
  · rintro ⟨⟩
  · exact Nat.le_refl _
  · rintro startedAt ok ⟨⟩
  · rintro startedAt ⟨⟩
  · rintro ⟨⟩

theorem sound_step (sound : Sound s) (h : Step s a t) : Sound t := by
  rcases h.cases with ⟨token, ttlMs, -, fresh, rfl⟩ | ⟨n, r, turn, -, at', taken, rfl⟩ |
    ⟨ms, -, rfl⟩
  · constructor
    · intro r member
      rcases List.mem_append.mp member with old | new
      · exact (sound.backed r old).frame (Nat.le_refl _) (fun _ _ covers => covers) fun _ k => k
      · rw [List.mem_singleton] at new
        subst new
        exact begin_backed fun taken => fresh (sound.ordered.known token taken)
    · obtain ⟨distinct, known, once, last, writers, inOrder⟩ := sound.ordered
      refine ⟨?_, ?_, once, last, writers, inOrder⟩
      · rw [List.map_append]
        exact List.nodup_append_comm.mp (List.nodup_cons.mpr ⟨fresh, distinct⟩)
      · intro k taken
        rw [List.map_append]
        exact List.mem_append_left _ (known k taken)
  · have backed := sound.backed r (List.mem_of_getElem? at')
    obtain ⟨touched, token⟩ := turn_touched taken
    constructor
    · intro r' member
      obtain ⟨m, there⟩ := List.mem_iff_getElem?.mp member
      by_cases own : m = n
      · subst own
        have bound : m < s.runs.length := (List.getElem?_eq_some_iff.mp at').1
        rw [State.after, List.getElem?_set_self bound] at there
        cases there
        exact turn_backed backed taken
      · rw [State.after, List.getElem?_set_ne (Ne.symm own)] at there
        have apart : r.token ≠ r'.token := by
          intro same
          have first : (s.runs.map (·.token))[n]? = some r.token := by
            rw [List.getElem?_map, at']
            rfl
          have second : (s.runs.map (·.token))[m]? = some r.token := by
            rw [List.getElem?_map, there, same]
            rfl
          have bound : n < (s.runs.map (·.token)).length := (List.getElem?_eq_some_iff.mp first).1
          exact own ((List.getElem?_inj bound sound.ordered.distinct).mp (first.trans second.symm)).symm
        refine (sound.backed r' (List.mem_of_getElem? there)).frame (Nat.le_refl _) ?_ ?_
        · exact fun deadline _ covers => touched.covers apart covers
        · intro _ granted
          rw [State.after] at granted
          cases touched with
          | acquires _ _ grows =>
            rw [grows, List.mem_append, List.mem_singleton] at granted
            exact granted.resolve_right (Ne.symm apart)
          | none _ same => rwa [same] at granted
          | renews _ same => rwa [same] at granted
          | releases _ same => rwa [same] at granted
          | writes _ same => rwa [same] at granted
    · exact ordered_turn sound.ordered backed at' taken
  · refine ⟨?_, sound.ordered.distinct, sound.ordered.known, sound.ordered.once,
      sound.ordered.last, sound.ordered.writers, sound.ordered.inOrder⟩
    intro r member
    apply (sound.backed r member).frame (Nat.le_add_right _ _)
    · exact fun deadline _ covers => covers.wait (Nat.le_add_right _ _)
    · exact fun _ k => k

end Turns

/-- No run has started, and no token is stored. -/
structure Idle (s : State) : Prop where
  runs : s.runs = []
  lease : s.lease = none
  granted : s.granted = []
  written : s.written = []

theorem idle_sound {s : State} (idle : Idle s) : Sound s := by
  obtain ⟨runs, lease, granted, written⟩ := idle
  constructor
  · rw [runs]
    rintro r ⟨⟩
  · constructor
    · simp [runs]
    · simp [granted]
    · simp [granted]
    · simp [lease]
    · simp [written]
    · simp [written]

/-- The token of a run that is current is stored. -/
theorem current_covers {s : State} {r : JobRun} (backed : r.Backed s) (holds : r.holds = true)
    (current : r.isCurrent s.now = true) :
    s.now < r.expiresAt ∧ s.lease.Covers s.now r.token r.expiresAt := by
  have leased : r.lease.isSome = true := (Bool.and_eq_true_iff.mp holds).1
  unfold JobRun.isCurrent at current
  rw [if_neg (by simpa using Option.isSome_iff_ne_none.mp leased)] at current
  split at current
  · cases current
  · rename_i early
    exact ⟨Nat.lt_of_not_le early, backed.covered holds current⟩

/-- Two runs that hold their tokens are never current at once; a lease is changed by
commands of its own token only; a cursor is stored while the token is, and in the
order in which Redis took the tokens. -/
theorem leases_exclusive {s t : State} {as : List Action} (idle : Idle s) (run : Run Step s as t) :
    (∀ (m n : Nat) (a b : JobRun), t.runs[m]? = some a → t.runs[n]? = some b → a.holds = true → b.holds = true →
      a.isCurrent t.now = true → b.isCurrent t.now = true → m = n) ∧
    (∀ action u k e, Step t action u → t.lease.live t.now = some (k, e) →
      (∀ n r, action.run = some n → t.runs[n]? = some r → r.token ≠ k) → u.lease = some (k, e)) ∧
    (∀ action u, Step t action u → u.cursor ≠ t.cursor ∨ u.written ≠ t.written →
      ∃ n r, action.run = some n ∧ t.runs[n]? = some r ∧ t.lease.holder t.now = some r.token ∧
        u.written = t.written ++ [r.token]) ∧
    t.granted.Nodup ∧
    t.written.Pairwise fun earlier later =>
      earlier = later ∨ [earlier, later].Sublist t.granted := by
  have sound : Sound t :=
    run.preserves (P := Sound) (fun _ _ _ step before => sound_step before step) (idle_sound idle)
  refine ⟨?_, ?_, ?_, sound.ordered.once, sound.ordered.inOrder⟩
  · intro m n a b hm hn holds holds' current current'
    obtain ⟨early, covers⟩ :=
      current_covers (sound.backed a (List.mem_of_getElem? hm)) holds current
    obtain ⟨early', covers'⟩ :=
      current_covers (sound.backed b (List.mem_of_getElem? hn)) holds' current'
    have same : a.token = b.token := covers.unique covers' early early'
    have first : (t.runs.map (·.token))[m]? = some a.token := by
      rw [List.getElem?_map, hm]
      rfl
    have second : (t.runs.map (·.token))[n]? = some a.token := by
      rw [List.getElem?_map, hn, same]
      rfl
    have bound : m < (t.runs.map (·.token)).length := (List.getElem?_eq_some_iff.mp first).1
    exact (List.getElem?_inj bound sound.ordered.distinct).mp (first.trans second.symm)
  · intro action u k e step live others
    rcases step.cases with ⟨token, ttlMs, -, -, rfl⟩ | ⟨n, r, turn, own, at', taken, rfl⟩ |
      ⟨ms, -, rfl⟩
    · exact (Lease.live_some.mp live).1
    · exact (turn_touched taken).1.live (others n r own at') live
    · exact (Lease.live_some.mp live).1
  · intro action u step changed
    rcases step.cases with ⟨token, ttlMs, -, -, rfl⟩ | ⟨n, r, turn, own, at', taken, rfl⟩ |
      ⟨ms, -, rfl⟩
    · simp at changed
    · cases (turn_touched taken).1 with
      | writes lease granted held written => exact ⟨n, r, own, at', held, written⟩
      | none _ _ written cursor => simp [State.after, written, cursor] at changed
      | acquires _ _ _ written cursor => simp [State.after, written, cursor] at changed
      | renews _ _ written cursor => simp [State.after, written, cursor] at changed
      | releases _ _ written cursor => simp [State.after, written, cursor] at changed
    · simp at changed

/-! ### A holder that comes back late -/

def nobody : State := ⟨0, none, none, [], [], []⟩

/-- Token 11 outlives its lease of 30, 12 takes over, and both store a cursor. -/
def overrun : List Action :=
  [.start 11 30, .setExecutes 0, .acquired 0, .write 0 [49], .writeExecutes 0 [49], .write 0 [50],
    .pass 30, .start 12 30, .setExecutes 1, .acquired 1, .write 1 [51], .writeExecutes 1 [51],
    .writeExecutes 0 [50], .finish 0, .release 0, .delExecutes 0]

def overran : State := (overrun.foldlM State.next nobody).getD nobody

theorem leases_exclusive_overrun :
    overran.runs.map (·.isCurrent overran.now) = [false, true] ∧ overran.lease = some (12, 60) ∧
      overran.cursor = some [51] ∧
      [11, 12].Pairwise fun earlier later => earlier = later ∨ [earlier, later].Sublist [11, 12] := by
  have run : Run Step nobody overrun overran := Run.of_foldlM rfl
  have written : overran.written = [11, 12] := rfl
  obtain ⟨-, -, -, -, inOrder⟩ := leases_exclusive ⟨rfl, rfl, rfl, rfl⟩ run
  rw [written] at inOrder
  exact ⟨rfl, rfl, rfl, inOrder⟩

end CircleBackend.Redis
