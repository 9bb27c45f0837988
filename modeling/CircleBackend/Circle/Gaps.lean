import CircleBackend.Circle.Scan
import CircleBackend.Library.Paging

/-!
# What falls between two scans

A cursor says that everything up to it is covered: it was in a page whose circles
were all reconciled or recorded. A window that is completed says so for the time its
last page was read, and the next window starts from the clock. So nothing is missed
where that start is not past the reading.
-/

namespace CircleBackend.Circle.Scan

open Library

/-- The row was in a page whose circles were all dealt with. -/
def Covered (s : State) (r : CircleSyncScanRow) : Prop :=
  ∃ k ∈ s.ticks, r ∈ k.page ∧
    ∀ q ∈ k.page, q.circleID ∈ k.reconciled ∨ q.circleID ∈ k.recorded

/-- At or before the lower bound of a scan. -/
def Below (cursor : Option CircleSyncScanCursor) (scanSince : Int)
    (r : CircleSyncScanRow) : Prop :=
  r.updatedAt ≤ scanSince ∨ ∃ c, cursor = some c ∧ r.key ≤ c.key

/-- A window is opened before the last page of the latest completed one was read, and
no full page ends with a row of the millisecond it is read in. -/
def State.timely (limits : Limits) (s : State) : Action → Bool
  | .read n =>
    (s.ticks[n]?).all fun k =>
      (s.instances[k.host]?).all fun i =>
        match s.candidate i with
        | some (.cursor _) => true
        | some .completed | none => k.since < s.readTo
  | .query n =>
    (s.ticks[n]?).all fun k =>
      match k.phase with
      | .querying cursor scanSince =>
        (State.nextCursor limits.scanMax scanSince
          (s.scanRows limits.scanMax cursor scanSince)).all (·.updatedAt < s.now)
      | _ => true
  | _ => true

def Timely (limits : Limits) (s : State) (a : Action) : Prop := s.timely limits a = true

/-! ## What a bound stands for -/

/-- Everything up to the bound is covered, and the bound is past. -/
structure Swept (s : State) (cursor : Option CircleSyncScanCursor) (since : Int) : Prop where
  past : since < s.now
  early : ∀ c, cursor = some c → since ≤ c.updatedAt ∧ c.updatedAt < s.now
  rows : ∀ m ∈ s.members.rows, Below cursor since m.scanRow → Covered s m.scanRow

/-- What storing the next cursor of a tick would say. -/
def Tick.Reaches (k : Tick) (r : CircleSyncScanRow) : Prop :=
  match k.nextCursor with
  | some c => Below (some c) c.windowSince r
  | none => r.updatedAt < k.readAt

/-- The page of a tick has been read. -/
def Phase.read : Phase → Bool
  | .starting | .reconciling _ _ _ _ | .looped _ _ _ | .checkpointing _ _ _ | .storing => true
  | _ => false

def Phase.unread : Phase → Bool
  | .acquiring | .reading | .opening | .querying _ _ => true
  | _ => false

/-- Only a tick that has the lease gets here. -/
def Phase.late : Phase → Bool
  | .checkpointing _ _ _ | .storing => true
  | _ => false

/-- What has become of a circle of the page. -/
def Tick.Dealing (k : Tick) (c : CircleId) : Prop :=
  match k.phase with
  | .reconciling _ _ _ todo => c ∈ todo ∨ c ∈ k.reconciled ∨ c ∈ k.failed
  | .looped _ _ true | .checkpointing _ _ true => c ∈ k.reconciled ∨ c ∈ k.failed
  | .storing => c ∈ k.reconciled ∨ c ∈ k.recorded
  | _ => True

structure Tick.Sound (s : State) (k : Tick) : Prop where
  acquiring : k.phase = .acquiring → k.leaseToken = none
  leased : k.phase.late = true → k.leaseToken.isSome = true
  since : k.since < s.now
  unread : k.phase.unread = true → k.page = []
  readAt : k.readAt ≤ s.now
  opening : k.phase = .opening → Swept s none k.since
  querying : ∀ cursor scanSince, k.phase = .querying cursor scanSince → Swept s cursor scanSince
  next : ∀ c, k.nextCursor = some c →
    c.windowSince < s.now ∧ c.windowSince ≤ c.updatedAt ∧ c.updatedAt < s.now
  reaches : k.leaseToken.isSome = true → k.phase.read = true → ∀ m ∈ s.members.rows,
    k.Reaches m.scanRow → Covered s m.scanRow ∨ m.scanRow ∈ k.page
  dealing : ∀ q ∈ k.page, k.Dealing q.circleID

structure Sweeping (s : State) : Prop where
  members : ∀ m ∈ s.members.rows, m.updatedAt ≤ s.now
  readTo : s.readTo ≤ s.now
  completed : ∀ m ∈ s.members.rows, m.updatedAt < s.readTo → Covered s m.scanRow
  stored : ∀ c expiresAt, s.stored = some (.cursor c, expiresAt) → Swept s (some c) c.windowSince
  instances : ∀ i ∈ s.instances, ∀ c, i.scanCursor = some c → Swept s (some c) c.windowSince
  ticks : ∀ k ∈ s.ticks, k.Sound s

section Bounds

variable {s t : State} {k k' : Tick} {cursor : Option CircleSyncScanCursor} {since : Int}
  {r : CircleSyncScanRow}

theorem key_le {c : CircleSyncScanCursor} (h : r.key ≤ c.key) : r.updatedAt ≤ c.updatedAt := by
  unfold CircleSyncScanRow.key CircleSyncScanCursor.key at h
  rw [Prod.Lex.toLex_le_toLex] at h
  rcases h with before | ⟨same, -⟩
  · exact le_of_lt before
  · exact le_of_eq same

/-- What a later state may change: pages once read stay, and rows are stamped. -/
structure Advances (s t : State) : Prop where
  now : s.now ≤ t.now
  members : ∀ m ∈ t.members.rows, m ∈ s.members.rows ∨ m.updatedAt = s.now
  ticks : ∀ k ∈ s.ticks, ∃ k' ∈ t.ticks, (k.page ≠ [] → k'.page = k.page) ∧
    ∀ c, c ∈ k.reconciled ∨ c ∈ k.recorded → c ∈ k'.reconciled ∨ c ∈ k'.recorded

theorem Covered.advance (h : Advances s t) (covered : Covered s r) : Covered t r := by
  obtain ⟨k, member, page, dealt⟩ := covered
  obtain ⟨k', member', same, grows⟩ := h.ticks k member
  have same := same (List.ne_nil_of_mem page)
  exact ⟨k', member', same ▸ page, fun q there => grows _ (dealt q (same ▸ there))⟩

/-- A row stamped now is past every bound. -/
theorem Swept.fresh (swept : Swept s cursor since) (stamped : r.updatedAt = s.now) :
    ¬Below cursor since r := by
  rintro (low | ⟨c, same, low⟩)
  · have past := swept.past
    omega
  · have past := (swept.early c same).2
    have low := key_le low
    omega

theorem Swept.advance (h : Advances s t) (swept : Swept s cursor since) : Swept t cursor since := by
  have later := h.now
  constructor
  · have past := swept.past
    omega
  · intro c same
    obtain ⟨low, past⟩ := swept.early c same
    exact ⟨low, by omega⟩
  · intro m member below
    rcases h.members m member with old | stamped
    · exact (swept.rows m old below).advance h
    · have stamped : m.scanRow.updatedAt = s.now := stamped
      exact absurd below (swept.fresh stamped)

theorem Tick.Sound.advance (h : Advances s t) (sound : k.Sound s) : k.Sound t where
  acquiring := sound.acquiring
  leased := sound.leased
  since := lt_of_lt_of_le sound.since h.now
  unread := sound.unread
  readAt := le_trans sound.readAt h.now
  opening := fun phase => (sound.opening phase).advance h
  querying := fun cursor scanSince phase => (sound.querying cursor scanSince phase).advance h
  next := by
    intro c same
    obtain ⟨past, low, early⟩ := sound.next c same
    exact ⟨lt_of_lt_of_le past h.now, low, lt_of_lt_of_le early h.now⟩
  reaches := by
    intro leased read m member reaches
    rcases h.members m member with old | stamped
    · rcases sound.reaches leased read m old reaches with covered | page
      · exact Or.inl (covered.advance h)
      · exact Or.inr page
    · exfalso
      have stamped : m.scanRow.updatedAt = s.now := stamped
      unfold Tick.Reaches at reaches
      split at reaches
      · rename_i c same
        obtain ⟨past, -, early⟩ := sound.next c same
        rcases reaches with low | ⟨c', same', low⟩
        · omega
        · cases same'
          have low := key_le low
          omega
      · have readAt := sound.readAt
        omega
  dealing := sound.dealing

theorem Sweeping.advance (sweeping : Sweeping s) (h : Advances s t)
    (readTo : t.readTo ≤ t.now)
    (completed : ∀ m ∈ t.members.rows, m.updatedAt < t.readTo →
      m.updatedAt < s.readTo ∨ Covered t m.scanRow)
    (stored : ∀ c expiresAt, t.stored = some (.cursor c, expiresAt) →
      t.stored = s.stored ∨ Swept t (some c) c.windowSince)
    (instances : ∀ i ∈ t.instances, ∀ c, i.scanCursor = some c →
      (∃ i' ∈ s.instances, i'.scanCursor = some c) ∨ Swept t (some c) c.windowSince)
    (ticks : ∀ k ∈ t.ticks, k ∈ s.ticks ∨ k.Sound t) : Sweeping t where
  members := by
    intro m member
    rcases h.members m member with old | stamped
    · exact le_trans (sweeping.members m old) h.now
    · exact le_trans (le_of_eq stamped) h.now
  readTo := readTo
  completed := by
    intro m member early
    rcases completed m member early with before | covered
    · rcases h.members m member with old | stamped
      · exact (sweeping.completed m old before).advance h
      · have bound := sweeping.readTo
        omega
    · exact covered
  stored := by
    intro c expiresAt now
    rcases stored c expiresAt now with same | swept
    · exact (sweeping.stored c expiresAt (same ▸ now)).advance h
    · exact swept
  instances := by
    intro i member c own
    rcases instances i member c own with ⟨i', there, same⟩ | swept
    · exact (sweeping.instances i' there c same).advance h
    · exact swept
  ticks := by
    intro k member
    rcases ticks k member with old | sound
    · exact (sweeping.ticks k old).advance h
    · exact sound

/-- A tick whose page is read moves on. -/
theorem Tick.Sound.moves (sound : k.Sound s) {phase : Phase} {reconciled failed recorded : List CircleId}
    (read : phase.unread = false) (before : phase.read = true → k.phase.read = true)
    (leased : phase.late = true → k.leaseToken.isSome = true)
    (dealing : ∀ q ∈ k.page,
      ({ k with
          phase := phase, reconciled := reconciled, failed := failed
          recorded := recorded } : Tick).Dealing q.circleID) :
    ({ k with
        phase := phase, reconciled := reconciled, failed := failed
        recorded := recorded } : Tick).Sound s where
  acquiring := by
    rintro rfl
    cases read
  leased := leased
  since := sound.since
  unread := by
    intro unread
    rw [read] at unread
    cases unread
  readAt := sound.readAt
  opening := by
    rintro rfl
    cases read
  querying := by
    rintro cursor scanSince rfl
    cases read
  next := sound.next
  reaches := fun leased read => sound.reaches leased (before read)
  dealing := dealing

theorem Tick.Sound.stops (sound : k.Sound s) : ({ k with phase := .done } : Tick).Sound s :=
  sound.moves rfl (fun read => by cases read) (fun late => by cases late) fun _ _ => trivial

/-- A turn that leaves the rows alone. -/
theorem advances_put {n : Nat} (at' : s.ticks[n]? = some k) (ticks : t.ticks = s.ticks.set n k')
    (now : t.now = s.now) (members : t.members = s.members)
    (page : k.page ≠ [] → k'.page = k.page)
    (grows : ∀ c, c ∈ k.reconciled ∨ c ∈ k.recorded → c ∈ k'.reconciled ∨ c ∈ k'.recorded) :
    Advances s t where
  now := le_of_eq now.symm
  members := by
    intro m member
    exact Or.inl (members ▸ member)
  ticks := by
    intro o member
    obtain ⟨m, there⟩ := List.mem_iff_getElem?.mp member
    rw [ticks]
    by_cases own : m = n
    · subst own
      rw [at'] at there
      cases there
      have bound : m < s.ticks.length := (List.getElem?_eq_some_iff.mp at').1
      exact ⟨k', List.mem_of_getElem? (List.getElem?_set_self bound), page, grows⟩
    · have kept : (s.ticks.set n k')[m]? = some o := by
        rw [List.getElem?_set_ne (Ne.symm own), there]
      exact ⟨o, List.mem_of_getElem? kept, fun _ => rfl, fun _ dealt => dealt⟩

/-- A turn that changes neither cursors nor the reading of the windows. -/
theorem Sweeping.put (sweeping : Sweeping s) {n : Nat} (h : Advances s t)
    (ticks : t.ticks = s.ticks.set n k') (now : t.now = s.now) (readTo : t.readTo = s.readTo)
    (stored : t.stored = s.stored)
    (instances : ∀ i ∈ t.instances, ∀ c, i.scanCursor = some c → Swept s (some c) c.windowSince)
    (sound : k'.Sound s) : Sweeping t := by
  apply sweeping.advance h
  · rw [readTo, now]
    exact sweeping.readTo
  · intro m member early
    exact Or.inl (readTo ▸ early)
  · exact fun _ _ _ => Or.inl stored
  · exact fun i member c own => Or.inr ((instances i member c own).advance h)
  · intro o member
    rw [ticks] at member
    rcases List.mem_or_eq_of_mem_set member with old | rfl
    · exact Or.inl old
    · exact Or.inr (sound.advance h)

end Bounds

section Turns

variable {limits : Limits} {s t : State} {n : Nat} {k : Tick} {a : Action}

theorem mem_modify {α : Type} {l : List α} {f : α → α} {m : Nat} {a : α} (h : a ∈ l.modify m f) :
    a ∈ l ∨ ∃ b ∈ l, a = f b := by
  obtain ⟨j, there⟩ := List.mem_iff_getElem?.mp h
  rw [List.getElem?_modify] at there
  obtain ⟨b, old, rfl⟩ := Option.map_eq_some_iff.mp there
  have member : b ∈ l := List.mem_of_getElem? old
  split
  · exact Or.inr ⟨b, member, rfl⟩
  · exact Or.inl member

variable {c : CircleSyncScanCursor} {i : Instance} {cursor : Option CircleSyncScanCursor}
variable {since : Int}

theorem queue_kept (sweeping : Sweeping s) {host : Nat} {queue : List CircleId}
    (member : i ∈ (s.withQueue host queue).instances)
    (own : i.scanCursor = some c) : Swept s (some c) c.windowSince := by
  rcases mem_modify member with old | ⟨i', there, rfl⟩
  · exact sweeping.instances i old c own
  · exact sweeping.instances i' there c own

variable {m : CircleMember} {current : Bool}

/-- The rows of a page, where the rows that are not below the bound. -/
theorem scan_page (cursor : Option CircleSyncScanCursor) (since : Int)
    (member : m ∈ s.members.rows) :
    Below cursor since m.scanRow ∨ m.scanRow ∈ ((s.members.rows.map CircleMember.scanRow).filter
      fun r => since < r.updatedAt && cursor.all (·.key < r.key)) := by
  by_cases below : Below cursor since m.scanRow
  · exact Or.inl below
  · right
    unfold Below at below
    rw [not_or, not_exists] at below
    rw [List.mem_filter]
    refine ⟨List.mem_map.mpr ⟨m, member, rfl⟩, ?_⟩
    rw [Bool.and_eq_true]
    constructor
    · simpa using below.1
    · cases cursor with
      | none => rfl
      | some c =>
        have apart : ¬m.scanRow.key ≤ c.key := fun low => below.2 c ⟨rfl, low⟩
        simpa using lt_of_not_ge apart

theorem scanRow_key {r q : CircleSyncScanRow} (h : r.key = q.key) : r = q := by
  obtain ⟨c, u⟩ := r
  obtain ⟨d, v⟩ := q
  simp only [CircleSyncScanRow.key, toLex_inj, Prod.mk.injEq] at h
  obtain ⟨rfl, rfl⟩ := h
  rfl

/-- A page reaches as far as the cursor behind it says. -/
theorem page_reaches (positive : 0 < limits.scanMax) (member : m ∈ s.members.rows)
    (reaches : ∀ c, State.nextCursor limits.scanMax since
      (s.scanRows limits.scanMax cursor since) = some c →
        Below (some c) c.windowSince m.scanRow) :
    Below cursor since m.scanRow ∨ m.scanRow ∈ s.scanRows limits.scanMax cursor since := by
  rcases scan_page cursor since member with below | selected
  · exact Or.inl below
  · have sorted := List.pairwise_insertionSort (fun a b : CircleSyncScanRow => a.key ≤ b.key)
      ((s.members.rows.map CircleMember.scanRow).filter
        fun r => since < r.updatedAt && cursor.all (·.key < r.key))
    have there := (List.mem_insertionSort fun a b : CircleSyncScanRow => a.key ≤ b.key).mpr selected
    unfold State.scanRows at reaches ⊢
    generalize (List.insertionSort (fun a b : CircleSyncScanRow => a.key ≤ b.key)
      ((s.members.rows.map CircleMember.scanRow).filter
        fun r => since < r.updatedAt && cursor.all (·.key < r.key))) = all at sorted there reaches ⊢
    by_cases full : limits.scanMax ≤ (all.take limits.scanMax).length
    · have nonempty : all.take limits.scanMax ≠ [] := by
        intro empty
        rw [empty, List.length_nil] at full
        omega
      have last := List.getLast?_eq_some_getLast nonempty
      have below := reaches ⟨since, _, _⟩ (by
        rw [State.nextCursor, if_pos full, last]
        rfl)
      rcases below with low | ⟨c, same, low⟩
      · exact Or.inl (Or.inl low)
      · cases same
        right
        exact mem_take_of_le sorted (fun a _ b _ => scanRow_key) (List.getLast_mem nonempty)
          there low
    · right
      rw [List.length_take] at full
      rw [List.take_of_length_le (by omega)]
      exact there

theorem nextCursor_some {max : Nat} {rows : List CircleSyncScanRow}
    (h : State.nextCursor max since rows = some c) :
    c.windowSince = since ∧ ∃ last ∈ rows, c.updatedAt = last.updatedAt := by
  unfold State.nextCursor at h
  split at h
  · obtain ⟨last, final, rfl⟩ := Option.map_eq_some_iff.mp h
    exact ⟨rfl, last, List.mem_of_getLast? final, rfl⟩
  · cases h

theorem scanRows_after {max : Nat}
    {r : CircleSyncScanRow} (h : r ∈ s.scanRows max cursor since) : since < r.updatedAt := by
  have selected := (List.mem_insertionSort _).mp (List.mem_of_mem_take h)
  obtain ⟨later, -⟩ := Bool.and_eq_true_iff.mp (List.mem_filter.mp selected).2
  simpa using later

/-- A scan under a bound below which everything is covered. -/
theorem query_sound (sound : k.Sound s) (phase : k.phase = .querying cursor since)
    (timely : ∀ c, State.nextCursor limits.scanMax since
      (s.scanRows limits.scanMax cursor since) = some c → c.updatedAt < s.now) :
    ({ k with
        phase := .starting, page := s.scanRows limits.scanMax cursor since, readAt := s.now
        nextCursor := State.nextCursor limits.scanMax since
          (s.scanRows limits.scanMax cursor since) } : Tick).Sound s := by
  have swept := sound.querying cursor since phase
  constructor
  · rintro ⟨⟩
  · rintro ⟨⟩
  · exact sound.since
  · rintro ⟨⟩
  · exact le_refl _
  · rintro ⟨⟩
  · rintro _ _ ⟨⟩
  · intro c next
    obtain ⟨window, last, member, same⟩ := nextCursor_some next
    rw [window, same]
    exact ⟨swept.past, le_of_lt (scanRows_after member), same ▸ timely c next⟩
  · intro _ _ m member reaches
    have next : ∀ c, State.nextCursor limits.scanMax since
        (s.scanRows limits.scanMax cursor since) = some c →
          Below (some c) c.windowSince m.scanRow := by
      intro c next
      unfold Tick.Reaches at reaches
      dsimp only at reaches
      rw [next] at reaches
      exact reaches
    rcases page_reaches limits.page member next with below | page
    · exact Or.inl (swept.rows m member below)
    · exact Or.inr page
  · exact fun _ _ => trivial

/-- A tick that has read no page, in another phase of that kind. -/
theorem Tick.Sound.enters (sound : k.Sound s) {phase : Phase} {token : Option Token}
    (before : k.phase.unread = true) (acquired : phase ≠ .acquiring)
    (early : phase.late = false)
    (unleased : token.isSome = true → phase.read = false)
    (opening : phase = .opening → Swept s none k.since)
    (querying : ∀ cursor scanSince, phase = .querying cursor scanSince →
      Swept s cursor scanSince) :
    ({ k with leaseToken := token, phase := phase } : Tick).Sound s where
  acquiring := fun same => absurd same acquired
  leased := by
    intro late
    rw [early] at late
    cases late
  since := sound.since
  unread := fun _ => sound.unread before
  readAt := sound.readAt
  opening := opening
  querying := querying
  next := sound.next
  reaches := by
    intro leased read
    rw [unleased leased] at read
    cases read
  dealing := by
    intro q member
    rw [sound.unread before] at member
    cases member

theorem candidate_swept (sweeping : Sweeping s) (member : i ∈ s.instances)
    (h : s.candidate i = some (.cursor c)) : Swept s (some c) c.windowSince := by
  unfold State.candidate at h
  cases shared : (s.stored.filter fun entry => s.now < entry.2).map Prod.fst with
  | some entry =>
    rw [shared, nullish_some, Option.some.injEq] at h
    subst h
    obtain ⟨⟨value, expiresAt⟩, kept, same⟩ := Option.map_eq_some_iff.mp shared
    cases same
    exact sweeping.stored c expiresAt (Option.filter_eq_some_iff.mp kept).1
  | none =>
    rw [shared, nullish_none] at h
    obtain ⟨c', own, same⟩ := Option.map_eq_some_iff.mp h
    cases same
    exact sweeping.instances i member c own

/-- A window that is opened starts where everything before is covered. -/
theorem opening_swept (sweeping : Sweeping s) (sound : k.Sound s)
    (there : s.instances[k.host]? = some i) (at' : s.ticks[n]? = some k)
    (timely : Timely limits s (.read n)) (h : (s.readScanCursor i k.since).1 = none) :
    Swept s none k.since := by
  constructor
  · exact sound.since
  · rintro c ⟨⟩
  intro m member below
  have low : m.updatedAt ≤ k.since := by
    rcases below with low | ⟨c, same, -⟩
    · exact low
    · cases same
  unfold Timely State.timely at timely
  simp only [at', there, Option.all_some] at timely
  unfold State.readScanCursor at h
  split at h
  · rename_i same
    rw [same] at timely
    have early : k.since < s.readTo := by simpa using timely
    exact sweeping.completed m member (by omega)
  · rename_i c same
    have swept := candidate_swept sweeping (List.mem_of_getElem? there) same
    split at h
    · rename_i invalid
      have order := (swept.early c rfl).1
      apply swept.rows m member
      left
      have later : m.updatedAt ≤ c.windowSince := by omega
      exact later
    · cases h
  · rename_i same
    rw [same] at timely
    have early : k.since < s.readTo := by simpa using timely
    exact sweeping.completed m member (by omega)

theorem readScanCursor_some
    (h : (s.readScanCursor i since).1 = some c) : s.candidate i = some (.cursor c) := by
  unfold State.readScanCursor at h
  split at h
  · cases h
  · rename_i c' same
    split at h
    · cases h
    · cases h
      exact same
  · cases h

/-- What reading leaves in the instance. -/
theorem readScanCursor_kept (h : (s.readScanCursor i since).2.scanCursor = some c) :
    i.scanCursor = some c ∨ s.candidate i = some (.cursor c) := by
  unfold State.readScanCursor at h
  split at h
  · cases h
  · rename_i c' same
    split at h
    · exact Or.inl h
    · cases h
      exact Or.inr same
  · exact Or.inl h

/-- A turn of a tick whose page and dealings stay. -/
theorem Sweeping.turn (sweeping : Sweeping s) (at' : s.ticks[n]? = some k) {k' : Tick}
    (ticks : t.ticks = s.ticks.set n k') (now : t.now = s.now) (members : t.members = s.members)
    (readTo : t.readTo = s.readTo) (stored : t.stored = s.stored)
    (instances : ∀ i ∈ t.instances, ∀ c, i.scanCursor = some c → Swept s (some c) c.windowSince)
    (page : k.page ≠ [] → k'.page = k.page)
    (grows : ∀ c, c ∈ k.reconciled ∨ c ∈ k.recorded → c ∈ k'.reconciled ∨ c ∈ k'.recorded)
    (sound : k'.Sound s) : Sweeping t :=
  sweeping.put (advances_put at' ticks now members page grows) ticks now readTo stored instances
    sound

theorem acquire_sweeping (sweeping : Sweeping s) (at' : s.ticks[n]? = some k) {token : Token}
    (h : s.turn limits n k (.acquire n token) = some t) : Sweeping t := by
  have sound := sweeping.ticks k (List.mem_of_getElem? at')
  simp only [State.turn] at h
  split at h
  · rename_i phase free
    have before : k.phase.unread = true := by rw [phase]; rfl
    split at h
    · cases h
    · cases h
      refine sweeping.turn at' rfl rfl rfl rfl rfl sweeping.instances (fun _ => rfl) (fun _ => id) ?_
      apply sound.enters before
      · rintro ⟨⟩
      · rfl
      · exact fun _ => rfl
      · rintro ⟨⟩
      · rintro _ _ ⟨⟩
  · rename_i holder phase held
    have before : k.phase.unread = true := by rw [phase]; rfl
    split at h
    · cases h
      exact sweeping.turn at' rfl rfl rfl rfl rfl sweeping.instances (fun _ => rfl) (fun _ => id)
        sound.stops
    · cases h
      refine sweeping.turn at' rfl rfl rfl rfl rfl sweeping.instances (fun _ => rfl) (fun _ => id) ?_
      apply sound.enters before
      · rintro ⟨⟩
      · rfl
      · intro leased
        rw [sound.acquiring phase] at leased
        cases leased
      · rintro ⟨⟩
      · rintro _ _ ⟨⟩
  · cases h

theorem read_sweeping (sweeping : Sweeping s) (at' : s.ticks[n]? = some k)
    (timely : Timely limits s (.read n)) (h : s.turn limits n k (.read n) = some t) :
    Sweeping t := by
  have sound := sweeping.ticks k (List.mem_of_getElem? at')
  simp only [State.turn] at h
  split at h
  · rename_i phase
    obtain ⟨i, there, h⟩ := Option.bind_eq_some_iff.mp h
    have member : i ∈ s.instances := List.mem_of_getElem? there
    have before : k.phase.unread = true := by rw [phase]; rfl
    generalize read : s.readScanCursor i k.since = result at h
    obtain ⟨cursor, i'⟩ := result
    dsimp only at h
    have instances : ∀ j ∈ s.instances.set k.host i', ∀ c, j.scanCursor = some c →
        Swept s (some c) c.windowSince := by
      intro j old c own
      rcases List.mem_or_eq_of_mem_set old with old | rfl
      · exact sweeping.instances j old c own
      · have kept : (s.readScanCursor i k.since).2.scanCursor = some c := by rw [read]; exact own
        rcases readScanCursor_kept kept with same | same
        · exact sweeping.instances i member c same
        · exact candidate_swept sweeping member same
    split at h
    · rename_i c
      cases h
      refine sweeping.turn at' rfl rfl rfl rfl rfl instances (fun _ => rfl) (fun _ => id) ?_
      apply sound.enters before
      · rintro ⟨⟩
      · rfl
      · exact fun _ => rfl
      · rintro ⟨⟩
      · rintro _ _ ⟨⟩
        exact candidate_swept sweeping member (readScanCursor_some (by rw [read]))
    · cases h
      refine sweeping.turn at' rfl rfl rfl rfl rfl instances (fun _ => rfl) (fun _ => id) ?_
      apply sound.enters before
      · rintro ⟨⟩
      · rfl
      · exact fun _ => rfl
      · exact fun _ => opening_swept sweeping sound there at' timely (by rw [read])
      · rintro _ _ ⟨⟩
  · cases h

theorem advances_refl (ticks : t.ticks = s.ticks) (now : t.now = s.now)
    (members : t.members = s.members) : Advances s t where
  now := le_of_eq now.symm
  members := fun _ member => Or.inl (members ▸ member)
  ticks := fun k member => ⟨k, ticks ▸ member, fun _ => rfl, fun _ => id⟩

/-- What `writeScanCursor` changes. -/
structure Written (s : State) (cursor : Option CircleSyncScanCursor) (t : State) : Prop where
  ticks : t.ticks = s.ticks
  now : t.now = s.now
  members : t.members = s.members
  readTo : t.readTo = s.readTo
  stored : ∀ c expiresAt, t.stored = some (.cursor c, expiresAt) →
    t.stored = s.stored ∨ cursor = some c
  instances : ∀ i ∈ t.instances, ∀ c, i.scanCursor = some c →
    (∃ i' ∈ s.instances, i'.scanCursor = some c) ∨ cursor = some c

theorem written (h : s.writeScanCursor limits k cursor = some t) : Written s cursor t := by
  have instances : ∀ i ∈ s.instances.modify k.host fun i => { i with scanCursor := cursor },
      ∀ c, i.scanCursor = some c →
        (∃ i' ∈ s.instances, i'.scanCursor = some c) ∨ cursor = some c := by
    intro i member c own
    rcases mem_modify member with old | ⟨i', there, rfl⟩
    · exact Or.inl ⟨i, old, own⟩
    · exact Or.inr own
  unfold State.writeScanCursor at h
  dsimp only at h
  split at h
  · cases h
    exact ⟨rfl, rfl, rfl, rfl, fun _ _ _ => Or.inl rfl, instances⟩
  · split at h
    · cases h
      refine ⟨rfl, rfl, rfl, rfl, ?_, instances⟩
      intro c expiresAt same
      cases cursor with
      | none => cases same
      | some c' =>
        cases same
        exact Or.inr rfl
    · cases h

theorem Written.sweeping (w : Written s cursor t) (sweeping : Sweeping s)
    (swept : ∀ c, cursor = some c → Swept s (some c) c.windowSince) : Sweeping t := by
  have h := advances_refl w.ticks w.now w.members
  apply sweeping.advance h
  · rw [w.readTo, w.now]
    exact sweeping.readTo
  · intro m member early
    exact Or.inl (w.readTo ▸ early)
  · intro c expiresAt same
    exact (w.stored c expiresAt same).imp id fun own => (swept c own).advance h
  · intro i member c own
    exact (w.instances i member c own).imp id fun own => (swept c own).advance h
  · exact fun k member => Or.inl (w.ticks ▸ member)

theorem open_sweeping (sweeping : Sweeping s) (at' : s.ticks[n]? = some k)
    (h : s.turn limits n k (.openWindow n) = some t) : Sweeping t := by
  have sound := sweeping.ticks k (List.mem_of_getElem? at')
  simp only [State.turn] at h
  split at h
  · rename_i phase
    have before : k.phase.unread = true := by rw [phase]; rfl
    have swept := sound.opening phase
    split at h
    · rename_i u written'
      cases h
      have w := written written'
      have began : Sweeping u := by
        apply w.sweeping sweeping
        rintro c ⟨⟩
        constructor
        · exact sound.since
        · rintro c ⟨⟩
          exact ⟨le_refl _, sound.since⟩
        · intro m member below
          apply swept.rows m member
          left
          rcases below with low | ⟨c, ⟨⟩, low⟩
          · exact low
          · exact key_le low
      have h := advances_refl w.ticks w.now w.members
      have there : u.ticks[n]? = some k := by
        rw [w.ticks]
        exact at'
      refine began.turn there rfl rfl rfl rfl rfl began.instances (fun _ => rfl)
        (fun _ => id) ?_
      apply (sound.advance h).enters before
      · rintro ⟨⟩
      · rfl
      · exact fun _ => rfl
      · rintro ⟨⟩
      · rintro _ _ ⟨⟩
        exact swept.advance h
    · cases h
      exact sweeping.turn at' rfl rfl rfl rfl rfl sweeping.instances (fun _ => rfl) (fun _ => id)
        sound.stops
  · cases h

theorem query_sweeping (sweeping : Sweeping s) (at' : s.ticks[n]? = some k)
    (timely : Timely limits s (.query n)) (h : s.turn limits n k (.query n) = some t) :
    Sweeping t := by
  have sound := sweeping.ticks k (List.mem_of_getElem? at')
  simp only [State.turn] at h
  split at h
  · rename_i cursor since phase
    have before : k.phase.unread = true := by rw [phase]; rfl
    cases h
    refine sweeping.turn at' rfl rfl rfl rfl rfl sweeping.instances ?_ (fun _ => id) ?_
    · exact fun read => absurd (sound.unread before) read
    · apply query_sound sound phase
      intro c next
      unfold Timely State.timely at timely
      simp only [at', Option.all_some, phase, next] at timely
      simpa using timely
  · cases h

theorem start_sweeping (sweeping : Sweeping s) (at' : s.ticks[n]? = some k)
    (h : s.turn limits n k (.start n current) = some t) : Sweeping t := by
  have sound := sweeping.ticks k (List.mem_of_getElem? at')
  simp only [State.turn] at h
  split at h
  · rename_i phase
    split at h
    · cases h
      exact sweeping.turn at' rfl rfl rfl rfl rfl sweeping.instances (fun _ => rfl) (fun _ => id)
        sound.stops
    · cases h
      refine sweeping.turn at' rfl rfl rfl rfl rfl (fun i member c own => queue_kept sweeping member own)
        (fun _ => rfl) (fun _ => id) ?_
      refine sound.moves rfl (fun _ => by rw [phase]; rfl) (fun late => by cases late) ?_
      intro q member
      left
      rw [List.mem_eraseDups]
      exact List.mem_append_left _ (List.mem_append_left _ (List.mem_map_of_mem member))
  · cases h

theorem reconcile_sweeping (sweeping : Sweeping s) (at' : s.ticks[n]? = some k) {ok : Bool}
    (h : s.turn limits n k (.reconcile n current ok) = some t) : Sweeping t := by
  have sound := sweeping.ticks k (List.mem_of_getElem? at')
  simp only [State.turn] at h
  split at h
  · rename_i attemptStartedAt attempted pending c todo phase
    have dealing : ∀ q ∈ k.page, q.circleID ∈ c :: todo ∨ q.circleID ∈ k.reconciled ∨
        q.circleID ∈ k.failed := by
      simpa [Tick.Dealing, phase] using sound.dealing
    have queues : ∀ queue, ∀ i ∈ (s.withQueue k.host queue).instances, ∀ c,
        i.scanCursor = some c → Swept s (some c) c.windowSince :=
      fun _ i member c own => queue_kept sweeping member own
    split at h
    · cases h
      refine sweeping.turn at' rfl rfl rfl rfl rfl (queues _) (fun _ => rfl) (fun _ => id) ?_
      exact sound.moves rfl (fun _ => by rw [phase]; rfl) (fun late => by cases late) fun _ _ => trivial
    · split at h
      · cases h
        refine sweeping.turn at' rfl rfl rfl rfl rfl sweeping.instances (fun _ => rfl) ?_ ?_
        · exact fun c dealt => dealt.imp (List.mem_cons_of_mem _) id
        · refine sound.moves rfl (fun _ => by rw [phase]; rfl) (fun late => by cases late) ?_
          intro q member
          rcases dealing q member with next | reconciled | failed
          · rcases List.mem_cons.mp next with own | later
            · exact Or.inr (Or.inl (own ▸ List.mem_cons_self))
            · exact Or.inl later
          · exact Or.inr (Or.inl (List.mem_cons_of_mem _ reconciled))
          · exact Or.inr (Or.inr failed)
      · cases h
        refine sweeping.turn at' rfl rfl rfl rfl rfl (queues _) (fun _ => rfl) (fun _ => id) ?_
        refine sound.moves rfl (fun _ => by rw [phase]; rfl) (fun late => by cases late) ?_
        intro q member
        rcases dealing q member with next | reconciled | failed
        · rcases List.mem_cons.mp next with own | later
          · exact Or.inr (Or.inr (own ▸ List.mem_cons_self))
          · exact Or.inl later
        · exact Or.inr (Or.inl reconciled)
        · exact Or.inr (Or.inr (List.mem_cons_of_mem _ failed))
  · rename_i attemptStartedAt attempted pending phase
    cases h
    refine sweeping.turn at' rfl rfl rfl rfl rfl sweeping.instances (fun _ => rfl) (fun _ => id) ?_
    refine sound.moves rfl (fun _ => by rw [phase]; rfl) (fun late => by cases late) ?_
    simpa [Tick.Dealing, phase] using sound.dealing
  · cases h

theorem finish_sweeping (sweeping : Sweeping s) (at' : s.ticks[n]? = some k)
    (h : s.turn limits n k (.finish n current) = some t) : Sweeping t := by
  have sound := sweeping.ticks k (List.mem_of_getElem? at')
  simp only [State.turn] at h
  split at h
  · rename_i attemptStartedAt attempted completed phase
    split at h
    · cases h
      exact sweeping.turn at' rfl rfl rfl rfl rfl sweeping.instances (fun _ => rfl) (fun _ => id)
        sound.stops
    · rename_i token
      cases h
      refine sweeping.turn at' rfl rfl rfl rfl rfl sweeping.instances (fun _ => rfl) (fun _ => id) ?_
      refine sound.moves rfl (fun _ => by rw [phase]; rfl) (fun _ => ?_) ?_
      · simpa [Option.isSome_iff_ne_none] using token
      intro q member
      have dealt := sound.dealing q member
      unfold Tick.Dealing at dealt ⊢
      rw [phase] at dealt
      cases completed with
      | false => trivial
      | true =>
        cases current with
        | false => trivial
        | true => exact dealt
  · cases h

theorem checkpoint_sweeping (sweeping : Sweeping s) (at' : s.ticks[n]? = some k)
    (h : s.turn limits n k (.checkpoint n) = some t) : Sweeping t := by
  have sound := sweeping.ticks k (List.mem_of_getElem? at')
  simp only [State.turn] at h
  split at h
  · rename_i attemptStartedAt attempted completed phase
    cases h
    refine sweeping.turn at' rfl rfl rfl rfl rfl sweeping.instances (fun _ => rfl) ?_ ?_
    · exact fun c dealt => dealt.imp id (List.mem_append_right _)
    · cases completed with
      | false =>
        exact sound.moves rfl (fun read => by cases read) (fun late => by cases late) fun _ _ => trivial
      | true =>
        refine sound.moves rfl (fun _ => by rw [phase]; rfl) (fun _ => ?_) ?_
        · exact sound.leased (by rw [phase]; rfl)
        intro q member
        have dealt := sound.dealing q member
        unfold Tick.Dealing at dealt
        rw [phase] at dealt
        exact dealt.imp id (List.mem_append_left _)
  · cases h

/-- A tick that comes to store its cursor has covered its page. -/
theorem storing_covers (sound : k.Sound s) (member : k ∈ s.ticks) (leased : k.leaseToken.isSome = true)
    (phase : k.phase = .storing) (row : m ∈ s.members.rows)
    (reaches : k.Reaches m.scanRow) : Covered s m.scanRow := by
  have read : k.phase.read = true := by rw [phase]; rfl
  rcases sound.reaches leased read m row reaches with covered | page
  · exact covered
  · refine ⟨k, member, page, fun q there => ?_⟩
    have dealt := sound.dealing q there
    unfold Tick.Dealing at dealt
    rwa [phase] at dealt

theorem store_sweeping (sweeping : Sweeping s) (at' : s.ticks[n]? = some k)
    (h : s.turn limits n k (.store n) = some t) : Sweeping t := by
  have here : k ∈ s.ticks := List.mem_of_getElem? at'
  have sound := sweeping.ticks k here
  simp only [State.turn] at h
  split at h
  · rename_i phase
    split at h
    · rename_i u written'
      cases h
      have leased : k.leaseToken.isSome = true := sound.leased (by rw [phase]; rfl)
      have w := written written'
      have began : Sweeping u := by
        apply w.sweeping sweeping
        intro c next
        obtain ⟨past, low, early⟩ := sound.next c next
        refine ⟨past, ?_, ?_⟩
        · rintro c' ⟨⟩
          exact ⟨low, early⟩
        · intro m member below
          apply storing_covers sound here leased phase member
          unfold Tick.Reaches
          rw [next]
          exact below
      have h := advances_refl w.ticks w.now w.members
      have there : u.ticks[n]? = some k := by
        rw [w.ticks]
        exact at'
      have sound := sound.advance h
      split
      · rename_i last
        have later : Advances u { u with readTo := max s.readTo k.readAt } :=
          advances_refl rfl rfl rfl
        have finished : Sweeping { u with readTo := max s.readTo k.readAt } := by
          apply began.advance later
          · exact max_le (w.readTo ▸ began.readTo) sound.readAt
          · intro m member early
            dsimp only at early
            by_cases before : m.updatedAt < s.readTo
            · exact Or.inl (w.readTo ▸ before)
            · right
              apply Covered.advance later
              apply storing_covers sound (w.ticks ▸ here) leased phase member
              unfold Tick.Reaches
              rw [Option.isNone_iff_eq_none.mp last]
              have read : m.updatedAt < k.readAt := by omega
              exact read
          · exact fun _ _ _ => Or.inl rfl
          · exact fun i member c own => Or.inl ⟨i, member, own⟩
          · exact fun k member => Or.inl member
        exact finished.turn there rfl rfl rfl rfl rfl finished.instances (fun _ => rfl) (fun _ => id)
          (sound.advance later).stops
      · rw [← w.readTo]
        exact began.turn there rfl rfl rfl rfl rfl began.instances (fun _ => rfl) (fun _ => id)
          sound.stops
    · cases h
      exact sweeping.turn at' rfl rfl rfl rfl rfl sweeping.instances (fun _ => rfl) (fun _ => id)
        sound.stops
  · cases h

theorem throws_sweeping (sweeping : Sweeping s) (at' : s.ticks[n]? = some k)
    (h : s.turn limits n k (.throws n) = some t) : Sweeping t := by
  cases h
  exact sweeping.turn at' rfl rfl rfl rfl rfl sweeping.instances (fun _ => rfl) (fun _ => id)
    (sweeping.ticks k (List.mem_of_getElem? at')).stops

/-! ## What a step keeps -/

/-- A step outside the ticks. -/
theorem Sweeping.outside (sweeping : Sweeping s) (h : Advances s t) (readTo : t.readTo = s.readTo)
    (stored : t.stored = s.stored)
    (instances : ∀ i ∈ t.instances, ∀ c, i.scanCursor = some c → Swept s (some c) c.windowSince)
    (ticks : ∀ k ∈ t.ticks, k ∈ s.ticks ∨ k.Sound s) : Sweeping t := by
  apply sweeping.advance h
  · rw [readTo]
    exact le_trans sweeping.readTo h.now
  · exact fun m member early => Or.inl (readTo ▸ early)
  · exact fun _ _ _ => Or.inl stored
  · exact fun i member c own => Or.inr ((instances i member c own).advance h)
  · exact fun k member => (ticks k member).imp id fun sound => sound.advance h

theorem begin_sound (limits : Limits) (s : State) (host : Nat) :
    (Tick.begin limits host s.now).Sound s := by
  have window := limits.window
  constructor
  · exact fun _ => rfl
  · rintro ⟨⟩
  · change s.now - limits.windowMs < s.now
    omega
  · exact fun _ => rfl
  · exact le_refl _
  · rintro ⟨⟩
  · rintro _ _ ⟨⟩
  · rintro _ ⟨⟩
  · rintro ⟨⟩
  · rintro _ ⟨⟩

theorem sweeping_step (sweeping : Sweeping s) (h : Step limits s a t) (timely : Timely limits s a) :
    Sweeping t := by
  unfold Step at h
  cases a with
  | tick host =>
    cases h
    refine sweeping.outside ?_ rfl rfl sweeping.instances ?_
    · exact ⟨le_refl _, fun _ member => Or.inl member,
        fun k member => ⟨k, List.mem_append_left _ member, fun _ => rfl, fun _ => id⟩⟩
    · intro k member
      rcases List.mem_append.mp member with old | new
      · exact Or.inl old
      · rw [List.mem_singleton] at new
        exact Or.inr (new ▸ begin_sound limits s host)
  | loseLease =>
    cases h
    exact sweeping.outside (advances_refl rfl rfl rfl) rfl rfl sweeping.instances fun _ => Or.inl
  | crash host =>
    cases h
    refine sweeping.outside ?_ rfl rfl ?_ ?_
    · refine ⟨le_refl _, fun _ member => Or.inl member, fun k member => ?_⟩
      refine ⟨_, List.mem_map_of_mem member, ?_, ?_⟩
      · split
        · exact fun _ => rfl
        · exact fun _ => rfl
      · split
        · exact fun _ => id
        · exact fun _ => id
    · intro i member c own
      rcases mem_modify member with old | ⟨i', -, rfl⟩
      · exact sweeping.instances i old c own
      · cases own
    · intro k member
      obtain ⟨o, there, rfl⟩ := List.mem_map.mp member
      split
      · exact Or.inr (sweeping.ticks o there).stops
      · exact Or.inl there
  | scheduleRetry host circleID =>
    cases h
    exact sweeping.outside (advances_refl rfl rfl rfl) rfl rfl
      (fun i member c own => queue_kept sweeping member own) fun _ => Or.inl
  | update userID circleID =>
    cases h
    refine sweeping.outside ?_ rfl rfl sweeping.instances fun _ => Or.inl
    refine ⟨le_refl _, fun m member => ?_, fun k member => ⟨k, member, fun _ => rfl, fun _ => id⟩⟩
    have found := Table.mem_find member
    rw [Table.find_set] at found
    split at found
    · cases found
      exact Or.inr rfl
    · exact Or.inl (Table.find_mem found)
  | delete userID circleID =>
    cases h
    refine sweeping.outside ?_ rfl rfl sweeping.instances fun _ => Or.inl
    exact ⟨le_refl _, fun m member => Or.inl (Table.mem_deleteMany.mp member).1,
      fun k member => ⟨k, member, fun _ => rfl, fun _ => id⟩⟩
  | pass ms =>
    cases h
    refine sweeping.outside ?_ rfl rfl sweeping.instances fun _ => Or.inl
    refine ⟨?_, fun _ member => Or.inl member, fun k member => ⟨k, member, fun _ => rfl, fun _ => id⟩⟩
    change s.now ≤ s.now + ms
    omega
  | acquire n token =>
    obtain ⟨k, at', h⟩ := Option.bind_eq_some_iff.mp h
    exact acquire_sweeping sweeping at' h
  | read n =>
    obtain ⟨k, at', h⟩ := Option.bind_eq_some_iff.mp h
    exact read_sweeping sweeping at' timely h
  | openWindow n =>
    obtain ⟨k, at', h⟩ := Option.bind_eq_some_iff.mp h
    exact open_sweeping sweeping at' h
  | query n =>
    obtain ⟨k, at', h⟩ := Option.bind_eq_some_iff.mp h
    exact query_sweeping sweeping at' timely h
  | start n current =>
    obtain ⟨k, at', h⟩ := Option.bind_eq_some_iff.mp h
    exact start_sweeping sweeping at' h
  | reconcile n current ok =>
    obtain ⟨k, at', h⟩ := Option.bind_eq_some_iff.mp h
    exact reconcile_sweeping sweeping at' h
  | finish n current =>
    obtain ⟨k, at', h⟩ := Option.bind_eq_some_iff.mp h
    exact finish_sweeping sweeping at' h
  | checkpoint n =>
    obtain ⟨k, at', h⟩ := Option.bind_eq_some_iff.mp h
    exact checkpoint_sweeping sweeping at' h
  | store n =>
    obtain ⟨k, at', h⟩ := Option.bind_eq_some_iff.mp h
    exact store_sweeping sweeping at' h
  | throws n =>
    obtain ⟨k, at', h⟩ := Option.bind_eq_some_iff.mp h
    exact throws_sweeping sweeping at' h

end Turns

/-- No row, no cursor and no tick yet. -/
structure Start (s : State) : Prop where
  members : s.members.rows = []
  stored : s.stored = none
  instances : ∀ i ∈ s.instances, i.scanCursor = none
  ticks : s.ticks = []
  readTo : s.readTo = s.now

theorem begin_sweeping {s : State} (start : Start s) : Sweeping s := by
  obtain ⟨members, stored, instances, ticks, readTo⟩ := start
  constructor
  · simp [members]
  · exact le_of_eq readTo
  · simp [members]
  · simp [stored]
  · intro i member c own
    rw [instances i member] at own
    cases own
  · simp [ticks]

/-- At every scan, what is at or before its lower bound is covered. -/
theorem scan_leaves_no_gap {limits : Limits} {s t : State} {as : List Action} (start : Start s)
    (run : Run (Run.Where (Step limits) (Timely limits)) s as t) {k : Tick} (tick : k ∈ t.ticks)
    {cursor : Option CircleSyncScanCursor} {since : Int} (phase : k.phase = .querying cursor since)
    {m : CircleMember} (member : m ∈ t.members.rows) (below : Below cursor since m.scanRow) :
    Covered t m.scanRow := by
  have sweeping : Sweeping t :=
    run.preserves (P := Sweeping) (fun _ _ _ step before => sweeping_step before step.1 step.2)
      (begin_sweeping start)
  exact ((sweeping.ticks k tick).querying cursor since phase).rows m member below

/-! ### A reconcile that outlives the window -/

def empty : State := ⟨0, none, none, .empty, .empty, [⟨none, []⟩], [], 0⟩

def play (s : State) (as : List Action) : State := (as.foldlM (State.next limits) s).getD s

/-- A tick up to its reconcile, with a row of circle 7 in its page. -/
def reconciling : List Action :=
  [.update 1 7, .pass 60000, .tick 0, .acquire 0 1, .read 0, .openWindow 0, .query 0, .start 0 true]

/-- The rest of the tick, and the next one up to its scan. -/
def nextScan : List Action :=
  [.reconcile 0 true true, .reconcile 0 true true, .finish 0 true, .checkpoint 0, .store 0,
    .loseLease, .tick 0, .acquire 1 2, .read 1, .openWindow 1]

/-- Circle 8 changes while circle 7 is reconciled, which takes a minute. -/
def inWindow : List Action :=
  reconciling ++ [.pass 1000, .update 2 8, .pass 60000] ++ nextScan

/-- It takes four. -/
def pastWindow : List Action :=
  reconciling ++ [.pass 1000, .update 2 8, .pass 240000] ++ nextScan

theorem scan_leaves_no_gap_inWindow : Covered (play empty inWindow) ⟨7, 0⟩ := by
  have start : Start empty := ⟨rfl, rfl, by decide, rfl, rfl⟩
  have run : Run (Run.Where (Step limits) (Timely limits)) empty inWindow (play empty inWindow) :=
    Run.where_of_foldlM rfl
  have tick : (play empty inWindow).ticks[1]? = some
      ⟨0, 1000, some 2, .querying none 1000, [], none, 121000, [], [], []⟩ := rfl
  exact scan_leaves_no_gap (m := ⟨1, 7, 0⟩) start run (List.mem_of_getElem? tick) rfl
    (by decide) (Or.inl (by decide))

theorem gap_after_long_reconcile :
    Run (Step limits) empty pastWindow (play empty pastWindow) ∧
      (play empty pastWindow).ticks[1]? = some
        ⟨0, 181000, some 2, .querying none 181000, [], none, 301000, [], [], []⟩ ∧
      ⟨2, 8, 61000⟩ ∈ (play empty pastWindow).members.rows ∧
      Below none 181000 ⟨8, 61000⟩ ∧ ¬Covered (play empty pastWindow) ⟨8, 61000⟩ := by
  have pages : ∀ k ∈ (play empty pastWindow).ticks, ⟨8, 61000⟩ ∉ k.page := by decide
  refine ⟨Run.of_foldlM rfl, rfl, by decide, Or.inl (by decide), ?_⟩
  rintro ⟨k, member, page, -⟩
  exact pages k member page

end CircleBackend.Circle.Scan
