import CircleBackend.Session.Invariant

/-!
# The outbox of scope revocations

The scope rows are their own outbox: an advance sets `notificationPending`, and
whoever has published the current generation clears it. The caller of the advance
and the sweeps of any number of processes deliver concurrently, each in several
statements; `outbox_published` says that no flag is ever cleared of a generation
nobody published, as long as every process has Redis configured.
-/

namespace CircleBackend.Session

open Library

def revocationPageSize : Nat := 100
def revocationBatchSize : Nat := 25

/-- What the row of a scope announces. -/
def SessionScopeGeneration.event (g : SessionScopeGeneration) : ScopeRevocation :=
  ⟨g.userId, g.scopeKey, g.exemptFamilyId, g.generation⟩

/-- One call of `notifyScopeRevocationBestEffort` or
`notifyPendingScopeRevocations` under way: the publishes of the current batch that
have not answered, the batches to come, and the events it may clear. -/
structure Delivery where
  outstanding : List ScopeRevocation
  rest : List ScopeRevocation
  delivered : List ScopeRevocation
  deriving DecidableEq, Repr

def Delivery.start (pending : List ScopeRevocation) : Delivery :=
  ⟨pending.take revocationBatchSize, pending.drop revocationBatchSize, []⟩

def Delivery.nextBatch (d : Delivery) : Delivery :=
  ⟨d.rest.take revocationBatchSize, d.rest.drop revocationBatchSize, d.delivered⟩

/-- `revokeScope`: its answer, given whether Redis is configured and whether the
publish succeeds. -/
def revokeScope (redisEnabled ok : Bool) : Bool := if !redisEnabled then true else ok

/-- The publishes that reach Redis. -/
def announced (redisEnabled ok : Bool) (event : ScopeRevocation) : List ScopeRevocation :=
  if redisEnabled && ok then [event] else []

/-- The events of a delivery once one publish of the batch has answered. -/
def Delivery.answer (d : Delivery) (others : List ScopeRevocation) (event : ScopeRevocation)
    (answer : Bool) : Delivery :=
  ⟨others, d.rest, if answer then d.delivered ++ [event] else d.delivered⟩

/-- The row still waits for the delivery of the event. -/
def SessionScopeGeneration.awaits (g : SessionScopeGeneration) (event : ScopeRevocation) : Bool :=
  g.userId = event.userId && g.scopeKey = event.scopeKey && g.generation = event.generation &&
    g.notificationPending

def SessionScopeGeneration.notified (g : SessionScopeGeneration) (now : Time) :
    SessionScopeGeneration :=
  { g with
    notificationPending := false
    updatedAt := now }

/-- The conditional `updateMany` that clears the flag of one delivered event. -/
def Db.clearNotification (db : Db) (now : Time) (event : ScopeRevocation) : Db :=
  { db with
    scopeGenerations := db.scopeGenerations.updateMany (fun g => g.awaits event)
      (fun g => g.notified now) (fun _ => rfl) }

/-- A page of pending rows, the oldest first. -/
def Db.pendingPage (db : Db) (page : List SessionScopeGeneration) : Prop :=
  ∃ pending : List SessionScopeGeneration,
    pending.Perm (db.scopeGenerations.select (·.notificationPending)) ∧
    pending.Pairwise (fun g h => g.updatedAt ≤ h.updatedAt) ∧
    page = pending.take revocationPageSize

structure Outbox where
  db : Db
  deliveries : List Delivery
  published : List ScopeRevocation

inductive Outbox.Act
  | advance (now : Time) (userId : UserId) (k : ScopeKey) (exemptFamilyId : Option FamilyId)
  | sweep (page : List SessionScopeGeneration)
  | publish (event : ScopeRevocation) (redisEnabled ok : Bool)
  | nextBatch
  | clear (now : Time) (event : ScopeRevocation)

/-- The statements of all processes, interleaved. An advance commits with the
delivery of its own event under way. The one statement that clears a page locks
and rechecks row by row, so every row is a step of its own. -/
inductive Outbox.Step : Outbox → Outbox.Act → Outbox → Prop
  | advance (o : Outbox) (now : Time) (u : UserId) (k : ScopeKey) (e : Option FamilyId) :
    Step o (.advance now u k e)
      { o with
        db := o.db.advanceScopeGeneration now u k e
        deliveries := o.deliveries ++
          [.start [(o.db.advanceScopeGeneration now u k e).scopeRevocation u k]] }
  | sweep (o : Outbox) (page : List SessionScopeGeneration) (read : o.db.pendingPage page) :
    Step o (.sweep page) { o with deliveries := o.deliveries ++ [.start (page.map (·.event))] }
  | publish (o : Outbox) (before after : List Delivery) (d : Delivery)
      (first last : List ScopeRevocation) (event : ScopeRevocation) (redisEnabled ok : Bool)
      (running : o.deliveries = before ++ d :: after)
      (outstanding : d.outstanding = first ++ event :: last) :
    Step o (.publish event redisEnabled ok)
      { o with
        deliveries := before ++ d.answer (first ++ last) event (revokeScope redisEnabled ok) :: after
        published := o.published ++ announced redisEnabled ok event }
  | nextBatch (o : Outbox) (before after : List Delivery) (d : Delivery)
      (running : o.deliveries = before ++ d :: after) (answered : d.outstanding = []) :
    Step o .nextBatch { o with deliveries := before ++ d.nextBatch :: after }
  | clear (o : Outbox) (now : Time) (d : Delivery) (event : ScopeRevocation)
      (running : d ∈ o.deliveries) (answered : d.outstanding = [] ∧ d.rest = [])
      (delivered : event ∈ d.delivered) :
    Step o (.clear now event) { o with db := o.db.clearNotification now event }

/-- Only processes with Redis configured publish. -/
def Outbox.Act.connected : Outbox.Act → Prop
  | .publish _ redisEnabled _ => redisEnabled = true
  | _ => True

/-- An event of a scope that has reached at least its generation, and announces
the scope's exemption if it still is current. -/
def Db.announces (db : Db) (event : ScopeRevocation) : Prop :=
  ∃ g, db.scopeGenerations.find (event.userId, event.scopeKey) = some g ∧
    event.generation ≤ g.generation ∧
    (event.generation = g.generation → event.exemptFamilyId = g.exemptFamilyId)

structure Outbox.Inv (o : Outbox) : Prop where
  known : ∀ d ∈ o.deliveries, ∀ event ∈ d.outstanding ++ d.rest ++ d.delivered, o.db.announces event
  delivered : ∀ d ∈ o.deliveries, ∀ event ∈ d.delivered, event ∈ o.published
  settled : ∀ g ∈ o.db.scopeGenerations.rows, g.notificationPending = false → g.event ∈ o.published

section
variable {db : Db} {event : ScopeRevocation}

theorem announces_row {g : SessionScopeGeneration} (hg : g ∈ db.scopeGenerations.rows) :
    db.announces g.event :=
  ⟨g, Table.find_eq_some.mpr ⟨hg, rfl⟩, Nat.le_refl _, fun _ => rfl⟩

theorem announces_advanced (now : Time) (u : UserId) (k : ScopeKey) (e : Option FamilyId) :
    (db.advanceScopeGeneration now u k e).announces
      ((db.advanceScopeGeneration now u k e).scopeRevocation u k) := by
  have found := db.find_advance now u k e (u, k)
  rw [if_pos rfl] at found
  refine ⟨_, found, ?_, fun _ => ?_⟩
  · simp only [Db.scopeRevocation, Db.generation, found, Option.elim_some, Nat.le_refl]
  · simp only [Db.scopeRevocation, Db.exemptFamily, found, Option.elim_some]

/-- An advance leaves every earlier event of the scope behind. -/
theorem announces_advance (now : Time) (u : UserId) (k : ScopeKey) (e : Option FamilyId)
    (known : db.announces event) : (db.advanceScopeGeneration now u k e).announces event := by
  obtain ⟨g, found, reached, current⟩ := known
  by_cases same : (u, k) = (event.userId, event.scopeKey)
  · have advanced := db.find_advance now u k e (event.userId, event.scopeKey)
    obtain ⟨rfl, rfl⟩ := Prod.mk.inj same
    have generation : db.generation event.userId event.scopeKey = g.generation := by
      simp only [Db.generation, found, Option.elim_some]
    rw [if_pos rfl, generation] at advanced
    refine ⟨_, advanced, ?_, fun equal => ?_⟩
    · simp only
      omega
    · simp only at equal
      omega
  · exact ⟨g, by rw [Db.find_advance, if_neg same]; exact found, reached, current⟩

theorem find_clear (db : Db) (now : Time) (cleared : ScopeRevocation) (key : UserId × ScopeKey) :
    (db.clearNotification now cleared).scopeGenerations.find key =
      (db.scopeGenerations.find key).map fun g => if g.awaits cleared = true then g.notified now else g :=
  Table.find_updateMany db.scopeGenerations _ (fun g => g.notified now) (fun _ => rfl) key

theorem announces_clear (now : Time) (cleared : ScopeRevocation) (known : db.announces event) :
    (db.clearNotification now cleared).announces event := by
  obtain ⟨g, found, reached, current⟩ := known
  refine ⟨if g.awaits cleared = true then g.notified now else g, by rw [find_clear, found]; rfl, ?_⟩
  split <;> exact ⟨reached, current⟩

/-- A cleared flag belongs to a scope whose current state is the event. -/
theorem settled_clear {now : Time} {g : SessionScopeGeneration} (known : db.announces event)
    (hg : g ∈ (db.clearNotification now event).scopeGenerations.rows)
    (settled : g.notificationPending = false) :
    g.event = event ∨
      ∃ h ∈ db.scopeGenerations.rows, h.notificationPending = false ∧ g.event = h.event := by
  obtain ⟨h, hh, rfl⟩ := (Table.mem_updateMany db.scopeGenerations _ (fun g => g.notified now)
    (fun _ => rfl)).mp hg
  split
  · rename_i chosen
    simp only [SessionScopeGeneration.awaits, Bool.and_eq_true, decide_eq_true_eq] at chosen
    obtain ⟨⟨⟨user, scope⟩, generation⟩, -⟩ := chosen
    obtain ⟨current, found, -, exempt⟩ := known
    have same : current = h := by
      refine db.scopeGenerations.row_unique (Table.find_mem found) hh ?_
      rw [(Table.find_eq_some.mp found).2, user, scope]
    subst same
    left
    simp only [SessionScopeGeneration.event, SessionScopeGeneration.notified, user, scope,
      generation, ← exempt generation.symm]
  · rename_i kept
    rw [if_neg kept] at settled
    exact Or.inr ⟨h, hh, settled, rfl⟩

end

section
variable {o o' : Outbox} {act : Outbox.Act}

theorem start_events {pending : List ScopeRevocation} {event : ScopeRevocation}
    (h : event ∈ (Delivery.start pending).outstanding ++ (Delivery.start pending).rest ++
      (Delivery.start pending).delivered) : event ∈ pending := by
  simpa [Delivery.start] using h

/-- Deliveries may be swapped for ones that carry no new event. -/
theorem Outbox.Inv.start (hi : o.Inv) {pending : List ScopeRevocation}
    (known : ∀ event ∈ pending, o.db.announces event) :
    Outbox.Inv { o with deliveries := o.deliveries ++ [.start pending] } := by
  refine ⟨?_, ?_, hi.settled⟩
  · intro d hd event he
    obtain old | new := List.mem_append.mp hd
    · exact hi.known d old event he
    · rw [List.mem_singleton.mp new] at he
      exact known event (start_events he)
  · intro d hd event he
    obtain old | new := List.mem_append.mp hd
    · exact hi.delivered d old event he
    · rw [List.mem_singleton.mp new] at he
      cases he

theorem mem_replaced {α : Type} {before after : List α} {x y z : α}
    (h : z ∈ before ++ y :: after) : z ∈ before ++ x :: after ∨ z = y := by
  simp only [List.mem_append, List.mem_cons] at h ⊢
  obtain h | h | h := h
  · exact Or.inl (Or.inl h)
  · exact Or.inr h
  · exact Or.inl (Or.inr (Or.inr h))

/-- A delivery in progress may be replaced by one whose events it carried, if what
that one may clear has been published. -/
theorem Outbox.Inv.replace (hi : o.Inv) {before after : List Delivery} {d d' : Delivery}
    {published : List ScopeRevocation} (running : o.deliveries = before ++ d :: after)
    (more : ∀ event ∈ o.published, event ∈ published)
    (carried : ∀ event ∈ d'.outstanding ++ d'.rest ++ d'.delivered,
      event ∈ d.outstanding ++ d.rest ++ d.delivered)
    (delivered : ∀ event ∈ d'.delivered, event ∈ published) :
    Outbox.Inv { o with
      deliveries := before ++ d' :: after
      published := published } := by
  have member : d ∈ o.deliveries := by simp [running]
  have old : ∀ x ∈ before ++ d' :: after, x ∈ o.deliveries ∨ x = d' := by
    intro x hx
    rw [running]
    exact mem_replaced hx
  refine ⟨?_, ?_, fun g hg settled => more _ (hi.settled g hg settled)⟩
  · intro x hx event he
    obtain h | rfl := old x hx
    · exact hi.known x h event he
    · exact hi.known d member event (carried event he)
  · intro x hx event he
    obtain h | rfl := old x hx
    · exact more event (hi.delivered x h event he)
    · exact delivered event he

theorem Outbox.Inv.advance (hi : o.Inv) (now : Time) (u : UserId) (k : ScopeKey)
    (e : Option FamilyId) :
    Outbox.Inv { o with db := o.db.advanceScopeGeneration now u k e } := by
  refine ⟨?_, hi.delivered, ?_⟩
  · intro d hd event he
    exact announces_advance now u k e (hi.known d hd event he)
  · intro g hg settled
    have found := Table.mem_find hg
    rw [Db.find_advance] at found
    split at found
    · cases found
      cases settled
    · exact hi.settled g (Table.find_mem found) settled

theorem Outbox.Inv.step (hi : o.Inv) (h : o.Step act o') (connected : act.connected) : o'.Inv := by
  cases h with
  | advance now u k e =>
    refine (hi.advance now u k e).start ?_
    intro event he
    rw [List.mem_singleton.mp he]
    exact announces_advanced now u k e
  | sweep page read =>
    refine hi.start ?_
    intro event he
    obtain ⟨g, hg, rfl⟩ := List.mem_map.mp he
    obtain ⟨pending, perm, -, rfl⟩ := read
    have selected := perm.mem_iff.mp (List.mem_of_mem_take hg)
    exact announces_row (List.mem_of_mem_filter selected)
  | publish before after d first last event redisEnabled ok running outstanding =>
    have enabled : redisEnabled = true := connected
    subst enabled
    have member : d ∈ o.deliveries := by simp [running]
    refine hi.replace running (fun e he => List.mem_append_left _ he) ?_ ?_
    · intro e he
      simp only [outstanding, List.mem_append, List.mem_cons]
      cases ok <;>
        simp only [Delivery.answer, revokeScope, Bool.not_true, Bool.false_eq_true, ↓reduceIte,
          List.mem_append, List.mem_singleton] at he <;>
        tauto
    · intro e he
      cases ok with
      | false => exact List.mem_append_left _ (hi.delivered d member e he)
      | true =>
        obtain he | he := List.mem_append.mp he
        · exact List.mem_append_left _ (hi.delivered d member e he)
        · exact List.mem_append_right _ he
  | nextBatch before after d running answered =>
    have member : d ∈ o.deliveries := by simp [running]
    refine hi.replace running (fun e he => he) ?_ (fun e he => hi.delivered d member e he)
    intro e he
    simp only [Delivery.nextBatch, List.take_append_drop, List.mem_append] at he
    simp only [List.mem_append]
    tauto
  | clear now d event running answered delivered =>
    refine ⟨?_, hi.delivered, ?_⟩
    · intro d' hd' e he
      exact announces_clear now event (hi.known d' hd' e he)
    · intro g hg settled
      have known := hi.known d running event (List.mem_append_right _ delivered)
      obtain same | ⟨g', hg', settled', same⟩ := settled_clear known hg settled
      · rw [same]
        exact hi.delivered d running event delivered
      · rw [same]
        exact hi.settled g' hg' settled'

end

/-- Nothing was ever advanced. -/
def Outbox.start (db : Db) : Outbox := ⟨db, [], []⟩

/-- A scope whose flag is clear has had its current generation and exemption
published, by processes that all have Redis configured. -/
theorem outbox_published {db : Db} (empty : db.scopeGenerations.rows = []) {o : Outbox}
    {acts : List Outbox.Act}
    (run : Run (Run.Where Outbox.Step fun _ act => act.connected) (.start db) acts o) :
    ∀ g ∈ o.db.scopeGenerations.rows, g.notificationPending = false → g.event ∈ o.published := by
  have start : (Outbox.start db).Inv := by
    refine ⟨?_, ?_, ?_⟩
    · intro d hd
      cases hd
    · intro d hd
      cases hd
    · intro g hg
      rw [Outbox.start, empty] at hg
      cases hg
  have inv : o.Inv := by
    refine run.preserves (P := Outbox.Inv) ?_ start
    intro s act t step hi
    exact hi.step step.1 step.2
  exact inv.settled

/-- One logout of the other sessions, announced and cleared. -/
def announcedOnce (redisEnabled : Bool) : Outbox :=
  let event : ScopeRevocation := ⟨1, .account, none, 1⟩
  ⟨((Db.ofUsers oneUser).advanceScopeGeneration 1 1 .account none).clearNotification 2 event,
    [⟨[], [], [event]⟩], announced redisEnabled true event⟩

theorem run_announcedOnce (redisEnabled : Bool) :
    Run Outbox.Step (.start (.ofUsers oneUser))
      [.advance 1 1 .account none, .publish ⟨1, .account, none, 1⟩ redisEnabled true,
        .clear 2 ⟨1, .account, none, 1⟩] (announcedOnce redisEnabled) := by
  refine .cons (.advance _ 1 1 .account none) (.cons (.publish _ [] [] _ [] []
    ⟨1, .account, none, 1⟩ redisEnabled true rfl rfl) (.single ?_))
  have last := Outbox.Step.clear ⟨(Db.ofUsers oneUser).advanceScopeGeneration 1 1 .account none,
    [⟨[], [], [⟨1, .account, none, 1⟩]⟩], announced redisEnabled true ⟨1, .account, none, 1⟩⟩ 2
    ⟨[], [], [⟨1, .account, none, 1⟩]⟩ ⟨1, .account, none, 1⟩ (by simp) ⟨rfl, rfl⟩ (by simp)
  cases redisEnabled <;> exact last

theorem outbox_published_once :
    (⟨1, .account, none, 1⟩ : ScopeRevocation) ∈ (announcedOnce true).published := by
  have run := (run_announcedOnce true).restrict (p := Outbox.Act.connected)
    (by simp [Outbox.Act.connected])
  exact outbox_published rfl run ⟨1, .account, 1, none, false, 2⟩ (by decide) rfl

/-- Without Redis the publish is skipped and answered as delivered: the flag is
cleared although nothing was published. -/
theorem outbox_without_redis :
    ¬ ∀ (db : Db) (o : Outbox) acts, db.scopeGenerations.rows = [] →
      Run Outbox.Step (.start db) acts o → ∀ g ∈ o.db.scopeGenerations.rows,
        g.notificationPending = false → 1 ≤ g.generation → g.event ∈ o.published := by
  intro published
  have nothing := published _ _ _ rfl (run_announcedOnce false) ⟨1, .account, 1, none, false, 2⟩
    (by decide) rfl (by decide)
  revert nothing
  decide

end CircleBackend.Session
