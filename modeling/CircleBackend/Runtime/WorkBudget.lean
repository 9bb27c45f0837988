import CircleBackend.Js
import CircleBackend.Library.Transition

/-!
# The database work budget

`DatabaseWorkBudget`, one for each client. Code runs to completion: a step is what runs
between two awaits, and the calls that have been let in resume in the order of their
promises.
-/

namespace CircleBackend.Runtime

open Library

abbrev CallId := Nat
abbrev ClientId := Nat

def maxWaiting : Nat := 100

/-- How many operations a pool has permits for. -/
def workLimit (poolMax : Nat) : Nat := max 1 (poolMax / 3)

/-- `client.getPoolStats?.()?.max ?? 10` -/
def poolMax (stats : Option Nat) : Nat := stats.getD 10

structure WorkBudget where
  active : Int
  /-- The `enter` of a call, by its call. -/
  waiting : List CallId
  /-- The timers that are set. -/
  timers : List CallId
  /-- Calls that have been entered and have not resumed. -/
  entered : List CallId
  /-- Operations that have begun and whose `finally` has not run. -/
  running : List CallId
  /-- What has happened: the calls made, the calls that queued, those of them that were
  entered and those whose wait timed out, each in order. -/
  called : List CallId
  queued : List CallId
  admitted : List CallId
  timedOut : List CallId
  deriving DecidableEq, Repr

inductive WorkAct
  | run (c : CallId)
  | timeout (c : CallId)
  | resume
  /-- The operation has succeeded or failed. -/
  | settle (c : CallId)
  deriving DecidableEq, Repr

namespace WorkBudget

def new : WorkBudget := ⟨0, [], [], [], [], [], [], [], []⟩

/-- The part of `run` up to its first await; what throws changes nothing. -/
def run (b : WorkBudget) (max : Nat) (c : CallId) : WorkBudget :=
  if max < 2 then b
  else if b.active < workLimit max then
    { b with active := b.active + 1, running := b.running ++ [c] }
  else if maxWaiting ≤ b.waiting.length then b
  else
    { b with
      waiting := b.waiting ++ [c]
      timers := b.timers ++ [c]
      queued := b.queued ++ [c] }

def timeout (b : WorkBudget) (c : CallId) : WorkBudget :=
  if c ∈ b.waiting then
    { b with
      waiting := b.waiting.erase c
      timers := b.timers.erase c
      timedOut := b.timedOut ++ [c] }
  else { b with timers := b.timers.erase c }

/-- The `finally` of `run`. -/
def release (b : WorkBudget) : WorkBudget :=
  match b.waiting with
  | next :: rest =>
    { b with
      waiting := rest
      timers := b.timers.erase next
      entered := b.entered ++ [next]
      admitted := b.admitted ++ [next] }
  | [] => { b with active := b.active - 1 }

def next (max : Nat) (b : WorkBudget) : WorkAct → Option WorkBudget
  | .run c => if c ∈ b.called then none else some ({ b with called := b.called ++ [c] }.run max c)
  | .timeout c => if c ∈ b.timers then some (b.timeout c) else none
  | .resume =>
    match b.entered with
    | c :: rest => some { b with entered := rest, running := b.running ++ [c] }
    | [] => none
  | .settle c =>
    if c ∈ b.running then some { b with running := b.running.erase c }.release else none

end WorkBudget

/-- `budgets` -/
abbrev WorkBudgets := ClientId → WorkBudget

/-- `withDatabaseWorkBudget` of a client and what follows from it. -/
def withDatabaseWorkBudget (stats : ClientId → Option Nat) (s : WorkBudgets)
    (act : ClientId × WorkAct) : Option WorkBudgets :=
  ((s act.1).next (poolMax (stats act.1)) act.2).map (Function.update s act.1)

def BudgetStep (stats : ClientId → Option Nat) (s : WorkBudgets) (act : ClientId × WorkAct)
    (t : WorkBudgets) : Prop :=
  withDatabaseWorkBudget stats s act = some t

/-! ## The permits -/

namespace WorkBudget

variable {max : Nat} {b b' : WorkBudget} {c : CallId}

/-- A permit is held by an operation that runs or on its way to one. -/
structure Sound (max : Nat) (b : WorkBudget) : Prop where
  permits : (b.running.length : Int) + b.entered.length = b.active
  bound : b.active ≤ workLimit max
  full : b.waiting ≠ [] → b.active = workLimit max
  short : b.waiting.length ≤ maxWaiting
  fifo : b.queued.filter (· ∉ b.timedOut) = b.admitted ++ b.waiting
  distinct : b.queued.Nodup
  dropped : ∀ c ∈ b.timedOut, c ∈ b.queued
  called : ∀ c, c ∈ b.queued ∨ c ∈ b.running → c ∈ b.called
  own : ∀ c ∈ b.running, c ∈ b.queued → c ∈ b.admitted
  entered : b.entered <:+ b.admitted

theorem Sound.new : Sound max new := by
  constructor <;> simp [WorkBudget.new, workLimit, maxWaiting]

/-- Who has been let in or waits has queued and has not timed out. -/
theorem Sound.in_order (sound : Sound max b) :
    c ∈ b.admitted ∨ c ∈ b.waiting ↔ c ∈ b.queued ∧ c ∉ b.timedOut := by
  have listed : c ∈ b.queued.filter (· ∉ b.timedOut) ↔ c ∈ b.admitted ++ b.waiting := by
    rw [sound.fifo]
  simpa using listed.symm

theorem Sound.nodup (sound : Sound max b) : (b.admitted ++ b.waiting).Nodup :=
  sound.fifo ▸ sound.distinct.filter _

theorem Sound.late (sound : Sound max b) (gone : c ∈ b.timedOut) :
    c ∉ b.running ∧ c ∉ b.entered ∧ c ∉ b.admitted := by
  have out : c ∉ b.admitted := fun admitted => (sound.in_order.mp (.inl admitted)).2 gone
  refine ⟨?_, ?_, out⟩
  · intro running
    exact out (sound.own c running (sound.dropped c gone))
  · intro entered
    exact out (sound.entered.subset entered)

theorem Sound.run (sound : Sound max b) (fresh : c ∉ b.called) :
    Sound max ({ b with called := b.called ++ [c] }.run max c) := by
  have called : ∀ d, d ∈ b.queued ∨ d ∈ b.running → d ∈ b.called ++ [c] :=
    fun d h => List.mem_append_left _ (sound.called d h)
  have unqueued : c ∉ b.queued := fun queued => fresh (sound.called c (.inl queued))
  have idle : c ∉ b.running := fun running => fresh (sound.called c (.inr running))
  have kept : Sound max { b with called := b.called ++ [c] } := { sound with called := called }
  unfold WorkBudget.run
  dsimp only
  split
  · exact kept
  split
  case isTrue free =>
    refine { sound with permits := ?permits, bound := ?bound, full := ?full, called := ?called,
                        own := ?own }
    case permits =>
      have permits := sound.permits
      simp only [List.length_append, List.length_singleton, Nat.cast_add, Nat.cast_one]
      omega
    case bound =>
      dsimp only
      omega
    case full =>
      intro waits
      have full := sound.full waits
      omega
    case called =>
      intro d h
      rcases h with queued | running
      · exact called d (.inl queued)
      · rcases List.mem_append.mp running with running | own
        · exact called d (.inr running)
        · exact List.mem_append_right _ own
    case own =>
      intro d running queued
      rcases List.mem_append.mp running with running | own
      · exact sound.own d running queued
      · exact absurd (List.mem_singleton.mp own ▸ queued) unqueued
  case isFalse full =>
    split
    · exact kept
    · rename_i room
      refine { sound with full := ?full, short := ?short, fifo := ?fifo, distinct := ?distinct,
                          dropped := ?dropped, called := ?called, own := ?own }
      case full =>
        intro _
        have bound := sound.bound
        dsimp only
        omega
      case short =>
        simp only [List.length_append, List.length_singleton]
        omega
      case fifo =>
        have punctual : c ∉ b.timedOut := fun gone => unqueued (sound.dropped c gone)
        rw [List.filter_append, sound.fifo, List.append_assoc]
        simp [punctual]
      case distinct =>
        exact List.nodup_append.mpr ⟨sound.distinct, List.nodup_singleton c, by
          intro d queued e own same
          exact unqueued (List.mem_singleton.mp own ▸ same ▸ queued)⟩
      case dropped =>
        intro d gone
        exact List.mem_append_left _ (sound.dropped d gone)
      case called =>
        intro d h
        rcases h with queued | running
        · rcases List.mem_append.mp queued with queued | own
          · exact called d (.inl queued)
          · exact List.mem_append_right _ own
        · exact called d (.inr running)
      case own =>
        intro d running queued
        rcases List.mem_append.mp queued with queued | own
        · exact sound.own d running queued
        · exact absurd (List.mem_singleton.mp own ▸ running) idle

theorem Sound.timeout (sound : Sound max b) : Sound max (b.timeout c) := by
  unfold WorkBudget.timeout
  split
  case isFalse => exact { sound with }
  case isTrue waits =>
    have queued := (sound.in_order.mp (.inr waits)).1
    have apart : c ∉ b.admitted := by
      intro admitted
      exact (List.nodup_append.mp sound.nodup).2.2 c admitted c waits rfl
    refine { sound with full := ?full, short := ?short, fifo := ?fifo, dropped := ?dropped }
    case full =>
      intro more
      apply sound.full
      intro none'
      rw [none'] at waits
      cases waits
    case short => exact (List.length_erase_le).trans sound.short
    case fifo =>
      have whole : b.queued.filter (· ∉ b.timedOut ++ [c]) =
          (b.queued.filter (· ∉ b.timedOut)).filter (· ≠ c) := by
        rw [List.filter_filter]
        apply List.filter_congr
        intro d _
        simp [and_comm]
      have waiting := (List.nodup_append.mp sound.nodup).2.1
      rw [whole, sound.fifo, List.filter_append, waiting.erase_eq_filter]
      congr 1
      · rw [List.filter_eq_self]
        intro d admitted
        simp only [decide_eq_true_eq]
        rintro rfl
        exact apart admitted
      · apply List.filter_congr
        intro d _
        by_cases own : d = c <;> simp [own]
    case dropped =>
      intro d gone
      rcases List.mem_append.mp gone with gone | own
      · exact sound.dropped d gone
      · exact List.mem_singleton.mp own ▸ queued

theorem Sound.release (sound : Sound max b) (runs : c ∈ b.running) :
    Sound max ({ b with running := b.running.erase c }.release) := by
  have permits := sound.permits
  have less : (b.running.erase c).length + 1 = b.running.length :=
    List.length_erase_add_one runs
  have called : ∀ d, d ∈ b.queued ∨ d ∈ b.running.erase c → d ∈ b.called := by
    intro d h
    exact sound.called d (h.imp_right List.mem_of_mem_erase)
  have own : ∀ d ∈ b.running.erase c, d ∈ b.queued → d ∈ b.admitted :=
    fun d running => sound.own d (List.mem_of_mem_erase running)
  unfold WorkBudget.release
  split
  case h_1 next rest waits =>
    have waits : b.waiting = next :: rest := waits
    have full := sound.full (by rw [waits]; exact List.cons_ne_nil next rest)
    refine { sound with permits := ?permits, full := ?full, short := ?short, fifo := ?fifo,
                        called := called, own := ?own, entered := ?entered }
    case permits =>
      simp only [List.length_append, List.length_singleton, Nat.cast_add, Nat.cast_one]
      omega
    case full => exact fun _ => full
    case short =>
      have short := sound.short
      rw [waits, List.length_cons] at short
      exact Nat.le_of_succ_le short
    case fifo =>
      rw [sound.fifo, waits, List.append_assoc]
      rfl
    case own => exact fun d running queued => List.mem_append_left _ (own d running queued)
    case entered =>
      obtain ⟨before, whole⟩ := sound.entered
      exact ⟨before, by rw [← List.append_assoc, whole]⟩
  case h_2 none' =>
    have none' : b.waiting = [] := none'
    refine { sound with permits := ?permits, bound := ?bound, full := ?full, called := called,
                        own := own }
    case permits =>
      dsimp only
      omega
    case bound =>
      have bound := sound.bound
      dsimp only
      omega
    case full => exact fun more => absurd none' more

theorem Sound.next {act : WorkAct} (sound : Sound max b) (h : b.next max act = some b') :
    Sound max b' := by
  cases act with
  | run c =>
    dsimp only [WorkBudget.next] at h
    split at h
    · cases h
    · rename_i fresh
      cases h
      exact sound.run fresh
  | timeout c =>
    dsimp only [WorkBudget.next] at h
    split at h
    · cases h
      exact sound.timeout
    · cases h
  | resume =>
    dsimp only [WorkBudget.next] at h
    split at h
    · rename_i c rest first
      cases h
      have admitted : c ∈ b.admitted :=
        sound.entered.subset (first ▸ List.mem_cons_self)
      have permits := sound.permits
      rw [first, List.length_cons] at permits
      refine { sound with permits := ?permits, called := ?called, own := ?own, entered := ?entered }
      case permits =>
        simp only [List.length_append, List.length_singleton]
        omega
      case called =>
        intro d h
        rcases h with queued | running
        · exact sound.called d (.inl queued)
        · rcases List.mem_append.mp running with running | own
          · exact sound.called d (.inr running)
          · rw [List.mem_singleton.mp own]
            exact sound.called c (.inl (sound.in_order.mp (.inl admitted)).1)
      case own =>
        intro d running queued
        rcases List.mem_append.mp running with running | own
        · exact sound.own d running queued
        · exact List.mem_singleton.mp own ▸ admitted
      case entered =>
        have rests : rest <:+ b.entered := first ▸ List.suffix_cons c rest
        exact rests.trans sound.entered
    · cases h
  | settle c =>
    dsimp only [WorkBudget.next] at h
    split at h
    · rename_i runs
      cases h
      exact sound.release runs
    · cases h

end WorkBudget

variable {stats : ClientId → Option Nat} {s : WorkBudgets}

/-- The budgets of all clients. -/
theorem budgets_sound (h : Reachable (fun s => s = fun _ => .new) (BudgetStep stats) s)
    (k : ClientId) : (s k).Sound (poolMax (stats k)) := by
  have all : ∀ k, (s k).Sound (poolMax (stats k)) := by
    apply h.invariant
    · rintro _ rfl k
      exact .new
    · rintro s ⟨i, act⟩ t step sound k
      obtain ⟨b, next, rfl⟩ := Option.map_eq_some_iff.mp step
      by_cases own : k = i
      · subst own
        rw [Function.update_self]
        exact (sound k).next next
      · rw [Function.update_of_ne own]
        exact sound k
  exact all k

/-- No permit is lost and none is given twice; the queue is short, in order and only where
the permits are all in use. -/
theorem budget_exact (h : Reachable (fun s => s = fun _ => .new) (BudgetStep stats) s)
    (k : ClientId) :
    (s k).running.length ≤ max 1 (poolMax (stats k) / 3) ∧
      ((s k).running.length : Int) = (s k).active - (s k).entered.length ∧
      0 ≤ (s k).active ∧
      ((s k).running = [] → (s k).entered = [] → (s k).active = 0) ∧
      (s k).queued.filter (· ∉ (s k).timedOut) = (s k).admitted ++ (s k).waiting ∧
      (s k).entered <:+ (s k).admitted ∧
      (s k).waiting.length ≤ 100 ∧
      (∀ c ∈ (s k).timedOut, c ∉ (s k).running ∧ c ∉ (s k).entered ∧ c ∉ (s k).admitted) ∧
      ((s k).waiting ≠ [] → (s k).active = max 1 (poolMax (stats k) / 3)) := by
  have sound := budgets_sound h k
  have permits := sound.permits
  have bound := sound.bound
  unfold workLimit at bound
  refine ⟨by omega, by omega, by omega, ?_, sound.fifo, sound.entered, sound.short, ?_, ?_⟩
  · intro idle none'
    rw [idle, none'] at permits
    exact permits.symm
  · exact fun c gone => sound.late gone
  · exact fun waits => sound.full waits

/-- Five calls of one client: the fourth times out, the fifth takes over from the first. -/
def busyHour : List (ClientId × WorkAct) :=
  [(0, .run 1), (0, .run 2), (0, .run 3), (0, .run 4), (0, .run 5), (0, .timeout 4),
    (0, .settle 1), (0, .resume)]

theorem budget_exact_busy : ∃ s : WorkBudgets, (s 0).running = [2, 3, 5] ∧
    ((s 0).running.length : Int) = (s 0).active - (s 0).entered.length ∧
    ∀ c ∈ (s 0).timedOut, c ∉ (s 0).running := by
  have run : Run (BudgetStep fun _ => none) (fun _ => .new) busyHour _ :=
    Run.of_foldlM (show busyHour.foldlM (withDatabaseWorkBudget fun _ => none) _ = some _ from rfl)
  have exact' := budget_exact ⟨_, _, rfl, run⟩ 0
  exact ⟨_, rfl, exact'.2.1, fun c gone => (exact'.2.2.2.2.2.2.2.1 c gone).1⟩

end CircleBackend.Runtime
