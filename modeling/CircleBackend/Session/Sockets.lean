import CircleBackend.Session.Invariant

/-!
# Revocation of live sockets

An instance that receives a scope broadcast closes the local sockets of the scope
whose family is not exempt, provided the broadcast still is the current state of
the scope. The identity of a socket carries no snapshot, so a session that
started after the advance cannot be told from one that the advance killed
(`closed_socket_iff`).
-/

namespace CircleBackend.Session

open Library

abbrev SocketId := Nat

inductive SessionRevocationBroadcast
  | user (userId : UserId) (revokedAtMs : Time)
  | session (sessionId : SessionId)
  | scope (event : ScopeRevocation)
  deriving DecidableEq, Repr

def maxSafeInteger : Nat := 9007199254740991

/-- `parseSessionRevocationBroadcast` of a decoded message: a scope event names a
scope and a generation. The device key is the only scope key that can be empty. -/
def parseSessionRevocationBroadcast (message : SessionRevocationBroadcast) :
    Option SessionRevocationBroadcast :=
  match message with
  | .scope event =>
    if event.scopeKey = .device [] then none
    else if event.generation < 1 ∨ maxSafeInteger < event.generation then none
    else some message
  | _ => some message

structure RealtimeSocketIdentity where
  sessionId : Option SessionId
  issuedAtMs : Option Time
  familyId : Option FamilyId
  audience : Option Audience
  deviceKey : Option DeviceKey
  deriving DecidableEq, Repr

/-- The identity is under the scope a key names. -/
def RealtimeSocketIdentity.under (identity : RealtimeSocketIdentity) : ScopeKey → Bool
  | .account => true
  | .audience a => identity.audience = some a
  | .device k => identity.deviceKey = some k
  | .family f => identity.familyId = some f

/-- The sockets an instance holds, grouped by user, and the claims each was
admitted with. -/
structure RealtimeService where
  clients : List (UserId × List SocketId)
  pendingClients : List (UserId × List SocketId)
  socketIdentities : SocketId → Option RealtimeSocketIdentity

namespace RealtimeService

variable (service : RealtimeService)

def group (userId : UserId) : List SocketId :=
  ((service.clients.lookup userId).getD [] ++
    (service.pendingClients.lookup userId).getD []).eraseDups

def socketsRevokedForUser (userId : UserId) (revokedAtMs : Time) : List SocketId :=
  (service.group userId).filter fun socket =>
    ((service.socketIdentities socket).bind (·.issuedAtMs)).any (· ≤ revokedAtMs)

def socketsRevokedForSession (sessionId : SessionId) : List SocketId :=
  ((service.clients ++ service.pendingClients).flatMap (·.2)).eraseDups.filter fun socket =>
    (service.socketIdentities socket).any (·.sessionId = some sessionId)

def socketsRevokedForScope (event : ScopeRevocation) : List SocketId :=
  (service.group event.userId).filter fun socket =>
    (service.socketIdentities socket).any fun identity =>
      identity.familyId ≠ event.exemptFamilyId && identity.under event.scopeKey

def socketsRevokedBy : SessionRevocationBroadcast → List SocketId
  | .user userId revokedAtMs => service.socketsRevokedForUser userId revokedAtMs
  | .session sessionId => service.socketsRevokedForSession sessionId
  | .scope event => service.socketsRevokedForScope event

end RealtimeService

/-- `lookup` is the row of the scope, absent when the query fails: then the
revocation is applied. -/
def isCurrentScopeRevocation (lookup : Option (Option SessionScopeGeneration))
    (event : ScopeRevocation) : Bool :=
  lookup.elim true fun current => current.any fun g =>
    g.generation = event.generation && g.exemptFamilyId = event.exemptFamilyId

/-- The sockets `handleRevocationMessage` closes. `latest` and `stillLatest` are
the answers of the handler's lease before and after the lookup. -/
def RealtimeService.handleRevocationMessage (service : RealtimeService)
    (lookup : Option (Option SessionScopeGeneration)) (latest stillLatest : Bool)
    (message : SessionRevocationBroadcast) : List SocketId :=
  match parseSessionRevocationBroadcast message with
  | none => []
  | some broadcast =>
    let revoked := service.socketsRevokedBy broadcast
    match broadcast with
    | .scope event =>
      if revoked.isEmpty then []
      else if !latest then []
      else if !isCurrentScopeRevocation lookup event then []
      else if !stillLatest then []
      else revoked
    | _ => revoked

/-- The normal answer of the generation lookup. -/
def Db.currentScope (db : Db) (event : ScopeRevocation) : Option (Option SessionScopeGeneration) :=
  some (db.scopeGenerations.find (event.userId, event.scopeKey))

/-- A socket of the session: registered for its user alone, under what the
verifier said about it. -/
structure RealtimeService.Serves (service : RealtimeService) (socket : SocketId)
    (r : RefreshToken) (token : VerifiableToken) : Prop where
  identity : service.socketIdentities socket =
    some ⟨some r.id, token.issuedAt, some r.familyId, some r.audience, r.deviceKey⟩
  registered : ∀ u, socket ∈ service.group u → u = r.userId
  sub : token.sub = some r.userId
  sid : token.sid = some r.id

section
variable {db : Db} {service : RealtimeService} {socket : SocketId} {event : ScopeRevocation}
variable {r : RefreshToken} {token : VerifiableToken} {latest stillLatest : Bool}

theorem parsed_scope {broadcast : SessionRevocationBroadcast}
    (parsed : parseSessionRevocationBroadcast (.scope event) = some broadcast) :
    broadcast = .scope event ∧ event.scopeKey ≠ .device [] := by
  unfold parseSessionRevocationBroadcast at parsed
  by_cases named : event.scopeKey = .device []
  · simp [named] at parsed
  · simp only [named, ↓reduceIte] at parsed
    split at parsed
    · cases parsed
    · exact ⟨(Option.some.inj parsed).symm, named⟩

/-- A scope handler closes what it selected, or nothing. -/
theorem handled_scope {lookup : Option (Option SessionScopeGeneration)}
    (closed : socket ∈ service.handleRevocationMessage lookup latest stillLatest (.scope event)) :
    event.scopeKey ≠ .device [] ∧ socket ∈ service.socketsRevokedForScope event ∧
      isCurrentScopeRevocation lookup event = true := by
  unfold RealtimeService.handleRevocationMessage at closed
  cases parsed : parseSessionRevocationBroadcast (.scope event) with
  | none => simp [parsed] at closed
  | some broadcast =>
    obtain ⟨rfl, named⟩ := parsed_scope parsed
    simp only [parsed] at closed
    split at closed
    · cases closed
    · split at closed
      · cases closed
      · split at closed
        · cases closed
        · rename_i current
          split at closed
          · cases closed
          · exact ⟨named, closed, by simpa using current⟩

theorem under_scope (named : event.scopeKey ≠ .device []) {issuedAt : Option Time}
    (under : RealtimeSocketIdentity.under ⟨some r.id, issuedAt, some r.familyId, some r.audience,
      r.deviceKey⟩ event.scopeKey = true) : event.scopeKey ∈ r.scopes := by
  rw [← scopeMatches_iff]
  cases k : event.scopeKey with
  | account => rfl
  | audience a =>
    simp only [k, RealtimeSocketIdentity.under, Option.some.injEq, decide_eq_true_eq] at under
    simp [scopeMatches, under]
  | device d =>
    simp only [k, RealtimeSocketIdentity.under, decide_eq_true_eq] at under
    have nonempty : d ≠ [] := by
      intro empty
      exact named (by rw [k, empty])
    simp [scopeMatches, under, nonempty]
  | family f =>
    simp only [k, RealtimeSocketIdentity.under, Option.some.injEq, decide_eq_true_eq] at under
    simp [scopeMatches, under]

/-- What a closed socket says about the broadcast that closed it. -/
theorem closed_scope (serves : service.Serves socket r token)
    (closed : socket ∈ service.handleRevocationMessage (db.currentScope event) latest stillLatest
      (.scope event)) :
    event.userId = r.userId ∧ event.scopeKey ∈ r.scopes ∧ event.exemptFamilyId ≠ some r.familyId ∧
      ∃ g, db.scopeGenerations.find (event.userId, event.scopeKey) = some g ∧
        g.generation = event.generation ∧ g.exemptFamilyId = event.exemptFamilyId := by
  obtain ⟨named, selected, current⟩ := handled_scope closed
  simp only [RealtimeService.socketsRevokedForScope, List.mem_filter, serves.identity,
    Option.any_some, Bool.and_eq_true, decide_eq_true_eq] at selected
  obtain ⟨member, other, under⟩ := selected
  refine ⟨serves.registered _ member, under_scope named under, fun same => other same.symm, ?_⟩
  simp only [isCurrentScopeRevocation, Db.currentScope, Option.elim_some] at current
  cases found : db.scopeGenerations.find (event.userId, event.scopeKey) with
  | none => simp [found] at current
  | some g =>
    simp only [found, Option.any_some, Bool.and_eq_true, decide_eq_true_eq] at current
    exact ⟨g, rfl, current⟩

end

/-- The token is refused on a ground other than the scope `k`. -/
def Db.refusesBeside (db : Db) (r : RefreshToken) (token : VerifiableToken) (k : ScopeKey) : Prop :=
  (∀ v ∈ db.users.find r.userId, v.status = .active → v.stamped token = true) ∨ r.closed ∨
    ∃ k' ∈ r.scopes, k' ≠ k ∧ db.stale r k'

/-- A socket that a scope broadcast closes belongs to a refused session exactly
when the session is older than the advance, or is refused on another ground. -/
theorem closed_socket_iff {db : Db} {service : RealtimeService} {socket : SocketId}
    {event : ScopeRevocation} {r : RefreshToken} {token : VerifiableToken}
    {latest stillLatest : Bool} (hr : r ∈ db.refreshTokens.rows)
    (serves : service.Serves socket r token)
    (closed : socket ∈ service.handleRevocationMessage (db.currentScope event) latest stillLatest
      (.scope event)) :
    db.verdict token = .revoked ↔
      r.snapshot event.scopeKey ≠ event.generation ∨ db.refusesBeside r token event.scopeKey := by
  obtain ⟨owner, scope, other, g, found, generation, exempt⟩ := closed_scope serves closed
  have stale : db.stale r event.scopeKey ↔ r.snapshot event.scopeKey ≠ event.generation := by
    unfold Db.stale
    rw [← owner, found, ← generation]
    constructor
    · rintro ⟨g', hg', moved, -⟩
      cases hg'
      exact moved.symm
    · intro moved
      exact ⟨g, rfl, moved.symm, by rw [exempt]; exact other⟩
  rw [verdict_refuses hr serves.sub serves.sid, ← stale]
  constructor
  · rintro (inactive | row | ⟨k, hk, stale⟩)
    · exact Or.inr (Or.inl inactive)
    · exact Or.inr (Or.inr (Or.inl row))
    · by_cases same : k = event.scopeKey
      · exact Or.inl (same ▸ stale)
      · exact Or.inr (Or.inr (Or.inr ⟨k, hk, same, stale⟩))
  · rintro (stale | inactive | row | ⟨k, hk, -, stale⟩)
    · exact Or.inr (Or.inr ⟨_, scope, stale⟩)
    · exact Or.inl inactive
    · exact Or.inr (Or.inl row)
    · exact Or.inr (Or.inr ⟨k, hk, stale⟩)

/-- An instance that holds one socket of user 1. -/
def oneSocket (identity : RealtimeSocketIdentity) : RealtimeService :=
  ⟨[(1, [7])], [], fun socket => if socket = 7 then some identity else none⟩

theorem oneSocket_serves {r : RefreshToken} {token : VerifiableToken} (owner : r.userId = 1)
    (sub : token.sub = some 1) (sid : token.sid = some r.id) :
    (oneSocket ⟨some r.id, token.issuedAt, some r.familyId, some r.audience, r.deviceKey⟩).Serves 7 r
      token := by
  refine ⟨rfl, fun u member => ?_, owner ▸ sub, sid⟩
  by_cases user : u = 1
  · exact user.trans owner.symm
  · simp [RealtimeService.group, oneSocket, List.lookup_cons, beq_eq_false_iff_ne.mpr user] at member

/-- A device that is removed and then logs in again. -/
def returningScript : List Call :=
  [scripted 1 (.createSessionForCurrentSingleDeviceSetting 1
    { SessionContext.empty with deviceKey := some [65] } .app)]

def returningRemoval : Call := scripted 2 (.revokeDeviceSessions 1 [65])

def returningLogin : Call := scripted 3 (.createSessionForCurrentSingleDeviceSetting 1
  { SessionContext.empty with deviceKey := some [65] } .app)

theorem closed_socket_iff_older :
    ((((Db.ofUsers oneUser).play returningScript).after returningRemoval).verdict
      ⟨some 1, some 1, none, some 1⟩) = .revoked := by
  obtain ⟨r, hr, id, owner, family, audience, key, snapshot⟩ : ∃ r ∈ (((Db.ofUsers oneUser).play
      returningScript).after returningRemoval).refreshTokens.rows, r.id = 1 ∧ r.userId = 1 ∧
        r.familyId = 1 ∧ r.audience = .app ∧ r.deviceKey = some [65] ∧ r.deviceGeneration = 0 := by
    decide
  have serves : RealtimeService.Serves _ 7 r ⟨some 1, some 1, none, some 1⟩ :=
    oneSocket_serves owner rfl (by rw [id])
  rw [id, family, audience, key] at serves
  have closed : 7 ∈ (oneSocket ⟨some 1, some 1, some 1, some .app, some [65]⟩).handleRevocationMessage
      ((((Db.ofUsers oneUser).play returningScript).after returningRemoval).currentScope
        ⟨1, .device [65], none, 1⟩) true true (.scope ⟨1, .device [65], none, 1⟩) := by decide
  refine (closed_socket_iff hr serves closed).mpr (Or.inl ?_)
  simp [RefreshToken.snapshot, snapshot]

/-- The broadcast of the removal arrives after the new login and closes its
socket, while the database accepts the session. -/
theorem late_broadcast_closes_new_login :
    ¬ ∀ (db₀ : Db) (c : Call) event cs db (service : RealtimeService) socket r token latest
        stillLatest, Reachable db₀ → c.Fresh db₀ → (c.effect db₀).scopeRevocation = some event →
      Run Step (db₀.after c) cs db → r ∈ db.refreshTokens.rows → service.Serves socket r token →
      socket ∈ service.handleRevocationMessage (db.currentScope event) latest stillLatest
        (.scope event) → db.verdict token = .revoked := by
  intro agrees
  obtain ⟨r, hr, id, owner, family, audience, key⟩ : ∃ r ∈ ((((Db.ofUsers oneUser).play
      returningScript).after returningRemoval).play [returningLogin]).refreshTokens.rows,
        r.id = 3 ∧ r.userId = 1 ∧ r.familyId = 3 ∧ r.audience = .app ∧ r.deviceKey = some [65] := by
    decide
  have serves : RealtimeService.Serves _ 7 r ⟨some 1, some 3, none, some 3⟩ :=
    oneSocket_serves owner rfl (by rw [id])
  rw [id, family, audience, key] at serves
  have refused := agrees _ returningRemoval ⟨1, .device [65], none, 1⟩ _ _ _ 7 r _ true true
    (reachable_play (by decide)) (by decide) (by decide) (run_play (by decide)) hr serves (by decide)
  revert refused
  decide

end CircleBackend.Session
