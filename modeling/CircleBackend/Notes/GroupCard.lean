import CircleBackend.Js
import CircleBackend.Library.Transition
import Mathlib.Logic.Function.Basic

/-!
# The group card of a note

`Note.sourceConversationID` and the groups section of a note of one's own, with the two calls that
write them. `updateNote` decides from an unlocked read what the submitted card means for the
binding, `setSourceConversation` chooses a card for a binding; both write under the lock of the
row.

The other sections are left out. What can only refuse a call is the act `refuse`.
-/

namespace CircleBackend.Notes.GroupCard

open Library

/-- Of circles, groups and conversations: a card may carry any. -/
abbrev Id := Nat
abbrev CallId := Nat

structure NoteCardSnapshot where
  id : Id
  circleId : Option Id
  conversationID : Option Id
  name : JsString
  faceURL : Option JsString
  deriving DecidableEq

/-- `NoteSectionCardDto` -/
structure CardDto where
  id : Id
  name : JsString
  faceURL : Option JsString
  deriving DecidableEq

/-! ## Circles and conversations -/

/-- `owned` and `joined` are about the owner of the note. -/
structure Circle where
  id : Id
  groupID : Option Id
  name : JsString
  avatarUrl : Option JsString
  deleted : Bool
  owned : Bool
  joined : Bool
  deriving DecidableEq

/-- A conversation of type `GROUP`; `seated` if the owner of the note has a seat in it. -/
structure ChatConversation where
  id : Id
  circleID : Option Id
  name : Option JsString
  avatarUrl : Option JsString
  seated : Bool
  deriving DecidableEq

structure Groups where
  circles : List Circle
  conversations : List ChatConversation
  deriving DecidableEq

namespace Groups

variable (g : Groups)

/-- A conversation keeps its circle, a circle the group id it has been given. -/
def later (next : Groups) : Bool :=
  (g.circles.all fun circle => next.circles.any fun after =>
    after.id = circle.id && (circle.groupID = none || after.groupID = circle.groupID)) &&
  g.conversations.all fun conversation => next.conversations.any fun after =>
    after.id = conversation.id && after.circleID = conversation.circleID

/-- The card shows the conversation, or its circle under either id. -/
def Names (cardId conversationID : Id) : Prop :=
  ∃ conversation ∈ g.conversations, conversation.id = conversationID ∧
    (cardId = conversationID ∨ conversation.circleID = some cardId ∨
      ∃ circle ∈ g.circles, circle.groupID = some cardId ∧
        conversation.circleID = some circle.id)

def findGroupConversationIdForCard (cardId : Id) : Option Id :=
  match g.conversations.find? fun c => c.id = cardId || c.circleID = some cardId with
  | some conversation => some conversation.id
  | none => do
    let circle ← g.circles.find? fun c => c.groupID = some cardId && !c.deleted
    let conversation ← g.conversations.find? fun c => c.circleID = some circle.id
    some conversation.id

/-- `ensureCircleConversation` finds the conversation, once it has been made. -/
def ensureOwnedCircleConversation (cardId : Id) : Option Id := do
  let circle ← g.circles.find? fun c => !c.deleted && (c.id = cardId || c.groupID = some cardId)
  if circle.owned then
    let conversation ← g.conversations.find? fun c => c.circleID = some circle.id
    some conversation.id
  else none

/-- `a.trim() || b.trim()` -/
def nameOr (a b : Option JsString) : Option JsString :=
  let first := trim (a.getD [])
  let second := trim (b.getD [])
  if first ≠ [] then some first else if second ≠ [] then some second else none

/-- The card of a binding. -/
def resolveOriginGroupCard (conversationID : Id) (unnamedGroupName : Option JsString) :
    Option NoteCardSnapshot := do
  let conversation ← g.conversations.find? fun c => c.id = conversationID
  match conversation.circleID with
  | some circleID =>
    let row ← g.circles.find? fun c => c.id = circleID
    some ⟨row.id, none, none, row.name, row.avatarUrl⟩
  | none =>
    let name ← nameOr conversation.name unnamedGroupName
    some ⟨conversationID, none, some conversationID, name, conversation.avatarUrl⟩

/-- The card of one submitted group: the stored one, a circle's or a standalone group's. -/
def canonicalCard (stored : List NoteCardSnapshot) (items : List CardDto) (id : Id) :
    Option NoteCardSnapshot :=
  match stored.reverse.find? fun card => card.id = id with
  | some card => some card
  | none =>
    match g.circles.find? fun c => !c.deleted && (c.id = id || c.groupID = some id) &&
        (c.owned || c.joined) with
    | some circle =>
      some ⟨id, if circle.id ≠ id then some circle.id else none, none, circle.name,
        circle.avatarUrl⟩
    | none => do
      let conversation ← g.conversations.find? fun c => c.id = id && c.circleID = none && c.seated
      let name ← nameOr conversation.name ((items.find? fun item => item.id = id).map CardDto.name)
      some ⟨id, none, some id, name, conversation.avatarUrl⟩

/-- `canonicalizeNoteCards`, of the groups section. -/
def canonicalizeNoteCards (stored : List NoteCardSnapshot) (items : List CardDto) :
    Option (List NoteCardSnapshot) :=
  items.mapM fun item => g.canonicalCard stored items item.id

end Groups

/-! ## Calls -/

/-- `groups` is none where the sections have no groups section. -/
structure NoteRow where
  groups : Option (List NoteCardSnapshot)
  sourceConversationID : Option Id
  deriving DecidableEq

def NoteRow.cards (note : NoteRow) : List NoteCardSnapshot := note.groups.getD []

def NoteRow.storedIds (note : NoteRow) : List Id := note.cards.map NoteCardSnapshot.id

/-- Where `resolveGroupCardBinding` leaves the binding alone. -/
def NoteRow.keepsBinding (note : NoteRow) : List CardDto → Bool
  | [] => note.sourceConversationID.isSome && note.storedIds = []
  | [item] =>
    if note.sourceConversationID.isSome then note.storedIds = [item.id]
    else item.id ∈ note.storedIds
  | items => items.all fun item => item.id ∈ note.storedIds

structure Binding where
  conversationID : Option Id
  card : Option CardDto
  deriving DecidableEq

/-- Each constructor is what comes next; `read` is what the call found before its transaction. -/
inductive UpdateStage
  | findNote
  | findConversation (read : NoteRow) (item : CardDto)
  | ensureConversation (read : NoteRow) (item : CardDto)
  | originCard (read : NoteRow) (item : CardDto) (conversationID : Id)
  | canonicalize (read : NoteRow) (binding : Option Binding)
  | lock (read : NoteRow) (binding : Option Binding) (groups : Option (List NoteCardSnapshot))
  | save (read : NoteRow) (binding : Option Binding) (groups : Option (List NoteCardSnapshot))
      (existing : NoteRow)
  deriving DecidableEq

inductive BindStage
  | originCard
  | lock (card : Option NoteCardSnapshot)
  | save (card : Option NoteCardSnapshot)
  deriving DecidableEq

/-- `items` is the groups section of the input; `label` is what `unnamedGroupLabel` finds. -/
inductive Call
  | updateNote (items : Option (List CardDto)) (stage : UpdateStage)
  | setSourceConversation (conversationID : Option Id) (label : Option JsString)
      (stage : BindStage)
  deriving DecidableEq

/-- `managed`: the binding is one that `setSourceConversation` has made. -/
structure State where
  note : NoteRow
  managed : Bool
  groups : Groups
  calls : CallId → Option Call
  locked : Option CallId

inductive Act
  | updateNote (id : CallId) (items : Option (List CardDto))
  | setSourceConversation (id : CallId) (conversationID : Option Id) (label : Option JsString)
  | turn (id : CallId)
  | refuse (id : CallId)
  /-- Whatever else happens to circles and conversations. -/
  | change (groups : Groups)

namespace State

variable (s : State)

def goto (id : CallId) (call : Call) : State :=
  { s with calls := Function.update s.calls id (some call) }

def finish (id : CallId) : State :=
  { s with calls := Function.update s.calls id none, locked := s.locked.filter (· ≠ id) }

/-- The row as `updateNote` writes it over the one it has locked. -/
def savedNote (binding : Option Binding) (groups : Option (List NoteCardSnapshot))
    (existing : NoteRow) : NoteRow where
  groups :=
    -- `preserveManagedGroupCard`
    if binding = none ∧ existing.sourceConversationID ≠ none then existing.groups else groups
  sourceConversationID :=
    match binding with
    | some binding => binding.conversationID
    | none => existing.sourceConversationID

def updateTurn (id : CallId) (items : Option (List CardDto)) : UpdateStage → Option State
  | .findNote =>
    match items with
    | none => some (s.goto id (.updateNote items (.canonicalize s.note none)))
    | some items' =>
      if s.note.keepsBinding items' then
        some (s.goto id (.updateNote items (.canonicalize s.note none)))
      else
        match items' with
        | [] => some (s.goto id (.updateNote items (.canonicalize s.note (some ⟨none, none⟩))))
        | [item] => some (s.goto id (.updateNote items (.findConversation s.note item)))
        | _ => some (s.finish id)
  | .findConversation read item =>
    match s.groups.findGroupConversationIdForCard item.id with
    | some conversationID =>
      some (s.goto id (.updateNote items (.originCard read item conversationID)))
    | none => some (s.goto id (.updateNote items (.ensureConversation read item)))
  | .ensureConversation read item =>
    match s.groups.ensureOwnedCircleConversation item.id with
    | some conversationID =>
      some (s.goto id (.updateNote items (.originCard read item conversationID)))
    | none => some (s.finish id)
  | .originCard read item conversationID =>
    match s.groups.resolveOriginGroupCard conversationID (some item.name) with
    | some card =>
      some (s.goto id (.updateNote items (.canonicalize read (some
        ⟨some conversationID, some ⟨item.id, card.name, card.faceURL⟩⟩))))
    | none => some (s.finish id)
  | .canonicalize read binding =>
    -- `withGroupCard`
    match (match binding with
        | some binding => some binding.card.toList
        | none => items) with
    | none => some (s.goto id (.updateNote items (.lock read binding none)))
    | some items' =>
      match s.groups.canonicalizeNoteCards read.cards items' with
      | some cards => some (s.goto id (.updateNote items (.lock read binding (some cards))))
      | none => some (s.finish id)
  | .lock read binding groups =>
    if s.locked = none then
      some ({ s with locked := some id }.goto id
        (.updateNote items (.save read binding groups s.note)))
    else none
  | .save _ binding groups existing =>
    let saved := savedNote binding groups existing
    some ({ s with
      note := saved
      managed := s.managed && decide (saved.sourceConversationID = s.note.sourceConversationID)
      }.finish id)

def bindTurn (id : CallId) (conversationID : Option Id) (label : Option JsString) :
    BindStage → Option State
  | .originCard =>
    match conversationID with
    | some conversation =>
      match s.groups.resolveOriginGroupCard conversation label with
      | some card =>
        some (s.goto id (.setSourceConversation conversationID label (.lock (some card))))
      | none => some (s.finish id)
    | none => some (s.goto id (.setSourceConversation conversationID label (.lock none)))
  | .lock card =>
    if s.locked = none then
      some ({ s with locked := some id }.goto id
        (.setSourceConversation conversationID label (.save card)))
    else none
  | .save card =>
    some ({ s with
      note := ⟨card.map fun card => [card], conversationID⟩
      managed := conversationID.isSome }.finish id)

def turn (id : CallId) : Option State := do
  match ← s.calls id with
  | .updateNote items stage => s.updateTurn id items stage
  | .setSourceConversation conversationID label stage => s.bindTurn id conversationID label stage

def next : Act → Option State
  | .updateNote id items =>
    if s.calls id = none then some (s.goto id (.updateNote items .findNote)) else none
  | .setSourceConversation id conversationID label =>
    if s.calls id = none then
      some (s.goto id (.setSourceConversation conversationID label .originCard))
    else none
  | .turn id => s.turn id
  | .refuse id => some (s.finish id)
  | .change groups => if s.groups.later groups then some { s with groups } else none

end State

def Step (s : State) (act : Act) (t : State) : Prop := s.next act = some t

/-- A note without a binding has no group card, one that is bound has the card of its group. -/
def InStep (g : Groups) (note : NoteRow) : Prop :=
  match note.sourceConversationID with
  | none => note.cards = []
  | some conversationID => ∃ card, note.cards = [card] ∧ g.Names card.id conversationID

/-- The groups section of a call is what the call found on the note. -/
def repeats (items : Option (List CardDto)) (read : NoteRow) : Bool :=
  match items with
  | none => true
  | some [] => read.storedIds = []
  | some items => read.keepsBinding items

/-- A step that is to write the note by an update that keeps what it found. -/
def State.stale (s : State) : Act → Bool
  | .turn id =>
    match s.calls id with
    | some (.updateNote (some []) (.save read _ _ existing)) =>
      read.storedIds = [] && existing.sourceConversationID.isSome && s.managed
    | some (.updateNote (some items) (.save read _ _ existing)) =>
      read.keepsBinding items && existing.sourceConversationID = none
    | _ => false
  | _ => false

/-- The act is one of a call that is to change the group card. -/
def State.asks (s : State) : Act → Bool
  | .turn id =>
    match s.calls id with
    | some (.updateNote items (.save read _ _ _)) => !repeats items read
    | some (.setSourceConversation ..) => true
    | _ => false
  | _ => false

/-- In step afterwards, and a managed binding stays where the call has not asked for another. -/
structure Meets (s : State) (act : Act) (t : State) : Prop where
  inStep : InStep t.groups t.note
  binding : s.managed = true → s.asks act = false →
    t.note.sourceConversationID = s.note.sourceConversationID

end CircleBackend.Notes.GroupCard
