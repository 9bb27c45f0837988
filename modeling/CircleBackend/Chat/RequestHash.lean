import CircleBackend.Chat.Canonical

/-!
# The fingerprint of a send request

What `chatSendRequestHash` hashes of a request that a client declares. A retry under the same
`d` is the same message exactly when its fingerprint is.

* `preimage_eq_iff`: two requests are hashed from one text exactly when they agree on the type,
  the reply target, the forward source and the content that the text keeps.
-/

namespace CircleBackend.Chat.Canonical

open Library

def ascii (s : List Char) : JsString := s.map fun c => c.toNat.toUInt16

/-- A payload as the socket delivers it. -/
structure ChatSendPayload where
  conversationId : JsString
  type : JsString
  content : Fields
  d : JsString
  replyToId : Option JsString
  forwardFromMessageId : Option JsString
  distinct : (Value.obj content).Distinct

structure MediaKeyField where
  key : JsString
  url : JsString

def mediaPresentationFields : List JsString :=
  [ascii ['u', 'r', 'l'], ascii ['t', 'h', 'u', 'm', 'b', 'U', 'r', 'l'],
    ascii ['l', 'o', 'c', 'a', 'l', 'U', 'r', 'i']]

def image : JsString := ascii ['i', 'm', 'a', 'g', 'e']
def video : JsString := ascii ['v', 'i', 'd', 'e', 'o']
def voice : JsString := ascii ['v', 'o', 'i', 'c', 'e']
def file : JsString := ascii ['f', 'i', 'l', 'e']

def mediaMessageTypes : List JsString := [image, video, voice, file]

def keyField : MediaKeyField := ⟨ascii ['k', 'e', 'y'], ascii ['u', 'r', 'l']⟩
def thumbField : MediaKeyField :=
  ⟨ascii ['t', 'h', 'u', 'm', 'b', 'K', 'e', 'y'], ascii ['t', 'h', 'u', 'm', 'b', 'U', 'r', 'l']⟩

/-- `CHAT_MEDIA_KEY_FIELDS[type] ?? []` -/
def chatMediaKeyFields (type : JsString) : List MediaKeyField :=
  if type = image then [keyField, thumbField]
  else if type = video then [keyField, thumbField]
  else if type = voice then [keyField]
  else if type = file then [keyField]
  else []

/-- `delete cleaned[field]` -/
def without (fields : Fields) (field : JsString) : Fields := fields.filter fun p => p.1 ≠ field

def stripMediaPresentationFields (content : Fields) : Fields :=
  mediaPresentationFields.foldl without content

def mediaFingerprintContent (type : JsString) (content : Fields) : Fields :=
  (chatMediaKeyFields type).foldl (fun cleaned field => without cleaned field.key)
    (stripMediaPresentationFields content)

def typeKey : JsString := ascii ['t', 'y', 'p', 'e']
def contentKey : JsString := ascii ['c', 'o', 'n', 't', 'e', 'n', 't']
def replyKey : JsString := ascii ['r', 'e', 'p', 'l', 'y', 'T', 'o', 'I', 'd']
def forwardKey : JsString :=
  ascii ['f', 'o', 'r', 'w', 'a', 'r', 'd', 'F', 'r', 'o', 'm', 'M', 'e', 's', 's', 'a', 'g', 'e',
    'I', 'd']

/-- `id ?? null` -/
def orNull : Option JsString → Value
  | some id => .str id
  | none => .null

/-- The object whose text is hashed. -/
def hashed (payload : ChatSendPayload) : Value :=
  let content :=
    if payload.type ∈ mediaMessageTypes then mediaFingerprintContent payload.type payload.content
    else payload.content
  .obj [(typeKey, .str payload.type), (contentKey, .obj content),
    (replyKey, orNull payload.replyToId), (forwardKey, orNull payload.forwardFromMessageId)]

def preimage (payload : ChatSendPayload) : JsString := canonicalJson (hashed payload)

def chatSendRequestHash {Digest : Type} (sha256 : JsString → Digest) (payload : ChatSendPayload) :
    Digest := sha256 (preimage payload)

/-! ## What the text keeps -/

/-- The fields of a content that no text holds. -/
def droppedFields (type : JsString) : List JsString :=
  if type ∈ mediaMessageTypes then
    mediaPresentationFields ++ (chatMediaKeyFields type).map MediaKeyField.key
  else []

def kept (payload : ChatSendPayload) : Fields :=
  payload.content.filter fun p => p.1 ∉ droppedFields payload.type

theorem without_foldl (names : List JsString) (fields : Fields) :
    names.foldl without fields = fields.filter fun p => p.1 ∉ names := by
  induction names generalizing fields with
  | nil => simp
  | cons name names ih =>
    rw [List.foldl_cons, ih, without, List.filter_filter]
    apply List.filter_congr
    intro p _
    simp [Bool.and_comm]

theorem hashed_eq (payload : ChatSendPayload) :
    hashed payload = .obj [(typeKey, .str payload.type), (contentKey, .obj (kept payload)),
      (replyKey, orNull payload.replyToId), (forwardKey, orNull payload.forwardFromMessageId)] := by
  unfold hashed kept droppedFields
  by_cases media : payload.type ∈ mediaMessageTypes
  · have both : mediaFingerprintContent payload.type payload.content =
        payload.content.filter fun p => p.1 ∉ mediaPresentationFields ++
          (chatMediaKeyFields payload.type).map MediaKeyField.key := by
      rw [← without_foldl, List.foldl_append, List.foldl_map]
      rfl
    simp only [if_pos media, both]
  · simp [if_neg media]

theorem fieldMeaning_kept (names : List JsString) (fields : Fields) (key : JsString) :
    fieldMeaning (fields.filter fun p => p.1 ∉ names) key =
      if key ∈ names then none else fieldMeaning fields key := by
  induction fields with
  | nil => simp [fieldMeaning]
  | cons p rest ih =>
    obtain ⟨k, item⟩ := p
    by_cases dropped : k ∈ names
    · rw [List.filter_cons_of_neg (by simpa using dropped), ih]
      by_cases same : k = key
      · rw [if_pos (same ▸ dropped), if_pos (same ▸ dropped)]
      · rw [fieldMeaning, if_neg same]
    · rw [List.filter_cons_of_pos (by simpa using dropped), fieldMeaning, fieldMeaning, ih]
      by_cases same : k = key
      · have held : key ∉ names := fun member => dropped (by rw [same]; exact member)
        rw [if_pos same, if_pos same, if_neg held]
      · rw [if_neg same, if_neg same]

theorem Value.Distinct.filter {fields : Fields} (distinct : (Value.obj fields).Distinct)
    (p : JsString × Value → Bool) : (Value.obj (fields.filter p)).Distinct := by
  cases distinct with
  | obj keys own =>
    exact .obj (keys.sublist (List.filter_sublist.map Prod.fst))
      fun q member => own q (List.mem_of_mem_filter member)

theorem orNull_distinct (id : Option JsString) : (orNull id).Distinct := by
  cases id with
  | none => exact .null
  | some id => exact .str id

theorem hashed_distinct (payload : ChatSendPayload) : (hashed payload).Distinct := by
  rw [hashed_eq]
  apply Value.Distinct.obj
  · show [typeKey, contentKey, replyKey, forwardKey].Nodup
    decide
  · simp only [List.forall_mem_cons, List.not_mem_nil, false_imp_iff, implies_true, and_true]
    exact ⟨.str _, payload.distinct.filter _, orNull_distinct _, orNull_distinct _⟩

theorem meaning_orNull {a b : Option JsString} :
    meaning (orNull a) = meaning (orNull b) ↔ a = b := by
  cases a <;> cases b <;> simp [orNull, meaning]

theorem orNull_defined (id : Option JsString) : (orNull id).defined = true := by
  cases id <;> rfl

/-- The meaning of the hashed object is that of its four fields. -/
theorem hashed_meaning (p q : ChatSendPayload) :
    meaning (hashed p) = meaning (hashed q) ↔
      p.type = q.type ∧ fieldMeaning (kept p) = fieldMeaning (kept q) ∧
        p.replyToId = q.replyToId ∧ p.forwardFromMessageId = q.forwardFromMessageId := by
  have keys : ∀ {a b c d : Value} {key : JsString}, fieldMeaning [(typeKey, a), (contentKey, b),
      (replyKey, c), (forwardKey, d)] key =
        if typeKey = key then (if a.defined then some (meaning a) else none)
        else if contentKey = key then (if b.defined then some (meaning b) else none)
        else if replyKey = key then (if c.defined then some (meaning c) else none)
        else if forwardKey = key then (if d.defined then some (meaning d) else none)
        else none := by
    intros
    simp only [fieldMeaning]
  rw [hashed_eq, hashed_eq, meaning, meaning, Meaning.obj.injEq]
  constructor
  · intro same
    have at' := fun key => congrFun same key
    simp only [keys] at at'
    have typeContent : typeKey ≠ contentKey := by decide
    have typeReply : typeKey ≠ replyKey := by decide
    have typeForward : typeKey ≠ forwardKey := by decide
    have contentReply : contentKey ≠ replyKey := by decide
    have contentForward : contentKey ≠ forwardKey := by decide
    have replyForward : replyKey ≠ forwardKey := by decide
    have type := at' typeKey
    have content := at' contentKey
    have reply := at' replyKey
    have forward := at' forwardKey
    simp only [if_true, Value.defined] at type
    simp only [typeContent, if_true, if_false, Value.defined] at content
    simp only [typeReply, contentReply, if_true, if_false, orNull_defined] at reply
    simp only [typeForward, contentForward, replyForward, if_true, if_false, orNull_defined]
      at forward
    refine ⟨?_, ?_, meaning_orNull.mp (Option.some.inj reply),
      meaning_orNull.mp (Option.some.inj forward)⟩
    · exact Meaning.str.inj (Option.some.inj type)
    · exact Meaning.obj.inj (Option.some.inj content)
  · rintro ⟨type, content, reply, forward⟩
    funext key
    simp only [keys, meaning, Value.defined, type, content, reply, forward]

theorem kept_meaning {p q : ChatSendPayload} (types : p.type = q.type) :
    fieldMeaning (kept p) = fieldMeaning (kept q) ↔
      ∀ key, key ∉ droppedFields p.type →
        fieldMeaning p.content key = fieldMeaning q.content key := by
  unfold kept
  constructor
  · intro same key held
    have at' := congrFun same key
    rw [fieldMeaning_kept, fieldMeaning_kept, ← types, if_neg held, if_neg held] at at'
    exact at'
  · intro same
    funext key
    rw [fieldMeaning_kept, fieldMeaning_kept, ← types]
    by_cases dropped : key ∈ droppedFields p.type
    · rw [if_pos dropped, if_pos dropped]
    · rw [if_neg dropped, if_neg dropped, same key dropped]

/-- A text has one meaning and a meaning one text; a request is hashed from the type, the reply
target, the forward source and the content without the fields that are dropped. -/
theorem preimage_eq_iff :
    (∀ a b : {v : Value // v.Distinct},
      canonicalJson a.1 = canonicalJson b.1 ↔ meaning a.1 = meaning b.1) ∧
    ∀ p q : ChatSendPayload, preimage p = preimage q ↔
      p.type = q.type ∧ p.replyToId = q.replyToId ∧
        p.forwardFromMessageId = q.forwardFromMessageId ∧
          ∀ key, key ∉ droppedFields p.type →
            fieldMeaning p.content key = fieldMeaning q.content key := by
  constructor
  · intro a b
    exact canonicalJson_eq_iff a.2 b.2
  · intro p q
    unfold preimage
    rw [canonicalJson_eq_iff (hashed_distinct p) (hashed_distinct q), hashed_meaning]
    constructor
    · rintro ⟨type, content, reply, forward⟩
      exact ⟨type, reply, forward, (kept_meaning type).mp content⟩
    · rintro ⟨type, reply, forward, content⟩
      exact ⟨type, (kept_meaning type).mpr content, reply, forward⟩

/-- An image without fields, forwarded or not. -/
def forwarded (source : Option JsString) : ChatSendPayload where
  conversationId := []
  type := image
  content := []
  d := []
  replyToId := none
  forwardFromMessageId := source
  distinct := .obj List.nodup_nil (by simp)

/-- The forward source alone makes another fingerprint. -/
theorem preimage_forwarded : ∃ p q : ChatSendPayload, p.type = q.type ∧
    p.replyToId = q.replyToId ∧ meaning (.obj p.content) = meaning (.obj q.content) ∧
      preimage p ≠ preimage q :=
  ⟨forwarded none, forwarded (some (ascii ['m'])), rfl, rfl, rfl, by decide⟩

end CircleBackend.Chat.Canonical
