import CircleBackend.Library.Decimal

/-!
# Values in the log

`sanitizeLogValue` on graphs of plain objects and arrays, which may share and have cycles. The
result is a tree of bounded depth and width (`visit_bounded`), and what is stored under private
keys is not in it (`visit_blind`).

The functions on texts are arguments: what is shown holds whatever they do. The keys of a result
are in the order in which they were first set.
-/

namespace CircleBackend.Logging

open Library

def ascii (s : String) : JsString := s.toList.map fun c => c.toNat.toUInt16

def maxDepth : Nat := 5
def maxEntries : Nat := 50
def maxNodes : Nat := 500
def redacted : JsString := ascii "[redacted]"

/-- The alternatives of `PRIVATE_KEY`. -/
def privateKey : List JsString :=
  ["password", "token", "secret", "authorization", "cookie", "email", "phone", "mobile", "device",
    "useragent", "address", "latitude", "longitude", "apikey", "privatekey", "signingkey",
    "encryptionkey"].map ascii

def privateFields : List JsString :=
  ["body", "requestbody", "responsebody", "payload", "request", "response", "req", "res", "headers",
    "query", "params", "content", "text", "word", "messages", "chat", "chatmessage", "data", "args",
    "arguments", "sql", "cause", "ip", "remoteaddress", "name", "username", "nickname",
    "displayname", "code", "securitycode", "verificationcode", "filename", "objectkey", "key",
    "wechat", "qq", "whatsup", "birthday", "city", "region"].map ascii

abbrev Addr := Nat

inductive Number
  | finite (value : Rat)
  | nan
  | infinity (negative : Bool)
  deriving DecidableEq

inductive Value
  | undefined
  | null
  | boolean (value : Bool)
  | number (value : Number)
  | bigint (value : Int)
  | string (value : JsString)
  /-- A function or a symbol. -/
  | unsupported
  | object (addr : Addr)
  deriving DecidableEq

/-- An array, with `undefined` for a hole, or the entries of an object in the order of
`for (… in …)`. -/
inductive Node
  | array (items : List Value)
  | record (entries : List (JsString × Value))

abbrev Graph := Addr → Node

inductive Leaf
  | undefined
  | null
  | boolean (value : Bool)
  | number (value : Rat)
  | string (value : JsString)
  deriving DecidableEq

inductive Tree
  | leaf (value : Leaf)
  | array (items : List Tree)
  | record (fields : List (JsString × Tree))

def text (value : JsString) : Tree := .leaf (.string value)

/-- `stackSites` is `safeStack` from the text of the stack on. -/
structure Texts where
  sanitizeLogText : JsString → JsString
  safeLogPath : JsString → JsString
  stackSites : JsString → Option JsString

/-- Letters of which the small one is one of `a` to `z`, the signs for kelvin and a dotted `I` too;
the others are dropped. -/
def normalizedKey (key : JsString) : JsString :=
  key.filterMap fun c =>
    if 97 ≤ c ∧ c ≤ 122 then some c
    else if 65 ≤ c ∧ c ≤ 90 then some (c + 32)
    else if c = 8490 then some 107
    else if c = 304 then some 105
    else none

def isPrivate (normalizedKey : JsString) : Bool :=
  privateKey.any (fun word => normalizedKey.tails.any word.isPrefixOf) ||
    privateFields.contains normalizedKey

/-- Of a private key, the value is not looked at. -/
def PrivateKey (key : JsString) : Prop := isPrivate (normalizedKey key) = true

def isErrorKey (normalizedKey : JsString) : Bool :=
  ["error", "err", "exception"].any fun word => ascii word = normalizedKey

def dataProperty (node : Node) (key : JsString) : Value :=
  match node with
  | .array _ => .undefined
  | .record entries => ((entries.find? (·.1 = key)).map (·.2)).getD .undefined

/-- `/^(?:Error|[A-Za-z][A-Za-z0-9]{0,79}(?:Error|Exception))$/` -/
def isErrorName (value : JsString) : Bool :=
  let letter (c : UInt16) : Bool := (65 ≤ c && c ≤ 90) || (97 ≤ c && c ≤ 122)
  value = ascii "Error" || ["Error", "Exception"].any fun ending =>
    let start := value.take (value.length - (ascii ending).length)
    (ascii ending).isSuffixOf value && start.head?.any letter && start.length ≤ 80 &&
      start.all fun c => letter c || (48 ≤ c && c ≤ 57)

def errorName (value : Value) : JsString :=
  match value with
  | .string name => if isErrorName name then name else ascii "Error"
  | _ => ascii "Error"

/-- The first texts of an array. -/
def stackItems : Node → JsString
  | .array items => (items.take 3).flatMap fun item => match item with
    | .string line => line.take 16000 ++ [10]
    | _ => []
  | .record _ => []

def safeStack (texts : Texts) (graph : Graph) (value : Value) : Tree :=
  let stack := match value with
    | .string stack => stack
    | .object addr => stackItems (graph addr)
    | _ => []
  match texts.stackSites stack with
  | some sites => text sites
  | none => .leaf .undefined

/-- `remaining`, and how many values were visited within it. -/
structure Budget where
  remaining : Int
  visited : Nat

/-- The children one after the other, with what is left of the budget. -/
def walk {α β : Type} (visit : α → Budget → β × Budget) : List α → Budget → List β × Budget
  | [], budget => ([], budget)
  | a :: rest, budget =>
    let (b, budget) := visit a budget
    let (bs, budget) := walk visit rest budget
    (b :: bs, budget)

/-- `result[key] = value` -/
def assign (fields : List (JsString × Tree)) (key : JsString) (value : Tree) :
    List (JsString × Tree) :=
  if fields.any (·.1 = key) then fields.map fun f => if f.1 = key then (key, value) else f
  else fields ++ [(key, value)]

def has (fields : List (JsString × Tree)) (key : String) : Bool :=
  fields.any (·.1 = ascii key)

/-- `result.level === 'error'` -/
def isErrorLevel (fields : List (JsString × Tree)) : Bool :=
  fields.any fun f => f.1 = ascii "level" && match f.2 with
    | .leaf (.string level) => level = ascii "error"
    | _ => false

/-- What is done to the entries of an object stored under `key`; `name` is the `errorName` of its
own name. -/
def postProcess (key : JsString) (name : JsString) (fields : List (JsString × Tree)) :
    List (JsString × Tree) :=
  let fields := if has fields "message" && (has fields "event" || has fields "name" ||
      has fields "errorName" || has fields "stack" || has fields "error" || isErrorLevel fields ||
      key = ascii "error") then assign fields (ascii "message") (text redacted) else fields
  if isErrorKey (normalizedKey key) && has fields "name" then
    assign fields (ascii "name") (text name) else fields

/-- A value that is no object. -/
def visitPrimitive (texts : Texts) (normalizedKey : JsString) : Value → Tree
  | .string value =>
    if isErrorKey normalizedKey || normalizedKey = ascii "errormessage" then text redacted
    else if ["path", "route", "originalurl", "url", "pathname"].any
      fun word => ascii word = normalizedKey then text (texts.safeLogPath value)
    else text (texts.sanitizeLogText value)
  | .null => .leaf .null
  | .undefined => .leaf .undefined
  | .boolean value => .leaf (.boolean value)
  | .number (.finite value) => .leaf (.number value)
  | .number .nan => text (ascii "NaN")
  | .number (.infinity negative) => text (ascii (if negative then "-Infinity" else "Infinity"))
  | .bigint value => text (if value < 0 then 45 :: natText value.natAbs else natText value.natAbs)
  | .unsupported | .object _ => text (ascii "[unsupported]")

def truncated : Tree := text (ascii "[truncated]")

/-- The entries that are not skipped. -/
def kept (entries : List (JsString × Value)) : List (JsString × Value) :=
  (entries.take maxEntries).filter fun entry =>
    ["toJSON", "__proto__", "constructor"].all fun word => ascii word ≠ entry.1

/-- An array or an object that is no ancestor, by what is done to a child. -/
def visitNode (texts : Texts) (names : Addr → JsString)
    (child : JsString → Value → Budget → Tree × Budget) (key : JsString) (addr : Addr)
    (budget : Budget) : Node → Tree × Budget
  | .array items =>
    let (children, budget) := walk (child []) (items.take maxEntries) budget
    (.array (children ++ if items.length > maxEntries then [truncated] else []), budget)
  | .record entries =>
    let (children, budget) := walk (fun entry => child entry.1 entry.2) (kept entries) budget
    let fields := (((kept entries).map (·.1)).zip children).foldl (fun fields child =>
      assign fields (texts.sanitizeLogText (child.1.take 128)) child.2) []
    let fields := if entries.length > maxEntries then
      assign fields (ascii "truncated") (.leaf (.boolean true)) else fields
    (.record (postProcess key (names addr) fields), budget)

/-- `depth` is `maxDepth + 1 - left`; `names` is what the names of objects come to. -/
def visit (texts : Texts) (graph : Graph) (names : Addr → JsString) (left : Nat)
    (ancestors : List Addr) (key : JsString) (current : Value) (budget : Budget) : Tree × Budget :=
  let budget := { budget with remaining := budget.remaining - 1 }
  match left with
  | 0 => (truncated, budget)
  | left + 1 =>
    if budget.remaining < 0 then (truncated, budget)
    else
      let budget := { budget with visited := budget.visited + 1 }
      let normalizedKey := normalizedKey key
      if isPrivate normalizedKey || (normalizedKey = ascii "message" && left + 1 < maxDepth) then
        (text redacted, budget)
      else if normalizedKey = ascii "stack" || normalizedKey = ascii "trace" then
        (safeStack texts graph current, budget)
      else if normalizedKey = ascii "errorname" then (text (errorName current), budget)
      else match current with
        | .object addr =>
          if addr ∈ ancestors then (text (ascii "[circular]"), budget)
          else visitNode texts names (fun key value budget =>
            visit texts graph names left (addr :: ancestors) key value budget) key addr budget
              (graph addr)
        | current => (visitPrimitive texts normalizedKey current, budget)

def errorNames (graph : Graph) (addr : Addr) : JsString :=
  errorName (dataProperty (graph addr) (ascii "name"))

/-- What `sanitizeLogValue` does, with the names of objects given. -/
def sanitizeNamed (texts : Texts) (graph : Graph) (names : Addr → JsString) (value : Value) :
    Tree × Budget :=
  visit texts graph names (maxDepth + 1) [] [] value { remaining := maxNodes, visited := 0 }

def sanitizeLogValue (texts : Texts) (graph : Graph) (value : Value) : Tree :=
  (sanitizeNamed texts graph (errorNames graph) value).1

/-! ## Bounds -/

/-- Of a depth of at most `n`, with as many children of a node as there may be entries and one. -/
def Within : Nat → Tree → Prop
  | _, .leaf _ => True
  | 0, _ => False
  | n + 1, .array items => items.length ≤ maxEntries + 1 ∧ ∀ t ∈ items, Within n t
  | n + 1, .record fields => fields.length ≤ maxEntries + 1 ∧ ∀ f ∈ fields, Within n f.2

section Bounds

variable {α β : Type} {n : Nat} {fields : List (JsString × Tree)} {key : JsString} {value : Tree}

theorem within_leaf (n : Nat) (value : Leaf) : Within n (.leaf value) := by
  cases n <;> trivial

theorem assign_length : (assign fields key value).length ≤ fields.length + 1 := by
  unfold assign
  split <;> simp

/-- A key that is there is not set anew. -/
theorem assign_has {word : String} (there : has fields word = true) :
    (assign fields (ascii word) value).length = fields.length := by
  unfold has at there
  simp [assign, there]

theorem assign_within (key : JsString) (all : ∀ f ∈ fields, Within n f.2)
    (own : Within n value) :
    ∀ f ∈ assign fields key value, Within n f.2 := by
  intro f member
  unfold assign at member
  split at member
  · obtain ⟨g, inside, rfl⟩ := List.mem_map.mp member
    split
    · exact own
    · exact all g inside
  · rcases List.mem_append.mp member with old | new
    · exact all f old
    · rw [List.mem_singleton.mp new]
      exact own

theorem postProcess_within (all : ∀ f ∈ fields, Within n f.2) (name : JsString) :
    (postProcess key name fields).length = fields.length ∧
      ∀ f ∈ postProcess key name fields, Within n f.2 := by
  obtain ⟨closed, same⟩ : ∃ closed, closed = if has fields "message" && (has fields "event" ||
      has fields "name" || has fields "errorName" || has fields "stack" || has fields "error" ||
      isErrorLevel fields || key = ascii "error") then
        assign fields (ascii "message") (text redacted) else fields := ⟨_, rfl⟩
  have kept : closed.length = fields.length ∧ ∀ f ∈ closed, Within n f.2 := by
    rw [same]
    split
    · rename_i there
      exact ⟨assign_has (Bool.and_eq_true .. ▸ there).1, assign_within _ all (within_leaf ..)⟩
    · exact ⟨rfl, all⟩
  simp only [postProcess, ← same]
  split
  · rename_i there
    exact ⟨(assign_has (Bool.and_eq_true .. ▸ there).2).trans kept.1,
      assign_within _ kept.2 (within_leaf ..)⟩
  · exact kept

theorem walk_length (visit : α → Budget → β × Budget) (l : List α) (budget : Budget) :
    (walk visit l budget).1.length = l.length := by
  induction l generalizing budget with
  | nil => rfl
  | cons a rest ih => simp [walk, ih]

/-- What holds of every child, and what every child keeps of the budget. -/
theorem walk_all {visit : α → Budget → β × Budget} {P : β → Prop} {Q : Budget → Prop}
    (each : ∀ a budget, Q budget → P (visit a budget).1 ∧ Q (visit a budget).2) (l : List α)
    {budget : Budget} (start : Q budget) :
    (∀ b ∈ (walk visit l budget).1, P b) ∧ Q (walk visit l budget).2 := by
  induction l generalizing budget with
  | nil => exact ⟨nofun, start⟩
  | cons a rest ih =>
    obtain ⟨own, next⟩ := each a budget start
    obtain ⟨others, last⟩ := ih next
    exact ⟨List.forall_mem_cons.mpr ⟨own, others⟩, last⟩

theorem fields_within (label : JsString → JsString) (children : List (JsString × Tree))
    (all : ∀ f ∈ fields, Within n f.2) (own : ∀ child ∈ children, Within n child.2) :
    (children.foldl (fun fields child => assign fields (label child.1) child.2) fields).length ≤
        fields.length + children.length ∧
      ∀ f ∈ children.foldl (fun fields child => assign fields (label child.1) child.2) fields,
        Within n f.2 := by
  induction children generalizing fields with
  | nil => exact ⟨Nat.le_refl _, all⟩
  | cons child rest ih =>
    obtain ⟨first, others⟩ := List.forall_mem_cons.mp own
    obtain ⟨length, within⟩ := ih (assign_within (label child.1) all first) others
    have one := @assign_length fields (label child.1) child.2
    refine ⟨?_, within⟩
    simp only [List.foldl_cons, List.length_cons] at length ⊢
    omega

theorem visitNode_within {texts : Texts} {names : Addr → JsString}
    {child : JsString → Value → Budget → Tree × Budget} {Q : Budget → Prop}
    (each : ∀ key value budget, Q budget → Within n (child key value budget).1 ∧
      Q (child key value budget).2) {addr : Addr} {budget : Budget} (start : Q budget)
    (node : Node) : Within (n + 1) (visitNode texts names child key addr budget node).1 ∧
      Q (visitNode texts names child key addr budget node).2 := by
  cases node with
  | array items =>
    obtain ⟨all, last⟩ := walk_all (each []) (items.take maxEntries) start
    have length := walk_length (child []) (items.take maxEntries) budget
    refine ⟨⟨?_, List.forall_mem_append.mpr ⟨all, ?_⟩⟩, last⟩
    · rw [List.length_append, length, List.length_take]
      split <;> simp
    · split
      · exact List.forall_mem_singleton.mpr (within_leaf ..)
      · exact nofun
  | record entries =>
    obtain ⟨all, last⟩ := walk_all (fun entry => each entry.1 entry.2) (kept entries) start
    have few : (kept entries).length ≤ maxEntries :=
      (List.length_filter_le ..).trans (List.length_take_le ..)
    obtain ⟨children, own⟩ : ∃ children, children = ((kept entries).map (·.1)).zip
      (walk (fun entry => child entry.1 entry.2) (kept entries) budget).1 := ⟨_, rfl⟩
    have inside (f) (member : f ∈ children) : Within n f.2 := by
      rw [own] at member
      exact all f.2 (List.of_mem_zip member).2
    have count : children.length ≤ maxEntries := by
      rw [own, List.length_zip, List.length_map]
      exact (Nat.min_le_left ..).trans few
    obtain ⟨length, within⟩ := fields_within (fun key => texts.sanitizeLogText (key.take 128))
      children (List.forall_mem_nil _) inside
    obtain ⟨fields, made⟩ : ∃ fields, fields = children.foldl (fun fields child =>
      assign fields (texts.sanitizeLogText (child.1.take 128)) child.2) [] := ⟨_, rfl⟩
    rw [← made] at length within
    have more : (if entries.length > maxEntries then
        assign fields (ascii "truncated") (.leaf (.boolean true)) else fields).length ≤
          maxEntries + 1 ∧ ∀ f ∈ (if entries.length > maxEntries then
            assign fields (ascii "truncated") (.leaf (.boolean true)) else fields),
              Within n f.2 := by
      split
      · have one := @assign_length fields (ascii "truncated") (.leaf (.boolean true))
        rw [List.length_nil] at length
        exact ⟨by omega, assign_within _ within (within_leaf ..)⟩
      · rw [List.length_nil] at length
        exact ⟨by omega, within⟩
    obtain ⟨same, all⟩ := postProcess_within more.2 (names addr)
    simp only [visitNode, ← own, ← made]
    exact ⟨⟨same ▸ more.1, all⟩, last⟩

theorem visit_within {N : Nat} (texts : Texts) (graph : Graph) (names : Addr → JsString)
    (left : Nat) (ancestors : List Addr) (key : JsString) (current : Value) (budget : Budget)
    (start : budget.visited + budget.remaining.toNat ≤ N) :
    Within left (visit texts graph names left ancestors key current budget).1 ∧
      (visit texts graph names left ancestors key current budget).2.visited +
        (visit texts graph names left ancestors key current budget).2.remaining.toNat ≤ N := by
  induction left generalizing ancestors key current budget with
  | zero =>
    simp only [visit]
    exact ⟨within_leaf .., by omega⟩
  | succ left ih =>
    rw [visit]
    dsimp only
    split
    · exact ⟨within_leaf .., by dsimp only; omega⟩
    · have spent : budget.visited + 1 + (budget.remaining - 1).toNat ≤ N := by omega
      split
      · exact ⟨within_leaf .., spent⟩
      split
      · refine ⟨?_, spent⟩
        unfold safeStack
        dsimp only
        split <;> exact within_leaf ..
      split
      · exact ⟨within_leaf .., spent⟩
      split
      · split
        · exact ⟨within_leaf .., spent⟩
        · exact visitNode_within
            (Q := fun budget => budget.visited + budget.remaining.toNat ≤ N)
            (fun key value budget start => ih _ key value budget start) spent (graph _)
      · refine ⟨?_, spent⟩
        unfold visitPrimitive
        repeat' split
        all_goals exact within_leaf ..

end Bounds

/-! ## Private fields -/

/-- Entries of the same key, with the same value unless the key is private. -/
def Matches (A : Addr → Prop) (entry entry' : JsString × Value) : Prop :=
  entry.1 = entry'.1 ∧ (PrivateKey entry.1 ∨
    entry.2 = entry'.2 ∧ ∀ addr, entry.2 = .object addr → A addr)

/-- Graphs that differ only in what is stored under private keys; `A` is what is reached without
them. -/
structure Alike (A : Addr → Prop) (g g' : Graph) : Prop where
  array : ∀ a, A a → ∀ items, g a = .array items →
    g' a = .array items ∧ ∀ addr, .object addr ∈ items → A addr
  record : ∀ a, A a → ∀ entries, g a = .record entries →
    ∃ entries', g' a = .record entries' ∧ List.Forall₂ (Matches A) entries entries'

/-- The names of objects stored under `error`, `err` and `exception`. -/
def SameNames (A : Addr → Prop) (g : Graph) (names names' : Addr → JsString) : Prop :=
  ∀ a, A a → ∀ entries, g a = .record entries → ∀ key addr, (key, Value.object addr) ∈ entries →
    isErrorKey (normalizedKey key) = true → names addr = names' addr

section Blind

variable {texts : Texts} {g g' : Graph} {names names' : Addr → JsString} {A : Addr → Prop}

theorem walk_congr {α β : Type} {f f' : α → Budget → β × Budget} {l l' : List α}
    (same : List.Forall₂ (fun a a' => ∀ budget, f a budget = f' a' budget) l l')
    (budget : Budget) : walk f l budget = walk f' l' budget := by
  induction same generalizing budget with
  | nil => rfl
  | cons own _ ih => simp only [walk, own, ih]

theorem kept_matches {R : JsString × Value → JsString × Value → Prop}
    (keys : ∀ x y, R x y → x.1 = y.1) {entries entries' : List (JsString × Value)}
    (same : List.Forall₂ R entries entries') : List.Forall₂ R (kept entries) (kept entries') := by
  have filtered {l l' : List (JsString × Value)} (same : List.Forall₂ R l l')
      (p : JsString → Bool) :
      List.Forall₂ R (l.filter fun entry => p entry.1) (l'.filter fun entry => p entry.1) := by
    induction same with
    | nil => exact .nil
    | cons own _ ih =>
      simp only [List.filter_cons, keys _ _ own]
      split
      · exact .cons own ih
      · exact ih
  exact filtered (List.forall₂_take _ same) fun key =>
    ["toJSON", "__proto__", "constructor"].all fun word => ascii word ≠ key

theorem postProcess_name {key name name' : JsString} {fields : List (JsString × Tree)}
    (same : isErrorKey (normalizedKey key) = true → name = name') :
    postProcess key name fields = postProcess key name' fields := by
  cases error : isErrorKey (normalizedKey key) with
  | true => rw [same error]
  | false => simp [postProcess, error]

/-- Of a private key, the value is not looked at. -/
theorem visit_private {key : JsString} (own : PrivateKey key) (left : Nat) (ancestors : List Addr)
    (value value' : Value) (budget : Budget) :
    visit texts g names left ancestors key value budget =
      visit texts g' names' left ancestors key value' budget := by
  cases left with
  | zero => rfl
  | succ left =>
    have hidden : isPrivate (normalizedKey key) = true := own
    rw [visit, visit]
    simp only [hidden, Bool.true_or, ↓reduceIte]

theorem visitNode_blind {child child' : JsString → Value → Budget → Tree × Budget}
    {key : JsString} {a : Addr} (alike : Alike A g g') (inside : A a)
    (items : ∀ l, g a = .array l → ∀ item ∈ l, ∀ budget,
      child [] item budget = child' [] item budget)
    (entries : ∀ l l', g a = .record l → g' a = .record l' → List.Forall₂ (fun x y => x.1 = y.1 ∧
      ∀ budget, child x.1 x.2 budget = child' y.1 y.2 budget) l l')
    (name : isErrorKey (normalizedKey key) = true → names a = names' a) (budget : Budget) :
    visitNode texts names child key a budget (g a) =
      visitNode texts names' child' key a budget (g' a) := by
  cases node : g a with
  | array l =>
    rw [(alike.array a inside l node).1]
    have each (item) (member : item ∈ l.take maxEntries) :=
      items l node item (List.mem_of_mem_take member)
    have same := walk_congr (List.forall₂_same.mpr each) budget
    simp only [visitNode, same]
  | record l =>
    obtain ⟨l', node', -⟩ := alike.record a inside l node
    rw [node']
    have both := kept_matches (fun _ _ same => same.1) (entries l l' node node')
    have same := walk_congr (both.imp fun _ _ same => same.2) budget
    have keys : (kept l).map (·.1) = (kept l').map (·.1) := by
      rw [← List.forall₂_eq_eq_eq, List.forall₂_map_left_iff, List.forall₂_map_right_iff]
      exact both.imp fun _ _ same => same.1
    have length : l.length = l'.length := (entries l l' node node').length_eq
    simp only [visitNode, same, keys, length]
    rw [postProcess_name name]

theorem safeStack_blind (alike : Alike A g g') {current : Value}
    (known : ∀ a, current = .object a → A a) :
    safeStack texts g current = safeStack texts g' current := by
  cases current with
  | object a =>
    have same : stackItems (g a) = stackItems (g' a) := by
      cases node : g a with
      | array items => rw [(alike.array a (known a rfl) items node).1]
      | record entries =>
        obtain ⟨entries', node', -⟩ := alike.record a (known a rfl) entries node
        rw [node']
        rfl
    simp only [safeStack, same]
  | _ => rfl

theorem visit_blind (alike : Alike A g g') (named : SameNames A g names names') {left : Nat}
    {ancestors : List Addr} {key : JsString} {current : Value} {budget : Budget}
    (known : ∀ a, current = .object a → A a)
    (name : ∀ a, current = .object a → isErrorKey (normalizedKey key) = true → names a = names' a) :
    visit texts g names left ancestors key current budget =
      visit texts g' names' left ancestors key current budget := by
  induction left generalizing ancestors key current budget with
  | zero => rfl
  | succ left ih =>
    cases current with
    | object a =>
      have inside := known a rfl
      have same (budget : Budget) : visitNode texts names (fun key value budget =>
          visit texts g names left (a :: ancestors) key value budget) key a budget (g a) =
          visitNode texts names' (fun key value budget =>
            visit texts g' names' left (a :: ancestors) key value budget) key a budget (g' a) := by
        refine visitNode_blind alike inside (fun l node item member budget => ?_)
          (fun l l' node node' => ?_) (name a rfl) budget
        · refine ih (fun b own => ?_) fun b _ error => ?_
          · exact (alike.array a inside l node).2 b (own ▸ member)
          · cases error
        · obtain ⟨entries', node'', both⟩ := alike.record a inside l node
          rw [node'] at node''
          cases node''
          obtain ⟨length, pairs⟩ := List.forall₂_iff_zip.mp both
          refine List.forall₂_iff_zip.mpr ⟨length, fun {x y} member => ?_⟩
          obtain ⟨key, equal | ⟨equal, reached⟩⟩ := pairs member
          · exact ⟨key, fun budget => key ▸ visit_private equal left _ _ _ _⟩
          · refine ⟨key, fun budget => ?_⟩
            rw [← key, ← equal]
            refine ih (fun b own => reached b own) fun b own error => ?_
            refine named a inside l node x.1 b ?_ error
            rw [← own]
            exact (List.of_mem_zip member).1
      rw [visit, visit]
      simp only [safeStack_blind alike known, same]
    | _ =>
      rw [visit, visit]
      simp only [safeStack_blind alike known]

/-- A tree of bounded depth and width, the same for graphs that differ in private fields only; all
that comes from these are the names of errors. -/
theorem sanitizeLogValue_safe (texts : Texts) (value : Value) (alike : Alike A g g')
    (known : ∀ a, value = .object a → A a) :
    (Within (maxDepth + 1) (sanitizeLogValue texts g value) ∧
      (sanitizeNamed texts g (errorNames g) value).2.visited ≤ maxNodes) ∧
    sanitizeLogValue texts g value = (sanitizeNamed texts g' (errorNames g) value).1 ∧
    (SameNames A g (errorNames g) (errorNames g') →
      sanitizeLogValue texts g value = sanitizeLogValue texts g' value) := by
  have start : 0 + (maxNodes : Int).toNat ≤ maxNodes := by decide
  obtain ⟨within, spent⟩ := visit_within texts g (errorNames g) (maxDepth + 1) [] [] value
    { remaining := maxNodes, visited := 0 } start
  refine ⟨⟨within, Nat.le_of_add_right_le spent⟩, ?_, fun names => ?_⟩
  · have same : sanitizeNamed texts g (errorNames g) value =
        sanitizeNamed texts g' (errorNames g) value :=
      visit_blind alike (fun _ _ _ _ _ _ _ _ => rfl) known fun _ _ _ => rfl
    exact congrArg Prod.fst same
  · have same : sanitizeNamed texts g (errorNames g) value =
        sanitizeNamed texts g' (errorNames g') value :=
      visit_blind alike names known fun _ _ error => by cases error
    exact congrArg Prod.fst same

end Blind

def plain : Texts where
  sanitizeLogText := id
  safeLogPath := id
  stackSites _ := none

def secret (n : Int) : Graph := fun _ => .record [(ascii "token", .bigint n), (ascii "a", .null)]

theorem sanitizeLogValue_safe_token : sanitizeLogValue plain (secret 1) (.object 0) =
    sanitizeLogValue plain (secret 2) (.object 0) := by
  have alike : Alike (· = 0) (secret 1) (secret 2) := by
    refine ⟨fun _ _ _ node => ?_, fun _ _ entries node => ⟨_, rfl, ?_⟩⟩
    · cases node
    · cases node
      exact .cons ⟨rfl, Or.inl (show isPrivate _ = true by decide)⟩ (.cons ⟨rfl, Or.inr ⟨rfl, nofun⟩⟩ .nil)
  have known (a : Addr) (own : Value.object 0 = .object a) : a = 0 := (Value.object.inj own).symm
  refine (sanitizeLogValue_safe plain (.object 0) alike known).2.2 ?_
  rintro a - entries node key b member -
  cases node
  simp at member

end CircleBackend.Logging
