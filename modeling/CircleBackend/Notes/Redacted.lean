import CircleBackend.Notes.Summary

/-!
# Blocks without their cards

`redact` takes every contact and group card out of a JSON value. What is left of the blocks
after publishing and stripping depends on the redacted blocks only.
-/

namespace CircleBackend.Notes.Summary

open Library
open Json (Fields setField mapValues)

/-! ## Taking the cards out -/

def isCard : Json → Bool
  | .obj fields => isPrivateCard fields
  | _ => false

/-- What stands for a card that is the value of a field. -/
def someCard : Fields := [("type", .str "contact")]

mutual

def redact : Json → Json
  | .arr items => .arr (redactItems items)
  | .obj fields => if isPrivateCard fields then .obj someCard else .obj (redactFields fields)
  | value => value

def redactItems : List Json → List Json
  | [] => []
  | item :: rest => if isCard item then redactItems rest else redact item :: redactItems rest

def redactFields : List (String × Json) → List (String × Json)
  | [] => []
  | (key, item) :: rest => (key, redact item) :: redactFields rest

end

theorem redactFields_eq (fields : Fields) :
    redactFields fields = mapValues (fun _ => redact) fields := by
  induction fields with
  | nil => rfl
  | cons p rest ih =>
    rw [redactFields, ih]
    rfl

theorem stripFields_eq (fields : Fields) :
    stripFields fields = mapValues (fun _ => stripPrivateCardBlocks) fields := by
  induction fields with
  | nil => rfl
  | cons p rest ih =>
    rw [stripFields, ih]
    rfl

@[simp] theorem string?_redact (value : Json) : (redact value).string? = value.string? := by
  cases value with
  | obj fields =>
    rw [redact]
    split <;> rfl
  | _ => rfl

@[simp] theorem items?_redact (value : Json) :
    (redact value).items? = value.items?.map redactItems := by
  cases value with
  | obj fields =>
    rw [redact]
    split <;> rfl
  | _ => rfl

theorem kindOf_redact (fields : Fields) :
    kindOf (mapValues (fun _ => redact) fields) = kindOf fields := by
  simp only [kindOf, Json.lookup_mapValues, Option.bind_map, Function.comp_def, string?_redact]

theorem isPrivateCard_redact (fields : Fields) :
    isPrivateCard (mapValues (fun _ => redact) fields) = isPrivateCard fields := by
  rw [isPrivateCard, isPrivateCard, kindOf_redact]

variable {fields : Fields}

theorem strip_card (card : isPrivateCard fields = true) :
    stripPrivateCardBlocks (.obj fields) = .null := by
  rw [stripPrivateCardBlocks, if_pos card]

theorem strip_block (shown : isPrivateCard fields = false) :
    stripPrivateCardBlocks (.obj fields) =
      .obj (mapValues (fun _ => stripPrivateCardBlocks) fields) := by
  rw [stripPrivateCardBlocks, if_neg (by simp [shown]), stripFields_eq]

theorem stripItems_congr {item item' : Json} {rest rest' : List Json}
    (head : stripPrivateCardBlocks item = stripPrivateCardBlocks item')
    (tail : stripItems rest = stripItems rest') :
    stripItems (item :: rest) = stripItems (item' :: rest') := by
  simp only [stripItems, head, tail]

theorem stripItems_card (card : isPrivateCard fields = true)
    (rest : List Json) : stripItems (.obj fields :: rest) = stripItems rest := by
  simp only [stripItems, strip_card card]

mutual

theorem strip_redact :
    ∀ value, stripPrivateCardBlocks (redact value) = stripPrivateCardBlocks value
  | .arr items => by rw [redact, stripPrivateCardBlocks, stripPrivateCardBlocks,
      stripItems_redact items]
  | .obj fields => by
    cases card : isPrivateCard fields with
    | true =>
      rw [redact, if_pos card, strip_card card]
      rfl
    | false =>
      rw [redact, if_neg (by simp [card]), redactFields_eq,
        strip_block (by rw [isPrivateCard_redact, card]), strip_block card, ← stripFields_eq,
        ← redactFields_eq, stripFields_redact fields, stripFields_eq]
  | .null | .bool _ | .num _ | .str _ => rfl

theorem stripItems_redact : ∀ items, stripItems (redactItems items) = stripItems items
  | [] => rfl
  | item :: rest => by
    cases card : isCard item with
    | true =>
      cases item with
      | obj fields => rw [redactItems, if_pos card, stripItems_card card, stripItems_redact rest]
      | _ => cases card
    | false =>
      rw [redactItems, if_neg (by simp [card])]
      exact stripItems_congr (strip_redact item) (stripItems_redact rest)

theorem stripFields_redact : ∀ fields, stripFields (redactFields fields) = stripFields fields
  | [] => rfl
  | (key, item) :: rest => by
    rw [redactFields, stripFields, stripFields, strip_redact item, stripFields_redact rest]

end

/-! ## Publishing, then stripping -/

theorem strip_setField (key : String) (value : Json) (fields : Fields) :
    mapValues (fun _ => stripPrivateCardBlocks) (setField key value fields) =
      setField key (stripPrivateCardBlocks value)
        (mapValues (fun _ => stripPrivateCardBlocks) fields) :=
  Json.mapValues_setField

theorem stripped_redacted (fields : Fields) :
    mapValues (fun _ => stripPrivateCardBlocks) (mapValues (fun _ => redact) fields) =
      mapValues (fun _ => stripPrivateCardBlocks) fields := by
  rw [← redactFields_eq, ← stripFields_eq, ← stripFields_eq, stripFields_redact]

theorem kindOf_setField {key : String} {value : Json} (apart : key ≠ "type") :
    kindOf (setField key value fields) = kindOf fields := by
  rw [kindOf, kindOf, Json.lookup_setField_of_ne apart.symm]

section

variable (upload : Option UploadService) (media : List NoteMediaRow) (presigned : Option Signed)

theorem kindOf_resolveProps (props : Fields) :
    kindOf (resolveProps upload media presigned props) = kindOf props := by
  unfold resolveProps
  split
  · rfl
  · split
    · rw [kindOf_setField (by decide), kindOf_setField (by decide), kindOf_setField (by decide)]
    · rw [kindOf_setField (by decide), kindOf_setField (by decide)]

theorem lookup_string_redact (key : String) (fields : Fields) :
    ((mapValues (fun _ => redact) fields).lookup key).bind Json.string? =
      (fields.lookup key).bind Json.string? := by
  rw [Json.lookup_mapValues]
  cases fields.lookup key with
  | none => rfl
  | some value => exact string?_redact value

theorem namedKey_redact (props : Fields) :
    namedKey upload (mapValues (fun _ => redact) props) = namedKey upload props := by
  rw [namedKey, namedKey, lookup_string_redact, lookup_string_redact]

/-- What is found in the properties does not depend on the cards in them. -/
theorem strip_resolveProps (props : Fields) :
    mapValues (fun _ => stripPrivateCardBlocks)
        (resolveProps upload media presigned (mapValues (fun _ => redact) props)) =
      mapValues (fun _ => stripPrivateCardBlocks) (resolveProps upload media presigned props) := by
  rw [resolveProps, resolveProps, namedKey_redact]
  cases namedKey upload props with
  | none => exact stripped_redacted props
  | some key =>
    dsimp only
    cases authorized media key with
    | none => simp only [strip_setField, stripped_redacted]
    | some item => simp only [strip_setField, stripped_redacted]

/-- The redacted fields of an object. -/
def redacted (fields : Fields) : Fields :=
  if isPrivateCard fields then someCard else mapValues (fun _ => redact) fields

theorem redact_obj (fields : Fields) : redact (.obj fields) = .obj (redacted fields) := by
  rw [redact, redacted, redactFields_eq]
  split <;> rfl

theorem strip_props (props : Fields) :
    stripPrivateCardBlocks (.obj (resolveProps upload media presigned (redacted props))) =
      stripPrivateCardBlocks (.obj (resolveProps upload media presigned props)) := by
  have same (props : Fields) :
      isPrivateCard (resolveProps upload media presigned props) = isPrivateCard props := by
    rw [isPrivateCard, isPrivateCard, kindOf_resolveProps]
  cases card : isPrivateCard props with
  | true =>
    rw [redacted, if_pos card, strip_card (by rw [same]; rfl), strip_card (by rw [same, card])]
  | false =>
    rw [redacted, if_neg (by simp [card]),
      strip_block (by rw [same, isPrivateCard_redact, card]), strip_block (by rw [same, card]),
      strip_resolveProps]

theorem lookup_fields_redact (key : String) (fields : Fields) :
    ((mapValues (fun _ => redact) fields).lookup key).bind Json.fields? =
      ((fields.lookup key).bind Json.fields?).map redacted := by
  rw [Json.lookup_mapValues]
  cases fields.lookup key with
  | none => rfl
  | some value =>
    cases value with
    | obj fields =>
      rw [Option.map_some, redact_obj]
      rfl
    | _ => rfl

theorem lookup_items_redact (key : String) (fields : Fields) :
    ((mapValues (fun _ => redact) fields).lookup key).bind Json.items? =
      ((fields.lookup key).bind Json.items?).map redactItems := by
  rw [Json.lookup_mapValues]
  cases fields.lookup key with
  | none => rfl
  | some value => exact items?_redact value

theorem kindOf_resolveMedia (block : Fields) :
    kindOf (resolveMedia upload media presigned block) = kindOf block := by
  unfold resolveMedia
  split
  · split
    · exact kindOf_setField (by decide)
    · rfl
  · rfl

theorem strip_resolveMedia (block : Fields) :
    mapValues (fun _ => stripPrivateCardBlocks)
        (resolveMedia upload media presigned (mapValues (fun _ => redact) block)) =
      mapValues (fun _ => stripPrivateCardBlocks) (resolveMedia upload media presigned block) := by
  have media : isMediaBlock (mapValues (fun _ => redact) block) = isMediaBlock block := by
    rw [isMediaBlock, isMediaBlock, kindOf_redact]
  rw [resolveMedia, resolveMedia, lookup_fields_redact, media]
  cases (block.lookup "props").bind Json.fields? with
  | none => exact stripped_redacted block
  | some props =>
    simp only [Option.map_some]
    split
    · rw [strip_setField, strip_setField, strip_props, stripped_redacted]
    · exact stripped_redacted block

variable {next : List Json → List Json}

theorem isPrivateCard_resolveBlock (block : Fields) :
    isPrivateCard (resolveBlock upload media presigned next block) = isPrivateCard block := by
  have kind : kindOf (resolveBlock upload media presigned next block) = kindOf block := by
    unfold resolveBlock
    dsimp only
    split
    · rw [kindOf_setField (by decide), kindOf_resolveMedia]
    · rw [kindOf_resolveMedia]
  rw [isPrivateCard, isPrivateCard, kind]

theorem strip_resolveBlock (deeper : ∀ items, stripItems (next (redactItems items)) =
    stripItems (next items)) (block : Fields) :
    mapValues (fun _ => stripPrivateCardBlocks)
        (resolveBlock upload media presigned next (mapValues (fun _ => redact) block)) =
      mapValues (fun _ => stripPrivateCardBlocks)
        (resolveBlock upload media presigned next block) := by
  rw [resolveBlock, resolveBlock, lookup_items_redact]
  cases (block.lookup "children").bind Json.items? with
  | none => exact strip_resolveMedia upload media presigned block
  | some children =>
    simp only [Option.map_some, strip_setField, stripPrivateCardBlocks, deeper children,
      strip_resolveMedia]

/-- Stripping what is published of the blocks tells nothing of the cards in them. -/
theorem strip_visit (levels : Nat) (items : List Json) :
    stripItems (visit upload media presigned levels (redactItems items)) =
      stripItems (visit upload media presigned levels items) := by
  induction levels generalizing items with
  | zero => rfl
  | succ levels deeper =>
    induction items with
    | nil => rfl
    | cons item rest ih =>
      cases item with
      | obj block =>
        cases card : isPrivateCard block with
        | true =>
          have hidden : isCard (.obj block) = true := card
          rw [redactItems, if_pos hidden, ih]
          simp only [visit, List.filterMap_cons, Json.fields?, Option.map_some]
          rw [stripItems_card (by rw [isPrivateCard_resolveBlock, card])]
        | false =>
          rw [redactItems, if_neg (by simp [isCard, card]), redact_obj, redacted,
            if_neg (by simp [card])]
          simp only [visit, List.filterMap_cons, Json.fields?, Option.map_some] at ih ⊢
          apply stripItems_congr _ ih
          rw [strip_block (by rw [isPrivateCard_resolveBlock, isPrivateCard_redact, card]),
            strip_block (by rw [isPrivateCard_resolveBlock, card]),
            strip_resolveBlock upload media presigned deeper]
      | _ => exact ih

theorem strip_published (blocks : Option (List Json)) :
    (resolvePublishedBlocks upload media presigned (blocks.map redactItems)).map stripItems =
      (resolvePublishedBlocks upload media presigned blocks).map stripItems := by
  cases blocks with
  | none => rfl
  | some items => simp only [resolvePublishedBlocks, Option.map_some, strip_visit]

theorem published_shown (blocks : Option (List Json)) :
    ((resolvePublishedBlocks upload media presigned blocks).any fun items => !items.isEmpty) =
      blocks.any fun items => items.any Json.isRecord := by
  cases blocks with
  | none => rfl
  | some items =>
    simp only [resolvePublishedBlocks, Option.map_some, Option.any_some]
    induction items with
    | nil => rfl
    | cons item rest ih =>
      cases item with
      | obj block => simp [noteBlockLevels, visit, Json.fields?, Json.isRecord]
      | _ => exact ih

end

end CircleBackend.Notes.Summary
