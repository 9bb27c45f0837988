import CircleBackend.Js

/-!
# `LIKE` with an escape

* `like_contains`: the pattern of an escaped word between two `%` is met by the texts that
  hold the word.
-/

namespace CircleBackend.Library

/-- One unit of a pattern. -/
inductive Token
  | any
  | one
  | unit (c : UInt16)

/-- `%` is 37, `_` is 95, `\` is 92. -/
def tokens : JsString → List Token
  | [] => []
  | [c] => [if c = 37 then .any else if c = 95 then .one else .unit c]
  | c :: d :: rest =>
    if c = 92 then .unit d :: tokens rest
    else (if c = 37 then .any else if c = 95 then .one else .unit c) :: tokens (d :: rest)

def matchTokens : List Token → JsString → Bool
  | [], text => text.isEmpty
  | .any :: rest, text => text.tails.any fun suffix => matchTokens rest suffix
  | .one :: _, [] => false
  | .one :: rest, _ :: text => matchTokens rest text
  | .unit _ :: _, [] => false
  | .unit c :: rest, x :: text => x = c && matchTokens rest text

/-- `text LIKE pattern ESCAPE '\'` -/
def like (pattern text : JsString) : Bool := matchTokens (tokens pattern) text

/-- `replace(/[\\%_]/g, …)` -/
def escapeLike (word : JsString) : JsString :=
  word.flatMap fun c => if c = 92 ∨ c = 37 ∨ c = 95 then [92, c] else [c]

/-- `%word%` -/
def likeContainsPattern (keyword : JsString) : JsString := 37 :: (escapeLike keyword ++ [37])

theorem tokens_escaped (word : JsString) :
    tokens (escapeLike word ++ [37]) = word.map Token.unit ++ [.any] := by
  induction word with
  | nil => rfl
  | cons c word ih =>
    by_cases special : c = 92 ∨ c = 37 ∨ c = 95
    · have pattern : escapeLike (c :: word) ++ [37] = 92 :: c :: (escapeLike word ++ [37]) := by
        simp [escapeLike, special]
      rw [pattern, tokens, if_pos rfl, ih]
      rfl
    · obtain ⟨notSlash, notPercent, notUnderscore⟩ := by simpa only [not_or] using special
      obtain ⟨d, rest, more⟩ : ∃ d rest, escapeLike word ++ [37] = d :: rest := by
        cases escapeLike word with
        | nil => exact ⟨37, [], rfl⟩
        | cons d rest => exact ⟨d, rest ++ [37], rfl⟩
      have pattern : escapeLike (c :: word) ++ [37] = c :: d :: rest := by
        rw [← more]
        simp [escapeLike, special]
      rw [pattern, tokens, if_neg notSlash, if_neg notPercent, if_neg notUnderscore, ← more, ih]
      rfl

theorem matchTokens_start (word text : JsString) :
    matchTokens (word.map Token.unit ++ [.any]) text = true ↔ word <+: text := by
  induction word generalizing text with
  | nil => simp [matchTokens]
  | cons c word ih =>
    cases text with
    | nil => simp [matchTokens]
    | cons x text =>
      rw [List.map_cons, List.cons_append, matchTokens, Bool.and_eq_true, ih, decide_eq_true_eq,
        List.cons_prefix_cons, eq_comm]

theorem like_contains (keyword text : JsString) :
    like (likeContainsPattern keyword) text = true ↔ keyword <:+: text := by
  have pattern : tokens (likeContainsPattern keyword) =
      .any :: (keyword.map Token.unit ++ [.any]) := by
    rw [← tokens_escaped, likeContainsPattern]
    cases escapeLike keyword ++ [37] <;> rfl
  unfold like
  rw [pattern, matchTokens, List.any_eq_true, List.infix_iff_prefix_suffix]
  simp only [matchTokens_start, List.mem_tails]
  constructor
  · rintro ⟨suffix, ends, starts⟩
    exact ⟨suffix, starts, ends⟩
  · rintro ⟨suffix, starts, ends⟩
    exact ⟨suffix, ends, starts⟩

end CircleBackend.Library
