import CronSchedule.Proofs.Expression.Soundness

/-!
# From words to tokens

The words of an expression become tokens one by one: the first word is the token of the seconds, and
so on up to the year, which may be left out.

* `Tokens.token?`, `Tokens.InPlace` — the tokens by their fields.
* `Token.atWord` — the token that a word makes; `RefusesWord` — the failures that are about a word.
* `ofWord_outcome` — a word becomes its token, or an element of it is empty.
* **`tokenize_outcome`** — every word of an expression becomes the token at its place.
-/

namespace CronSchedule.Expression

open Text

/-! ## Tokens by their fields -/

/-- The token of a field; the year may have none. -/
def Tokens.token? (tokens : Tokens) : Field → Option Token
  | .second => some tokens.second
  | .minute => some tokens.minute
  | .hour => some tokens.hour
  | .dayOfMonth => some tokens.dayOfMonth
  | .month => some tokens.month
  | .dayOfWeek => some tokens.dayOfWeek
  | .year => tokens.year

/-- Every token stands at the place of its field. -/
def Tokens.InPlace (tokens : Tokens) : Prop :=
  ∀ field token, tokens.token? field = some token → token.field = field

/-- The token that a word makes at the place of a field. -/
def Token.atWord (expression : List Char) (field : Field) (word : Nat × List Char) : Token :=
  ⟨field, upper word.2, word.1, expression⟩

/-- One of the words is refused at the place of its field. -/
def RefusesWord (expression : List Char) (found : List (Nat × List Char)) (failure : Failure) :
    Prop :=
  ∃ field word, found[field.index]? = some word ∧
    (Token.atWord expression field word).Refuses failure

/-! ## Words -/

lemma emptyElementOffset?_eq_none_iff {offset : Nat} {terms : List (List Char)} :
    emptyElementOffset? offset terms = none ↔ [] ∉ terms := by
  induction terms generalizing offset with
  | nil => simp [emptyElementOffset?]
  | cons term rest ih =>
      simp only [emptyElementOffset?]
      split
      · rename_i hempty
        simp [List.isEmpty_iff.1 hempty]
      · rename_i hne
        rw [ih, List.mem_cons, not_or]
        exact ⟨fun h => ⟨fun heq => hne (by simp [← heq]), h⟩, And.right⟩

lemma emptyElementOffset?_le {offset place : Nat} {terms : List (List Char)}
    (h : emptyElementOffset? offset terms = some place) :
    place ≤ offset + (joinWith [','] terms).length := by
  induction terms generalizing offset with
  | nil => cases h
  | cons term rest ih =>
      simp only [emptyElementOffset?] at h
      split at h
      · cases h
        omega
      · by_cases hrest : rest = []
        · subst hrest
          cases h
        · have hplace := ih h
          rw [joinWith_cons term hrest, List.length_append, List.length_cons]
          omega

/-- A word is the token of its upper case, if no element of that is empty. -/
lemma ofWord_eq_ok_iff {expression : List Char} {field : Field} {word : Nat × List Char}
    {token : Token} : Token.ofWord expression field word = .ok token ↔
      token = ⟨field, upper word.2, word.1, expression⟩ ∧ [] ∉ pieces ',' (upper word.2) := by
  rw [← emptyElementOffset?_eq_none_iff]
  simp only [Token.ofWord, Token.checkElements, Token.terms]
  cases emptyElementOffset? 0 (pieces ',' (upper word.2)) with
  | none => simp [eq_comm]
  | some offset => simp

/-- A word becomes its token, or an element of it is empty. -/
lemma ofWord_outcome (expression : List Char) (field : Field) (word : Nat × List Char) :
    Outcome (Token.atWord expression field word).Flags (· = Token.atWord expression field word)
      (Token.ofWord expression field word) := by
  unfold Token.ofWord Token.checkElements
  split
  · rename_i place hplace
    have hle := emptyElementOffset?_le hplace
    rw [Token.terms, joinWith_pieces, Nat.zero_add] at hle
    exact ⟨.emptyElement, place, ⟨hle, by simp⟩, rfl⟩
  · exact Outcome.pure rfl

/-! ## Expressions -/

/-- Words become the tokens at their places, or one of them has an empty element. -/
lemma ofWords_outcome (expression : List Char)
    (second minute hour dayOfMonth month dayOfWeek : Nat × List Char)
    (year : Option (Nat × List Char)) :
    let found := [second, minute, hour, dayOfMonth, month, dayOfWeek] ++ year.toList
    Outcome (fun e => RefusesWord expression found (.malformed e))
      (fun tokens => ∀ field,
        tokens.token? field = found[field.index]?.map (Token.atWord expression field))
      (Tokens.ofWords expression second minute hour dayOfMonth month dayOfWeek year) := by
  intro found
  have hword : ∀ (field : Field) (word : Nat × List Char), found[field.index]? = some word →
      Outcome (fun e => RefusesWord expression found (.malformed e))
        (· = Token.atWord expression field word) (Token.ofWord expression field word) :=
    fun field word hfound =>
      (ofWord_outcome expression field word).imp (fun e he => ⟨field, word, hfound, he⟩)
        fun _ htoken => htoken
  simp only [Tokens.ofWords]
  refine (hword .second second rfl).bind fun _ hsecond => ?_
  refine (hword .minute minute rfl).bind fun _ hminute => ?_
  refine (hword .hour hour rfl).bind fun _ hhour => ?_
  refine (hword .dayOfMonth dayOfMonth rfl).bind fun _ hdays => ?_
  refine (hword .month month rfl).bind fun _ hmonth => ?_
  refine (hword .dayOfWeek dayOfWeek rfl).bind fun _ hweek => ?_
  subst hsecond hminute hhour hdays hmonth hweek
  cases year with
  | none => exact fun field => by cases field <;> rfl
  | some word =>
      have hyear : Outcome (fun e => RefusesWord expression found (.malformed e))
          (· = some (Token.atWord expression .year word))
          ((some word).mapM (Token.ofWord expression .year)) :=
        (hword .year word rfl).bind fun _ htoken => congrArg some htoken
      refine hyear.bind fun _ htoken => ?_
      subst htoken
      exact fun field => by cases field <;> rfl

/-- **An expression has six or seven words, and each becomes the token at its place**, or the number
of words is wrong or one of them has an empty element. -/
theorem tokenize_outcome (expression : List Char) :
    Outcome
      (fun e => e.field = none ∨
        RefusesWord (expandAlias expression) (words (expandAlias expression)) (.malformed e))
      (fun tokens => (words (expandAlias expression)).length ≤ 7 ∧ ∀ field,
        tokens.token? field = (words (expandAlias expression))[field.index]?.map
          (Token.atWord (expandAlias expression) field))
      (tokenize expression) := by
  unfold tokenize
  dsimp only
  split
  · rename_i hwords
    rw [hwords]
    exact (ofWords_outcome ..).imp (fun e he => Or.inr he) fun tokens h => ⟨by simp, h⟩
  · rename_i hwords
    rw [hwords]
    exact (ofWords_outcome ..).imp (fun e he => Or.inr he) fun tokens h => ⟨by simp, h⟩
  · exact Or.inl rfl

/-- A token of an expression is the upper case of one of its words, after an alias is replaced. -/
lemma tokenize_token {expression : List Char} {tokens : Tokens}
    (h : tokenize expression = .ok tokens) {field : Field} {token : Token}
    (htoken : tokens.token? field = some token) :
    ∃ word, (words (expandAlias expression))[field.index]? = some word ∧
      Token.atWord (expandAlias expression) field word = token := by
  rw [((tokenize_outcome expression).of_eq_ok h).2 field] at htoken
  exact Option.map_eq_some_iff.1 htoken

/-- The tokens of an expression are in their places. -/
lemma tokenize_inPlace {expression : List Char} {tokens : Tokens}
    (h : tokenize expression = .ok tokens) : tokens.InPlace := by
  intro field token htoken
  obtain ⟨word, -, rfl⟩ := tokenize_token h htoken
  rfl

end CronSchedule.Expression
