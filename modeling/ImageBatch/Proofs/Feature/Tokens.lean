import ImageBatch.Feature.Build
import ImageBatch.Proofs.Json.Fields
import ImageBatch.Proofs.Occurrences
import Mathlib.Data.List.Infix

/-!
The tokens of a user.

Each keyword of a column stands for the tokens of all texts of the table that it contains, in the order of the table
(`KeywordCategory.expansion`); in a category that was read the table is in the order of its texts
(`KeywordCategory.sorted_entriesFor`). A user gets the first occurrences of these, or of the keywords themselves where
that is wanted and there are none. So the keywords come back not only where no text of the table matches, which is what
falling back to them is for, but also where the texts that match have no tokens (`KeywordCategory.Hollow`);
`KeywordCategory.tokens_follow` says that this is the only difference.
-/

namespace ImageBatch

theorem Text.hasInfix_iff {pattern text : List Char} : hasInfix pattern text = true ↔ pattern <:+: text := by
  induction text with
  | nil => simp [hasInfix]
  | cons c rest ih => simp [hasInfix, ih, List.infix_cons_iff]

/-- One text stands in another. -/
theorem Text.contains_iff {text pattern : String} : contains text pattern = true ↔ pattern.toList <:+: text.toList :=
  hasInfix_iff

namespace KeywordCategory

variable {category : KeywordCategory} {user : UserRecord} {keyword : String}

/-- The entries of the table whose texts a keyword contains, in the order of the table. -/
def entriesFor (category : KeywordCategory) (keyword : String) : Entries (List String) :=
  category.keywords.filter fun entry => entry.1.toList <:+: keyword.toList

/-- The texts of a category that was read match in their own order. -/
theorem sorted_entriesFor {d : Document} (read : ofDocument? d = some category) (keyword : String) :
    (category.entriesFor keyword).Sorted := by
  simp only [ofDocument?, Option.bind_eq_bind, Option.bind_eq_some_iff] at read
  obtain ⟨fields, -, name, -, column, -, keywords, there, promptTokens, -, fallbackToRaw, -, same⟩ := read
  cases same
  have sorted : Entries.Sorted keywords := Document.Found.sorted_of_withDefault there
  exact sorted.sublist (List.Sublist.map _ List.filter_sublist)

/-- The tokens of all entries that match, keyword by keyword and for each keyword in the order of the table. -/
def expansion (category : KeywordCategory) (user : UserRecord) : List String :=
  (user.keywords category.column).flatMap fun keyword => (category.entriesFor keyword).flatMap (·.2)

/-- What there is without an expansion: the keywords themselves, if that is wanted. -/
def raw (category : KeywordCategory) (user : UserRecord) : List String :=
  if category.fallbackToRaw then user.keywords category.column else []

/-- Some keyword contains a text of the table. -/
def Matches (category : KeywordCategory) (user : UserRecord) : Prop :=
  ∃ keyword ∈ user.keywords category.column, ∃ entry ∈ category.keywords, entry.1.toList <:+: keyword.toList

/-- Some keyword contains a text of the table that has tokens. -/
def Yields (category : KeywordCategory) (user : UserRecord) : Prop :=
  ∃ keyword ∈ user.keywords category.column, ∃ entry ∈ category.keywords, entry.1.toList <:+: keyword.toList ∧
    entry.2 ≠ []

instance : Decidable (category.Matches user) := inferInstanceAs (Decidable (∃ keyword ∈ _, ∃ entry ∈ _, _))

instance : Decidable (category.Yields user) := inferInstanceAs (Decidable (∃ keyword ∈ _, ∃ entry ∈ _, _ ∧ _))

/-- Texts of the table match, but none that has tokens, and keywords may stand for themselves. -/
def Hollow (category : KeywordCategory) (user : UserRecord) : Prop :=
  category.Matches user ∧ ¬ category.Yields user ∧ category.fallbackToRaw = true

/-- The tokens of a keyword are those of the entries whose texts it contains. -/
theorem matching_eq (category : KeywordCategory) (keyword : String) :
    category.matching keyword = (category.entriesFor keyword).flatMap (·.2) := by
  unfold matching entriesFor
  induction category.keywords with
  | nil => rfl
  | cons entry rest ih =>
      obtain ⟨text, tokens⟩ := entry
      rw [List.flatMap_cons, ih]
      by_cases stands : text.toList <:+: keyword.toList
      · simp [Text.contains_iff, stands]
      · simp [Text.contains_iff, stands]

theorem expansion_eq_nil : category.expansion user = [] ↔ ¬ category.Yields user := by
  simp only [expansion, entriesFor, Yields, List.flatMap_eq_nil_iff, List.mem_filter, decide_eq_true_eq, and_imp,
    not_exists, not_and, not_not, ne_eq]

theorem Yields.matches (yields : category.Yields user) : category.Matches user := by
  obtain ⟨keyword, member, entry, there, stands, -⟩ := yields
  exact ⟨keyword, member, entry, there, stands⟩

/-- The list whose first occurrences are the tokens of a user. -/
def source (category : KeywordCategory) (user : UserRecord) : List String :=
  if category.Yields user then category.expansion user else category.raw user

/-- A user's tokens are the first occurrences of the expansion, or of what there is without one. -/
theorem firstOccurrences_tokens (category : KeywordCategory) (user : UserRecord) :
    FirstOccurrences (category.source user) (category.tokens user) := by
  have collected : (user.keywords category.column).flatMap category.matching = category.expansion user := by
    rw [expansion, funext category.matching_eq]
  have tokens : category.tokens user = (category.source user).eraseDups := by
    simp only [KeywordCategory.tokens, source, collected]
    by_cases yields : category.Yields user
    · have some_ : (category.expansion user).isEmpty = false := by
        rw [List.isEmpty_eq_false_iff]
        exact fun none_ => expansion_eq_nil.mp none_ yields
      rw [if_pos yields, some_, Bool.false_and, if_neg Bool.false_ne_true]
    · rw [if_neg yields, expansion_eq_nil.mpr yields, raw]
      rfl
  rw [tokens]
  exact firstOccurrences_eraseDups _

/-- No token comes twice. The tokens are the first occurrences of the expansion where some text that matches has tokens,
and of what there is without an expansion elsewhere. That is the same as asking only whether a text matches, unless those
that match have no tokens and the keywords stand for themselves. -/
theorem tokens_follow (category : KeywordCategory) (user : UserRecord) :
    (category.tokens user).Nodup ∧
    FirstOccurrences (if category.Yields user then category.expansion user else category.raw user)
      (category.tokens user) ∧
    (FirstOccurrences (if category.Matches user then category.expansion user else category.raw user)
      (category.tokens user) ↔ ¬ category.Hollow user) := by
  have first := firstOccurrences_tokens category user
  refine ⟨first.nodup, first, ?_⟩
  constructor
  · rintro documented ⟨hit, hollow, fallback⟩
    have ⟨keyword, member, _⟩ := hit
    have shown : keyword ∈ category.tokens user := by
      rw [first.mem_iff, source, if_neg hollow, raw, if_pos fallback]
      exact member
    rw [documented.mem_iff, if_pos hit, expansion_eq_nil.mpr hollow] at shown
    cases shown
  · intro sound
    by_cases yields : category.Yields user
    · rw [if_pos yields.matches]
      rwa [source, if_pos yields] at first
    · rw [source, if_neg yields] at first
      by_cases hit : category.Matches user
      · have plain : category.fallbackToRaw = false :=
          Bool.eq_false_iff.mpr fun fallback => sound ⟨hit, yields, fallback⟩
        rw [if_pos hit, expansion_eq_nil.mpr yields]
        rwa [raw, plain] at first
      · rwa [if_neg hit]

/-- A text without tokens, and a user who writes it. -/
def muted : KeywordCategory := ⟨"visual", "mood", [("Dark", [])], 0, true⟩
def gloomy : UserRecord := ⟨"ada", [("mood", "Dark")]⟩

/-- The user's keyword comes back though the table has a text for it. -/
theorem tokens_of_muted : muted.Matches gloomy ∧ muted.tokens gloomy = ["Dark"] ∧
    ¬ FirstOccurrences (muted.expansion gloomy) (muted.tokens gloomy) := by
  have tokens : muted.tokens gloomy = ["Dark"] := by decide +kernel
  refine ⟨by decide +kernel, tokens, fun first => ?_⟩
  have shown := (first.mem_iff "Dark").mp (by rw [tokens]; exact List.mem_cons_self)
  have none_ : muted.expansion gloomy = [] := by decide +kernel
  rw [none_] at shown
  cases shown

end KeywordCategory

end ImageBatch
