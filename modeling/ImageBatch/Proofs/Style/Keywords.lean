import ImageBatch.Proofs.Occurrences
import ImageBatch.Proofs.Text.Cutting
import ImageBatch.Style.Keywords

/-!
The keywords of a text.

Commas, slashes and line feeds cut a text into stretches (`Text.Cut`). Lines, the cells between commas and the keywords
between slashes are together these stretches, each without the blanks at its ends (`Keywords.ofTextChars_eq`); the
carriage return that may end a line is one of these blanks. The keywords of a text are the first occurrences of those
that are not empty. Keywords that are all different are read back when they stand in one text with a comma and a space
between them (`Keywords.ofText_commaJoin`).
-/

namespace ImageBatch.Keywords

variable {text keyword : String} {keywords : List String} {c : Char} {cs : List Char}

/-- A comma, a slash or a line feed. -/
def IsMark (c : Char) : Prop := c = ',' ∨ c = '/' ∨ c = '\n'

/-- A text that can be a keyword: not empty, without blanks at its ends and without marks. -/
structure IsKeyword (keyword : String) : Prop where
  some_ : keyword ≠ ""
  bare : Text.IsBare keyword.toList
  whole : ∀ c ∈ keyword.toList, ¬ IsMark c

def isMark (c : Char) : Bool := c == '\n' || (c == ',' || c == '/')

theorem isMark_iff : isMark c = true ↔ IsMark c := by
  simp only [isMark, IsMark, Bool.or_eq_true, beq_iff_eq]
  tauto

/-- What the stretches of a text say: each without the blanks at its ends, if anything is left. -/
def said (stretches : List (List Char)) : List (List Char) :=
  (stretches.map Text.trimChars).filter fun keyword => !keyword.isEmpty

theorem said_flatMap {α : Type} (items : List α) (cut : α → List (List Char)) :
    (items.flatMap fun item => said (cut item)) = said (items.flatMap cut) := by
  rw [said, List.map_flatMap, List.filter_flatMap]
  rfl

/-- The keywords of the cells of a line. -/
theorem ofLine_eq (line : List Char) : (Text.splitOn (· == ',') line).flatMap ofCellChars =
    said (Text.splitOn (fun c => c == ',' || c == '/') line) :=
  (said_flatMap _ (Text.splitOn (· == '/'))).trans (congrArg said (Text.flatMap_splitOn ..))

/-- The carriage return at the end of a line is a blank at the end of a stretch. -/
theorem said_dropReturn (line : List Char) : said (Text.splitOn (fun c => c == ',' || c == '/') (Text.dropReturn line)) =
    said (Text.splitOn (fun c => c == ',' || c == '/') line) := by
  unfold Text.dropReturn
  split
  next ends =>
      obtain ⟨start, rfl⟩ := List.getLast?_eq_some_iff.mp ends
      have blank : Text.isBlank '\r' = true := rfl
      obtain ⟨init, last, before, after⟩ :=
        @Text.splitOn_append_singleton (fun c => c == ',' || c == '/') '\r' rfl start
      rw [List.dropLast_concat, before, after]
      simp [said, Text.trimChars_append_singleton blank]
  next => rfl

/-- The lines of a text say what the stretches between its line feeds say. -/
theorem flatMap_lines {keep : List Char → List (List Char)} (nothing : keep [] = [])
    (unreturned : ∀ line, keep (Text.dropReturn line) = keep line) (cs : List Char) :
    (Text.lines cs).flatMap keep = (Text.splitOn (· == '\n') cs).flatMap keep := by
  have ended (stretches : List (List Char)) : (stretches.map Text.dropReturn).flatMap keep = stretches.flatMap keep := by
    rw [List.flatMap_map]
    exact List.flatMap_congr fun line _ => unreturned line
  unfold Text.lines
  cases last : (Text.splitOn (· == '\n') cs).getLast? with
  | none => simp [List.getLast?_eq_none_iff.mp last]
  | some line =>
      obtain ⟨before, cut⟩ := List.getLast?_eq_some_iff.mp last
      simp only [cut, List.dropLast_concat]
      cases line with
      | nil => simp [ended, nothing]
      | cons c rest => simp [ended]

/-- The keywords of a text are what its stretches say, without repetitions. -/
theorem ofTextChars_eq (cs : List Char) : ofTextChars cs = (said (Text.splitOn isMark cs)).eraseDups := by
  unfold ofTextChars
  rw [funext ofLine_eq, flatMap_lines rfl said_dropReturn, said_flatMap, Text.flatMap_splitOn]
  rfl

theorem ofText_eq (text : String) :
    ofText text = ((said (Text.splitOn isMark text.toList)).map String.ofList).eraseDups := by
  rw [ofText, ofTextChars_eq, eraseDups_map fun _ _ => String.ofList_injective]

theorem isKeyword_of_mem_said (member : cs ∈ said (Text.splitOn isMark text.toList)) :
    IsKeyword (String.ofList cs) := by
  obtain ⟨trimmed, left⟩ := List.mem_filter.mp member
  obtain ⟨stretch, cut, rfl⟩ := List.mem_map.mp trimmed
  constructor
  · simpa using left
  · rw [String.toList_ofList]
    exact Text.isBare_trimChars stretch
  · rw [String.toList_ofList]
    intro c present mark
    have other := Text.isSeparator_of_mem_splitOn cut (Text.mem_of_mem_trimChars present)
    rw [isMark_iff.mpr mark] at other
    cases other

/-- A keyword alone says itself. -/
theorem said_of_isKeyword (keyword_ : IsKeyword keyword) (more : List (List Char)) :
    said (keyword.toList :: more) = keyword.toList :: said more := by
  have left : keyword.toList ≠ [] := by simpa using keyword_.some_
  simp [said, Text.trimChars_of_isBare keyword_.bare, left]

theorem splitOn_of_isKeyword (keyword_ : IsKeyword keyword) : Text.splitOn isMark keyword.toList = [keyword.toList] :=
  Text.splitOn_of_forall fun c present =>
    Bool.eq_false_iff.mpr fun mark => keyword_.whole c present (isMark_iff.mp mark)

theorem said_space (cs : List Char) : said (Text.splitOn isMark (' ' :: cs)) = said (Text.splitOn isMark cs) := by
  have blank : Text.isBlank ' ' = true := rfl
  obtain ⟨stretch, more, before, after⟩ := @Text.splitOn_cons_of_not isMark ' ' rfl cs
  simp [said, before, after, Text.trimChars_cons blank]

/-- Keywords with a comma and a space between them say what they are. -/
theorem said_commaJoin (all : ∀ keyword ∈ keywords, IsKeyword keyword) :
    said (Text.splitOn isMark (Text.commaJoin keywords).toList) = keywords.map String.toList := by
  induction keywords with
  | nil => rfl
  | cons first rest ih =>
      obtain ⟨one, others⟩ := List.forall_mem_cons.mp all
      cases rest with
      | nil =>
          have single : Text.commaJoin [first] = first := rfl
          rw [single, splitOn_of_isKeyword one, said_of_isKeyword one]
          rfl
      | cons second rest =>
          have joined : (Text.commaJoin (first :: second :: rest)).toList =
              first.toList ++ ',' :: ' ' :: (Text.commaJoin (second :: rest)).toList := by
            simp [Text.commaJoin, String.intercalate_cons_cons]
          rw [joined, Text.splitOn_append_cons rfl, splitOn_of_isKeyword one, List.singleton_append,
            said_of_isKeyword one, said_space, ih others]
          rfl

/-- Different keywords are read back from a text of them. -/
theorem ofText_commaJoin (all : ∀ keyword ∈ keywords, IsKeyword keyword) (once : keywords.Nodup) :
    ofText (Text.commaJoin keywords) = keywords := by
  rw [ofText_eq, said_commaJoin all, List.map_map]
  simp [eraseDups_of_nodup once, Function.comp_def]

/-- The keywords of a text are all different and are keywords, and they are what the stretches between commas, slashes
and line feeds say, each where it first stands. From a text of these keywords the same ones are read. -/
theorem ofText_canonical (text : String) :
    (ofText text).Nodup ∧ (∀ keyword ∈ ofText text, IsKeyword keyword) ∧
    (∃ stretches, Text.Cut IsMark text.toList stretches ∧
      FirstOccurrences ((stretches.map fun stretch => Text.trim (String.ofList stretch)).filter (· ≠ ""))
        (ofText text)) ∧
    ofText (Text.commaJoin (ofText text)) = ofText text := by
  have shown : (said (Text.splitOn isMark text.toList)).map String.ofList =
      ((Text.splitOn isMark text.toList).map fun stretch => Text.trim (String.ofList stretch)).filter (· ≠ "") := by
    simp only [said, Text.trim, String.toList_ofList, List.filter_map, List.map_map]
    congr 1
    refine List.filter_congr fun stretch _ => ?_
    rw [Bool.eq_iff_iff]
    simp
  have first := firstOccurrences_eraseDups ((said (Text.splitOn isMark text.toList)).map String.ofList)
  rw [← ofText_eq] at first
  have all : ∀ keyword ∈ ofText text, IsKeyword keyword := by
    intro keyword member
    rw [first.mem_iff] at member
    obtain ⟨cs, said, rfl⟩ := List.mem_map.mp member
    exact isKeyword_of_mem_said said
  have cut := Text.cut_splitOn isMark text.toList
  simp only [isMark_iff] at cut
  rw [shown] at first
  exact ⟨first.nodup, all, ⟨_, cut, first⟩, ofText_commaJoin all first.nodup⟩

end ImageBatch.Keywords
