import ImageBatch.Text.Blank
import ImageBatch.Text.Split
import Mathlib.Data.List.TakeWhile

/-!
Texts that are cut, and the blanks at their ends.

Separators cut a text into stretches (`Text.Cut`, `Text.cut_splitOn`): a character that is none goes into a stretch, and
to cut at one kind of separators and then at another is to cut at both (`Text.flatMap_splitOn`). A text without the blanks
at its ends is bare, and a bare text stays as it is (`Text.isBare_trimChars`, `Text.trimChars_of_isBare`); nothing is left
of a text exactly if all of it is blank (`Text.trim_eq_empty`).
-/

namespace ImageBatch.Text

variable {isSeparator first second : Char → Bool} {stretch cs : List Char} {c : Char}

/-! ### Stretches -/

theorem splitOn_cons_of_not (other : isSeparator c = false) (cs : List Char) :
    ∃ stretch more, splitOn isSeparator cs = stretch :: more ∧
      splitOn isSeparator (c :: cs) = (c :: stretch) :: more := by
  have some_ : splitOn isSeparator cs ≠ [] := by
    cases cs with
    | nil => exact nofun
    | cons d ds =>
        unfold splitOn
        split
        · exact nofun
        · split <;> exact nofun
  obtain ⟨stretch, more, cut⟩ := List.exists_cons_of_ne_nil some_
  exact ⟨stretch, more, cut, by simp [splitOn, other, cut]⟩

/-- A text is cut at a separator before it is cut elsewhere. -/
theorem splitOn_append_cons (separates : isSeparator c = true) (before after : List Char) :
    splitOn isSeparator (before ++ c :: after) = splitOn isSeparator before ++ splitOn isSeparator after := by
  induction before with
  | nil => simp [splitOn, separates]
  | cons d ds ih =>
      cases other : isSeparator d with
      | true => simp [splitOn, other, ih]
      | false =>
          obtain ⟨stretch, more, cut, longer⟩ := splitOn_cons_of_not other ds
          rw [List.cons_append, splitOn, other, ih, cut, longer]
          rfl

/-- A text without separators is one stretch. -/
theorem splitOn_of_forall (whole : ∀ c ∈ stretch, isSeparator c = false) : splitOn isSeparator stretch = [stretch] := by
  induction stretch with
  | nil => rfl
  | cons c cs ih =>
      obtain ⟨first, others⟩ := List.forall_mem_cons.mp whole
      simp [splitOn, first, ih others]

/-- No stretch has a separator. -/
theorem isSeparator_of_mem_splitOn (cut : stretch ∈ splitOn isSeparator cs) (present : c ∈ stretch) :
    isSeparator c = false := by
  induction cs generalizing stretch with
  | nil =>
      obtain rfl := List.mem_singleton.mp cut
      cases present
  | cons d ds ih =>
      cases separates : isSeparator d with
      | true =>
          rw [splitOn, separates] at cut
          rcases List.mem_cons.mp cut with rfl | cut
          · cases present
          · exact ih cut present
      | false =>
          obtain ⟨first, more, before, after⟩ := splitOn_cons_of_not separates ds
          rw [before] at ih
          rcases List.mem_cons.mp (after ▸ cut) with rfl | cut
          · rcases List.mem_cons.mp present with rfl | present
            · exact separates
            · exact ih List.mem_cons_self present
          · exact ih (List.mem_cons_of_mem _ cut) present

/-- The stretches of a text between its separators, from the first to the last. -/
inductive Cut (separates : Char → Prop) : List Char → List (List Char) → Prop where
  | last {stretch : List Char} (whole : ∀ c ∈ stretch, ¬ separates c) : Cut separates stretch [stretch]
  | more {stretch rest : List Char} {c : Char} {stretches : List (List Char)} (whole : ∀ c ∈ stretch, ¬ separates c)
      (separator : separates c) (cut : Cut separates rest stretches) :
      Cut separates (stretch ++ c :: rest) (stretch :: stretches)

/-- A character that is no separator goes into the first stretch. -/
theorem Cut.cons {separates : Char → Prop} {stretches : List (List Char)} (other : ¬ separates c)
    (cut : Cut separates cs (stretch :: stretches)) : Cut separates (c :: cs) ((c :: stretch) :: stretches) := by
  cases cut with
  | last whole => exact .last (List.forall_mem_cons.mpr ⟨other, whole⟩)
  | more whole separator cut => exact .more (List.forall_mem_cons.mpr ⟨other, whole⟩) separator cut

theorem cut_splitOn (isSeparator : Char → Bool) (cs : List Char) :
    Cut (fun c => isSeparator c = true) cs (splitOn isSeparator cs) := by
  induction cs with
  | nil => exact .last nofun
  | cons c cs ih =>
      cases separates : isSeparator c with
      | true =>
          have empty : ∀ c ∈ ([] : List Char), ¬ isSeparator c = true := nofun
          rw [splitOn, if_pos separates]
          exact .more empty separates ih
      | false =>
          obtain ⟨stretch, more, before, after⟩ := splitOn_cons_of_not separates cs
          rw [before] at ih
          rw [after]
          exact ih.cons (by simp [separates])

/-- To cut at one kind of separators and then at another is to cut at both. -/
theorem flatMap_splitOn (first second : Char → Bool) (cs : List Char) :
    (splitOn first cs).flatMap (splitOn second) = splitOn (fun c => first c || second c) cs := by
  induction cs with
  | nil => rfl
  | cons c cs ih =>
      cases outer : first c with
      | true => simp [splitOn, outer, ih]
      | false =>
          obtain ⟨stretch, more, before, after⟩ := splitOn_cons_of_not outer cs
          rw [before, List.flatMap_cons] at ih
          rw [after, List.flatMap_cons]
          cases inner : second c with
          | true => simp [splitOn, outer, inner, ih]
          | false =>
              obtain ⟨own, others, cut, longer⟩ := splitOn_cons_of_not inner stretch
              rw [cut] at ih
              rw [longer, splitOn, if_neg (by simp [outer, inner]), ← ih]
              rfl

/-- A character at the end that is no separator goes into the last stretch. -/
theorem splitOn_append_singleton (other : isSeparator c = false) (cs : List Char) :
    ∃ init last, splitOn isSeparator cs = init ++ [last] ∧ splitOn isSeparator (cs ++ [c]) = init ++ [last ++ [c]] := by
  induction cs with
  | nil => exact ⟨[], [], rfl, by simp [splitOn, other]⟩
  | cons d ds ih =>
      obtain ⟨init, last, before, after⟩ := ih
      cases separates : isSeparator d with
      | true => exact ⟨[] :: init, last, by simp [splitOn, separates, before], by simp [splitOn, separates, after]⟩
      | false =>
          cases init with
          | nil => exact ⟨[], d :: last, by simp [splitOn, separates, before], by simp [splitOn, separates, after]⟩
          | cons stretch more =>
              exact ⟨(d :: stretch) :: more, last, by simp [splitOn, separates, before],
                by simp [splitOn, separates, after]⟩

/-! ### Blanks -/

/-- What is left of a text does not begin with a blank. -/
theorem not_isBlank_of_head? (head : (trimStart cs).head? = some c) : isBlank c = false := by
  have first := List.head?_dropWhile_not isBlank cs
  unfold trimStart at head
  rw [head] at first
  simpa using first

theorem trimChars_eq_nil : trimChars cs = [] ↔ ∀ c ∈ cs, isBlank c = true := by
  rw [trimChars, trimEnd, List.reverse_eq_nil_iff, List.dropWhile_eq_nil_iff]
  constructor
  · intro blank
    cases left : trimStart cs with
    | nil => exact List.dropWhile_eq_nil_iff.mp left
    | cons c rest =>
        have visible : isBlank c = false := not_isBlank_of_head? (by rw [left, List.head?_cons])
        rw [blank c (by simp [left])] at visible
        cases visible
  · intro blank c member
    exact blank c ((List.dropWhile_sublist isBlank).mem (List.mem_reverse.mp member))

theorem trim_eq_empty {text : String} : trim text = "" ↔ ∀ c ∈ text.toList, isBlank c = true := by
  rw [trim, String.ofList_eq_empty_iff, trimChars_eq_nil]

/-- Neither the first nor the last character is blank. -/
def IsBare (cs : List Char) : Prop := ∀ c, cs.head? = some c ∨ cs.getLast? = some c → isBlank c = false

theorem trimChars_cons (blank : isBlank c = true) (cs : List Char) : trimChars (c :: cs) = trimChars cs := by
  rw [trimChars, trimStart, List.dropWhile_cons_of_pos blank]
  rfl

theorem trimChars_append_singleton (blank : isBlank c = true) (cs : List Char) :
    trimChars (cs ++ [c]) = trimChars cs := by
  unfold trimChars trimStart
  rw [List.dropWhile_append]
  split
  next none_ =>
      rw [List.isEmpty_iff.mp none_, List.dropWhile_cons_of_pos blank]
      rfl
  next =>
      unfold trimEnd
      rw [List.reverse_append, List.reverse_singleton, List.singleton_append, List.dropWhile_cons_of_pos blank]

theorem mem_of_mem_trimChars (present : c ∈ trimChars cs) : c ∈ cs := by
  have reversed : c ∈ (trimStart cs).reverse := (List.dropWhile_sublist _).mem (List.mem_reverse.mp present)
  exact (List.dropWhile_sublist _).mem (List.mem_reverse.mp reversed)

theorem trimChars_of_isBare (bare : IsBare cs) : trimChars cs = cs := by
  have start {cs : List Char} (visible : ∀ c, cs.head? = some c → isBlank c = false) : cs.dropWhile isBlank = cs := by
    cases cs with
    | nil => rfl
    | cons c cs => exact List.dropWhile_cons_of_neg (by simp [visible c rfl])
  rw [trimChars, trimStart, start fun c head => bare c (.inl head), trimEnd,
    start fun c head => bare c (.inr (by simpa using head)), List.reverse_reverse]

theorem isBare_trimChars (cs : List Char) : IsBare (trimChars cs) := by
  rintro c (head | last)
  · -- What is left from both ends begins as what is left from the front.
    rw [trimChars, trimEnd, List.head?_reverse] at head
    have suffix : (trimStart cs).reverse.dropWhile isBlank <:+ (trimStart cs).reverse := List.dropWhile_suffix _
    obtain ⟨before, whole⟩ := suffix
    have last : (trimStart cs).reverse.getLast? = some c := by
      rw [← whole, List.getLast?_append, head, Option.some_or]
    rw [List.getLast?_reverse] at last
    exact not_isBlank_of_head? last
  · rw [trimChars, trimEnd, List.getLast?_reverse] at last
    exact not_isBlank_of_head? last

end ImageBatch.Text
