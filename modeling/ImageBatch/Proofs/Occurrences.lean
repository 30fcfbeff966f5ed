import Mathlib.Data.List.Basic
import Mathlib.Data.List.Induction

/-!
Which item of a list counts.

Of the items that have a property the first one counts (`FirstSuch`), or the last one (`LastSuch`); a search from the
front finds the first, a search from the end the last, and of several items that may have a value the first one that has
any gives it. Of equal items the first occurrences may be kept, in their order
(`FirstOccurrences`); that is what is left when repetitions are taken out.
-/

namespace ImageBatch

variable {α : Type} {p : α → Prop} {test : α → Bool} {items kept : List α} {item other : α}

/-- The first item that has a property. -/
def FirstSuch (p : α → Prop) (items : List α) (item : α) : Prop :=
  ∃ before after, items = before ++ item :: after ∧ p item ∧ ∀ earlier ∈ before, ¬ p earlier

/-- The last item that has a property. -/
def LastSuch (p : α → Prop) (items : List α) (item : α) : Prop :=
  ∃ before after, items = before ++ item :: after ∧ p item ∧ ∀ later ∈ after, ¬ p later

theorem find?_eq_some_iff_firstSuch (agrees : ∀ item, test item = true ↔ p item) :
    items.find? test = some item ↔ FirstSuch p items item := by
  rw [List.find?_eq_some_iff_append, agrees]
  constructor
  · rintro ⟨holds, before, after, split, fails⟩
    refine ⟨before, after, split, holds, fun earlier member => ?_⟩
    rw [← agrees]
    simpa using fails earlier member
  · rintro ⟨before, after, split, holds, fails⟩
    refine ⟨holds, before, after, split, fun earlier member => ?_⟩
    simpa [← agrees] using fails earlier member

/-- A search from the end finds the last item. -/
theorem find?_reverse_eq_some_iff_lastSuch (agrees : ∀ item, test item = true ↔ p item) :
    items.reverse.find? test = some item ↔ LastSuch p items item := by
  rw [find?_eq_some_iff_firstSuch agrees]
  constructor
  · rintro ⟨after, before, split, holds, fails⟩
    refine ⟨before.reverse, after.reverse, ?_, holds, fun later member => fails later (List.mem_reverse.mp member)⟩
    rw [← List.reverse_reverse items, split]
    simp
  · rintro ⟨before, after, split, holds, fails⟩
    refine ⟨after.reverse, before.reverse, ?_, holds, fun later member => fails later (List.mem_reverse.mp member)⟩
    rw [split]
    simp

/-- The value that a search finds is that of the first item that has one. -/
theorem findSome?_eq_some_iff_firstSuch {β : Type} {has : α → β → Prop} {value? : α → Option β} {value : β}
    (agrees : ∀ item value, value? item = some value ↔ has item value) :
    items.findSome? value? = some value ↔
      ∃ item, FirstSuch (fun item => ∃ value, has item value) items item ∧ has item value := by
  have without (item : α) : value? item = none ↔ ¬ ∃ value, has item value := by
    simp only [Option.eq_none_iff_forall_ne_some, ne_eq, agrees, not_exists]
  rw [List.findSome?_eq_some_iff]
  constructor
  · rintro ⟨before, item, after, split, found, fails⟩
    have own : has item value := (agrees item value).mp found
    exact ⟨item, ⟨before, after, split, ⟨value, own⟩, fun earlier member => (without earlier).mp (fails earlier member)⟩,
      own⟩
  · rintro ⟨item, ⟨before, after, split, -, fails⟩, own⟩
    exact ⟨before, item, after, split, (agrees item value).mpr own,
      fun earlier member => (without earlier).mpr (fails earlier member)⟩

theorem FirstSuch.mem (first : FirstSuch p items item) : item ∈ items ∧ p item := by
  obtain ⟨before, after, rfl, holds, -⟩ := first
  exact ⟨List.mem_append_right before List.mem_cons_self, holds⟩

theorem LastSuch.mem (last : LastSuch p items item) : item ∈ items ∧ p item := by
  obtain ⟨before, after, rfl, holds, -⟩ := last
  exact ⟨List.mem_append_right before List.mem_cons_self, holds⟩

theorem FirstSuch.unique (first : FirstSuch p items item) (also : FirstSuch p items other) : item = other := by
  classical
  have agrees (item : α) : decide (p item) = true ↔ p item := decide_eq_true_iff
  have found := (find?_eq_some_iff_firstSuch agrees).mpr first
  exact Option.some.inj (found.symm.trans ((find?_eq_some_iff_firstSuch agrees).mpr also))

/-! ### First occurrences -/

/-- Where nothing comes twice no repetition is taken out. -/
theorem eraseDups_of_nodup [BEq α] [LawfulBEq α] (once : items.Nodup) : items.eraseDups = items := by
  induction items with
  | nil => rfl
  | cons item rest ih =>
      obtain ⟨absent, once⟩ := List.nodup_cons.mp once
      have others : rest.filter (fun other => !other == item) = rest := by
        simp only [List.filter_eq_self, Bool.not_eq_true', beq_eq_false_iff_ne]
        rintro other member rfl
        exact absent member
      rw [List.eraseDups_cons, others, ih once]

/-- Different items have different images, so the same repetitions are taken out of both. -/
theorem eraseDups_map {β : Type} [BEq α] [LawfulBEq α] [BEq β] [LawfulBEq β] {f : α → β}
    (injective : ∀ item other, f item = f other → item = other) (items : List α) :
    (items.map f).eraseDups = items.eraseDups.map f := by
  induction items using List.reverseRecOn with
  | nil => rfl
  | append_singleton items last ih =>
      rw [List.map_append, List.eraseDups_append, List.eraseDups_append, ih, List.map_append, List.map_singleton]
      by_cases old : last ∈ items
      · have alsoOld : f last ∈ items.map f := List.mem_map_of_mem old
        simp [List.removeAll, old, alsoOld, -List.mem_map]
      · have new : f last ∉ items.map f := by
          rw [List.mem_map]
          rintro ⟨item, member, same⟩
          exact old (injective item last same ▸ member)
        simp [List.removeAll, List.eraseDups_cons, old, new, -List.mem_map]

variable [DecidableEq α]

/-- What is left of a list when of equal items only the first one is kept: the same items, in the order in which they
first come up. -/
structure FirstOccurrences (items kept : List α) : Prop where
  mem_iff : ∀ item, item ∈ kept ↔ item ∈ items
  ordered : kept.Pairwise fun item other => items.idxOf item < items.idxOf other

theorem FirstOccurrences.nodup (first : FirstOccurrences items kept) : kept.Nodup := by
  refine first.ordered.imp ?_
  rintro item _ before rfl
  exact Nat.lt_irrefl _ before

/-- Taking out repetitions keeps the first occurrences. -/
theorem firstOccurrences_eraseDups (items : List α) : FirstOccurrences items items.eraseDups := by
  refine ⟨fun item => List.mem_eraseDups, ?_⟩
  induction items using List.reverseRecOn with
  | nil => exact List.Pairwise.nil
  | append_singleton items last ih =>
      -- What was kept of the items keeps its order, and the last item comes after all of them if it is new.
      have kept : items.eraseDups.Pairwise fun item other =>
          (items ++ [last]).idxOf item < (items ++ [last]).idxOf other := by
        refine ih.imp_of_mem fun member also before => ?_
        rw [List.mem_eraseDups] at member also
        rwa [List.idxOf_append_of_mem member, List.idxOf_append_of_mem also]
      by_cases old : last ∈ items
      · rw [List.eraseDups_append]
        simpa [List.removeAll, old] using kept
      · have new : ([last].removeAll items).eraseDups = [last] := by
          simp [List.removeAll, old, List.eraseDups_cons]
        rw [List.eraseDups_append, new]
        refine List.pairwise_append.mpr ⟨kept, List.pairwise_singleton _ last, ?_⟩
        intro item member other also
        obtain rfl := List.mem_singleton.mp also
        rw [List.mem_eraseDups] at member
        rw [List.idxOf_append_of_mem member, List.idxOf_append_of_notMem old]
        exact Nat.lt_add_right _ (List.idxOf_lt_length_of_mem member)

end ImageBatch
