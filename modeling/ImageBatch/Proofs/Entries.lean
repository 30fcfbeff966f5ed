import ImageBatch.Entries
import Mathlib.Data.List.Nodup

/-!
Entries in the order of their names.

Entries that are built by insertion are `Sorted`: each name stands there once, and in its place
(`Entries.sorted_ofList`). A new value for a name that is there moves nothing (`Entries.names_insert`), and of
several values for one name the last is the one that is found (`Entries.get?_ofList`). Sorted entries are known by what
is found in them (`Entries.Sorted.ext`), so pairs with different names may be inserted in any order
(`Entries.ofList_perm`).
-/

namespace ImageBatch.Entries

variable {α : Type} {entries : Entries α} {name other : String} {value : α}

/-- Each name once, in the order of the names. -/
def Sorted (entries : Entries α) : Prop := entries.names.Pairwise (· < ·)

theorem sorted_nil : Sorted ([] : Entries α) := List.Pairwise.nil

theorem sorted_cons {entry : String × α} :
    Sorted (entry :: entries) ↔ (∀ later ∈ entries.names, entry.1 < later) ∧ Sorted entries :=
  List.pairwise_cons

/-! ### Look-up -/

theorem mem_of_get? (found : get? name entries = some value) : (name, value) ∈ entries := by
  induction entries with
  | nil => cases found
  | cons entry rest ih =>
      obtain ⟨key, old⟩ := entry
      unfold get? at found
      split at found
      next same =>
          cases found
          exact same ▸ List.mem_cons_self
      next => exact List.mem_cons_of_mem _ (ih found)

theorem contains_iff : contains name entries = true ↔ name ∈ entries.names := by
  induction entries with
  | nil => simp [contains, get?, names]
  | cons entry rest ih =>
      obtain ⟨key, old⟩ := entry
      by_cases same : key = name
      · simp [contains, get?, names, same]
      · simpa [contains, get?, names, same, Ne.symm same] using ih

theorem mem_names_iff : name ∈ entries.names ↔ ∃ value, get? name entries = some value := by
  rw [← contains_iff, contains, Option.isSome_iff_exists]

/-- Where no name comes twice, each entry is found under its name. -/
theorem get?_eq_some_iff (once : entries.names.Nodup) : get? name entries = some value ↔ (name, value) ∈ entries := by
  refine ⟨mem_of_get?, fun member => ?_⟩
  induction entries with
  | nil => cases member
  | cons entry rest ih =>
      obtain ⟨key, old⟩ := entry
      obtain ⟨absent, once⟩ := List.nodup_cons.mp once
      unfold get?
      rcases List.mem_cons.mp member with same | later
      · cases same
        exact if_pos rfl
      · have other : key ≠ name := by
          rintro rfl
          exact absent (List.mem_map_of_mem (f := (·.1)) later)
        rw [if_neg other]
        exact ih once later

theorem get?_eq_find? (entries : Entries α) : get? name entries = (entries.find? (·.1 == name)).map (·.2) := by
  induction entries with
  | nil => rfl
  | cons entry rest ih =>
      obtain ⟨key, old⟩ := entry
      by_cases same : key = name
      · simp [get?, same]
      · simp [get?, same, ih]

/-- Of several values for one name the last is found, and it hides what was there before. -/
theorem get?_insertAll (pairs : List (String × α)) (entries : Entries α) :
    get? name (insertAll entries pairs) =
      ((pairs.reverse.find? (·.1 == name)).map (·.2)).or (get? name entries) := by
  induction pairs generalizing entries with
  | nil => simp [insertAll]
  | cons first rest ih =>
      obtain ⟨key, given⟩ := first
      have step : insertAll entries ((key, given) :: rest) = insertAll (insert key given entries) rest := rfl
      rw [step, ih, get?_insert, List.reverse_cons, List.find?_append]
      cases rest.reverse.find? (·.1 == name) with
      | some later => simp
      | none =>
          by_cases same : key = name
          · simp [same]
          · simp [same, Ne.symm same]

theorem get?_ofList (pairs : List (String × α)) :
    get? name (ofList pairs) = (pairs.reverse.find? (·.1 == name)).map (·.2) := by
  rw [ofList, get?_insertAll]
  simp [get?]

/-- What is inserted later hides what was inserted before. -/
theorem get?_ofList_append (pairs later : List (String × α)) :
    get? name (ofList (pairs ++ later)) =
      ((later.reverse.find? (·.1 == name)).map (·.2)).or (get? name (ofList pairs)) := by
  rw [← get?_insertAll, ofList, insertAll, List.foldl_append]
  rfl

/-- Of several layers the first one that has a name gives its value, where the first is inserted last. -/
theorem get?_ofList_flatten (layers : List (List (String × α))) :
    get? name (ofList layers.reverse.flatten) = layers.findSome? fun layer => get? name (ofList layer) := by
  induction layers with
  | nil => rfl
  | cons layer rest ih =>
      rw [List.reverse_cons, List.flatten_append, List.flatten_singleton, get?_ofList_append, ← get?_ofList, ih,
        List.findSome?_cons]
      cases get? name (ofList layer) <;> rfl

/-- Where no name comes twice, what is inserted is what is found. -/
theorem get?_ofList_eq_some_iff {pairs : List (String × α)} (once : (pairs.map (·.1)).Nodup) :
    get? name (ofList pairs) = some value ↔ (name, value) ∈ pairs := by
  have reversed : (names pairs.reverse).Nodup := by
    rw [names, List.map_reverse]
    exact List.nodup_reverse.mpr once
  rw [get?_ofList, ← get?_eq_find?, get?_eq_some_iff reversed, List.mem_reverse]

/-! ### Order -/

theorem mem_names_insert (member : other ∈ (insert name value entries).names) :
    other = name ∨ other ∈ entries.names := by
  rw [← contains_iff, contains, get?_insert] at member
  by_cases same : other = name
  · exact .inl same
  · rw [if_neg same] at member
    exact .inr (contains_iff.mp member)

/-- Insertion keeps the order. -/
theorem Sorted.insert (sorted : Sorted entries) (name : String) (value : α) :
    Sorted (Entries.insert name value entries) := by
  induction entries with
  | nil => simp [Sorted, Entries.insert, names]
  | cons entry rest ih =>
      obtain ⟨key, old⟩ := entry
      obtain ⟨before, ordered⟩ := sorted_cons.mp sorted
      unfold Entries.insert
      split
      next same =>
          subst same
          exact sorted_cons.mpr ⟨before, ordered⟩
      next ne =>
          split
          next smaller =>
              refine sorted_cons.mpr ⟨?_, sorted⟩
              intro later member
              obtain rfl | member := List.mem_cons.mp member
              · exact smaller
              · exact String.lt_trans smaller (before later member)
          next notSmaller =>
              have larger : key < name :=
                Decidable.byContradiction fun notLarger =>
                  ne (String.le_antisymm (String.not_lt.mp notSmaller) (String.not_lt.mp notLarger))
              refine sorted_cons.mpr ⟨?_, ih ordered⟩
              intro later member
              obtain rfl | member := mem_names_insert member
              · exact larger
              · exact before later member

theorem Sorted.insertAll (sorted : Sorted entries) (pairs : List (String × α)) :
    Sorted (Entries.insertAll entries pairs) := by
  induction pairs generalizing entries with
  | nil => exact sorted
  | cons first rest ih => exact ih (sorted.insert first.1 first.2)

theorem sorted_ofList (pairs : List (String × α)) : Sorted (ofList pairs) := sorted_nil.insertAll pairs

theorem Sorted.once (sorted : Sorted entries) : entries.names.Nodup := sorted.imp String.ne_of_lt

/-- Entries in order are known by what is found in them. -/
theorem Sorted.ext {others : Entries α} (sorted : Sorted entries) (also : Sorted others)
    (same : ∀ name value, get? name entries = some value ↔ get? name others = some value) : entries = others := by
  have members (entry : String × α) : entry ∈ entries ↔ entry ∈ others := by
    rw [← get?_eq_some_iff sorted.once, same, get?_eq_some_iff also.once]
  have perm : entries.Perm others :=
    (List.perm_ext_iff_of_nodup (List.Nodup.of_map _ sorted.once) (List.Nodup.of_map _ also.once)).mpr members
  refine perm.eq_of_pairwise ?_ (List.pairwise_map.mp sorted) (List.pairwise_map.mp also)
  intro entry other _ _ before after
  exact absurd after (String.lt_asymm before)

/-- Pairs with different names may be inserted in any order. -/
theorem ofList_perm {pairs others : List (String × α)} (perm : pairs.Perm others) (once : (pairs.map (·.1)).Nodup) :
    ofList pairs = ofList others := by
  refine (sorted_ofList pairs).ext (sorted_ofList others) fun name value => ?_
  rw [get?_ofList_eq_some_iff once, get?_ofList_eq_some_iff ((perm.map (·.1)).nodup_iff.mp once), perm.mem_iff]

/-- A name that is there stays in its place. -/
theorem names_insert (sorted : Sorted entries) (present : name ∈ entries.names) :
    (insert name value entries).names = entries.names := by
  induction entries with
  | nil => cases present
  | cons entry rest ih =>
      obtain ⟨key, old⟩ := entry
      obtain ⟨before, ordered⟩ := sorted_cons.mp sorted
      unfold insert
      split
      next same =>
          subst same
          rfl
      next ne =>
          have later : name ∈ names rest := (List.mem_cons.mp present).resolve_left (Ne.symm ne)
          -- The names after the first are larger, so the name does not go in front of it.
          rw [if_neg (String.lt_asymm (before name later))]
          exact congrArg (key :: ·) (ih ordered later)

end ImageBatch.Entries
