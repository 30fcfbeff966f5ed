import ImageBatch.Json.Document
import ImageBatch.Proofs.Entries

/-!
The order of fields.

An object whose names are all different may have its fields written in any order, and so may the objects inside it
(`Document.Reorders`): its value is the same (`Document.Reorders.toJson?_eq`). Entries that are read from a field come in
the order of their names, however they were written (`Document.Found.sorted_of_withDefault`).
-/

namespace ImageBatch.Document

variable {fields others before after : List (Option String × Document)} {pairs : List (String × Json)}
  {name : Option String} {d e : Document} {room : Nat}

/-- The fields of one object, whose names are all different, stand in another order. -/
inductive Reorders : Document → Document → Prop where
  | here {written others : List (Option String × Document)} (perm : written.Perm others)
      (once : (written.map (·.1)).Nodup) : Reorders (.object written) (.object others)
  | inside {prior later : List (Option String × Document)} {key : Option String} {inner other : Document}
      (reordered : Reorders inner other) :
      Reorders (.object (prior ++ (key, inner) :: later)) (.object (prior ++ (key, other) :: later))

theorem fields?_cons_eq_some : fields? room ((name, d) :: fields) = some pairs ↔
    ∃ text value rest, name = some text ∧ d.toJson? room = some value ∧ fields? room fields = some rest ∧
      pairs = (text, value) :: rest := by
  cases name with
  | none => simp [fields?]
  | some text =>
      cases taken : d.toJson? room with
      | none => simp [fields?, taken]
      | some value =>
          cases there : fields? room fields with
          | none => simp [fields?, taken, there]
          | some rest => simp [fields?, taken, there, eq_comm]

/-- Fields in another order have the same values in that order. -/
theorem fields?_perm (perm : fields.Perm others) (read : fields? room fields = some pairs) :
    ∃ values, fields? room others = some values ∧ pairs.Perm values := by
  induction perm generalizing pairs with
  | nil => exact ⟨pairs, read, .refl pairs⟩
  | cons field _ ih =>
      obtain ⟨text, value, rest, named, taken, there, rfl⟩ := fields?_cons_eq_some.mp read
      obtain ⟨values, there, perm⟩ := ih there
      exact ⟨_, fields?_cons_eq_some.mpr ⟨text, value, values, named, taken, there, rfl⟩, perm.cons _⟩
  | swap field other fields =>
      obtain ⟨text, value, rest, named, taken, there, rfl⟩ := fields?_cons_eq_some.mp read
      obtain ⟨text', value', rest', named', taken', there', rfl⟩ := fields?_cons_eq_some.mp there
      have inner := fields?_cons_eq_some.mpr ⟨text, value, rest', named, taken, there', rfl⟩
      exact ⟨_, fields?_cons_eq_some.mpr ⟨text', value', _, named', taken', inner, rfl⟩, .swap ..⟩
  | trans _ _ ih ih' =>
      obtain ⟨values, there, perm⟩ := ih read
      obtain ⟨values', there', perm'⟩ := ih' there
      exact ⟨values', there', perm.trans perm'⟩

theorem names_of_fields? (read : fields? room fields = some pairs) :
    fields.map (·.1) = (pairs.map (·.1)).map some := by
  induction fields generalizing pairs with
  | nil =>
      cases read
      rfl
  | cons field fields ih =>
      obtain ⟨text, value, rest, named, -, there, rfl⟩ := fields?_cons_eq_some.mp read
      rw [List.map_cons, List.map_cons, List.map_cons, ih there, named]

/-- Fields that have the same values are read the same. -/
theorem fields?_congr (same : d.toJson? room = e.toJson? room) :
    fields? room (before ++ (name, d) :: after) = fields? room (before ++ (name, e) :: after) := by
  induction before with
  | nil => simp only [List.nil_append, fields?, same]
  | cons field before ih => simp only [List.cons_append, fields?, ih]

/-- The order of the fields of an object does not show in its value. -/
theorem Reorders.toJson?_eq (reordered : Reorders d e) (room : Nat) : d.toJson? room = e.toJson? room := by
  induction reordered generalizing room with
  | @here fields others perm once =>
      have same : (fields? (room - 1) fields).map Entries.ofList = (fields? (room - 1) others).map Entries.ofList := by
        cases read : fields? (room - 1) fields with
        | some pairs =>
            obtain ⟨values, there, reordered⟩ := fields?_perm perm read
            have names : (pairs.map (·.1)).Nodup := by
              rw [names_of_fields? read] at once
              exact List.Nodup.of_map some once
            rw [there, Option.map_some, Option.map_some, Entries.ofList_perm reordered names]
        | none =>
            cases there : fields? (room - 1) others with
            | some values =>
                obtain ⟨pairs, also, -⟩ := fields?_perm perm.symm there
                cases read.symm.trans also
            | none => rfl
      by_cases full : room = 0
      · simp [toJson?, full]
      · simp only [toJson?, if_neg full]
        have objects := congrArg (Option.map Json.object) same
        simpa only [Option.map_map, Function.comp_def] using objects
  | inside _ ih => simp only [toJson?, fields?_congr (ih (room - 1))]

/-! ### Entries in a field -/

variable {α : Type} {read : Document → Option α} {entries : Entries α}

theorem sorted_of_asEntries (there : asEntries read d = some entries) : entries.Sorted := by
  unfold asEntries at there
  split at there
  · obtain ⟨pairs, -, rfl⟩ := Option.map_eq_some_iff.mp there
    exact Entries.sorted_ofList pairs
  · cases there

theorem Found.sorted_of_withDefault {found : Found} {field : String}
    (there : found.withDefault field [] (asEntries read) = some entries) : entries.Sorted := by
  unfold Found.withDefault at there
  split at there
  · cases there
    exact Entries.sorted_nil
  · exact sorted_of_asEntries there

end ImageBatch.Document
