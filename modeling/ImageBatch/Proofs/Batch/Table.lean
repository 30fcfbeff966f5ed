import ImageBatch.Input.Users
import ImageBatch.Proofs.Checks
import ImageBatch.Proofs.Entries
import Mathlib.Data.List.Forall2
import Mathlib.Data.List.Induction
import Mathlib.Data.List.Nodup

/-!
The users of a table.

A table has the columns of its header and rows that may be shorter or longer than the header. Of columns with one name
the last one counts that the row reaches (`Users.IsCell`). The users of a table are the first rows of its usable ids,
in the order of the table (`Users.AreUsersOf`); reading it finds exactly them (`Users.exists_of_load`).
-/

namespace ImageBatch

theorem getElem?_concat_eq_some {α : Type} {items : List α} {last item : α} {i : Nat} :
    (items ++ [last])[i]? = some item ↔ items[i]? = some item ∨ (i = items.length ∧ last = item) := by
  rw [List.getElem?_append]
  split
  next within => simp [Nat.ne_of_lt within]
  next beyond =>
      rw [List.getElem?_eq_none (Nat.le_of_not_lt beyond), List.getElem?_singleton]
      split
      next first => simp; omega
      next => simp; omega

/-- Of several values for one name that are inserted in turn, the last is found. -/
theorem Entries.get?_ofList_eq_some {α : Type} {pairs : List (String × α)} {name : String} {value : α} :
    (ofList pairs).get? name = some value ↔
      ∃ i : Nat, pairs[i]? = some (name, value) ∧ ∀ j, i < j → ∀ other, pairs[j]? ≠ some (name, other) := by
  induction pairs using List.reverseRecOn with
  | nil => simp [ofList, insertAll, get?]
  | append_singleton pairs last ih =>
      obtain ⟨key, given⟩ := last
      have step : (ofList (pairs ++ [(key, given)])).get? name =
          if name = key then some given else (ofList pairs).get? name := by
        rw [ofList, insertAll, List.foldl_append, List.foldl_cons, List.foldl_nil, get?_insert]
        rfl
      rw [step]
      simp only [getElem?_concat_eq_some, ne_eq, not_or]
      by_cases same : name = key
      · subst same
        rw [if_pos rfl]
        constructor
        · rintro ⟨⟩
          refine ⟨pairs.length, .inr ⟨rfl, rfl⟩, fun j later other => ⟨fun there => ?_, fun last => ?_⟩⟩
          · rw [List.getElem?_eq_none (Nat.le_of_lt later)] at there
            cases there
          · exact absurd last.1 (Nat.ne_of_gt later)
        · rintro ⟨i, there | ⟨rfl, there⟩, last⟩
          · obtain ⟨within, -⟩ := List.getElem?_eq_some_iff.mp there
            exact absurd ⟨rfl, rfl⟩ (last pairs.length within given).2
          · exact congrArg (some ·.2) there
      · rw [if_neg same, ih]
        simp [Ne.symm same]

namespace Users

variable {columns row : List String} {column value idColumn id : String} {rows : List (List String)}

/-! ### Rows -/

/-- The value of a row in a column: of columns with one name the last one counts that the row reaches. -/
def IsCell (columns row : List String) (column value : String) : Prop :=
  ∃ i : Nat, columns[i]? = some column ∧ row[i]? = some value ∧
    ∀ j, i < j → columns[j]? = some column → row[j]? = none

theorem get?_fieldsOf : (fieldsOf columns row).get? column = some value ↔ IsCell columns row column value := by
  rw [fieldsOf, Entries.get?_ofList_eq_some]
  simp only [List.getElem?_zip_eq_some, IsCell, and_assoc]
  refine exists_congr fun i => and_congr_right fun _ => and_congr_right fun _ => forall_congr' fun j => ?_
  refine imp_congr_right fun _ => ?_
  rw [Option.eq_none_iff_forall_not_mem]
  simp only [ne_eq, List.getElem?_zip_eq_some, not_and, Option.mem_def]
  exact forall_comm

/-- The id of a row that has one and can be a user's: not empty, and usable in a file name. -/
def HasId (idColumn : String) (columns row : List String) (id : String) : Prop :=
  IsCell columns row idColumn id ∧ id ≠ "" ∧ FileName.isSafeId id = true

/-- What a user keeps of a row: a cell under each name of a column that the row reaches. -/
def IsUserOf (columns row : List String) (user : UserRecord) : Prop :=
  user.fields.Sorted ∧ ∀ column value, user.fields.get? column = some value ↔ IsCell columns row column value

theorem ofFields?_eq_some {fields : Entries String} {user : UserRecord} :
    ofFields? idColumn fields = some user ↔
      fields.get? idColumn = some user.userId ∧ FileName.isSafeId user.userId = true ∧ user.fields = fields := by
  obtain ⟨id, kept⟩ := user
  unfold ofFields?
  cases fields.get? idColumn with
  | none => simp
  | some given =>
      by_cases safe : FileName.isSafeId given = true
      · simp only [if_pos safe, Option.some.injEq, UserRecord.mk.injEq]
        constructor
        · rintro ⟨rfl, rfl⟩
          exact ⟨rfl, safe, rfl⟩
        · rintro ⟨rfl, -, rfl⟩
          exact ⟨rfl, rfl⟩
      · simp only [if_neg safe, Option.some.injEq, reduceCtorEq, false_iff]
        rintro ⟨rfl, also, -⟩
        exact safe also

theorem hasId_iff : HasId idColumn columns row id ↔
    (fieldsOf columns row).get? idColumn = some id ∧ FileName.isSafeId id = true := by
  rw [HasId, get?_fieldsOf]
  refine and_congr_right fun _ => and_iff_right_of_imp ?_
  rintro safe rfl
  cases safe

theorem HasId.unique {other : String} (has : HasId idColumn columns row id)
    (also : HasId idColumn columns row other) : id = other :=
  Option.some.inj ((hasId_iff.mp has).1.symm.trans (hasId_iff.mp also).1)

/-- The user of a row has its id and its cells. -/
theorem of_ofFields? {user : UserRecord} (given : ofFields? idColumn (fieldsOf columns row) = some user) :
    HasId idColumn columns row user.userId ∧ IsUserOf columns row user := by
  obtain ⟨cell, safe, fields⟩ := ofFields?_eq_some.mp given
  refine ⟨hasId_iff.mpr ⟨cell, safe⟩, ?_⟩
  rw [IsUserOf, fields]
  exact ⟨Entries.sorted_ofList _, fun _ _ => get?_fieldsOf⟩

theorem exists_ofFields? (has : HasId idColumn columns row id) :
    ∃ user, ofFields? idColumn (fieldsOf columns row) = some user ∧ user.userId = id := by
  obtain ⟨cell, safe⟩ := hasId_iff.mp has
  exact ⟨⟨id, fieldsOf columns row⟩, ofFields?_eq_some.mpr ⟨cell, safe, rfl⟩, rfl⟩

/-! ### Tables -/

/-- A user is of a row, which is the first with its id. -/
def IsFirst (idColumn : String) (columns : List String) (rows : List (List String)) (place : Nat)
    (user : UserRecord) : Prop :=
  ∃ row, rows[place]? = some row ∧ HasId idColumn columns row user.userId ∧ IsUserOf columns row user ∧
    ∀ earlier < place, ∀ other, rows[earlier]? = some other → ¬ HasId idColumn columns other user.userId

/-- The users of a table: one for each usable id, of the first row that has it, and in the order of these rows. -/
structure AreUsersOf (idColumn : String) (columns : List String) (rows : List (List String))
    (users : List UserRecord) : Prop where
  first : ∃ places : List Nat, places.Pairwise (· < ·) ∧ List.Forall₂ (IsFirst idColumn columns rows) places users
  complete : ∀ row ∈ rows, ∀ id, HasId idColumn columns row id → ∃ user ∈ users, user.userId = id
  distinct : (users.map (·.userId)).Nodup

variable {place : Nat} {places : List Nat} {user : UserRecord} {users : List UserRecord}

theorem IsFirst.lt (first : IsFirst idColumn columns rows place user) : place < rows.length := by
  obtain ⟨row, there, -⟩ := first
  exact (List.getElem?_eq_some_iff.mp there).1

theorem IsFirst.append (first : IsFirst idColumn columns rows place user) (later : List (List String)) :
    IsFirst idColumn columns (rows ++ later) place user := by
  have within := first.lt
  obtain ⟨row, there, has, kept, unused⟩ := first
  refine ⟨row, ?_, has, kept, fun earlier before other there => unused earlier before other ?_⟩
  · rwa [List.getElem?_append_left within]
  · rwa [List.getElem?_append_left (Nat.lt_trans before within)] at there

theorem isFirst_concat (has : HasId idColumn columns row user.userId) (kept : IsUserOf columns row user)
    (new : ∀ other ∈ rows, ¬ HasId idColumn columns other user.userId) :
    IsFirst idColumn columns (rows ++ [row]) rows.length user := by
  refine ⟨row, List.getElem?_concat_length, has, kept, fun earlier before other there => new other ?_⟩
  rw [List.getElem?_append_left before] at there
  exact List.mem_of_getElem? there

namespace AreUsersOf

/-- A row changes nothing that has no usable id, or one that came up before. -/
theorem skip (are : AreUsersOf idColumn columns rows users)
    (known : ∀ id, HasId idColumn columns row id → ∃ user ∈ users, user.userId = id) :
    AreUsersOf idColumn columns (rows ++ [row]) users := by
  obtain ⟨places, ordered, first⟩ := are.first
  refine ⟨⟨places, ordered, first.imp fun _ _ there => there.append [row]⟩, ?_, are.distinct⟩
  intro other member id has
  obtain member | member := List.mem_append.mp member
  · exact are.complete other member id has
  · exact known id (List.mem_singleton.mp member ▸ has)

/-- A row with a usable id that is new adds its user. -/
theorem add (are : AreUsersOf idColumn columns rows users) (has : HasId idColumn columns row user.userId)
    (kept : IsUserOf columns row user) (new : ∀ other ∈ users, other.userId ≠ user.userId) :
    AreUsersOf idColumn columns (rows ++ [row]) (users ++ [user]) := by
  obtain ⟨places, ordered, first⟩ := are.first
  have unused : ∀ other ∈ rows, ¬ HasId idColumn columns other user.userId := by
    intro other member also
    obtain ⟨earlier, there, same⟩ := are.complete other member _ also
    exact new earlier there same
  refine ⟨⟨places ++ [rows.length], ?_, ?_⟩, ?_, ?_⟩
  · refine List.pairwise_append.mpr ⟨ordered, List.pairwise_singleton _ _, fun place there last here => ?_⟩
    obtain rfl := List.mem_singleton.mp here
    exact ((List.forall₂_and_left places users).mp (first.imp fun _ _ isFirst => ⟨isFirst.lt, isFirst⟩)).1 place there
  · exact List.rel_append (first.imp fun _ _ there => there.append [row]) (.cons (isFirst_concat has kept unused) .nil)
  · intro other member id also
    obtain member | member := List.mem_append.mp member
    · obtain ⟨earlier, there, same⟩ := are.complete other member id also
      exact ⟨earlier, List.mem_append_left _ there, same⟩
    · obtain rfl := List.mem_singleton.mp member
      exact ⟨user, List.mem_append_right _ (List.mem_singleton_self user), has.unique also⟩
  · rw [List.map_append, List.map_singleton, ← List.concat_eq_append]
    refine List.Nodup.concat (fun member => ?_) are.distinct
    obtain ⟨other, there, same⟩ := List.mem_map.mp member
    exact new other there same

end AreUsersOf

/-- The users that are found in a table are those that it has. -/
theorem areUsersOf_distinct (idColumn : String) (columns : List String) (rows : List (List String)) :
    AreUsersOf idColumn columns rows
      (distinct (rows.filterMap fun row => ofFields? idColumn (fieldsOf columns row))) := by
  induction rows using List.reverseRecOn with
  | nil => exact ⟨⟨[], .nil, .nil⟩, by simp, List.nodup_nil⟩
  | append_singleton rows row ih =>
      rw [List.filterMap_append, List.filterMap_cons, List.filterMap_nil]
      cases given : ofFields? idColumn (fieldsOf columns row) with
      | none =>
          dsimp only
          rw [List.append_nil]
          refine ih.skip fun id has => ?_
          obtain ⟨user, found, -⟩ := exists_ofFields? has
          cases given.symm.trans found
      | some user =>
          obtain ⟨has, kept⟩ := of_ofFields? given
          dsimp only
          rw [distinct, List.foldl_append, List.foldl_cons,
            List.foldl_nil, ← distinct]
          split
          next before =>
              obtain ⟨other, there, same⟩ := List.any_eq_true.mp before
              exact ih.skip fun id also => ⟨other, there, (eq_of_beq same).trans (has.unique also)⟩
          next new =>
              refine ih.add has kept fun other there same => new ?_
              exact List.any_eq_true.mpr ⟨other, there, beq_iff_eq.mpr same⟩

/-- A file is a table with these columns and rows: well-formed texts, without the blanks around them. -/
def HasTable (disk : Disk) (path : Path) (columns : List String) (rows : List (List String)) : Prop :=
  ∃ bytes header records, disk.read path = .ok bytes ∧ Csv.records bytes = header :: records ∧
    texts? header = some columns ∧ records.mapM texts? = some rows

/-- Reading a table that has the column of ids finds its users. -/
theorem exists_of_load {disk : Disk} {path : Path} (loaded : load disk path idColumn = .ok users) :
    ∃ columns rows, HasTable disk path columns rows ∧ idColumn ∈ columns ∧ AreUsersOf idColumn columns rows users := by
  unfold load at loaded
  cases read : disk.read path with
  | error e =>
      rw [read] at loaded
      cases loaded
  | ok bytes =>
      cases found : Csv.records bytes with
      | nil =>
          -- Without a header there is no column of ids.
          simp only [read, pure_bind, found, texts?] at loaded
          cases loaded
      | cons header records =>
          cases named : texts? header with
          | none =>
              simp only [read, pure_bind, found, named] at loaded
              cases loaded
          | some columns =>
              simp only [read, pure_bind, found, named, Checks.guard_eq_ok] at loaded
              obtain ⟨has, loaded⟩ := loaded
              cases given : records.mapM texts? with
              | none =>
                  rw [given] at loaded
                  cases loaded
              | some rows =>
                  rw [given] at loaded
                  cases loaded
                  refine ⟨columns, rows, ⟨bytes, header, records, read, found, named, given⟩, ?_,
                    areUsersOf_distinct idColumn columns rows⟩
                  simpa using has

end Users

end ImageBatch
