import ImageBatch.Proofs.File.Following
import ImageBatch.Proofs.Text.Cutting

/-!
The names that paths end in.

A path that leads to an entry of a folder ends in the entry's name (`Disk.fileName?_of_locate`). With another
extension it ends in the stem and that extension (`Path.fileName?_withExtension`), which is another name if the
extension has a point of its own (`Path.splitName_append_ne`). So such a path and the one that it was made from never
lead to the same place (`Disk.entry_ne_of_withExtension`).
-/

namespace ImageBatch

namespace Path

variable {path : Path} {name stem extension segment : String} {init : List String}

theorem componentOf?_eq_name : componentOf? segment = some (.name name) ↔
    segment = name ∧ name ≠ "" ∧ name ≠ "." ∧ name ≠ ".." := by
  unfold componentOf?
  grind

/-- A path whose last segment is a name, but for blanks after it, ends in that name. -/
theorem fileName?_of_segments (blanks : Nat)
    (segments : path.segments = init ++ name :: List.replicate blanks "")
    (named : componentOf? name = some (.name name)) : path.fileName? = some name := by
  have dropped : (List.replicate blanks "").filterMap componentOf? = [] := by
    simp [componentOf?]
  simp [fileName?, components, segments, named, dropped]

/-- The last component of a path is one of its segments. -/
theorem mem_segments_of_fileName? (named : path.fileName? = some name) : name ∈ path.segments := by
  unfold fileName? at named
  split at named
  next last same =>
      cases named
      have present := List.mem_of_getLast? same
      rcases List.mem_append.mp present with start | present
      · split at start
        · simp at start
        · split at start <;> simp at start
      · obtain ⟨segment, member, component⟩ := List.mem_filterMap.mp present
        exact (componentOf?_eq_name.mp component).1 ▸ member
  next => cases named

/-- No segment has a slash. -/
theorem slash_not_mem (member : segment ∈ path.segments) : '/' ∉ segment.toList := by
  intro slash
  obtain ⟨stretch, cut, rfl⟩ := List.mem_map.mp member
  rw [String.toList_ofList] at slash
  simpa using Text.isSeparator_of_mem_splitOn cut slash

/-- A name is its stem, or its stem, a point and what has no point. -/
theorem splitName_fst (name : String) :
    ∃ tail, name.toList = (splitName name).1.toList ++ tail ∧
      (tail = [] ∨ ∃ after, tail = '.' :: after ∧ '.' ∉ after) := by
  have parts := List.takeWhile_append_dropWhile (p := (· != '.')) (l := name.toList.reverse)
  have head := List.head_dropWhile_not (p := (· != '.')) (l := name.toList.reverse)
  have plain : '.' ∉ name.toList.reverse.takeWhile (· != '.') := fun point => by
    simpa using List.all_eq_true.mp List.all_takeWhile _ point
  generalize after : name.toList.reverse.takeWhile (· != '.') = reversed at parts plain
  generalize name.toList.reverse.dropWhile (· != '.') = rest at parts head
  have before : name.toList.reverse.drop reversed.length = rest := parts ▸ List.drop_left
  have whole : name.toList = rest.reverse ++ reversed.reverse := by
    rw [← List.reverse_append, parts, List.reverse_reverse]
  unfold splitName
  simp only [after, before]
  match rest with
  | [] => exact ⟨[], by simp, .inl rfl⟩
  | [_] => exact ⟨[], by simp, .inl rfl⟩
  | point :: c :: cs =>
      obtain rfl : point = '.' := by simpa using head (by simp)
      exact ⟨'.' :: reversed.reverse, by simp [whole], .inr ⟨_, rfl, by simpa using plain⟩⟩

/-- Segments put together end in the last of them. -/
theorem exists_segments_ofSegments (init : List String) (plain : '/' ∉ name.toList) :
    ∃ before, (ofSegments (init ++ [name])).segments = before ++ [name] := by
  have whole : Text.splitOn (· == '/') name.toList = [name.toList] :=
    Text.splitOn_of_forall fun c present => by simpa using fun slash : c = '/' => plain (slash ▸ present)
  by_cases empty : init = []
  · exact ⟨[], by simp [empty, segments, ofSegments, whole]⟩
  · have joined : (ofSegments (init ++ [name])).text.toList = ("/".intercalate init).toList ++ '/' :: name.toList := by
      rw [ofSegments, String.intercalate_append_of_ne_nil empty (by simp)]
      simp
    exact ⟨_, by rw [segments, joined, Text.splitOn_append_cons rfl, whole, List.map_append]; simp; rfl⟩

/-- The last component of a path with another extension. -/
theorem fileName?_withExtension (named : path.fileName? = some name) (plain : '/' ∉ extension.toList)
    (long : 1 < extension.length) :
    (path.withExtension extension).fileName? = some ((splitName name).1 ++ "." ++ extension) := by
  obtain ⟨tail, parts, -⟩ := splitName_fst name
  have noSlash := slash_not_mem (mem_segments_of_fileName? named)
  have whole : '/' ∉ ((splitName name).1 ++ "." ++ extension).toList := by
    rw [parts] at noSlash
    simp_all
  obtain ⟨before, ends⟩ := exists_segments_ofSegments (trimEnd path.segments).dropLast whole
  have component : componentOf? ((splitName name).1 ++ "." ++ extension) =
      some (.name ((splitName name).1 ++ "." ++ extension)) := by
    refine componentOf?_eq_name.mpr ⟨rfl, ?_, ?_, ?_⟩
    all_goals
      intro short
      have lengths := congrArg (·.toList.length) short
      simp only [String.toList_append, List.length_append, String.length_toList] at lengths
      have point : ".".length = 1 ∧ "".length = 0 ∧ "..".length = 2 := by decide
      omega
  have same : path.withExtension extension =
      ofSegments ((trimEnd path.segments).dropLast ++ [(splitName name).1 ++ "." ++ extension]) := by
    simp [withExtension, stem?, named]
  rw [same]
  exact fileName?_of_segments 0 (by simpa using ends) component

/-- A name with another extension that has a point of its own is another name. -/
theorem splitName_append_ne (name : String) (pointed : '.' ∈ extension.toList) :
    (splitName name).1 ++ "." ++ extension ≠ name := by
  intro same
  obtain ⟨tail, parts, plain⟩ := splitName_fst name
  have tails : '.' :: extension.toList = tail := by
    have texts := congrArg String.toList same
    rw [parts] at texts
    simpa using texts
  subst tails
  rcases plain with nothing | ⟨after, same, plain⟩
  · cases nothing
  · cases same
    exact plain pointed

end Path

/-! ### Entries -/

namespace Disk

variable {disk disk' : Disk} {path : Path} {folder folder' : Location} {name name' extension : String}
  {asFolder asFolder' : Bool}

/-- A path that leads to an entry of a folder ends in its name. -/
theorem fileName?_of_locate (located : disk.locate path = .ok (.entry folder name, asFolder)) :
    path.fileName? = some name := by
  obtain ⟨init, ends, -, point, up, -⟩ := follow_eq_entry.mp (follow_of_locate located)
  have parts := List.takeWhile_append_dropWhile (p := (· == "")) (l := path.segments.reverse)
  have blank := List.all_takeWhile (p := (· == "")) (l := path.segments.reverse)
  have head := List.head_dropWhile_not (p := (· == "")) (l := path.segments.reverse)
  generalize path.segments.reverse.takeWhile (· == "") = blanks at parts blank
  have last : path.segments.reverse.dropWhile (· == "") = name :: init.reverse := by
    rw [List.reverse_eq_iff.mp ends, List.reverse_append]
    rfl
  rw [last] at parts
  simp only [last] at head
  have blanks_eq : blanks.reverse = List.replicate blanks.length "" := by
    rw [← List.length_reverse]
    exact List.eq_replicate_iff.mpr ⟨rfl, by simpa using blank⟩
  have segments : path.segments = init ++ name :: List.replicate blanks.length "" := by
    rw [← blanks_eq, ← List.reverse_reverse path.segments, ← parts]
    simp
  have some_ : name ≠ "" := by simpa using head (by simp)
  exact Path.fileName?_of_segments blanks.length segments (Path.componentOf?_eq_name.mpr ⟨rfl, some_, point, up⟩)

/-- A path and that path with an extension that has a point of its own do not lead to the same place. -/
theorem entry_ne_of_withExtension (located : disk.locate path = .ok (.entry folder name, asFolder))
    (beside : disk'.locate (path.withExtension extension) = .ok (.entry folder' name', asFolder'))
    (pointed : '.' ∈ extension.toList) (plain : '/' ∉ extension.toList) (long : 1 < extension.length) :
    folder' ++ [name'] ≠ folder ++ [name] := by
  have named := fileName?_of_locate beside
  rw [Path.fileName?_withExtension (fileName?_of_locate located) plain long] at named
  cases named
  intro same
  have last := List.append_inj_right' same rfl
  exact Path.splitName_append_ne name pointed (List.singleton_inj.mp last)

end Disk

end ImageBatch
