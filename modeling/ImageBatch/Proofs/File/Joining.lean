import ImageBatch.Proofs.File.Naming

/-!
A name put after a path.

Joining a plain name to a path adds that name as a component and nothing else (`Path.components_join`), and on a disk
it leads to the entry of that name in the folder that the path leads to, if it leads anywhere (`Disk.folder_of_join`).
-/

namespace ImageBatch

namespace Path

variable {path : Path} {name : String}

/-- The name is a component by itself: one segment, and none that stays where it is or goes up. -/
def IsPlain (name : String) : Prop := '/' ∉ name.toList ∧ name ≠ "" ∧ name ≠ "." ∧ name ≠ ".."

theorem not_isAbsolute_of_isPlain (plain : IsPlain name) : (Path.mk name).isAbsolute = false := by
  cases chars : name.toList with
  | nil => simp [isAbsolute, chars]
  | cons c cs =>
      have other : c ≠ '/' := fun slash => plain.1 (by simp [chars, slash])
      simp [isAbsolute, chars, other]

theorem splitOn_of_isPlain (plain : IsPlain name) : Text.splitOn (· == '/') name.toList = [name.toList] :=
  Text.splitOn_of_forall fun c present => by simpa using fun slash : c = '/' => plain.1 (slash ▸ present)

/-- The segments of a text that ends in a plain name after a slash. -/
theorem segments_of_append {text : String} {before : List Char} (plain : IsPlain name)
    (ends : text.toList = before ++ '/' :: name.toList) :
    (Path.mk text).segments = (Text.splitOn (· == '/') before).map String.ofList ++ [name] := by
  rw [segments, ends, Text.splitOn_append_cons rfl, splitOn_of_isPlain plain]
  simp

/-- How a plain name is put after a path: after all its segments, but instead of a blank one at the end. -/
structure Joins (path : Path) (name : String) (init blanks : List String) : Prop where
  whole : path.segments = init ++ blanks
  blank : blanks = [] ∨ blanks = [""]
  joined : (path.join name).segments = init ++ [name]
  root : (path.join name).isAbsolute = path.isAbsolute
  longer : ∃ more, (path.join name).text = path.text ++ more

theorem isAbsolute_append {text : String} (some_ : text ≠ "") (more : String) :
    (Path.mk (text ++ more)).isAbsolute = (Path.mk text).isAbsolute := by
  obtain ⟨c, cs, chars⟩ := List.exists_cons_of_ne_nil (mt String.toList_eq_nil_iff.mp some_)
  simp [isAbsolute, chars]

theorem exists_joins (path : Path) (plain : IsPlain name) : ∃ init blanks, Joins path name init blanks := by
  have relative := not_isAbsolute_of_isPlain plain
  by_cases empty : path.text = ""
  · have joined : path.join name = ⟨name⟩ := by simp [join, relative, empty]
    refine ⟨[], [""], ?_, .inr rfl, ?_, ?_, name, by simp [joined, empty]⟩
    · simp [segments, empty, Text.splitOn]
    · simp [joined, segments, splitOn_of_isPlain plain]
    · rw [joined, relative]
      simp [isAbsolute, empty]
  · by_cases slash : path.text.toList.getLast? = some '/'
    · obtain ⟨before, ends⟩ := List.getLast?_eq_some_iff.mp slash
      have joined : path.join name = ⟨path.text ++ name⟩ := by simp [join, relative, slash]
      refine ⟨(Text.splitOn (· == '/') before).map String.ofList, [""], ?_, .inr rfl, ?_, ?_, name, by rw [joined]⟩
      · rw [segments, ends, Text.splitOn_append_cons rfl]
        simp [Text.splitOn]
      · rw [joined]
        exact segments_of_append plain (by simp [ends])
      · rw [joined]
        exact isAbsolute_append empty name
    · have joined : path.join name = ⟨path.text ++ "/" ++ name⟩ := by simp [join, relative, slash, empty]
      refine ⟨path.segments, [], (List.append_nil _).symm, .inl rfl, ?_, ?_, "/" ++ name, ?_⟩
      · rw [joined]
        exact segments_of_append plain (by simp)
      · rw [joined, String.append_assoc]
        exact isAbsolute_append empty _
      · rw [joined, String.append_assoc]

/-- A plain name comes after the components of the path. -/
theorem components_join (path : Path) (plain : IsPlain name) :
    (path.join name).components = path.components ++ [.name name] := by
  obtain ⟨init, blanks, whole, blank, joined, root, -⟩ := exists_joins path plain
  have component : componentOf? name = some (.name name) := componentOf?_eq_name.mpr ⟨rfl, plain.2⟩
  have dropped : blanks.filterMap componentOf? = [] := by
    rcases blank with rfl | rfl
    · rfl
    · rfl
  have first : (init ++ [name]).head? = some "." ↔ (init ++ blanks).head? = some "." := by
    cases init with
    | nil => rcases blank with rfl | rfl <;> simp [plain.2.2.1]
    | cons segment rest => simp
  simp only [components, root, whole, joined, first, List.filterMap_append, dropped, List.filterMap_cons, component,
    List.filterMap_nil, List.append_nil, List.append_assoc]

end Path

namespace Disk

variable {disk : Disk} {path : Path} {name entry : String} {folder start : Location} {asFolder : Bool}
  {segments : List String}

/-- The folder that a path names. A path without text stands for the working folder. -/
def IsFolderAt (disk : Disk) (path : Path) (folder : Location) : Prop :=
  if path.text = "" then folder = [] else disk.lookup path = .ok (folder, .folder)

/-- Blanks at the end lead nowhere else. -/
theorem walk_trimmed {reversed : List String} (walked : reversed.reverse.foldlM disk.enter start = .ok folder) :
    (reversed.dropWhile (· == "")).reverse.foldlM disk.enter start = .ok folder := by
  induction reversed with
  | nil => exact walked
  | cons segment rest ih =>
      by_cases blank : segment = ""
      · subst blank
        rw [List.reverse_cons, List.foldlM_append] at walked
        cases reached : rest.reverse.foldlM disk.enter start with
        | error e => simp [reached, bind, Except.bind] at walked
        | ok next =>
            obtain rfl : next = folder := by
              simpa [reached, enter, bind, Except.bind, pure, Except.pure] using walked
            simpa using ih reached
      · simpa [blank] using walked

/-- Segments that lead to a folder are followed to it. -/
theorem follow_of_walk (last : segments.getLast? ≠ some "") (walked : segments.foldlM disk.enter start = .ok folder) :
    disk.follow start segments = .ok (.reached folder) ∨ ∃ above name,
      disk.follow start segments = .ok (.entry above name) ∧ folder = above ++ [name] ∧
        disk.node? folder = some .folder := by
  induction segments generalizing start with
  | nil =>
      cases walked
      exact .inl rfl
  | cons segment rest ih =>
      obtain ⟨next, entered, walked⟩ := walk_cons.mp walked
      cases rest with
      | nil =>
          cases walked
          have named : segment ≠ "" := by simpa using last
          simp only [follow]
          split
          next =>
              rw [entered]
              exact .inl rfl
          next other =>
              rcases enter_eq_ok.mp entered with ⟨here, -⟩ | ⟨up, -⟩ | ⟨-, -, -, short, rfl, there⟩
              · exact absurd (.inl (here.resolve_left named)) other
              · exact absurd (.inr up) other
              · rw [if_neg (Nat.not_lt.mpr short)]
                exact .inr ⟨start, segment, rfl, rfl, there⟩
      | cons second more =>
          simp only [follow, entered]
          exact ih (by simpa using last) walked

/-- Where a path is not refused as it is written, neither is a path that it continues. -/
theorem locate_of_longer {longer : Path} {found : Goal × Bool} {more : String} (some_ : path.text ≠ "")
    (continued : longer.text = path.text ++ more) (located : disk.locate longer = .ok found) :
    ∃ trailing, disk.locate path = (disk.follow [] (steps path)).map fun goal => (goal, trailing) := by
  have root : longer.isAbsolute = path.isAbsolute := by
    rw [← Path.isAbsolute_append some_ more, ← continued]
  unfold locate at located ⊢
  split at located
  · cases located
  next clean =>
  split at located
  · cases located
  split at located
  · cases located
  next short =>
  split at located
  · cases located
  next relative =>
  rw [continued] at clean short
  rw [root] at relative
  have clean : ¬ path.text.toList.contains '\x00' = true := by
    simp only [String.toList_append, List.contains_eq_mem, List.mem_append, decide_eq_true_eq, not_or] at clean ⊢
    exact clean.1
  have short : ¬ maxPath < path.text.utf8ByteSize := by
    rw [String.utf8ByteSize_append] at short
    omega
  rw [if_neg clean, if_neg some_, if_neg short, if_neg relative]
  exact ⟨_, rfl⟩

/-- A path with a plain name put after it leads, if it leads anywhere, to the entry of that name in the folder that the
path names. -/
theorem folder_of_join (plain : Path.IsPlain name)
    (located : disk.locate (path.join name) = .ok (.entry folder entry, asFolder)) :
    entry = name ∧ disk.IsFolderAt path folder := by
  obtain ⟨init, blanks, whole, blank, joined, -, more, longer⟩ := Path.exists_joins path plain
  have ends : steps (path.join name) = init ++ [name] := by simp [steps, joined, plain.2.1]
  obtain ⟨before, same, walked, -⟩ := follow_eq_entry.mp (follow_of_locate located)
  rw [ends] at same
  obtain ⟨rfl, last⟩ := List.append_inj' same rfl
  obtain rfl : name = entry := List.singleton_inj.mp last
  refine ⟨rfl, ?_⟩
  unfold IsFolderAt
  split
  next empty =>
      have alone : (path.join name).segments = [name] := by
        have relative := Path.not_isAbsolute_of_isPlain plain
        simp [Path.join, relative, empty, Path.segments, Path.splitOn_of_isPlain plain]
      rw [alone] at joined
      obtain ⟨rfl, -⟩ := List.append_inj' (joined.symm.trans (List.nil_append _).symm) rfl
      cases walked
      rfl
  next some_ =>
      have trimmed : steps path = (init.reverse.dropWhile (· == "")).reverse := by
        rw [steps, whole]
        rcases blank with rfl | rfl <;> simp
      have walked : (steps path).foldlM disk.enter [] = .ok folder := by
        rw [trimmed]
        exact walk_trimmed (by rwa [List.reverse_reverse])
      have last : (steps path).getLast? ≠ some "" := by
        intro blank
        have head := List.head?_dropWhile_not (· == "") path.segments.reverse
        rw [steps, List.getLast?_reverse] at blank
        simp [blank] at head
      obtain ⟨trailing, leads⟩ := locate_of_longer some_ longer located
      rcases follow_of_walk last walked with followed | ⟨above, name, followed, rfl, there⟩
      · simp [lookup, leads, followed, Except.map, bind, Except.bind]
      · simp [lookup, leads, followed, there, Except.map, bind, Except.bind]

end Disk

end ImageBatch
