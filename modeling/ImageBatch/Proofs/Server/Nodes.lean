import ImageBatch.Proofs.Json.Fields
import ImageBatch.Proofs.Number.Reading
import ImageBatch.Proofs.Occurrences
import ImageBatch.Server.History

/-!
The output of a prompt: the first final image of the least node that has one.

Nodes whose ids are numbers come before all others and in the order of the numbers; equal numbers, and ids that are no
numbers, come in the order of their texts (`NodePrecedes`). The order that nodes are sorted by ranks an id that is no
number like the greatest number, so the two orders agree as long as no id is that number (`precedes_of_nodeBefore`,
`NodePrecedes.sorted`). `HistoryEntry.firstOutputImage?_least` asks for that, and for ids that are all different, which
those of an entry that was read are (`HistoryEntry.once_of_ofPayload?`).
-/

namespace ImageBatch.Server

variable {a b c id : String} {n : Nat}

/-! ### The order of nodes -/

/-- The number that the id of a node is, if it is one. -/
def nodeNumber? (id : String) : Option Nat := Natural.read? Natural.max64 id

/-- One node comes before another. -/
inductive NodePrecedes (a b : String) : Prop where
  | smaller {i j} (number : nodeNumber? a = some i) (other : nodeNumber? b = some j) (less : i < j)
  | sameNumber {i} (number : nodeNumber? a = some i) (other : nodeNumber? b = some i) (text : a < b)
  | numberFirst {i} (number : nodeNumber? a = some i) (other : nodeNumber? b = none)
  | noNumbers (number : nodeNumber? a = none) (other : nodeNumber? b = none) (text : a < b)

/-- The place of an id among the numbers. -/
def nodeRank (id : String) : Nat := (nodeNumber? id).getD Natural.max64

theorem nodeBefore_iff_rank :
    nodeBefore a b = true ↔ nodeRank a < nodeRank b ∨ (nodeRank a = nodeRank b ∧ a ≤ b) := by
  simp [nodeBefore, nodeRank, nodeNumber?]

theorem nodeBefore_trans (first : nodeBefore a b = true) (second : nodeBefore b c = true) : nodeBefore a c = true := by
  rw [nodeBefore_iff_rank] at first second ⊢
  rcases first with less | ⟨same, text⟩
  · rcases second with less' | ⟨same', -⟩
    · exact .inl (Nat.lt_trans less less')
    · exact .inl (same' ▸ less)
  · rcases second with less' | ⟨same', text'⟩
    · exact .inl (same ▸ less')
    · exact .inr ⟨same.trans same', String.le_trans text text'⟩

theorem nodeBefore_total (a b : String) : nodeBefore a b = true ∨ nodeBefore b a = true := by
  rw [nodeBefore_iff_rank, nodeBefore_iff_rank]
  rcases Nat.lt_trichotomy (nodeRank a) (nodeRank b) with less | same | greater
  · exact .inl (.inl less)
  · rcases String.le_total a b with text | text
    · exact .inl (.inr ⟨same, text⟩)
    · exact .inr (.inr ⟨same.symm, text⟩)
  · exact .inr (.inl greater)

theorem nodeNumber?_le (number : nodeNumber? id = some n) : n ≤ Natural.max64 := Natural.le_of_read? number

/-- A number that is not the greatest one ranks before all ids that are no numbers. -/
theorem nodeRank_lt (number : nodeNumber? id = some n) (apart : nodeNumber? id ≠ some Natural.max64) :
    nodeRank id = n ∧ n < Natural.max64 := by
  refine ⟨by rw [nodeRank, number, Option.getD_some], Nat.lt_of_le_of_ne (nodeNumber?_le number) ?_⟩
  rintro rfl
  exact apart number

theorem nodeRank_of_none (none_ : nodeNumber? id = none) : nodeRank id = Natural.max64 := by
  rw [nodeRank, none_, Option.getD_none]

theorem text_lt (text : a ≤ b) (different : a ≠ b) : a < b :=
  Decidable.byContradiction fun notLess => different (String.le_antisymm text (String.not_lt.mp notLess))

theorem NodePrecedes.sorted (precedes : NodePrecedes a b) (apart : nodeNumber? a ≠ some Natural.max64)
    (alsoApart : nodeNumber? b ≠ some Natural.max64) : nodeBefore a b = true := by
  rw [nodeBefore_iff_rank]
  cases precedes with
  | smaller number other less =>
      rw [(nodeRank_lt number apart).1, (nodeRank_lt other alsoApart).1]
      exact .inl less
  | sameNumber number other text =>
      rw [(nodeRank_lt number apart).1, (nodeRank_lt other alsoApart).1]
      exact .inr ⟨rfl, String.not_lt.mp (String.lt_asymm text)⟩
  | numberFirst number other =>
      obtain ⟨rank, small⟩ := nodeRank_lt number apart
      rw [rank, nodeRank_of_none other]
      exact .inl small
  | noNumbers number other text =>
      rw [nodeRank_of_none number, nodeRank_of_none other]
      exact .inr ⟨rfl, String.not_lt.mp (String.lt_asymm text)⟩

/-- Ids are sorted by the order of nodes as long as none is the greatest number. -/
theorem precedes_of_nodeBefore (apart : nodeNumber? a ≠ some Natural.max64)
    (alsoApart : nodeNumber? b ≠ some Natural.max64) (before : nodeBefore a b = true) (different : a ≠ b) :
    NodePrecedes a b := by
  rw [nodeBefore_iff_rank] at before
  cases number : nodeNumber? a with
  | some i =>
      obtain ⟨rank, -⟩ := nodeRank_lt number apart
      cases other : nodeNumber? b with
      | some j =>
          rw [rank, (nodeRank_lt other alsoApart).1] at before
          rcases before with less | ⟨rfl, text⟩
          · exact .smaller number other less
          · exact .sameNumber number other (text_lt text different)
      | none => exact .numberFirst number other
  | none =>
      rw [nodeRank_of_none number] at before
      cases other : nodeNumber? b with
      | some j =>
          obtain ⟨rank, small⟩ := nodeRank_lt other alsoApart
          rw [rank] at before
          omega
      | none =>
          rw [nodeRank_of_none other] at before
          rcases before with less | ⟨-, text⟩
          · exact absurd less (Nat.lt_irrefl _)
          · exact .noNumbers number other (text_lt text different)

theorem nodeBefore_antisymm (before : nodeBefore a b = true) (after : nodeBefore b a = true) : a = b := by
  rw [nodeBefore_iff_rank] at before after
  rcases before with less | ⟨same, text⟩
  · rcases after with less' | ⟨same, -⟩
    · exact absurd less (Nat.lt_asymm less')
    · exact absurd same.symm (Nat.ne_of_lt less)
  · rcases after with less' | ⟨-, text'⟩
    · exact absurd same.symm (Nat.ne_of_lt less')
    · exact String.le_antisymm text text'

/-! ### The least node with a final image -/

/-- An image that is no preview. -/
def OutputImage.IsFinal (image : OutputImage) : Prop := image.area = "output"

/-- A reference to the first final image of a node, where every other node with a final image comes later. -/
structure IsLeastOutput (outputs : Entries (List OutputImage)) (found : ResultReference) : Prop where
  shown : ∃ images image, (found.nodeId, images) ∈ outputs ∧ FirstSuch OutputImage.IsFinal images image ∧
    found = ⟨found.nodeId, image.filename, image.subfolder, image.area⟩
  least : ∀ other images, (other, images) ∈ outputs → (∃ image ∈ images, image.IsFinal) → other ≠ found.nodeId →
    NodePrecedes found.nodeId other

/-- No id is the greatest number, which is where ids that are no numbers are sorted. -/
def Apart (outputs : Entries (List OutputImage)) : Prop :=
  ∀ id ∈ outputs.names, nodeNumber? id ≠ some Natural.max64

variable {outputs : Entries (List OutputImage)} {images : List OutputImage} {entry : HistoryEntry}
  {found other : ResultReference}

theorem Apart.of_mem (apart : Apart outputs) (member : (id, images) ∈ outputs) :
    nodeNumber? id ≠ some Natural.max64 :=
  apart id (List.mem_map_of_mem member)

namespace HistoryEntry

theorem finalImage?_eq_some : finalImage? id images = some found ↔
    ∃ image, FirstSuch OutputImage.IsFinal images image ∧
      found = ⟨id, image.filename, image.subfolder, image.area⟩ := by
  have final (image : OutputImage) : (image.area == outputArea) = true ↔ image.IsFinal := beq_iff_eq
  rw [finalImage?, Option.map_eq_some_iff]
  simp only [find?_eq_some_iff_firstSuch final]
  exact exists_congr fun image => and_congr_right fun _ => eq_comm

theorem finalImage?_eq_none : finalImage? id images = none ↔ ∀ image ∈ images, ¬ image.IsFinal := by
  simp [finalImage?, OutputImage.IsFinal, outputArea]

theorem firstOutputImage?_eq_none :
    entry.firstOutputImage? = none ↔ ∀ id images, (id, images) ∈ entry.outputs → ∀ image ∈ images, ¬ image.IsFinal := by
  simp only [firstOutputImage?, List.findSome?_eq_none_iff, List.mem_mergeSort, Prod.forall, finalImage?_eq_none]

/-- What is found is of the least node with a final image. -/
theorem isLeastOutput_of_eq_some (apart : Apart entry.outputs) (given : entry.firstOutputImage? = some found) :
    IsLeastOutput entry.outputs found := by
  obtain ⟨before, ⟨id, images⟩, after, split, shows, without⟩ := List.findSome?_eq_some_iff.mp given
  obtain ⟨image, first, rfl⟩ := finalImage?_eq_some.mp shows
  have sorted := @List.pairwise_mergeSort _ (fun a b : String × List OutputImage => nodeBefore a.1 b.1)
    (fun _ _ _ => nodeBefore_trans) (fun a b => by simpa using nodeBefore_total a.1 b.1) entry.outputs
  rw [split] at sorted
  have members (node : String × List OutputImage) : node ∈ before ++ (id, images) :: after ↔ node ∈ entry.outputs := by
    rw [← split, List.mem_mergeSort]
  have member := (members (id, images)).mp (List.mem_append_right before List.mem_cons_self)
  refine ⟨⟨images, image, member, first, rfl⟩, fun other others there final different => ?_⟩
  refine precedes_of_nodeBefore (apart.of_mem member) (apart.of_mem there) ?_ (Ne.symm different)
  -- A node in front of the one that was found has no final image.
  rcases List.mem_append.mp ((members (other, others)).mpr there) with early | late
  · obtain ⟨image, inOthers, isFinal⟩ := final
    exact absurd isFinal (finalImage?_eq_none.mp (without (other, others) early) image inOthers)
  · rcases List.mem_cons.mp late with same | late
    · exact absurd (congrArg Prod.fst same) different
    · exact (List.pairwise_cons.mp (List.pairwise_append.mp sorted).2.1).1 (other, others) late

end HistoryEntry

/-- There is only one such reference. -/
theorem IsLeastOutput.unique (once : outputs.names.Nodup) (apart : Apart outputs) (first : IsLeastOutput outputs found)
    (second : IsLeastOutput outputs other) : found = other := by
  obtain ⟨images, image, member, shows, given⟩ := first.shown
  obtain ⟨others, image', member', shows', given'⟩ := second.shown
  have same : found.nodeId = other.nodeId := by
    refine Decidable.byContradiction fun different => different (nodeBefore_antisymm ?_ ?_)
    · exact (first.least _ _ member' ⟨image', shows'.mem⟩ (Ne.symm different)).sorted
        (apart.of_mem member) (apart.of_mem member')
    · exact (second.least _ _ member ⟨image, shows.mem⟩ different).sorted
        (apart.of_mem member') (apart.of_mem member)
  rw [← same] at member' given'
  obtain rfl : images = others :=
    Option.some.inj (((Entries.get?_eq_some_iff once).mpr member).symm.trans ((Entries.get?_eq_some_iff once).mpr member'))
  obtain rfl := shows.unique shows'
  exact given.trans given'.symm

theorem IsLeastOutput.perm {others : Entries (List OutputImage)} (perm : outputs.Perm others)
    (least : IsLeastOutput outputs found) : IsLeastOutput others found := by
  obtain ⟨images, image, member, shows, given⟩ := least.shown
  exact ⟨⟨images, image, perm.mem_iff.mp member, shows, given⟩, fun other images there =>
    least.least other images (perm.mem_iff.mpr there)⟩

namespace HistoryEntry

theorem firstOutputImage?_eq_some (once : entry.outputs.names.Nodup) (apart : Apart entry.outputs) :
    entry.firstOutputImage? = some found ↔ IsLeastOutput entry.outputs found := by
  refine ⟨isLeastOutput_of_eq_some apart, fun least => ?_⟩
  cases given : entry.firstOutputImage? with
  | some other => rw [(isLeastOutput_of_eq_some apart given).unique once apart least]
  | none =>
      obtain ⟨images, image, member, shows, -⟩ := least.shown
      exact absurd shows.mem.2 (firstOutputImage?_eq_none.mp given _ images member image shows.mem.1)

/-- The entry of a prompt in a payload. -/
def ofPayload? (promptId : String) (payload : Document) : Option HistoryEntry :=
  ((payload.toJson? Document.maxDepth).bind (find? promptId)).join

/-- An entry that is read names each of its nodes once. -/
theorem once_of_ofPayload? {promptId : String} {payload : Document}
    (read : ofPayload? promptId payload = some entry) : entry.outputs.names.Nodup := by
  obtain ⟨value, -, given⟩ := Option.bind_eq_some_iff.mp (Option.join_eq_some_iff.mp read)
  unfold find? at given
  split at given
  next written =>
      obtain ⟨_, taken, same⟩ := Option.map_eq_some_iff.mp given
      cases same
      simp only [ofDocument?, Option.bind_eq_bind, Option.bind_eq_some_iff] at taken
      obtain ⟨fields, -, outputs, there, status, -, same⟩ := taken
      cases same
      exact (Document.Found.sorted_of_withDefault there).once
  next => cases given

/-- No output is found exactly if no node has a final image; what is found is the first final image of the node that
comes first among those that have one. The order in which the nodes are listed, or written in a payload, does not
matter. -/
theorem firstOutputImage?_least (entry : HistoryEntry) (once : entry.outputs.names.Nodup)
    (apart : ∀ id ∈ entry.outputs.names, nodeNumber? id ≠ some 0xffffffffffffffff) :
    (entry.firstOutputImage? = none ↔
      ∀ id images, (id, images) ∈ entry.outputs → ∀ image ∈ images, ¬ image.IsFinal) ∧
    (∀ found, entry.firstOutputImage? = some found ↔ IsLeastOutput entry.outputs found) ∧
    (∀ again : HistoryEntry, entry.outputs.Perm again.outputs → again.firstOutputImage? = entry.firstOutputImage?) ∧
    ∀ promptId payload other, payload.Reorders other → ofPayload? promptId payload = some entry →
      ofPayload? promptId other = some entry := by
  have apart : Apart entry.outputs := apart
  refine ⟨firstOutputImage?_eq_none, fun found => firstOutputImage?_eq_some once apart, ?_, ?_⟩
  · intro again perm
    have names : entry.outputs.names.Perm again.outputs.names := perm.map Prod.fst
    have alsoOnce := names.nodup_iff.mp once
    have alsoApart : Apart again.outputs := fun id member => apart id (names.mem_iff.mpr member)
    refine Option.ext fun found => ?_
    rw [firstOutputImage?_eq_some once apart, firstOutputImage?_eq_some alsoOnce alsoApart]
    exact ⟨.perm perm.symm, .perm perm⟩
  · intro promptId payload other reordered given
    rwa [ofPayload?, ← reordered.toJson?_eq]

/-- Nodes with leading zeros, a sign, letters, and one that has only a preview. -/
def gallery : HistoryEntry where
  outputs := [
    ("+9", [⟨"preview.png", "", "temp"⟩]),
    ("010", [⟨"late.png", "", "output"⟩]),
    ("9", [⟨"preview.png", "", "temp"⟩, ⟨"card.png", "cards", "output"⟩, ⟨"other.png", "cards", "output"⟩]),
    ("last", [⟨"last.png", "", "output"⟩])]
  status := none

theorem firstOutputImage?_least_gallery :
    gallery.firstOutputImage? = some ⟨"9", "card.png", "cards", "output"⟩ ∧
      ∀ again : HistoryEntry, gallery.outputs.Perm again.outputs →
        again.firstOutputImage? = some ⟨"9", "card.png", "cards", "output"⟩ := by
  obtain ⟨-, some_, perm, -⟩ := firstOutputImage?_least gallery (by decide) (by decide +kernel)
  have nine : nodeNumber? "9" = some 9 := by decide +kernel
  have least : IsLeastOutput gallery.outputs ⟨"9", "card.png", "cards", "output"⟩ := by
    refine ⟨⟨_, ⟨"card.png", "cards", "output"⟩, List.mem_cons_of_mem _ (List.mem_cons_of_mem _ List.mem_cons_self),
      ⟨[⟨"preview.png", "", "temp"⟩], [⟨"other.png", "cards", "output"⟩], rfl, rfl, ?_⟩, rfl⟩, ?_⟩
    · simp [OutputImage.IsFinal]
    · intro other images member final different
      simp only [gallery, List.mem_cons, Prod.mk.injEq, List.not_mem_nil, or_false] at member
      rcases member with ⟨rfl, rfl⟩ | ⟨rfl, rfl⟩ | ⟨rfl, rfl⟩ | ⟨rfl, rfl⟩
      · simp [OutputImage.IsFinal] at final
      · exact .smaller nine (show nodeNumber? "010" = some 10 by decide +kernel) (by decide)
      · exact absurd rfl different
      · exact .numberFirst nine (by decide +kernel)
  have given := (some_ _).mpr least
  exact ⟨given, fun again shuffled => (perm again shuffled).trans given⟩

end HistoryEntry

end ImageBatch.Server
