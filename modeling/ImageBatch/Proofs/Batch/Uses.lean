import ImageBatch.Proofs.Batch.Positions
import ImageBatch.Proofs.Batch.Restoring

/-!
The store as a map in the order of insertion.

`BatchStore.Leads first start uses store disk` says that a sequence of uses leads from the store `first` over the disk
`start` to `store` over `disk`: ids are enrolled, records are put, the store is saved, and it is opened again from what a
save has left. Each use has one effect on the store (`Use.effect`), and to open the store again has none
(`Use.Goes.eq_effect`). So whatever the sequence is, the store has the ids that it had, and after them the new ones in the
order in which they first come up, and under each id the last record that was put (`Leads.ordered_map`).
-/

namespace ImageBatch.BatchStore

variable {store store' first : BatchStore} {keys : List String} {disk disk' start : Disk}

/-! ### Uses -/

/-- A use of the store. -/
inductive Use where
  | enroll (userIds : List String)
  | put (record : JobRecord)
  | save
  /-- Opening the store again from what a save has left. -/
  | reopen

namespace Use

/-- What a use does to the store and the disk. A save may fail; the store is opened again where the disk is as a save of
it that succeeded has left it. -/
inductive Goes (disk : Disk) : Use → BatchStore → BatchStore → Disk → Prop
  | enroll (userIds : List String) (store : BatchStore) :
      Goes disk (.enroll userIds) store (store.enroll userIds).1 disk
  | put (record : JobRecord) (store : BatchStore) : Goes disk (.put record) store (store.put record) disk
  | save (store : BatchStore) : Goes disk .save store store (store.save disk).2
  | reopen {store store' : BatchStore} {before : Disk} {path : Path} (placed : store.path = some path)
      (saved : store.save before = (.ok (), disk)) (opened : load disk path = .ok store') :
      Goes disk .reopen store store' disk

/-- The effect of a use on the store. -/
def effect (store : BatchStore) : Use → BatchStore
  | enroll userIds => (store.enroll userIds).1
  | put record => store.put record
  | save | reopen => store

/-- The ids that a use names. -/
def named : Use → List String
  | enroll userIds => userIds
  | put record => [record.userId]
  | save | reopen => []

/-- The ids that a use enrolls. -/
def enrolled : Use → List String
  | enroll userIds => userIds
  | put _ | save | reopen => []

/-- The record that a use puts. -/
def record? : Use → Option JobRecord
  | put record => some record
  | enroll _ | save | reopen => none

variable {use : Use}

/-- Opening the store again changes nothing. -/
theorem Goes.eq_effect (goes : Goes disk use store store' disk') (representable : store.Representable) :
    store' = use.effect store := by
  cases goes with
  | enroll | put | save => rfl
  | reopen placed saved opened =>
      have same := load_of_saved placed representable saved
      exact Except.ok.inj (opened.symm.trans same)

theorem distinct_effect (distinct : store.Distinct) : (use.effect store).Distinct := by
  cases use with
  | enroll userIds => exact distinct.enroll userIds
  | put record => exact distinct.put record
  | save | reopen => exact distinct

theorem representable_effect (representable : store.Representable)
    (puts : ∀ record ∈ use.record?, record.Representable) : (use.effect store).Representable := by
  cases use with
  | enroll userIds => exact representable.enroll userIds
  | put record => exact representable.put (puts record rfl)
  | save | reopen => exact representable

/-- A use adds a record for each id that it names and that has none, where it first comes up. -/
theorem ids_effect (use : Use) (store : BatchStore) :
    (use.effect store).records.map (·.userId) =
      store.records.map (·.userId) ++ (store.missing use.named).eraseDups := by
  cases use with
  | enroll userIds =>
      rw [effect, records_enroll_eraseDups, List.map_append, List.map_map]
      exact congrArg _ (List.map_id _)
  | put record =>
      rw [effect, BatchStore.put, map_userId_replace]
      by_cases present : record.userId ∈ store.records.map (·.userId)
      · have known : (store.get? record.userId).isSome = true := isSome_find?_iff.mpr present
        simp [present, named, missing, Option.isNone_iff_eq_none, Option.ne_none_iff_isSome.mpr known]
      · have unknown : store.get? record.userId = none := by
          rw [← Option.not_isSome_iff_eq_none]
          exact fun known => present (isSome_find?_iff.mp known)
        rw [if_neg present]
        simp [named, missing, unknown, List.eraseDups_cons]
  | save | reopen => simp [effect, named, missing]

/-- After a use an id has the record that was put, or else the one that it had, or else a fresh one if it was enrolled. -/
theorem get?_effect (use : Use) (store : BatchStore) (id : String) :
    (use.effect store).get? id = (use.record?.filter (·.userId == id)).or
      ((store.get? id).or (if id ∈ use.enrolled then some (.fresh id) else none)) := by
  cases use with
  | enroll userIds => exact get?_enroll store userIds id
  | put record =>
      rw [effect, get?_put]
      by_cases own : record.userId = id <;> simp [record?, enrolled, own, Option.filter_some]
  | save | reopen => simp [effect, record?, enrolled]

end Use

/-! ### Sequences of uses -/

/-- A sequence of uses leads from one store and disk to another. -/
inductive Leads (first : BatchStore) (start : Disk) : List Use → BatchStore → Disk → Prop
  | opens : Leads first start [] first start
  | goes {uses : List Use} {use : Use} {store store' : BatchStore} {disk disk' : Disk}
      (before : Leads first start uses store disk) (goes : Use.Goes disk use store store' disk') :
      Leads first start (uses ++ [use]) store' disk'

/-- The ids of a list that a store has no record for, each once, in the order in which they first come up. -/
def NewIds (store : BatchStore) (ids new : List String) : Prop :=
  FirstOccurrences (ids.filter (· ∉ store.records.map (·.userId))) new

/-- The records that are put. -/
def puts (uses : List Use) : List JobRecord := uses.filterMap Use.record?

/-- The last of the records that are put under an id. -/
def lastPut? (id : String) (uses : List Use) : Option JobRecord := ((puts uses).filter (·.userId == id)).getLast?

variable {uses : List Use}

theorem missing_eq (store : BatchStore) (ids : List String) :
    store.missing ids = ids.filter (· ∉ store.records.map (·.userId)) := by
  refine List.filter_congr fun id _ => ?_
  have known : (store.get? id).isSome = true ↔ id ∈ store.records.map (·.userId) := isSome_find?_iff
  simp only [← known]
  cases store.get? id <;> rfl

theorem newIds_missing (store : BatchStore) (ids : List String) : store.NewIds ids (store.missing ids).eraseDups := by
  unfold NewIds
  rw [missing_eq]
  exact firstOccurrences_eraseDups _

theorem lastPut?_append_singleton (id : String) (uses : List Use) (use : Use) :
    lastPut? id (uses ++ [use]) = (use.record?.filter (·.userId == id)).or (lastPut? id uses) := by
  unfold lastPut? puts
  rw [List.filterMap_append, List.filter_append, List.getLast?_append]
  congr 1
  cases put : use.record? with
  | none => simp [put]
  | some record => by_cases own : record.userId = id <;> simp [put, own, Option.filter_some]

/-- The new ids of one list after another, where the store has got those of the first list. -/
theorem eraseDups_missing_append {more : List String}
    (grown : store.records.map (·.userId) = first.records.map (·.userId) ++ (first.missing keys).eraseDups) :
    (first.missing (keys ++ more)).eraseDups = (first.missing keys).eraseDups ++ (store.missing more).eraseDups := by
  have split : first.missing (keys ++ more) = first.missing keys ++ first.missing more := by
    simp [missing]
  have rest : (first.missing more).removeAll (first.missing keys) = store.missing more := by
    rw [missing_eq first more, missing_eq store more, grown, List.removeAll, List.filter_filter]
    refine List.filter_congr fun id _ => ?_
    simp [Bool.and_comm]
  rw [split, List.eraseDups_append, rest]

namespace Leads

/-- What the effect of every use keeps is true at the end, and the store can be saved there. -/
theorem invariant {P : List Use → BatchStore → Prop} (leads : Leads first start uses store disk)
    (representable : first.Representable) (sound : ∀ record ∈ puts uses, record.Representable) (opens : P [] first)
    (goes : ∀ uses use store, P uses store → P (uses ++ [use]) (use.effect store)) :
    P uses store ∧ store.Representable := by
  induction leads with
  | opens => exact ⟨opens, representable⟩
  | @goes uses use store store' disk disk' before step ih =>
      obtain ⟨earlier, last⟩ : (∀ record ∈ puts uses, record.Representable) ∧
          ∀ record ∈ use.record?, record.Representable := by
        simpa [puts, List.forall_mem_append, or_imp, forall_and] using sound
      obtain ⟨holds, representable⟩ := ih earlier
      rw [step.eq_effect representable]
      exact ⟨goes uses use store holds, Use.representable_effect representable last⟩

section

variable (leads : Leads first start uses store disk) (representable : first.Representable)
  (sound : ∀ record ∈ puts uses, record.Representable)
include leads representable sound

theorem distinct (distinct : first.Distinct) : store.Distinct :=
  (leads.invariant (P := fun _ store => store.Distinct) representable sound distinct fun _ _ _ distinct =>
    Use.distinct_effect distinct).1

theorem ids_eq : store.records.map (·.userId) =
    first.records.map (·.userId) ++ (first.missing (uses.flatMap Use.named)).eraseDups := by
  refine (leads.invariant (P := fun uses store => store.records.map (·.userId) =
    first.records.map (·.userId) ++ (first.missing (uses.flatMap Use.named)).eraseDups) representable sound
    (by simp [missing]) fun uses use store grown => ?_).1
  rw [Use.ids_effect, List.flatMap_append, eraseDups_missing_append grown, grown, List.append_assoc]
  simp

theorem get?_eq (id : String) : store.get? id = (lastPut? id uses).or
    ((first.get? id).or (if id ∈ uses.flatMap Use.enrolled then some (.fresh id) else none)) := by
  refine (leads.invariant (P := fun uses store => store.get? id = (lastPut? id uses).or
    ((first.get? id).or (if id ∈ uses.flatMap Use.enrolled then some (.fresh id) else none))) representable sound
    ?_ fun uses use store held => ?_).1
  · simp [lastPut?, puts]
  · have enrolled : (if id ∈ uses.flatMap Use.enrolled then some (JobRecord.fresh id) else none).or
        (if id ∈ use.enrolled then some (.fresh id) else none) =
        if id ∈ (uses ++ [use]).flatMap Use.enrolled then some (.fresh id) else none := by
      simp only [List.flatMap_append, List.flatMap_singleton, List.mem_append]
      by_cases early : id ∈ uses.flatMap Use.enrolled
      · rw [if_pos early, Option.some_or, if_pos (Or.inl early)]
      · rw [if_neg early, Option.none_or]
        simp only [early, false_or]
    rw [Use.get?_effect, held, lastPut?_append_singleton, ← enrolled]
    simp only [Option.or_assoc]

/-- A store whose ids are distinct is a map in the order of insertion, whatever it is used for. Its ids stay distinct and
where they are, and the new ones follow in the order in which they first come up. An id has the last record that was put
under it, or else the one that it had, or else a fresh one if it was enrolled. To enroll ids adds just the fresh records
of the new ones behind all others, and their number is returned; and what a save has left opens as the store. -/
theorem ordered_map (distinct : first.Distinct) :
    store.Distinct ∧
    (∃ new, first.NewIds (uses.flatMap Use.named) new ∧
      store.records.map (·.userId) = first.records.map (·.userId) ++ new) ∧
    (∀ id, store.get? id = (lastPut? id uses).or
      ((first.get? id).or (if id ∈ uses.flatMap Use.enrolled then some (.fresh id) else none))) ∧
    (∀ userIds, ∃ new, store.NewIds userIds new ∧
      (store.enroll userIds).1.records = store.records ++ new.map .fresh ∧ (store.enroll userIds).2 = new.length) ∧
    (∀ path before disk', store.path = some path → store.save before = (.ok (), disk') →
      load disk' path = .ok store) := by
  refine ⟨leads.distinct representable sound distinct, ?_, leads.get?_eq representable sound, ?_, ?_⟩
  · exact ⟨_, newIds_missing first _, leads.ids_eq representable sound⟩
  · intro userIds
    have added := records_enroll_eraseDups store userIds
    refine ⟨_, newIds_missing store userIds, added, ?_⟩
    have count : (store.enroll userIds).2 = (store.enroll userIds).1.records.length - store.records.length := rfl
    rw [count, added, List.length_append, List.length_map, Nat.add_sub_cancel_left]
  · intro path before disk' placed saved
    have kept : store.Representable :=
      (leads.invariant (P := fun _ _ => True) representable sound trivial fun _ _ _ _ => trivial).2
    exact load_of_saved placed kept saved

end

/-- A store with one record. -/
def single : BatchStore := ⟨some ⟨"s.json"⟩, [.fresh "ada"]⟩

/-- A record of a job that was submitted. -/
def submitted (userId : String) : JobRecord :=
  { JobRecord.fresh userId with status := .submitted, jobId := some "j1", submittedAt := some ⟨0, 0⟩, submitCount := 1 }

/-- Ids that come twice, a record without one, and a store that is opened again. -/
def evening : List Use := [.enroll ["bob", "bob", "ada"], .put (submitted "cy"), .save, .reopen, .enroll ["dan", "cy"]]

theorem ordered_map_evening : ∃ store disk, Leads single Disk.empty evening store disk ∧ store.Distinct ∧
    (∃ new, single.NewIds ["bob", "bob", "ada", "cy", "dan", "cy"] new ∧
      store.records.map (·.userId) = ["ada"] ++ new) ∧
    store.get? "bob" = some (.fresh "bob") ∧ store.get? "cy" = some (submitted "cy") := by
  let filled := (single.enroll ["bob", "bob", "ada"]).1.put (submitted "cy")
  have accepts : Accepts Disk.empty ⟨"s.json"⟩ :=
    ⟨Disk.empty, rfl, ⟨[], "s.json.tmp", rfl, by decide⟩, ⟨[], "s.json", rfl, by decide⟩⟩
  obtain ⟨disk, saved⟩ : ∃ disk, filled.save Disk.empty = (.ok (), disk) := (exists_save rfl).mpr accepts
  have opened : load disk ⟨"s.json"⟩ = .ok filled := by
    refine load_of_saved rfl ?_ saved
    unfold Representable
    decide
  have written : Use.Goes Disk.empty .save filled filled disk := by
    have save : Use.Goes Disk.empty .save filled filled (filled.save Disk.empty).2 := .save filled
    rwa [saved] at save
  have leads : Leads single Disk.empty evening (filled.enroll ["dan", "cy"]).1 disk :=
    .goes (.goes (.goes (.goes (.goes .opens (.enroll ..)) (.put ..)) written) (.reopen rfl saved opened)) (.enroll ..)
  have representable : single.Representable := by
    unfold Representable
    decide
  have distinct : single.Distinct := by
    unfold Distinct
    decide
  obtain ⟨distinct, grown, held, -⟩ := leads.ordered_map representable (by decide) distinct
  exact ⟨_, disk, leads, distinct, grown, held "bob", held "cy"⟩

end Leads

end ImageBatch.BatchStore
