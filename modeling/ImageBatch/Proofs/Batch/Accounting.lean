import ImageBatch.Proofs.Batch.Chronicle
import ImageBatch.Proofs.Job.Summary
import Mathlib

/-!
A summary accounts for its records.

A tally has each value once, with its number, so the numbers add up to all items (`BatchSummary.sum_tally`), their order
does not matter (`BatchSummary.tally_perm`), and the tally of two lists is the sum of their tallies
(`BatchSummary.tally_append`). A summary is made of two tallies and of a report on each record that `Fails`, so it
`Accounts` for the records (`BatchSummary.ofRecords_exact`). Each failure is counted under its kind if its record has an
error, and the records that runs and collections make are `Formed`, so that they have one.
-/

namespace ImageBatch.BatchSummary

/-! ### Tallies -/

section Tallies

variable {α : Type} [DecidableEq α] {values items more : List α} {value : α}

/-- The number under a value in a table; none where nothing stands. -/
def entry (table : List (α × Nat)) (value : α) : Nat := (table.lookup value).getD 0

theorem entry_tally : entry (tally values items) value = if value ∈ values then items.count value else 0 := by
  induction values with
  | nil => rfl
  | cons first rest ih =>
      by_cases absent : items.count first = 0
      · have skipped : tally (first :: rest) items = tally rest items := List.filterMap_cons_none (if_pos absent)
        rw [skipped, ih]
        by_cases same : value = first
        · simp [same, absent]
        · simp [same]
      · have listed : tally (first :: rest) items = (first, items.count first) :: tally rest items :=
          List.filterMap_cons_some (if_neg absent)
        unfold entry at ih ⊢
        rw [listed, List.lookup_cons]
        by_cases same : value = first
        · simp [same]
        · rw [beq_false_of_ne same, ih]
          simp [same]

/-- The numbers of a tally add up to the number of items, if each item is counted and no value is counted twice. -/
theorem sum_tally (once : values.Nodup) (listed : ∀ item ∈ items, item ∈ values) :
    ((tally values items).map (·.2)).sum = items.length := by
  have dropped : ((tally values items).map (·.2)).sum = (values.map items.count).sum := by
    clear once listed
    induction values with
    | nil => rfl
    | cons first rest ih =>
        unfold tally at ih ⊢
        by_cases absent : items.count first = 0
        · simp [absent, ih]
        · simp [absent, ih]
  calc ((tally values items).map (·.2)).sum
      = ∑ value ∈ values.toFinset, Multiset.count value items := by
        simp only [dropped, List.sum_toFinset _ once, Multiset.coe_count]
    _ = items.length := Multiset.sum_count_eq_card fun item member => List.mem_toFinset.mpr (listed item member)

theorem tally_perm (perm : items.Perm more) : tally values items = tally values more := by
  unfold tally
  simp only [perm.count_eq]

/-- The sum of two tables, value by value. -/
def merge (values : List α) (one other : List (α × Nat)) : List (α × Nat) :=
  values.filterMap fun value =>
    if entry one value + entry other value = 0 then none else some (value, entry one value + entry other value)

theorem tally_append : tally values (items ++ more) = merge values (tally values items) (tally values more) := by
  refine List.filterMap_congr fun value listed => ?_
  rw [entry_tally, entry_tally, if_pos listed, if_pos listed, List.count_append]

end Tallies

/-! ### Reports -/

variable {records more : List JobRecord}

theorem mem_kinds (kind : FailureKind) : kind ∈ FailureKind.all := by cases kind <;> decide

/-- A report is on a record: it has the user and the status, and the story of the error if there is one. -/
structure Reports (record : JobRecord) (report : FailureReport) : Prop where
  userId : report.userId = record.userId
  status : report.status = record.status
  told : ∀ error, record.error = some error → report.kind = some error.kind ∧ report.message = error.message
  untold : record.error = none → report.kind = none ∧ report.message = ""

/-- The job ended without a result. -/
def Fails (record : JobRecord) : Prop := record.status = .failed ∨ record.status = .timedOut

instance (record : JobRecord) : Decidable (Fails record) := inferInstanceAs (Decidable (_ ∨ _))

theorem isFailure_iff {record : JobRecord} : record.status.isFailure = true ↔ Fails record := by
  unfold Fails
  cases record.status <;> decide

/-- A record in the form of a failure has an error. -/
theorem exists_error {record : JobRecord} (formed : record.Formed) (fails : Fails record) :
    ∃ error, record.error = some error := by
  unfold JobRecord.Formed at formed
  rcases fails with fails | fails
  all_goals
    rw [fails] at formed
    obtain ⟨-, -, -, error, why, -⟩ := formed
    exact ⟨error, why⟩

theorem failure?_eq_none {record : JobRecord} (stands : ¬ Fails record) : record.failure? = none :=
  if_neg fun failure => stands (isFailure_iff.mp failure)

theorem exists_report {record : JobRecord} (fails : Fails record) :
    ∃ report, record.failure? = some report ∧ Reports record report := by
  refine ⟨_, if_pos (isFailure_iff.mpr fails), rfl, rfl, ?_, ?_⟩
  · intro error why
    simp [why]
  · intro unknown
    simp [unknown]

theorem failures_reported (records : List JobRecord) :
    List.Forall₂ Reports (records.filter Fails) (ofRecords records).failures := by
  change List.Forall₂ Reports _ (records.filterMap (·.failure?))
  induction records with
  | nil => exact .nil
  | cons record rest ih =>
      by_cases fails : Fails record
      · obtain ⟨report, made, reports⟩ := exists_report fails
        rw [List.filter_cons_of_pos (by simpa using fails), List.filterMap_cons_some made]
        exact .cons reports ih
      · rw [List.filter_cons_of_neg (by simpa using fails), List.filterMap_cons_none (failure?_eq_none fails)]
        exact ih

/-- A kind is counted once for each record that failed like this. -/
theorem entry_byFailure (records : List JobRecord) (kind : FailureKind) : entry (ofRecords records).byFailure kind =
    records.countP fun record => Fails record ∧ record.error.map (·.kind) = some kind := by
  simp only [ofRecords, entry_tally, if_pos (mem_kinds kind), List.filterMap_filterMap, List.count_filterMap]
  refine List.countP_congr fun record _ => ?_
  by_cases fails : Fails record
  · obtain ⟨report, made, reports⟩ := exists_report fails
    cases why : record.error with
    | none => simp [made, (reports.untold why).1]
    | some error => simp [made, (reports.told error why).1, fails]
  · simp [failure?_eq_none fails, fails]

/-- If every record that failed has an error, each failure is counted under its kind. -/
theorem sum_byFailure (told : ∀ record ∈ records, Fails record → ∃ error, record.error = some error) :
    (∀ report ∈ (ofRecords records).failures, report.kind.isSome = true) ∧
    ((ofRecords records).byFailure.map (·.2)).sum = (ofRecords records).failures.length := by
  have known : ∀ report ∈ (ofRecords records).failures, report.kind.isSome = true := by
    intro report member
    obtain ⟨record, present, made⟩ := List.mem_filterMap.mp member
    have fails : Fails record := by
      by_contra stands
      rw [failure?_eq_none stands] at made
      cases made
    obtain ⟨own, same, reports⟩ := exists_report fails
    obtain rfl : own = report := Option.some.inj (same.symm.trans made)
    obtain ⟨error, why⟩ := told record present fails
    rw [(reports.told error why).1]
    rfl
  refine ⟨known, ?_⟩
  calc ((ofRecords records).byFailure.map (·.2)).sum
      = ((ofRecords records).failures.filterMap (·.kind)).length := sum_tally (by decide) fun kind _ => mem_kinds kind
    _ = (ofRecords records).failures.length := List.filterMap_length_eq_length.mpr known

/-! ### Accounts -/

/-- The entry-wise sum of two summaries, with the failures of one after those of the other. -/
def plus (one other : BatchSummary) : BatchSummary where
  total := one.total + other.total
  byStatus := merge JobStatus.all one.byStatus other.byStatus
  byFailure := merge FailureKind.all one.byFailure other.byFailure
  failures := one.failures ++ other.failures

theorem ofRecords_append : ofRecords (records ++ more) = (ofRecords records).plus (ofRecords more) := by
  simp only [ofRecords, plus, List.length_append, List.map_append, List.filterMap_append, tally_append]

/-- A summary accounts for a list of records. -/
structure Accounts (records : List JobRecord) (summary : BatchSummary) : Prop where
  total : summary.total = records.length
  sum : (summary.byStatus.map (·.2)).sum = records.length
  byStatus : ∀ status, summary.count status = records.countP (·.status = status)
  byFailure : ∀ kind, entry summary.byFailure kind =
    records.countP fun record => Fails record ∧ record.error.map (·.kind) = some kind
  failures : List.Forall₂ Reports (records.filter Fails) summary.failures
  complete : summary.isComplete = true ↔ ∀ record ∈ records, record.status.isTerminal = true

theorem accounts_ofRecords (records : List JobRecord) : Accounts records (ofRecords records) where
  total := rfl
  sum := by
    have counted : ((ofRecords records).byStatus.map (·.2)).sum = (records.map (·.status)).length :=
      sum_tally (by decide) fun status _ => mem_statuses status
    rw [counted, List.length_map]
  byStatus status := by
    rw [count_ofRecords, List.count, List.countP_map]
    rfl
  byFailure := entry_byFailure records
  failures := failures_reported records
  complete := isComplete_ofRecords

/-- The summary of any records accounts for them, whatever their order, and the summary of two lists is the sum of theirs.
If runs and collections made the records, the failures are counted without a gap. -/
theorem ofRecords_exact (records : List JobRecord) :
    Accounts records (ofRecords records) ∧
    (∀ others, records.Perm others → (ofRecords others).total = (ofRecords records).total ∧
      (ofRecords others).byStatus = (ofRecords records).byStatus ∧
      (ofRecords others).byFailure = (ofRecords records).byFailure) ∧
    (∀ more, ofRecords (records ++ more) = (ofRecords records).plus (ofRecords more)) ∧
    (∀ store times, Chronicle store times → records ⊆ store.records →
      (∀ report ∈ (ofRecords records).failures, report.kind.isSome = true) ∧
      ((ofRecords records).byFailure.map (·.2)).sum = (ofRecords records).failures.length) := by
  refine ⟨accounts_ofRecords records, ?_, fun _ => ofRecords_append, ?_⟩
  · intro others perm
    have statuses := perm.map (·.status)
    have kinds := (perm.filterMap (·.failure?)).filterMap (·.kind)
    exact ⟨perm.length_eq.symm, (tally_perm statuses).symm, (tally_perm kinds).symm⟩
  · intro store times chronicle kept
    exact sum_byFailure fun record present fails => exists_error (chronicle.kept record (kept present)).1 fails

open Chronicle Tracker in
/-- One job failed after all, and another one was never begun. -/
theorem ofRecords_exact_uncollected :
    (∃ store times, Chronicle store times ∧ [uncollected] ⊆ store.records ∧
      ((ofRecords [uncollected]).byFailure.map (·.2)).sum = 1) ∧
    [uncollected, .fresh "bob"].Perm [.fresh "bob", uncollected] ∧
    (ofRecords [.fresh "bob", uncollected]).byStatus = (ofRecords [uncollected, .fresh "bob"]).byStatus := by
  obtain ⟨s, reached, left⟩ : ∃ s, (prompted ["ada"]).Reaches .inMemory ⟨(), ⟨[]⟩, 0⟩ s ∧
      (emptyHanded.collectBatch s.run.store (prompted ["ada"]).batch.features later).2.1 = ⟨none, [uncollected]⟩ :=
    ⟨_, .round {} (.round {} (.round {} (.opening rfl rfl) rfl) rfl) rfl, rfl⟩
  have chronicle := Chronicle.collects (.runs (.opens none) (.inr (.inl reached))) emptyHanded
    (prompted ["ada"]).batch.features later
  rw [left] at chronicle
  have perm : [uncollected, .fresh "bob"].Perm [.fresh "bob", uncollected] := .swap ..
  have counted := ((ofRecords_exact [uncollected]).2.2.2 _ _ chronicle (List.Subset.refl _)).2
  exact ⟨⟨_, _, chronicle, List.Subset.refl _, counted⟩, perm, ((ofRecords_exact _).2.1 _ perm).2.1⟩

end ImageBatch.BatchSummary
