import ImageBatch.Config
import ImageBatch.Proofs.Checks
import ImageBatch.Proofs.Number.Reading
import ImageBatch.Proofs.Text.Cutting
import Mathlib

/-!
Which variables make a configuration.

Each `Parameter` of a configuration has a variable, the texts that mean one of its values, and a default. A
configuration is made exactly if every text that a variable `Holds` means something, and then each parameter has what
its variable `Gives` (`RunnerConfig.ofVariables_exact`). An error names a variable whose text means nothing. It has that
text as it was written, but for the two kinds of text that are `Reworded`: a flag with capital letters, and a number of
jobs that writes zero in another way.
-/

namespace ImageBatch

variable {text word : String}

/-! ### Words -/

namespace Text

/-- A text spells a word of small letters, each of them small or capital. -/
def Spells (text word : String) : Prop :=
  List.Forall₂ (fun c letter => c = letter ∨ c = letter.toUpper) text.toList word.toList

theorem toLower_eq_iff {c letter : Char} (small : ¬ letter.isUpper) :
    c.toLower = letter ↔ c = letter ∨ c = letter.toUpper := by
  constructor
  · rintro rfl
    by_cases capital : c.isUpper
    · rw [Char.toUpper_toLower_eq_toUpper]
      exact .inr (Char.toUpper_eq_of_not_isLower (Char.not_isLower_of_isUpper capital)).symm
    · exact .inl (Char.toLower_eq_of_not_isUpper capital).symm
  · rintro (rfl | rfl)
    · exact Char.toLower_eq_of_not_isUpper small
    · rw [Char.toLower_toUpper_eq_toLower, Char.toLower_eq_of_not_isUpper small]

theorem lowercaseAscii_eq_iff (small : ∀ letter ∈ word.toList, ¬ letter.isUpper) :
    lowercaseAscii text = word ↔ Spells text word := by
  rw [← String.toList_inj, lowercaseAscii, String.toList_ofList]
  unfold Spells
  generalize text.toList = chars, word.toList = letters at small
  induction chars generalizing letters with
  | nil => cases letters <;> simp
  | cons c chars ih =>
      cases letters with
      | nil => simp
      | cons letter letters =>
          obtain ⟨first, rest⟩ := List.forall_mem_cons.mp small
          rw [List.map_cons, List.cons.injEq, toLower_eq_iff first, ih letters rest, List.forall₂_cons]

theorem lowercaseAscii_eq_self : lowercaseAscii text = text ↔ ∀ c ∈ text.toList, ¬ c.isUpper := by
  rw [← String.toList_inj, lowercaseAscii, String.toList_ofList]
  have same (c : Char) : c.toLower = c ↔ ¬ c.isUpper := by
    constructor
    · intro same capital
      rw [← same, Char.isUpper_toLower_eq_false] at capital
      cases capital
    · exact Char.toLower_eq_of_not_isUpper
  calc text.toList.map Char.toLower = text.toList
      ↔ text.toList.map Char.toLower = text.toList.map id := by rw [List.map_id]
    _ ↔ ∀ c ∈ text.toList, c.toLower = c := List.map_inj_left
    _ ↔ ∀ c ∈ text.toList, ¬ c.isUpper := by simp only [same]

end Text

namespace RunnerConfig

open Checks

variable {vars : Variables} {name : String} {α β : Type} {e : ConfigError} {config : RunnerConfig}

/-! ### Variables -/

/-- A variable has this text between blanks, and the text is not empty. -/
def Holds (vars : Variables) (name text : String) : Prop :=
  ∃ raw, vars name = some raw ∧ Text.trim raw = text ∧ text ≠ ""

/-- A variable is not set, or has nothing but blanks. -/
def Lacks (vars : Variables) (name : String) : Prop :=
  ∀ raw, vars name = some raw → ∀ c ∈ raw.toList, Text.isBlank c = true

theorem value?_eq_some : value? vars name = some text ↔ Holds vars name text := by
  unfold value? Holds
  cases vars name with
  | none => simp
  | some raw =>
      simp only [Option.map_some, Option.filter_eq_some_iff, Option.some.injEq, bne_iff_ne, exists_eq_left']

theorem value?_eq_none : value? vars name = none ↔ Lacks vars name := by
  unfold value? Lacks
  cases vars name with
  | none => simp
  | some raw => simp [Text.trim_eq_empty]

theorem Holds.eq {other : String} (holds : Holds vars name text) (also_ : Holds vars name other) : text = other :=
  Option.some.inj ((value?_eq_some.mpr holds).symm.trans (value?_eq_some.mpr also_))

theorem Lacks.not_holds (lacks : Lacks vars name) : ¬ Holds vars name text := by
  intro holds
  have none_ := value?_eq_none.mpr lacks
  rw [value?_eq_some.mpr holds] at none_
  cases none_

/-! ### Parameters -/

/-- A part of the configuration that a variable sets. -/
structure Parameter where
  /-- The variable. -/
  name : String
  {Value : Type}
  /-- What its texts mean, those that mean something. -/
  Means : String → Value → Prop
  default : Value
  /-- What a configuration has for it. -/
  value : RunnerConfig → Value

namespace Parameter

def Accepts (parameter : Parameter) (text : String) : Prop := ∃ value, parameter.Means text value

/-- The meaning of a variable's text, or the default if there is none. -/
inductive Gives (vars : Variables) (parameter : Parameter) : parameter.Value → Prop
  | default (lacks : Lacks vars parameter.name) : Gives vars parameter parameter.default
  | text {text value} (holds : Holds vars parameter.name text) (means : parameter.Means text value) :
      Gives vars parameter value

/-- A text that a variable holds is accepted if the variable gives something. -/
theorem Gives.accepts {parameter : Parameter} {value : parameter.Value} (gives : parameter.Gives vars value)
    (holds : Holds vars parameter.name text) : parameter.Accepts text := by
  cases gives with
  | default lacks => exact absurd holds lacks.not_holds
  | text found means =>
      obtain rfl := found.eq holds
      exact ⟨_, means⟩

/-- A number within a limit, in a unit. -/
def numeric (limit : Nat) (unit : Nat → α) (name : String) (default : α) (value : RunnerConfig → α) : Parameter :=
  ⟨name, fun text value => ∃ n, (Natural.Writes text n ∧ n ≤ limit) ∧ unit n = value, default, value⟩

/-- Any text. -/
def plain (unit : String → α) (name : String) (default : α) (value : RunnerConfig → α) : Parameter :=
  ⟨name, fun text value => unit text = value, default, value⟩

/-- The most jobs with the service at once, and there is one. -/
def jobs : Parameter :=
  ⟨"MAX_CONCURRENT_JOBS", fun text n => (Natural.Writes text n ∧ n ≤ Natural.max64) ∧ n ≠ 0, 2, (·.tracker.concurrency)⟩

/-- Yes or no, in any letter case. -/
def rerun : Parameter :=
  ⟨"FORCE_RERUN", fun text yes => ∃ word ∈ if yes then ["1", "true", "yes"] else ["0", "false", "no"],
    Text.Spells text word, false, (·.tracker.forceRerun)⟩

/-- The name of a format, in any letter case. -/
def format : Parameter :=
  ⟨"LOG_FORMAT", fun text format => Text.Spells text format.word, .text, (·.logFormat)⟩

end Parameter

open Duration Natural in
/-- The parameters whose variables do not take every text. -/
def typed : List Parameter :=
  [.jobs,
   .numeric max64 ofSeconds "POLL_INTERVAL_SECS" (ofSeconds 2) (·.tracker.pollInterval),
   .numeric max64 ofSeconds "JOB_TIMEOUT_SECS" (ofSeconds 300) (·.tracker.maxJobDuration),
   .rerun,
   .numeric max32 id "RETRY_MAX_ATTEMPTS" 5 (·.retry.maxAttempts),
   .numeric max64 ofMillis "RETRY_INITIAL_DELAY_MS" (ofMillis 1000) (·.retry.initialDelay),
   .numeric max64 ofMillis "RETRY_MAX_DELAY_MS" (ofMillis 30000) (·.retry.maxDelay),
   .numeric max64 some "RUN_LIMIT" none (·.runLimit),
   .numeric max64 ofSeconds "COMFYUI_REQUEST_TIMEOUT_SECS" (ofSeconds 30) (·.requestTimeout),
   .format]

/-- The parameters whose variables take every text. -/
def untyped : List Parameter :=
  [.plain id "COMFYUI_URL" "http://127.0.0.1:8188" (·.serviceUrl),
   .plain Path.mk "USER_RECORDS_CSV" ⟨"data/personalization_seeds/user_preferences.csv"⟩ (·.userTable),
   .plain Path.mk "KEYWORD_MAPPING_PATH" ⟨"config/keyword_mapping.json"⟩ (·.mappingPath),
   .plain Path.mk "WORKFLOW_TEMPLATE_PATH" ⟨"config/workflow_template.json"⟩ (·.templatePath),
   .plain Path.mk "USER_IMAGES_DIR" ⟨"data/personalization_seeds/images"⟩ (·.userImagesDir),
   .plain Path.mk "INPUT_SEEDS_DIR" ⟨"data/input_seeds"⟩ (·.seedsDir),
   .plain some "STYLE_SEED_ID" none (·.styleSeedId),
   .plain Path.mk "OUTPUT_DIR" ⟨"outputs"⟩ (·.outputDir),
   .plain (fun text => some (items text)) "RUN_USERS" none (·.runUsers)]

/-! ### Errors -/

/-- An error has another text than the variable. -/
def Reworded (name text : String) : Prop :=
  name = "FORCE_RERUN" ∧ (∃ c ∈ text.toList, c.isUpper) ∨
    name = "MAX_CONCURRENT_JOBS" ∧ Natural.Writes text 0 ∧ text ≠ "0"

/-- The text of a variable as an error has it. -/
def shown (name text : String) : String :=
  if name = "FORCE_RERUN" then Text.lowercaseAscii text
  else if name = "MAX_CONCURRENT_JOBS" ∧ Natural.Writes text 0 then "0"
  else text

theorem shown_eq_self : shown name text = text ↔ ¬ Reworded name text := by
  unfold shown Reworded
  split
  next flag =>
      subst flag
      simp [Text.lowercaseAscii_eq_self]
  next other =>
      split
      next zero =>
          obtain ⟨rfl, zero⟩ := zero
          constructor
          · rintro rfl (flag | ⟨-, -, different⟩)
            · exact other flag.1
            · exact different rfl
          · intro kept
            by_contra different
            exact kept (.inr ⟨rfl, zero, Ne.symm different⟩)
      next kept =>
          simp only [true_iff, not_or]
          exact ⟨fun flag => other flag.1, fun zero => kept ⟨zero.1, zero.2.1⟩⟩

/-- The text of a parameter's variable means nothing, and the error says so. -/
def Faulty (vars : Variables) (parameter : Parameter) (e : ConfigError) : Prop :=
  ∃ text, Holds vars parameter.name text ∧ ¬ parameter.Accepts text ∧
    e = ⟨parameter.name, shown parameter.name text⟩

theorem shown_of_ne (noFlag : name ≠ "FORCE_RERUN") (noJobs : name ≠ "MAX_CONCURRENT_JOBS") :
    shown name text = text := by
  rw [shown_eq_self]
  rintro (flag | jobs)
  · exact noFlag flag.1
  · exact noJobs jobs.1

/-! ### Reading -/

section Reading

variable {parameter : Parameter} {read : String → Option α} {default a : α} {unit : α → parameter.Value}

theorem readOr_eq_ok : readOr read default vars name = .ok a ↔
    (Lacks vars name ∧ a = default) ∨ ∃ text, Holds vars name text ∧ read text = some a := by
  simp only [← value?_eq_none, ← value?_eq_some]
  unfold readOr
  split
  next none_ => simp [none_, eq_comm]
  next text some_ => cases reads : read text <;> simp [some_, reads]

theorem readOr_eq_error : readOr read default vars name = .error e ↔
    ∃ text, Holds vars name text ∧ read text = none ∧ e = ⟨name, text⟩ := by
  simp only [← value?_eq_some]
  unfold readOr
  split
  next none_ => simp [none_]
  next text some_ => cases reads : read text <;> simp [some_, reads, eq_comm]

/-- A function reads what the texts of a parameter mean. -/
structure Parameter.ReadBy (parameter : Parameter) (read : String → Option α) (default : α)
    (unit : α → parameter.Value) : Prop where
  default : unit default = parameter.default
  means : ∀ text value, parameter.Means text value ↔ ∃ a, read text = some a ∧ unit a = value

theorem Parameter.ReadBy.gives (reads : parameter.ReadBy read default unit)
    (went : readOr read default vars parameter.name = .ok a) : parameter.Gives vars (unit a) := by
  rcases readOr_eq_ok.mp went with ⟨lacks, rfl⟩ | ⟨text, holds, means⟩
  · rw [reads.default]
    exact .default lacks
  · exact .text holds ((reads.means _ _).mpr ⟨a, means, rfl⟩)

theorem Parameter.ReadBy.faulty (reads : parameter.ReadBy read default unit) (noFlag : parameter.name ≠ "FORCE_RERUN")
    (noJobs : parameter.name ≠ "MAX_CONCURRENT_JOBS")
    (failed : readOr read default vars parameter.name = .error e) : Faulty vars parameter e := by
  obtain ⟨text, holds, unread, rfl⟩ := readOr_eq_error.mp failed
  refine ⟨text, holds, ?_, by rw [shown_of_ne noFlag noJobs]⟩
  rintro ⟨value, means⟩
  obtain ⟨a, read_, -⟩ := (reads.means _ _).mp means
  rw [unread] at read_
  cases read_

end Reading

open Parameter

theorem Parameter.numeric_readBy {limit default : Nat} {unit : Nat → α} {standard : α} {value : RunnerConfig → α}
    (same : unit default = standard) :
    (numeric limit unit name standard value).ReadBy (Natural.read? limit) default unit where
  default := same
  means _ _ := by simp only [numeric, Natural.read?_eq_some]

theorem Parameter.optional_readBy {limit : Nat} {value : RunnerConfig → Option Nat} :
    (numeric limit some name none value).ReadBy (fun text => (Natural.read? limit text).map some) none id where
  default := rfl
  means _ _ := by simp [numeric, ← Natural.read?_eq_some]

theorem Parameter.format_readBy : format.ReadBy readLogFormat .text id where
  default := rfl
  means text (value : LogFormat) := by
    change Text.Spells text value.word ↔ ∃ a, readLogFormat text = some a ∧ a = value
    rw [exists_eq_right, ← Text.lowercaseAscii_eq_iff (by cases value <;> simp [LogFormat.word, Char.isUpper])]
    unfold readLogFormat
    split
    next is => cases value <;> simp [is, LogFormat.word]
    next is => cases value <;> simp [is, LogFormat.word]
    next noText noJson => cases value <;> simpa [LogFormat.word]

theorem Parameter.plain_gives {unit : String → α} {default given : α} {value : RunnerConfig → α}
    (same : ((value? vars name).map unit).getD default = given) :
    (plain unit name default value).Gives vars given := by
  cases found : value? vars name with
  | none =>
      rw [found] at same
      cases same
      exact .default (value?_eq_none.mp found)
  | some text =>
      rw [found] at same
      exact .text (value?_eq_some.mp found) same

/-! ### The number of jobs -/

theorem gives_jobs {jobs : Nat} (went : concurrency vars = .ok jobs) : Parameter.jobs.Gives vars jobs := by
  obtain ⟨n, read, checked⟩ := bind_eq_ok.mp went
  obtain ⟨some_, ⟨⟩⟩ := guard_eq_ok.mp checked
  rcases readOr_eq_ok.mp read with ⟨lacks, rfl⟩ | ⟨text, holds, means⟩
  · exact .default lacks
  · exact .text holds ⟨Natural.read?_eq_some.mp means, some_⟩

theorem faulty_jobs (failed : concurrency vars = .error e) : Faulty vars .jobs e := by
  rcases bind_eq_error.mp failed with failed | ⟨n, read, refused⟩
  · obtain ⟨text, holds, unread, rfl⟩ := readOr_eq_error.mp failed
    have none_ (n : Nat) : ¬ (Natural.Writes text n ∧ n ≤ Natural.max64) := by
      rw [← Natural.read?_eq_some, unread]
      exact nofun
    refine ⟨text, holds, fun ⟨n, number, _⟩ => none_ n number, ?_⟩
    have noZero : ¬ Natural.Writes text 0 := fun zero => none_ 0 ⟨zero, Nat.zero_le _⟩
    simp [shown, Parameter.jobs, noZero]
  · -- The default is not zero, so that the zero was read.
    have zero : n = 0 := by
      by_contra some_
      rw [if_neg some_] at refused
      cases refused
    subst zero
    cases refused
    rcases readOr_eq_ok.mp read with ⟨-, ⟨⟩⟩ | ⟨text, holds, means⟩
    have writes := (Natural.read?_eq_some.mp means).1
    refine ⟨text, holds, ?_, ?_⟩
    · rintro ⟨n, ⟨other, -⟩, some_⟩
      exact some_ (other.eq writes)
    · simp [shown, Parameter.jobs, writes]

/-! ### The flag -/

theorem Parameter.rerun_means {yes : Bool} : rerun.Means text yes ↔
    Text.lowercaseAscii text ∈ if yes then ["1", "true", "yes"] else ["0", "false", "no"] := by
  change (∃ word ∈ if yes then ["1", "true", "yes"] else ["0", "false", "no"], Text.Spells text word) ↔ _
  have small : ∀ word ∈ if yes then ["1", "true", "yes"] else ["0", "false", "no"],
      ∀ letter ∈ word.toList, ¬ letter.isUpper := by
    cases yes <;> simp [Char.isUpper]
  constructor
  · rintro ⟨word, member, spells⟩
    rwa [(Text.lowercaseAscii_eq_iff (small word member)).mpr spells]
  · intro member
    exact ⟨_, member, (Text.lowercaseAscii_eq_iff (small _ member)).mp rfl⟩

theorem gives_rerun {yes : Bool} (went : flag vars "FORCE_RERUN" = .ok yes) : Parameter.rerun.Gives vars yes := by
  unfold flag at went
  cases found : value? vars "FORCE_RERUN" with
  | none =>
      rw [found] at went
      cases went
      exact .default (value?_eq_none.mp found)
  | some text =>
      refine .text (value?_eq_some.mp found) (Parameter.rerun_means.mpr ?_)
      rw [found, Option.map_some] at went
      dsimp only at went
      split at went
      next member =>
          cases went
          exact List.contains_iff_mem.mp member
      next =>
          split at went
          next member =>
              cases went
              exact List.contains_iff_mem.mp member
          next => cases went

theorem faulty_rerun (failed : flag vars "FORCE_RERUN" = .error e) : Faulty vars .rerun e := by
  unfold flag at failed
  cases found : value? vars "FORCE_RERUN" with
  | none =>
      rw [found] at failed
      cases failed
  | some text =>
      rw [found, Option.map_some] at failed
      dsimp only at failed
      split at failed
      next => cases failed
      next noYes =>
          split at failed
          next => cases failed
          next noNo =>
              cases failed
              refine ⟨text, value?_eq_some.mp found, ?_, rfl⟩
              rintro ⟨yes, means⟩
              have member := List.contains_iff_mem.mpr (Parameter.rerun_means.mp means)
              cases yes with
              | true => exact noYes member
              | false => exact noNo member

/-! ### The configuration -/

theorem gives_of_configured (configured : ofVariables vars = .ok config) :
    ∀ parameter ∈ typed ++ untyped, parameter.Gives vars (parameter.value config) := by
  simp only [ofVariables, bind_eq_ok] at configured
  obtain ⟨jobs, one, poll, two, longest, three, again, four, attempts, five, initial, six, most, seven, limit, eight,
    request, nine, format, ten, ⟨⟩⟩ := configured
  simp only [typed, untyped, List.forall_mem_append, List.forall_mem_cons, List.not_mem_nil, false_implies, implies_true,
    and_true]
  have option {name : String} {α : Type} (unit : String → α) :
      ((value? vars name).map fun text => some (unit text)).getD none = (value? vars name).map unit := by
    cases value? vars name <;> rfl
  exact ⟨⟨gives_jobs one, (numeric_readBy rfl).gives two, (numeric_readBy rfl).gives three, gives_rerun four,
    (numeric_readBy rfl).gives five, (numeric_readBy rfl).gives six, (numeric_readBy rfl).gives seven,
    optional_readBy.gives eight, (numeric_readBy rfl).gives nine, format_readBy.gives ten⟩,
    plain_gives (Option.getD_map ..), plain_gives (Option.getD_map ..), plain_gives (Option.getD_map ..),
    plain_gives (Option.getD_map ..), plain_gives (Option.getD_map ..), plain_gives (Option.getD_map ..),
    plain_gives ((option id).trans Option.map_id_apply), plain_gives (Option.getD_map ..), plain_gives (option items)⟩

/-- A step that reads a parameter, in front of the steps that read the parameters after it. -/
theorem faulty_cons {first : Except ConfigError α} {next : α → Except ConfigError β} {parameter : Parameter}
    {rest : List Parameter} (one : ∀ e, first = .error e → Faulty vars parameter e)
    (others : ∀ value e, next value = .error e → ∃ other ∈ rest, Faulty vars other e) :
    ∀ e, first >>= next = .error e → ∃ other ∈ parameter :: rest, Faulty vars other e := by
  intro e failed
  rcases bind_eq_error.mp failed with failed | ⟨value, -, failed⟩
  · exact ⟨parameter, List.mem_cons_self, one e failed⟩
  · obtain ⟨other, member, faulty⟩ := others value e failed
    exact ⟨other, List.mem_cons_of_mem _ member, faulty⟩

theorem exists_faulty : ∀ e, ofVariables vars = .error e → ∃ parameter ∈ typed, Faulty vars parameter e := by
  unfold ofVariables typed
  refine faulty_cons (fun _ => faulty_jobs) fun _ => ?_
  refine faulty_cons (fun _ => (numeric_readBy rfl).faulty (by decide) (by decide)) fun _ => ?_
  refine faulty_cons (fun _ => (numeric_readBy rfl).faulty (by decide) (by decide)) fun _ => ?_
  refine faulty_cons (fun _ => faulty_rerun) fun _ => ?_
  refine faulty_cons (fun _ => (numeric_readBy rfl).faulty (by decide) (by decide)) fun _ => ?_
  refine faulty_cons (fun _ => (numeric_readBy rfl).faulty (by decide) (by decide)) fun _ => ?_
  refine faulty_cons (fun _ => (numeric_readBy rfl).faulty (by decide) (by decide)) fun _ => ?_
  refine faulty_cons (fun _ => optional_readBy.faulty (by decide) (by decide)) fun _ => ?_
  refine faulty_cons (fun _ => (numeric_readBy rfl).faulty (by decide) (by decide)) fun _ => ?_
  refine faulty_cons (fun _ => format_readBy.faulty (by decide) (by decide)) fun _ => ?_
  intro e failed
  cases failed

/-- A configuration is made exactly if every text that a variable holds means something, and it has what the variables
give. An error names a variable whose text means nothing, and has that text exactly if it is not reworded. -/
theorem ofVariables_exact (vars : Variables) :
    ((∃ config, ofVariables vars = .ok config) ↔
      ∀ parameter ∈ typed, ∀ text, Holds vars parameter.name text → parameter.Accepts text) ∧
    (∀ config, ofVariables vars = .ok config →
      ∀ parameter ∈ typed ++ untyped, parameter.Gives vars (parameter.value config)) ∧
    (∀ e, ofVariables vars = .error e → ∃ parameter ∈ typed, ∃ text, e.name = parameter.name ∧
      Holds vars parameter.name text ∧ ¬ parameter.Accepts text ∧ e.value = shown parameter.name text ∧
      (e.value = text ↔ ¬ Reworded parameter.name text)) := by
  refine ⟨⟨?_, ?_⟩, fun _ => gives_of_configured, ?_⟩
  · rintro ⟨config, configured⟩ parameter member text holds
    have gives := gives_of_configured configured parameter (List.mem_append_left _ member)
    exact gives.accepts holds
  · intro accepted
    cases made : ofVariables vars with
    | ok config => exact ⟨config, rfl⟩
    | error e =>
        obtain ⟨parameter, member, text, holds, refused, -⟩ := exists_faulty e made
        exact absurd (accepted parameter member text holds) refused
  · intro e failed
    obtain ⟨parameter, member, text, holds, refused, rfl⟩ := exists_faulty e failed
    exact ⟨parameter, member, text, rfl, holds, refused, rfl, shown_eq_self⟩

/-! ### Two flags -/

/-- The flag alone. -/
def flagged (text : String) : Variables
  | "FORCE_RERUN" => some text
  | _ => none

/-- A flag that is neither yes nor no is reworded. -/
theorem flag_reworded :
    Holds (flagged " MAYBE ") "FORCE_RERUN" "MAYBE" ∧
      ofVariables (flagged " MAYBE ") = .error ⟨"FORCE_RERUN", "maybe"⟩ :=
  ⟨⟨" MAYBE ", rfl, by decide +kernel, by decide⟩, by decide +kernel⟩

theorem ofVariables_exact_flagged :
    Parameter.rerun.Gives (flagged " YES ") true ∧
    ∃ parameter ∈ typed, ∃ text, "FORCE_RERUN" = parameter.name ∧ Holds (flagged " MAYBE ") parameter.name text ∧
      ¬ parameter.Accepts text := by
  constructor
  · have shown : (ofVariables (flagged " YES ")).toOption.map (·.tracker.forceRerun) = some true := by decide +kernel
    obtain ⟨config, configured, yes⟩ := exists_of_toOption shown
    rw [← yes]
    exact (ofVariables_exact (flagged " YES ")).2.1 config configured .rerun (by simp [typed])
  · have failed : ofVariables (flagged " MAYBE ") = .error ⟨"FORCE_RERUN", "maybe"⟩ := by decide +kernel
    obtain ⟨parameter, member, text, named, holds, refused, -⟩ := (ofVariables_exact _).2.2 _ failed
    exact ⟨parameter, member, text, named, holds, refused⟩

end RunnerConfig
end ImageBatch
