import ImageBatch.Backend.Retry
import ImageBatch.Text.Lowercase
import ImageBatch.Text.Quoted
import ImageBatch.Tracker.Run

/-!
The configuration of a whole run, from named variables.

A variable without anything but blanks counts as unset, and an unset one gives the default. The first
variable whose text cannot be read, in the order below, is the error.
-/

namespace ImageBatch

/-- A variable whose text cannot be read. -/
structure ConfigError where
  name : String
  value : String
deriving DecidableEq, Repr

def ConfigError.message (e : ConfigError) : String :=
  "invalid value for " ++ e.name ++ ": " ++ Text.quoted e.value

inductive LogFormat where
  | text
  | json
deriving DecidableEq, Repr

def LogFormat.word : LogFormat → String
  | .text => "text"
  | .json => "json"

/-- All that a whole run needs to know. -/
structure RunnerConfig where
  serviceUrl : String
  requestTimeout : Nat
  userTable : Path
  mappingPath : Path
  templatePath : Path
  /-- The folder of the users' reference images. -/
  userImagesDir : Path
  seedsDir : Path
  /-- The one style seed to use; without it every seed of the folder is used. -/
  styleSeedId : Option String
  outputDir : Path
  tracker : Tracker.Config
  retry : RetryPolicy
  runLimit : Option Nat
  runUsers : Option (List String)
  logFormat : LogFormat
deriving DecidableEq, Repr

namespace RunnerConfig

/-- The variables: their texts under their names. -/
abbrev Variables := String → Option String

/-- The text of a variable without blanks around it, if any is left. -/
def value? (vars : Variables) (name : String) : Option String :=
  ((vars name).map Text.trim).filter (· != "")

/-- A variable that is read, or its default. -/
def readOr {α : Type} (read : String → Option α) (default : α) (vars : Variables) (name : String) :
    Except ConfigError α :=
  match value? vars name with
  | none => .ok default
  | some text =>
    match read text with
    | some a => .ok a
    | none => .error ⟨name, text⟩

/-- A number of 64 bits. -/
def number (vars : Variables) (name : String) (default : Nat) : Except ConfigError Nat :=
  readOr (Natural.read? Natural.max64) default vars name

/-- A number of 32 bits. -/
def smallNumber (vars : Variables) (name : String) (default : Nat) : Except ConfigError Nat :=
  readOr (Natural.read? Natural.max32) default vars name

/-- Yes or no in any letter case; the error names the text in small letters. -/
def flag (vars : Variables) (name : String) : Except ConfigError Bool :=
  match (value? vars name).map Text.lowercaseAscii with
  | none => .ok false
  | some word =>
    if ["1", "true", "yes"].contains word then .ok true
    else if ["0", "false", "no"].contains word then .ok false
    else .error ⟨name, word⟩

def readLogFormat (text : String) : Option LogFormat :=
  match Text.lowercaseAscii text with
  | "text" => some .text
  | "json" => some .json
  | _ => none

/-- A path, or its default. -/
def path (vars : Variables) (name default : String) : Path :=
  ⟨(value? vars name).getD default⟩

/-- The items between commas, without blanks around them, if anything is left. -/
def items (text : String) : List String :=
  ((Text.splitOn (· == ',') text.toList).map fun item => String.ofList (Text.trimChars item)).filter
    (· != "")

/-- The most jobs with the service at once; none is an error. -/
def concurrency (vars : Variables) : Except ConfigError Nat := do
  let n ← number vars "MAX_CONCURRENT_JOBS" 2
  if n = 0 then throw ⟨"MAX_CONCURRENT_JOBS", "0"⟩
  return n

/-- The configuration that the variables describe. -/
def ofVariables (vars : Variables) : Except ConfigError RunnerConfig := do
  let concurrency ← concurrency vars
  let pollInterval ← number vars "POLL_INTERVAL_SECS" 2
  let maxJobDuration ← number vars "JOB_TIMEOUT_SECS" 300
  let forceRerun ← flag vars "FORCE_RERUN"
  let maxAttempts ← smallNumber vars "RETRY_MAX_ATTEMPTS" 5
  let initialDelay ← number vars "RETRY_INITIAL_DELAY_MS" 1000
  let maxDelay ← number vars "RETRY_MAX_DELAY_MS" 30000
  let runLimit ← readOr (fun text => (Natural.read? Natural.max64 text).map some) none vars
    "RUN_LIMIT"
  let requestTimeout ← number vars "COMFYUI_REQUEST_TIMEOUT_SECS" 30
  let logFormat ← readOr readLogFormat .text vars "LOG_FORMAT"
  return {
    serviceUrl := (value? vars "COMFYUI_URL").getD "http://127.0.0.1:8188"
    requestTimeout := Duration.ofSeconds requestTimeout
    userTable := path vars "USER_RECORDS_CSV" "data/personalization_seeds/user_preferences.csv"
    mappingPath := path vars "KEYWORD_MAPPING_PATH" "config/keyword_mapping.json"
    templatePath := path vars "WORKFLOW_TEMPLATE_PATH" "config/workflow_template.json"
    userImagesDir := path vars "USER_IMAGES_DIR" "data/personalization_seeds/images"
    seedsDir := path vars "INPUT_SEEDS_DIR" "data/input_seeds"
    styleSeedId := value? vars "STYLE_SEED_ID"
    outputDir := path vars "OUTPUT_DIR" "outputs"
    tracker := {
      concurrency
      pollInterval := Duration.ofSeconds pollInterval
      maxJobDuration := Duration.ofSeconds maxJobDuration
      forceRerun }
    retry := {
      maxAttempts
      initialDelay := Duration.ofMillis initialDelay
      maxDelay := Duration.ofMillis maxDelay }
    runLimit
    runUsers := (value? vars "RUN_USERS").map items
    logFormat }

/-- The file of the batch's store. -/
def statePath (config : RunnerConfig) : Path := config.outputDir.join "batch_state.json"

/-- The folder of the collected images. -/
def imagesDir (config : RunnerConfig) : Path := config.outputDir.join "final_images"

def manifestPath (config : RunnerConfig) : Path := config.outputDir.join "manifest.json"

def featuresPath (config : RunnerConfig) : Path := config.outputDir.join "features.json"

end RunnerConfig

end ImageBatch
