import ImageBatch.Proofs.Backend.Exchanges
import ImageBatch.Proofs.Tracker.Deadline
import ImageBatch.Proofs.Tracker.Journal
import ImageBatch.Proofs.Tracker.Waiting

/-!
What a run tells.

The journal has what happens to the jobs; the tale of a run has besides what the operations asked and what they were
answered (`Setting.Recounts`). A round takes in one event at its end, so it tells of one exchange at most, and of that
last (`Situation.tidings`). `View.Tells` is how the view of a job changes while something is told of it, and
`Setting.Meets.round_tells` says that a round tells of each job what happens to it.
-/

namespace ImageBatch.Tracker

variable {Ask : Type} {Answer : Ask → Type} {σ : Type}

/-- Something that a run tells of a job: an entry of the journal, or a question of its operation with the answer. -/
inductive Tiding (Ask : Type) (Answer : Ask → Type) where
  | noted (entry : Nat × Note)
  | exchanged (key : String) (exchange : Exchange Ask Answer)

namespace Tiding

def key : Tiding Ask Answer → String
  | .noted entry => entry.2.key
  | .exchanged key _ => key

/-- What is told of the job of a key. -/
def ofKey (key : String) (tale : List (Tiding Ask Answer)) : List (Tiding Ask Answer) := tale.filter (·.key == key)

theorem ofKey_append (key : String) (tale more : List (Tiding Ask Answer)) :
    ofKey key (more ++ tale) = ofKey key more ++ ofKey key tale := List.filter_append ..

/-- What is told of a job by the entries of a journal are its entries. -/
theorem ofKey_noted (key : String) (entries : List (Nat × Note)) :
    ofKey key (entries.map (.noted : _ → Tiding Ask Answer)) = (entries.filter (·.2.key == key)).map .noted := by
  rw [ofKey, List.filter_map]
  rfl

end Tiding

/-- The question that an operation asks when it goes on, with the answer. -/
def Operation.exchange? (service : Service Ask Answer σ) (operation : Operation Ask Answer) (world : World σ) :
    Option (Exchange Ask Answer) :=
  if operation.resumeAt ≤ world.now then
    match operation.task with
    | .done _ => none
    | .ask question _ =>
      let reply := service.respond question world.disk world.now world.state
      some ⟨question, reply.answer, world.now, reply.comesAt⟩
  else none

/-- What is told of an event besides what it enters: a question that is asked then, with the answer. -/
def Turn.exchange? (service : Service Ask Answer σ) (world : World σ) : Turn Ask Answer → Option (Tiding Ask Answer)
  | .operation picked _ => (picked.exchange? service world).map (.exchanged picked.key)
  | .cancellation | .waking => none

namespace Situation

variable (setting : Setting Ask Answer σ) (choice : Choice)

/-- The event that a round takes in, if it gets there, and the situation in which it does. -/
def turn? (s : Situation Ask Answer σ) : Option (Situation Ask Answer σ × Turn Ask Answer) := do
  let waiting ← s.waits? setting choice
  let t ← waiting.nextEvent? setting
  let awake := waiting.waitUntil (if setting.punctual then t else t + choice.late)
  let turn ← (awake.turns setting)[choice.turn % (awake.turns setting).length]?
  return (awake, turn)

/-- The exchange of a round, if it has one. -/
def exchange? (s : Situation Ask Answer σ) : Option (Tiding Ask Answer) := do
  let (awake, turn) ← s.turn? setting choice
  turn.exchange? setting.service awake.world

/-- What a round tells, latest first: what it entered into the journal, and then its exchange. -/
def tidings (s : Situation Ask Answer σ) : List (Tiding Ask Answer) :=
  let journal := (s.round setting choice).situation.run.journal
  (s.exchange? setting choice).toList ++ (journal.take (journal.length - s.run.journal.length)).map .noted

end Situation

/-- The situations before a round that a run may get to, with all that it has told by then, latest first. -/
inductive Setting.Recounts (setting : Setting Ask Answer σ) (store : BatchStore) (world : World σ) :
    List (Tiding Ask Answer) → Situation Ask Answer σ → Prop where
  | opening {opening s} : setting.opening store world = .ok opening → opening.save = .goesOn s →
      Recounts setting store world [] s
  | round {tale s next} (choice : Choice) : Recounts setting store world tale s →
      s.round setting choice = .goesOn next → Recounts setting store world (s.tidings setting choice ++ tale) next

/-! ### The tale of a job -/

/-- The place of a job whose operation has come further. -/
def Place.resumed (operation : Operation Ask Answer) : Place Ask Answer → Place Ask Answer
  | .submitting warnings job _ => .submitting warnings job operation
  | .observing job _ => .observing job operation
  | place => place

/-- A view at an instant: what was entered is past, and in a punctual run the tick of the deadline is not past while the
job is observed. -/
structure View.Timely (setting : Setting Ask Answer σ) (now : Nat) (view : View Ask Answer) : Prop where
  past : ∀ entry ∈ view.notes, entry.1 ≤ now
  early : setting.punctual = true →
    ∀ job operation, view.place = .observing job operation → now ≤ Instant.nextTick job.deadline

/-- A job's view changes while this is told of it. -/
inductive View.Tells (setting : Setting Ask Answer σ) (key : String) (view : View Ask Answer) :
    List (Tiding Ask Answer) → View Ask Answer → Prop where
  | begins : Tells setting key view [] view
  | marks {tale next} (before : Tells setting key view tale next) (unmarked : next.owed = none) :
      Tells setting key view tale next.marked
  | moves {tale next later world world' new} (before : Tells setting key view tale next) (sound : next.Sound key)
      (timely : next.Timely setting world.now)
      (move : Move setting key world world' next later) (entered : later.notes = new ++ next.notes) (loud : new ≠ []) :
      Tells setting key view (new.map .noted ++ tale) later
  | asks {tale next operation question rest} (before : Tells setting key view tale next) (sound : next.Sound key)
      (under : next.place.operations = [operation]) (asks : operation.task = .ask question rest)
      (answer : Answer question) (askedAt comesAt : Nat) :
      Tells setting key view (.exchanged key ⟨question, answer, askedAt, comesAt⟩ :: tale)
        { next with place := next.place.resumed { operation with task := rest answer, resumeAt := comesAt } }

section

variable {setting : Setting Ask Answer σ} {choice : Choice} {s t awake next : Situation Ask Answer σ}
  {turn : Turn Ask Answer} {key : String} {keys : List String} {store : BatchStore} {world world' : World σ}
  {view view' later : View Ask Answer} {tale more : List (Tiding Ask Answer)} {new : List (Nat × Note)}

theorem Setting.Recounts.reaches (recounts : setting.Recounts store world tale s) : setting.Reaches store world s := by
  induction recounts with
  | opening opened saved => exact .opening opened saved
  | round choice _ goes ih => exact .round choice ih goes

/-- Wherever a run gets, there is a tale of it. -/
theorem Setting.Reaches.recounts (reached : setting.Reaches store world s) :
    ∃ tale, setting.Recounts store world tale s := by
  induction reached with
  | opening opened saved => exact ⟨[], .opening opened saved⟩
  | round choice _ goes ih =>
      obtain ⟨tale, recounts⟩ := ih
      exact ⟨_, .round choice recounts goes⟩

theorem View.Tells.trans (first : view.Tells setting key tale view') (second : view'.Tells setting key more later) :
    view.Tells setting key (more ++ tale) later := by
  induction second with
  | begins => exact first
  | marks _ unmarked ih => exact ih.marks unmarked
  | moves _ sound timely move entered loud ih =>
      rw [List.append_assoc]
      exact ih.moves sound timely move entered loud
  | asks _ sound under asks answer askedAt comesAt ih => exact ih.asks sound under asks answer askedAt comesAt

/-- Whatever happens to a job is entered, unless its operation asks a question. -/
theorem Move.entered (move : Move setting key world world' view view') :
    ∃ new, view'.notes = new ++ view.notes ∧ (view.place.operations = [] → new ≠ []) := by
  cases move with
  | fails | submits | polls => exact ⟨[_], rfl, fun _ => by simp⟩
  | expires => exact ⟨[_, _], rfl, fun _ => by simp⟩
  | asksSubmitting | asksObserving => exact ⟨[], rfl, fun idle => nomatch idle⟩
  | accepted | declined | observed | timesOut => exact ⟨[_, _], rfl, fun idle => nomatch idle⟩

/-- Nothing is entered before it happens. -/
theorem Setting.Meets.past (met : setting.Meets store world s) : ∀ entry ∈ s.run.journal, entry.1 ≤ s.world.now := by
  obtain ⟨opening, keys, opened, path⟩ := met
  refine path.invariant (P := fun s => ∀ entry ∈ s.run.journal, entry.1 ≤ s.world.now) ?_ ?_
  · intro touched s t past step entry member
    obtain ⟨new, entered, now⟩ := step.journal
    have passes : s.world.now ≤ t.world.now := by
      cases step with
      | waits u filled later => exact later
      | _ => exact Nat.le_refl _
    rw [entered] at member
    rcases List.mem_append.mp member with member | member
    · exact Nat.le_trans (Nat.le_of_eq (now entry member).2) passes
    · exact Nat.le_trans (past entry member) passes
  · obtain ⟨run, started, rfl⟩ := Setting.opening_eq opened
    obtain ⟨_, _, _, rfl, -⟩ := Run.placeAll_frame started
    intro entry member
    cases member

theorem Setting.Meets.timely (met : setting.Meets store world s) (member : key ∈ setting.batch.keys)
    (shows : s.Shows key view) : view.Timely setting s.world.now where
  past := by
    intro entry noted
    rw [← shows.notes] at noted
    exact met.past entry (List.mem_filter.mp noted).1
  early := by
    intro punctual job operation observed
    obtain ⟨opening, keys, opened, path⟩ := met
    obtain ⟨first, opens, shown⟩ := Setting.opening_shows opened member
    have onTime : first.OnTime setting.config (fun _ => False) key opening.world.now := by
      have start : opening.world.now = world.now := by
        obtain ⟨run, -, rfl⟩ := Setting.opening_eq opened
        rfl
      rw [start]
      cases opens with
      | pending | restarts => exact ⟨fun _ => id, by simp⟩
      | keeps => exact fun _ _ _ => by simp
      | adopts handedOver named adopted =>
          obtain ⟨limit, -, rfl⟩ := Run.adopt_eq adopted
          refine ⟨Nat.le_trans (Nat.le_add_right ..) (Instant.le_nextTick _), ?_, by simp⟩
          intro other isDeadline
          rcases isDeadline with never | ⟨_, _, _, present, -⟩
          · cases never
          · cases present
    obtain ⟨last, shown, -, onTime, -⟩ := Path.keeps (fun _ => True)
      (fun _ world view => view.OnTime setting.config (fun _ => False) key world.now) member (fun _ _ => trivial)
      (fun _ _ sound onTime move => move.onTime sound onTime)
      (fun _ _ _ onTime => onTime)
      (by
        rintro n touched s t view - - step shows sound onTime
        rcases step.now_cases shows with same | ⟨-, -, -, bounds⟩
        · rw [same]
          exact onTime
        · exact onTime.passes sound (bounds punctual).1 (bounds punctual).2)
      path (Setting.opening_proper opened) trivial shown (opens.sound (BatchStore.recordOf_userId ..)) onTime (n := 0)
    obtain rfl := shown.unique shows
    unfold View.OnTime at onTime
    rw [observed] at onTime
    exact onTime.1

/-- Along a path with one step of a job at most, what is entered of the job is all that there is to tell of it, if it
has no operation before that step. -/
theorem Path.tells (met : setting.Meets store world s) (path : Path setting keys s t)
    (member : key ∈ setting.batch.keys) (shows : s.Shows key view) (once : keys.count key ≤ 1)
    (idle : key ∈ keys → view.place.operations = [])
    (entered : t.run.journal = new ++ s.run.journal) :
    ∃ later, t.Shows key later ∧ view.Tells setting key (Tiding.ofKey key (new.map .noted)) later := by
  obtain ⟨first, shown, sound⟩ := met.shows member
  obtain rfl := shown.unique shows
  obtain ⟨later, shows, -, ⟨own, noted, none_, one⟩, -⟩ := Path.keeps (setting.Meets store world)
    (fun n _ view => ∃ new, view.notes = new ++ first.notes ∧
      (n = 0 → view.place = first.place ∧ first.Tells setting key (new.map .noted) view) ∧
      (n = 1 → first.place.operations = [] → first.Tells setting key (new.map .noted) view))
    member Setting.Meets.step
    (by
      rintro n s t view view' met shows sound ⟨new, noted, none_, -⟩ move
      obtain ⟨more, entered, loud⟩ := move.entered
      refine ⟨more ++ new, by rw [entered, noted, List.append_assoc], (nomatch ·), fun first idle => ?_⟩
      obtain ⟨same, tells⟩ := none_ (Nat.succ.inj first)
      rw [List.map_append]
      exact tells.moves sound (met.timely member shows) move entered (loud (same ▸ idle)))
    (by
      rintro n s world view - - unmarked ⟨new, noted, none_, one⟩
      refine ⟨new, noted, fun zero => ?_, fun first idle => (one first idle).marks unmarked⟩
      exact ⟨(none_ zero).1, (none_ zero).2.marks unmarked⟩)
    (fun _ _ _ _ _ holds => holds)
    path met.proper met shown sound
    ⟨[], rfl, fun _ => ⟨rfl, .begins⟩, (nomatch ·)⟩ (n := 0)
  have filtered : later.notes = new.filter (·.2.key == key) ++ first.notes := by
    rw [← shows.notes, entered, List.filter_append, shown.notes]
  obtain rfl : own = new.filter (·.2.key == key) := List.append_cancel_right (noted.symm.trans filtered)
  refine ⟨later, shows, ?_⟩
  rw [Tiding.ofKey_noted]
  rw [Nat.zero_add] at none_ one
  rcases Nat.le_one_iff_eq_zero_or_eq_one.mp once with zero | touched
  · exact (none_ zero).2
  · refine one touched (idle ?_)
    exact List.count_pos_iff.mp (by omega)

/-! ### The tale of a round -/

namespace Situation

theorem exists_of_turn (taken : s.turn? setting choice = some (awake, turn)) :
    ∃ waiting t, s.waits? setting choice = some waiting ∧ waiting.nextEvent? setting = some t ∧
      awake = waiting.waitUntil (if setting.punctual then t else t + choice.late) ∧
      (awake.turns setting)[choice.turn % (awake.turns setting).length]? = some turn := by
  unfold turn? at taken
  cases waits : s.waits? setting choice with
  | none => simp [waits] at taken
  | some waiting =>
      cases nearest : waiting.nextEvent? setting with
      | none => simp [waits, nearest] at taken
      | some t =>
          simp only [waits, nearest, Option.bind_eq_bind, Option.bind_some, Option.bind_eq_some_iff, Option.some.injEq,
            Prod.mk.injEq, Option.pure_def] at taken
          obtain ⟨_, picked, rfl, rfl⟩ := taken
          exact ⟨waiting, t, rfl, nearest, rfl, picked⟩

/-- The rest of a round takes in its event. -/
theorem round_of_turn (taken : s.turn? setting choice = some (awake, turn)) :
    s.round setting choice = awake.take setting turn := by
  obtain ⟨waiting, t, waits, nearest, rfl, picked⟩ := exists_of_turn taken
  rw [round_of_waits waits, await, nearest]
  simp only [picked]

theorem waited_path (choice : Choice) {t : Nat} {waiting : Situation Ask Answer σ} (filled : waiting.Filled setting)
    (nearest : waiting.nextEvent? setting = some t) :
    Path setting [] waiting (waiting.waitUntil (if setting.punctual then t else t + choice.late)) := by
  refine waitUntil_path filled fun punctual => ?_
  rw [if_pos punctual]
  exact next_of_nearest nearest

/-- Steps lead to the situation in which a round takes in its event, each of a job that was pending. -/
theorem turn_path (taken : s.turn? setting choice = some (awake, turn)) :
    ∃ keys, Path setting keys s awake ∧ s.run.pending = keys ++ awake.run.pending ∧ turn ∈ awake.turns setting := by
  obtain ⟨waiting, t, waits, nearest, rfl, picked⟩ := exists_of_turn taken
  obtain ⟨keys, path, queue, filled⟩ := waits_path waits
  exact ⟨keys, by simpa using path.trans (waited_path choice filled nearest), queue, List.mem_of_getElem? picked⟩

/-- A round that does not wait fails to save what it submits, or is the last one. -/
theorem round_of_no_wait (waits : s.waits? setting choice = none) :
    ∃ keys t, Path setting keys s t ∧ s.run.pending = keys ++ t.run.pending ∧
      (s.round setting choice).situation.run = t.run ∧ ∀ next, s.round setting choice ≠ .goesOn next := by
  unfold waits? at waits
  unfold round
  cases filled : s.fill setting choice with
  | goesOn filled_ =>
      obtain ⟨keys, path, queue, -⟩ := fill_goesOn filled
      rw [filled] at waits
      have ended : filled_.noted.run.isOver = true := by simpa using waits
      refine ⟨keys, filled_.noted, noted_path path,
        queue.trans (congrArg (keys ++ ·) filled_.noted_frame.2.1.symm), ?_⟩
      have done : (if filled_.noted.run.isOver then .over filled_.noted else filled_.noted.await setting choice) =
          Verdict.over filled_.noted := if_pos ended
      exact ⟨congrArg (fun verdict => verdict.situation.run) done, fun next goes => nomatch done.symm.trans goes⟩
  | failed fault last =>
      obtain ⟨keys, t, path, queue, -, going | saved⟩ := fill_path setting choice s
      · cases filled.symm.trans going
      · obtain ⟨disk, rfl⟩ := eq_of_not_saved (saved.symm.trans filled)
        exact ⟨keys, t, path, queue, rfl, fun next goes => nomatch goes⟩
  | _ =>
      obtain ⟨keys, t, -, -, -, going | saved⟩ := fill_path setting choice s
      · cases filled.symm.trans going
      · obtain ⟨disk, ok | ⟨e, unsaved⟩⟩ := save_cases t
        · cases filled.symm.trans (saved.trans ok)
        · cases filled.symm.trans (saved.trans unsaved)

/-- A round that takes in no event ends with what it submits. -/
theorem round_of_no_turn (idle : s.turn? setting choice = none) :
    ∃ keys t, Path setting keys s t ∧ s.run.pending = keys ++ t.run.pending ∧
      (s.round setting choice).situation.run = t.run ∧
      ∀ next, s.round setting choice = .goesOn next → t = next := by
  cases waits : s.waits? setting choice with
  | some waiting =>
      obtain ⟨keys, path, queue, filled⟩ := waits_path waits
      rw [round_of_waits waits, await]
      cases nearest : waiting.nextEvent? setting with
      | none => exact ⟨keys, waiting, path, queue, rfl, fun _ goes => nomatch goes⟩
      | some t =>
          refine ⟨keys, waiting.waitUntil (if setting.punctual then t else t + choice.late),
            by simpa using path.trans (waited_path choice filled nearest), queue, ?_⟩
          have nothing :
              let turns := (waiting.waitUntil (if setting.punctual then t else t + choice.late)).turns setting
              turns[choice.turn % turns.length]? = none := by
            refine Option.eq_none_iff_forall_ne_some.mpr fun turn picked => ?_
            simp [turn?, waits, nearest, picked] at idle
          simp only [nothing]
          exact ⟨rfl, fun next goes => Verdict.goesOn.inj goes⟩
  | none =>
      obtain ⟨keys, t, path, queue, run, stops⟩ := round_of_no_wait waits
      exact ⟨keys, t, path, queue, run, fun next goes => absurd goes (stops next)⟩

end Situation

/-- A job of which keys are taken from the queue is taken once, and has no operation. -/
theorem Situation.Shows.once_of_queue {rest : List String} (shows : s.Shows key view)
    (queue : s.run.pending = keys ++ rest) : keys.count key ≤ 1 ∧ (key ∈ keys → view.place.operations = []) := by
  have queued := shows.queue
  rw [queue, List.count_append] at queued
  constructor
  · have bound : view.place.queued ≤ 1 := by cases view.place <;> simp [Place.queued]
    omega
  · intro taken
    have := List.count_pos_iff.mpr taken
    cases place : view.place <;> simp [place, Place.queued, Place.operations] at queued ⊢
    all_goals omega

/-- A job that is woken is woken once, and has no operation. -/
theorem Situation.Shows.once_of_waiting (shows : s.Shows key view)
    (woken : keys.count key ≤ (s.run.waiting.map (·.key)).count key) :
    keys.count key ≤ 1 ∧ (key ∈ keys → view.place.operations = []) := by
  rw [shows.count_waiting] at woken
  constructor
  · have bound : view.place.jobs.length ≤ 1 := by cases view.place <;> simp [Place.jobs]
    omega
  · intro taken
    have := List.count_pos_iff.mpr taken
    cases place : view.place <;> simp [place, Place.jobs, Place.operations] at woken ⊢
    all_goals omega

/-- An operation that ends asks nothing. -/
theorem Operation.exchange?_of_endsWith {service : Service Ask Answer σ} {operation : Operation Ask Answer}
    {completion : Completion} (ends : operation.EndsWith world.now completion) :
    operation.exchange? service world = none := by
  unfold exchange?
  rcases ends with ⟨-, done⟩ | ⟨early, -⟩
  · simp only [done, ite_self]
  · exact if_neg (Nat.not_le.mpr early)

/-- What an operation asks is told of its job alone. -/
theorem Setting.Meets.asks_tells {operation : Operation Ask Answer} {others : List (Operation Ask Answer)}
    {question : Ask} {rest : Answer question → Task Ask Answer Completion} {reply : Reply (Answer question) σ}
    (met : setting.Meets store world s)
    (picked : (operation, others) ∈ Situation.dueOperations s.world.now s.operations)
    (asks : operation.task = .ask question rest) (step : Step setting (some operation.key) s t)
    (after : t = { s with
      operations := { operation with task := rest reply.answer, resumeAt := reply.comesAt } :: others
      world := { s.world with state := reply.state } })
    (member : key ∈ setting.batch.keys) (shows : s.Shows key view) :
    ∃ later, t.Shows key later ∧ view.Tells setting key
      (Tiding.ofKey key [.exchanged operation.key ⟨question, reply.answer, s.world.now, reply.comesAt⟩]) later := by
  by_cases own : operation.key = key
  · subst own
    obtain ⟨view, shows', sound⟩ := met.shows member
    obtain rfl := shows.unique shows'
    have mine : Tiding.ofKey operation.key
        [.exchanged operation.key ⟨question, reply.answer, s.world.now, reply.comesAt⟩] =
        [.exchanged operation.key ⟨question, reply.answer, s.world.now, reply.comesAt⟩] := by
      simp [Tiding.ofKey, Tiding.key]
    rw [mine]
    obtain ⟨place, record, owed, notes⟩ := view
    obtain ⟨⟨warnings, job, rfl⟩ | ⟨job, rfl⟩, free⟩ := shows.operation_of_picked picked
    all_goals
      refine ⟨_, ?_, View.Tells.begins.asks sound rfl asks reply.answer s.world.now reply.comesAt⟩
      rw [after]
      exact { shows with operations := by simp [free, Place.operations, Place.resumed] }
  · have strange : Tiding.ofKey key
        [.exchanged operation.key ⟨question, reply.answer, s.world.now, reply.comesAt⟩] = [] := by
      simp [Tiding.ofKey, Tiding.key, own]
    have silent : t.run.journal = [] ++ s.run.journal := by rw [after]; rfl
    rw [strange]
    exact step.path.tells met member shows (by simp [own]) (by simp [Ne.symm own]) silent

/-- What the end of an operation enters is all that is told of it. -/
theorem Setting.Meets.concludes_tells {completion : Completion} {touched : String}
    (met : setting.Meets store world s) (step : Step setting (some touched) s t)
    (after : t.run = s.run.conclude setting.config s.world.now (s.moment setting) completion)
    (member : key ∈ setting.batch.keys) (shows : s.Shows key view) (entered : t.run.journal = new ++ s.run.journal) :
    ∃ later, t.Shows key later ∧ view.Tells setting key (Tiding.ofKey key (new.map .noted)) later := by
  by_cases own : touched = key
  · subst own
    obtain ⟨view, shows', sound⟩ := met.shows member
    obtain rfl := shows.unique shows'
    obtain ⟨later, shown, move⟩ := step.moves met.proper member shows sound
    obtain ⟨all, entered', noted⟩ := step.notes shows shown
    obtain rfl : new = all := List.append_cancel_right (entered.symm.trans entered')
    have loud : new ≠ [] := by
      obtain ⟨_, _, _, -, -, -, -, effect⟩ :=
        Run.conclude_frame setting.config s.world.now (s.moment setting) s.run completion
      rintro rfl
      have lengths := congrArg List.length entered
      rw [after, effect] at lengths
      simp at lengths
      omega
    have mine : new.filter (·.2.key == touched) = new := by
      have whole := shown.notes
      rw [entered, List.filter_append, shows.notes, noted] at whole
      exact List.append_cancel_right whole
    rw [Tiding.ofKey_noted, mine]
    refine ⟨later, shown, ?_⟩
    have tells := View.Tells.begins.moves sound (met.timely member shows) move noted loud
    simpa using tells
  · exact step.path.tells met member shows (by simp [own]) (by simp [Ne.symm own]) entered

/-- What the verdict leaves comes up in the run, and what was asked and what was entered on the way is all that is told
of each job. -/
def Verdict.Tells (setting : Setting Ask Answer σ) (store : BatchStore) (world : World σ) (s : Situation Ask Answer σ)
    (asked : Option (Tiding Ask Answer)) (verdict : Verdict Ask Answer σ) : Prop :=
  ∃ t new, setting.Meets store world t ∧ verdict.situation.run = t.run ∧ (∀ next, verdict = .goesOn next → t = next) ∧
    t.run.journal = new ++ s.run.journal ∧
    ∀ key ∈ setting.batch.keys, ∀ view, s.Shows key view → ∃ later, t.Shows key later ∧
      view.Tells setting key (Tiding.ofKey key (asked.toList ++ new.map .noted)) later

/-- Saving tells nothing more. -/
theorem Setting.Meets.saving_tells {asked : Option (Tiding Ask Answer)} (met : setting.Meets store world t)
    (entered : t.run.journal = new ++ s.run.journal)
    (tells : ∀ key ∈ setting.batch.keys, ∀ view, s.Shows key view → ∃ later, t.Shows key later ∧
      view.Tells setting key (Tiding.ofKey key (asked.toList ++ new.map .noted)) later) :
    Verdict.Tells setting store world s asked t.save := by
  have kept (disk : Disk) : ∀ key ∈ setting.batch.keys, ∀ view, s.Shows key view →
      ∃ later, ({ t with world := { t.world with disk } } : Situation Ask Answer σ).Shows key later ∧
        view.Tells setting key (Tiding.ofKey key (asked.toList ++ new.map .noted)) later := by
    intro key member view shows
    obtain ⟨later, shown, told⟩ := tells key member view shows
    exact ⟨later, { shown with }, told⟩
  obtain ⟨disk, ok | ⟨e, failed⟩⟩ := Situation.save_cases t
  · rw [ok]
    exact ⟨_, new, met.step (.saves disk), rfl, fun next goes => Verdict.goesOn.inj goes, entered, kept disk⟩
  · rw [failed]
    exact ⟨_, new, met.step (.saves disk), rfl, fun next goes => (nomatch goes), entered, kept disk⟩

/-- Going on with an operation tells of its job what it asks, or what its end enters. -/
theorem Setting.Meets.operation_tells {operation : Operation Ask Answer} {others : List (Operation Ask Answer)}
    (met : setting.Meets store world s)
    (picked : (operation, others) ∈ Situation.dueOperations s.world.now s.operations) :
    Verdict.Tells setting store world s (Turn.exchange? setting.service s.world (.operation operation others))
      (s.take setting (.operation operation others)) := by
  obtain ⟨due, -⟩ := Situation.mem_dueOperations picked
  rcases advanced : operation.advance setting.service s.world with ⟨outcome, world'⟩
  rcases Operation.advance_cases due advanced with
    ⟨question, next, reply, resumed, asks, replied, rfl, rfl⟩ | ⟨completion, ends, rfl, rfl⟩
  · have step := Step.asks picked resumed asks replied
    have told : Turn.exchange? setting.service s.world (.operation operation others) =
        some (.exchanged operation.key ⟨question, reply.answer, s.world.now, reply.comesAt⟩) := by
      simp [Turn.exchange?, Operation.exchange?, resumed, asks, replied]
    simp only [Situation.take, advanced]
    refine ⟨_, [], met.step step, rfl, fun next goes => Verdict.goesOn.inj goes, rfl, ?_⟩
    intro key member view shows
    rw [told]
    exact met.asks_tells picked asks step rfl member shows
  · have silent : Turn.exchange? setting.service s.world (.operation operation others) = none := by
      rw [Turn.exchange?, Operation.exchange?_of_endsWith ends]
      rfl
    obtain ⟨activity, serves⟩ := met.proper.serving operation (Situation.mem_of_picked picked).1
    have own : completion.key = operation.key := (serves.yields ends).key_eq.trans serves.key_eq.symm
    have taken : s.take setting (.operation operation others) =
        Situation.conclude setting { s with operations := others } [completion] := by
      simp only [Situation.take, advanced]
    rw [taken, Situation.conclude, Run.concludeAll, silent]
    cases nameable : s.run.canConclude setting.config s.world.now (s.moment setting) completion with
    | true =>
        rw [show s.run.canConclude setting.config s.world.now
          (Situation.moment setting { s with operations := others }) completion = true from nameable]
        have step := Step.concludes picked ends own nameable
        obtain ⟨new, entered, -⟩ := step.journal
        refine (met.step step).saving_tells entered ?_
        intro key member view shows
        exact met.concludes_tells step rfl member shows entered
    | false =>
        rw [show s.run.canConclude setting.config s.world.now
          (Situation.moment setting { s with operations := others }) completion = false from nameable]
        refine ⟨s, [], met, rfl, ?_, rfl, fun key _ view shows => ⟨view, shows, .begins⟩⟩
        intro next goes
        cases goes

/-- Waking jobs tells what is entered for each. -/
theorem Setting.Meets.waking_tells (met : setting.Meets store world s) :
    Verdict.Tells setting store world s none (s.take setting .waking) := by
  obtain ⟨keys, t, path, verdict, woken, -⟩ := Situation.wake_path setting s
  obtain ⟨new, entered, -⟩ := path.journal
  have tells (key : String) (member : key ∈ setting.batch.keys) (view : View Ask Answer) (shows : s.Shows key view) :
      ∃ later, t.Shows key later ∧ view.Tells setting key (Tiding.ofKey key (new.map .noted)) later := by
    obtain ⟨once, idle⟩ := shows.once_of_waiting (woken key)
    exact path.tells met member shows once idle entered
  rw [Situation.take]
  rcases verdict with goes | saves
  · rw [goes]
    exact ⟨t, new, met.trans path, rfl, fun next goes => Verdict.goesOn.inj goes, entered, tells⟩
  · rw [saves]
    exact (met.trans path).saving_tells entered tells

/-- Taking in an event tells of every job what happens to it: the exchange, or what is entered. -/
theorem Setting.Meets.take_tells (met : setting.Meets store world s) (present : turn ∈ s.turns setting) :
    Verdict.Tells setting store world s (turn.exchange? setting.service s.world) (s.take setting turn) := by
  simp only [Situation.turns, List.mem_append, or_assoc] at present
  rcases present with cancel | happens | waking
  · split at cancel
    next due =>
        obtain rfl := List.mem_singleton.mp cancel
        have path := (Step.notices due).path
        refine ⟨_, [], met.trans path, rfl, fun next goes => Verdict.goesOn.inj goes, rfl, ?_⟩
        intro key member view shows
        exact path.tells met member shows (by simp) (by simp) rfl
    next => cases cancel
  · obtain ⟨⟨operation, others⟩, picked, rfl⟩ := List.mem_map.mp happens
    exact met.operation_tells picked
  · split at waking
    next =>
        obtain rfl := List.mem_singleton.mp waking
        exact met.waking_tells
    next => cases waking

theorem Situation.tidings_eq (entered : (s.round setting choice).situation.run.journal = new ++ s.run.journal) :
    s.tidings setting choice = (s.exchange? setting choice).toList ++ new.map .noted := by
  simp [tidings, entered]

/-- A round tells of every job what happens to it. -/
theorem Setting.Meets.round_tells (met : setting.Meets store world s) (choice : Choice) :
    ∃ t, setting.Meets store world t ∧ (s.round setting choice).situation.run = t.run ∧
      (∀ next, s.round setting choice = .goesOn next → t = next) ∧
      ∀ key ∈ setting.batch.keys, ∀ view, s.Shows key view → ∃ later, t.Shows key later ∧
        view.Tells setting key (Tiding.ofKey key (s.tidings setting choice)) later := by
  cases taken : s.turn? setting choice with
  | none =>
      obtain ⟨keys, t, path, queue, run, goes⟩ := Situation.round_of_no_turn taken
      obtain ⟨new, entered, -⟩ := path.journal
      refine ⟨t, met.trans path, run, goes, ?_⟩
      intro key member view shows
      obtain ⟨once, idle⟩ := shows.once_of_queue queue
      rw [Situation.tidings_eq (by rw [run]; exact entered), Situation.exchange?, taken]
      exact path.tells met member shows once idle entered
  | some event =>
      obtain ⟨awake, turn⟩ := event
      obtain ⟨keys, path, queue, present⟩ := Situation.turn_path taken
      obtain ⟨new, entered, -⟩ := path.journal
      obtain ⟨t, more, met', run, goes, entered', tells⟩ := (met.trans path).take_tells present
      rw [← Situation.round_of_turn taken] at run goes
      refine ⟨t, met', run, goes, ?_⟩
      intro key member view shows
      obtain ⟨once, idle⟩ := shows.once_of_queue queue
      obtain ⟨between, shown, first⟩ := path.tells met member shows once idle entered
      obtain ⟨later, shown', second⟩ := tells key member between shown
      have whole : (s.round setting choice).situation.run.journal = (more ++ new) ++ s.run.journal := by
        rw [run, entered', entered, List.append_assoc]
      have exchanged : s.exchange? setting choice = turn.exchange? setting.service awake.world := by
        rw [Situation.exchange?, taken]
        rfl
      rw [Situation.tidings_eq whole, exchanged, List.map_append, ← List.append_assoc, Tiding.ofKey_append]
      exact ⟨later, shown', first.trans second⟩

end

end ImageBatch.Tracker
