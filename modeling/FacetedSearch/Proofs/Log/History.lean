/-
Module: FacetedSearch.Proofs.Log.History
Purpose: The state of logging is told by its history. Level and stream are those of the latest
  set-up that succeeded; handlers are those that were added since, or ever; a record that is severe
  enough leaves one line, on that stream, if it can be written, and every other record leaves none.
  A set-up that fails only uses up the number of a stream.
Imports: FacetedSearch.Log.Journal, FacetedSearch.Proofs.Log.Line
Main exports: Log.Known, Log.Journal.SetsLevel, Log.Journal.Latest, Log.Journal.Told,
  Log.Journal.Counts, Log.Journal.Leaves, Log.Journal.Leads, Log.Journal.Run,
  Log.Journal.histories_told
-/
import FacetedSearch.Log.Journal
import FacetedSearch.Proofs.Log.Line
import Mathlib

namespace FacetedSearch

namespace Log

/-!
### Names of levels
-/

/-- The names that a level can be set by, in upper case, each with its level. -/
inductive Known : Text → Level → Prop where
  | critical : Known "CRITICAL".toList 50
  | fatal : Known "FATAL".toList 50
  | error : Known "ERROR".toList 40
  | warning : Known "WARNING".toList 30
  | warn : Known "WARN".toList 30
  | info : Known "INFO".toList 20
  | debug : Known "DEBUG".toList 10
  | notset : Known "NOTSET".toList 0

theorem known_iff_lookup {name : Text} {level : Level} :
    Known name level ↔ Level.names.lookup name = some level := by
  constructor
  · intro known
    cases known <;> rfl
  · intro found
    obtain ⟨front, back, split, _⟩ := List.lookup_eq_some_iff.1 found
    have mem : (name, level) ∈ Level.names := by
      rw [split]
      exact List.mem_append_right front List.mem_cons_self
    simp only [Level.names, List.mem_cons, Prod.mk.injEq, List.not_mem_nil, or_false] at mem
    rcases mem with ⟨rfl, rfl⟩ | ⟨rfl, rfl⟩ | ⟨rfl, rfl⟩ | ⟨rfl, rfl⟩ | ⟨rfl, rfl⟩ | ⟨rfl, rfl⟩ |
      ⟨rfl, rfl⟩ | ⟨rfl, rfl⟩
    · exact .critical
    · exact .fatal
    · exact .error
    · exact .warning
    · exact .warn
    · exact .info
    · exact .debug
    · exact .notset

theorem Known.unique {name : Text} {first second : Level} (one : Known name first)
    (two : Known name second) : first = second := by
  have same := (known_iff_lookup.1 one).symm.trans (known_iff_lookup.1 two)
  exact Option.some.inj same

theorem ofName?_cases (name : Text) :
    (∃ level, Known (Text.upper name) level ∧ Level.ofName? name = .ok level) ∨
      (∀ level, ¬ Known (Text.upper name) level) ∧
        Level.ofName? name = .error ⟨Text.upper name⟩ := by
  unfold Level.ofName?
  cases found : Level.names.lookup (Text.upper name) with
  | some level => exact Or.inl ⟨level, known_iff_lookup.2 found, rfl⟩
  | none =>
      refine Or.inr ⟨?_, rfl⟩
      intro level known
      rw [known_iff_lookup, found] at known
      cases known

namespace Journal

/-!
### Histories

What a history says about the set-ups in it and about the handlers that it adds.
-/

/-- The name that a set-up goes by: the one that is asked for, unless it is missing or empty. -/
def asked (fallback : Text) (requested : Option Text) : Text :=
  (requested.filter (· ≠ [])).getD fallback

/-- The action is a set-up that succeeds, at a level. -/
inductive SetsLevel : Action → Level → Prop where
  | mk {fallback : Text} {requested : Option Text} {level : Level}
      (known : Known (Text.upper (asked fallback requested)) level) :
      SetsLevel (.setup fallback requested) level

/-- No set-up among the actions succeeds. -/
def NoneSets (history : List Action) : Prop := ∀ action ∈ history, ∀ level, ¬ SetsLevel action level

/-- The latest set-up of a history that succeeds: what came before it, its level, and what has come
since. -/
inductive Latest (history before : List Action) (level : Level) (since : List Action) : Prop where
  | mk {action : Action} (cut : history = before ++ action :: since)
      (sets : SetsLevel action level) (last : NoneSets since) : Latest history before level since

/-- The action is a set-up, whether it succeeds or not. -/
def isSetup : Action → Bool
  | .setup .. => true
  | .attach _ | .emit _ | .search .. => false

/-- The action adds a handler to a logger. -/
def attachesTo (logger : Text) : Action → Bool
  | .attach other => loggerNamed other == logger
  | .setup .. | .emit _ | .search .. => false

/-- The number of set-ups in a history. -/
def setups (history : List Action) : Nat := history.countP isSetup

/-- The number of handlers that a history adds to a logger. -/
def attachments (history : List Action) (logger : Text) : Nat :=
  history.countP (attachesTo logger)

theorem setups_append (first second : List Action) :
    setups (first ++ second) = setups first + setups second := List.countP_append

theorem attachments_append (first second : List Action) (logger : Text) :
    attachments (first ++ second) logger = attachments first logger + attachments second logger :=
  List.countP_append

theorem SetsLevel.unique {action : Action} {first second : Level} (one : SetsLevel action first)
    (two : SetsLevel action second) : first = second := by
  obtain ⟨one⟩ := one
  obtain ⟨two⟩ := two
  exact one.unique two

theorem NoneSets.append {first second : List Action} (one : NoneSets first)
    (two : NoneSets second) : NoneSets (first ++ second) := by
  intro action mem
  rcases List.mem_append.1 mem with front | back
  · exact one action front
  · exact two action back

theorem noneSets_nil : NoneSets [] := by
  intro action mem
  cases mem

theorem noneSets_singleton {action : Action} (not_sets : ∀ level, ¬ SetsLevel action level) :
    NoneSets [action] := by
  intro other mem
  rw [List.mem_singleton.1 mem]
  exact not_sets

theorem NoneSets.eq_nil_of_cons {action other : Action} {since middle back : List Action}
    {level : Level} (last : NoneSets since) (sets : SetsLevel other level)
    (same : action :: since = middle ++ other :: back) :
    middle = [] ∧ action = other ∧ since = back := by
  cases middle with
  | nil =>
      cases same
      exact ⟨rfl, rfl, rfl⟩
  | cons first middle =>
      cases same
      exact absurd sets (last other (List.mem_append_right middle List.mem_cons_self) level)

/-- There is one latest set-up. -/
theorem Latest.unique {history before before' since since' : List Action} {level level' : Level}
    (one : Latest history before level since) (two : Latest history before' level' since') :
    before = before' ∧ level = level' ∧ since = since' := by
  obtain ⟨cut, sets, last⟩ := one
  obtain ⟨cut', sets', last'⟩ := two
  have same := cut.symm.trans cut'
  rcases List.append_eq_append_iff.1 same with ⟨middle, between, rest⟩ | ⟨middle, between, rest⟩
  · obtain ⟨rfl, rfl, rfl⟩ := last.eq_nil_of_cons sets' rest
    rw [List.append_nil] at between
    exact ⟨between.symm, sets.unique sets', rfl⟩
  · obtain ⟨rfl, rfl, rfl⟩ := last'.eq_nil_of_cons sets rest
    rw [List.append_nil] at between
    exact ⟨between, sets.unique sets', rfl⟩

theorem Latest.not_noneSets {history before since : List Action} {level : Level}
    (latest : Latest history before level since) : ¬ NoneSets history := by
  obtain ⟨cut, sets, _⟩ := latest
  intro never
  rw [cut] at never
  exact never _ (List.mem_append_right before List.mem_cons_self) level sets

theorem Latest.append {history before since more : List Action} {level : Level}
    (latest : Latest history before level since) (none_more : NoneSets more) :
    Latest (history ++ more) before level (since ++ more) := by
  obtain ⟨cut, sets, last⟩ := latest
  refine .mk ?_ sets (last.append none_more)
  rw [cut, List.append_assoc, List.cons_append]

/-!
### Handlers

What each change of the state does to the handlers of every logger.
-/

/-- The handler that a set-up gives to the root, and to no other logger. -/
def installed (logger : Text) : Nat := if logger = root then 1 else 0

theorem handlerCount_attach (journal : Journal) (logger other : Text) :
    (journal.attach logger).handlerCount other =
      journal.handlerCount other + attachments [.attach logger] other := by
  have added : attachments [.attach logger] other = if loggerNamed logger == other then 1 else 0 :=
    List.countP_singleton
  rw [added]
  unfold handlerCount attach
  dsimp only
  rw [List.count_cons, Nat.add_right_comm]

theorem handlerCount_cleared (level : Level) (streams stream : Nat) (handlers : List Text)
    {logger : Text} (mem : logger ∈ cleared) :
    handlerCount ⟨level, streams, some stream,
      handlers.filter fun logger => !cleared.contains logger⟩ logger = installed logger := by
  have gone : (handlers.filter fun logger => !cleared.contains logger).count logger = 0 := by
    apply List.count_eq_zero_of_not_mem
    intro held
    have kept := (List.mem_filter.1 held).2
    rw [List.contains_iff_mem.2 mem] at kept
    exact Bool.false_ne_true kept
  unfold handlerCount installed
  rw [gone, Nat.zero_add]
  simp only [Option.isSome_some, and_true]

theorem handlerCount_kept (journal : Journal) (level : Level) (streams : Nat)
    (stream? : Option Nat) {logger : Text} (kept : logger ∉ cleared) :
    handlerCount ⟨level, streams, stream?,
      journal.handlers.filter fun logger => !cleared.contains logger⟩ logger =
        journal.handlerCount logger := by
  have not_root : logger ≠ root := by
    rintro rfl
    exact kept List.mem_cons_self
  have passes : (!cleared.contains logger) = true := by
    rw [List.contains_eq_mem, decide_eq_false kept]
    rfl
  unfold handlerCount
  rw [List.count_filter (p := fun logger => !cleared.contains logger) passes,
    if_neg fun both => not_root both.1, if_neg fun both => not_root both.1]

/-!
### The state

The history tells the state: before any set-up has succeeded it is the first one with the handlers
that were added, and after that it is what the latest one made of it with what was added since.
-/

/-- The state that a history leads to. The root has a handler of the latest set-up; it and the two
loggers that a set-up clears have the handlers that were added since, all others those that were
ever added. -/
inductive Told (history : List Action) (journal : Journal) : Prop where
  | unset (never : NoneSets history) (level : journal.level = 30)
      (stream : journal.stream? = none) (streams : journal.streams = setups history)
      (handlers : ∀ logger, journal.handlerCount logger = attachments history logger)
  | set {before since : List Action} (latest : Latest history before journal.level since)
      (stream : journal.stream? = some (setups before)) (streams : journal.streams = setups history)
      (added_since : ∀ logger ∈ cleared,
        journal.handlerCount logger = installed logger + attachments since logger)
      (ever_added : ∀ logger, logger ∉ cleared →
        journal.handlerCount logger = attachments history logger)

theorem told_nil : Told [] {} := by
  apply Told.unset noneSets_nil rfl rfl rfl
  intro logger
  unfold handlerCount
  rw [if_neg fun both => Bool.false_ne_true both.2]
  rfl

theorem Told.streams {history : List Action} {journal : Journal} (told : Told history journal) :
    journal.streams = setups history := by
  cases told with
  | unset never level stream streams handlers => exact streams
  | set latest stream streams added_since ever_added => exact streams

theorem Told.ever_added {history : List Action} {journal : Journal} (told : Told history journal)
    {logger : Text} (kept : logger ∉ cleared) :
    journal.handlerCount logger = attachments history logger := by
  cases told with
  | unset never level stream streams handlers => exact handlers logger
  | set latest stream streams added_since ever_added => exact ever_added logger kept

/-- An action that sets no level leaves level and stream as they are. -/
theorem Told.keep {history : List Action} {journal next : Journal} {action : Action}
    (told : Told history journal) (not_sets : ∀ level, ¬ SetsLevel action level)
    (level : next.level = journal.level) (stream : next.stream? = journal.stream?)
    (streams : next.streams = journal.streams + setups [action])
    (handlers : ∀ logger,
      next.handlerCount logger = journal.handlerCount logger + attachments [action] logger) :
    Told (history ++ [action]) next := by
  have none_more := noneSets_singleton not_sets
  have streams_told : next.streams = setups (history ++ [action]) := by
    rw [streams, told.streams, setups_append]
  cases told with
  | unset never old_level old_stream old_streams held =>
      apply Told.unset (never.append none_more) (level.trans old_level) (stream.trans old_stream)
        streams_told
      intro logger
      rw [handlers, held, attachments_append]
  | set latest old_stream old_streams added_since ever_added =>
      rw [← level] at latest
      apply Told.set (latest.append none_more) (stream.trans old_stream) streams_told
      · intro logger mem
        rw [handlers, added_since logger mem, attachments_append, Nat.add_assoc]
      · intro logger kept
        rw [handlers, ever_added logger kept, attachments_append]

theorem Told.keep_same {history : List Action} {journal : Journal} {action : Action}
    (told : Told history journal) (no_setup : isSetup action = false)
    (no_handler : ∀ logger, attachesTo logger action = false) :
    Told (history ++ [action]) journal := by
  have not_sets : ∀ level, ¬ SetsLevel action level := by
    rintro level ⟨known⟩
    cases no_setup
  apply told.keep not_sets rfl rfl
  · unfold setups
    rw [List.countP_singleton, no_setup]
    rfl
  · intro logger
    unfold attachments
    rw [List.countP_singleton, no_handler]
    rfl

/-!
### Set-ups
-/

theorem setup_asked (journal : Journal) (fallback : Text) (requested : Option Text) :
    journal.setup fallback requested = journal.setup (asked fallback requested) none := by
  cases requested with
  | none => rfl
  | some name => cases name <;> rfl

theorem setup_cases (journal : Journal) (fallback : Text) (requested : Option Text) :
    (∃ level, SetsLevel (.setup fallback requested) level ∧
      journal.setup fallback requested =
        (⟨level, journal.streams + 1, some journal.streams,
          journal.handlers.filter fun logger => !cleared.contains logger⟩, .ok ())) ∨
    (∀ level, ¬ SetsLevel (.setup fallback requested) level) ∧
      journal.setup fallback requested =
        ({ journal with streams := journal.streams + 1 },
          .error ⟨Text.upper (asked fallback requested)⟩) := by
  rw [setup_asked]
  unfold setup
  dsimp only
  rcases ofName?_cases (asked fallback requested) with ⟨level, known, found⟩ | ⟨unknown, failed⟩
  · rw [found]
    exact Or.inl ⟨level, .mk known, rfl⟩
  · rw [failed]
    refine Or.inr ⟨?_, rfl⟩
    rintro level ⟨known⟩
    exact unknown level known

theorem told_of_sets {history : List Action} {journal : Journal} {fallback : Text}
    {requested : Option Text} {level : Level} (told : Told history journal)
    (sets : SetsLevel (.setup fallback requested) level) :
    Told (history ++ [.setup fallback requested])
      ⟨level, journal.streams + 1, some journal.streams,
        journal.handlers.filter fun logger => !cleared.contains logger⟩ := by
  apply Told.set (.mk rfl sets noneSets_nil)
  · exact congrArg some told.streams
  · rw [setups_append, told.streams]
    rfl
  · intro logger mem
    exact handlerCount_cleared level _ _ journal.handlers mem
  · intro logger kept
    rw [handlerCount_kept journal level _ _ kept, told.ever_added kept, attachments_append]
    rfl

theorem told_of_refused {history : List Action} {journal : Journal} {fallback : Text}
    {requested : Option Text} (told : Told history journal)
    (refused : ∀ level, ¬ SetsLevel (.setup fallback requested) level) :
    Told (history ++ [.setup fallback requested])
      { journal with streams := journal.streams + 1 } := by
  exact told.keep refused rfl rfl rfl fun _ => rfl

theorem told_of_attach {history : List Action} {journal : Journal} (told : Told history journal)
    (logger : Text) : Told (history ++ [.attach logger]) (journal.attach logger) := by
  have not_sets : ∀ level, ¬ SetsLevel (.attach logger) level := by
    rintro level ⟨⟩
  exact told.keep not_sets rfl rfl rfl (handlerCount_attach journal logger)

/-!
### Lines

The level and the stream of the journal decide whether a record is handed on, and the record decides
whether there is a line of it.
-/

/-- The record is handed on to a stream after a history: to that of the latest set-up, if the record
is at least as severe as its level. A record of level 0 never is. -/
inductive Counts (history : List Action) (record : Record) : Nat → Prop where
  | mk {before since : List Action} {level : Level} (latest : Latest history before level since)
      (positive : 0 < record.level) (severe : level ≤ record.level) :
      Counts history record (setups before)

/-- The lines that a record leaves on the streams after a history: one line on its stream when it is
handed on and can be written, and otherwise none. -/
inductive Leaves (history : List Action) (record : Record) : List (Nat × Text) → Prop where
  | line {stream : Nat} {text line : Text} (counts : Counts history record stream)
      (writable : record.Writable text) (written : (received record).line? = .ok line)
      (unbroken : Json.Unbroken line) : Leaves history record [(stream, line)]
  | unwritable {stream : Nat} (counts : Counts history record stream)
      (unwritable : ∀ text, ¬ record.Writable text) : Leaves history record []
  | quiet (low : ∀ stream, ¬ Counts history record stream) : Leaves history record []

theorem Told.deliver_cases {history : List Action} {journal : Journal}
    (told : Told history journal) (record : Record) :
    (∃ stream, Counts history record stream ∧
      journal.deliver record = some (stream, received record)) ∨
    (∀ stream, ¬ Counts history record stream) ∧ journal.deliver record = none := by
  unfold deliver
  cases told with
  | unset never level no_stream streams handlers =>
      refine Or.inr ⟨?_, ?_⟩
      · rintro stream ⟨latest, _, _⟩
        exact latest.not_noneSets never
      · rw [no_stream, Option.map_none, ite_self]
  | set latest stream streams added_since ever_added =>
      rw [stream, Option.map_some]
      split
      · next loud => exact Or.inl ⟨_, .mk latest loud.1 loud.2, rfl⟩
      · next low =>
          refine Or.inr ⟨?_, rfl⟩
          rintro stream ⟨latest', positive, severe⟩
          obtain ⟨_, same, _⟩ := latest'.unique latest
          rw [same] at severe
          exact low ⟨positive, severe⟩

/-- The name of its logger does not decide whether a record can be written. -/
theorem writable_received {record : Record} {text : Text} :
    (received record).Writable text ↔ record.Writable text := by
  constructor
  · rintro ⟨dated, fits, level, numbers⟩
    exact ⟨dated, fits, level, numbers⟩
  · rintro ⟨dated, fits, level, numbers⟩
    exact ⟨dated, fits, level, numbers⟩

theorem Told.leaves {history : List Action} {journal : Journal} (told : Told history journal)
    (record : Record) :
    Leaves history record ((journal.deliver record).toList.filterMap lineOn?) := by
  rcases told.deliver_cases record with ⟨stream, counts, delivered⟩ | ⟨low, not_delivered⟩
  · rw [delivered, Option.toList_some]
    cases outcome : (received record).line? with
    | ok line =>
        obtain ⟨text, writable, spaced⟩ := Record.line?_eq_ok_iff.1 outcome
        have left : lineOn? (stream, received record) = some (stream, line) := by
          rw [lineOn?, outcome]
          rfl
        rw [List.filterMap_cons_some left]
        refine .line counts (writable_received.1 writable) outcome ?_
        rw [spaced]
        exact Json.unbroken_spaced _
    | error reason =>
        have left : lineOn? (stream, received record) = none := by
          rw [lineOn?, outcome]
          rfl
        rw [List.filterMap_cons_none left]
        refine .unwritable counts ?_
        intro text writable
        have written := Record.line?_eq_ok_iff.2 ⟨text, writable_received.2 writable, rfl⟩
        cases written.symm.trans outcome
  · rw [not_delivered]
    exact .quiet low

/-!
### Runs
-/

/-- How a search ends. -/
inductive Ends (text : Text) : Except Error Unit → Prop where
  | found {facets : Facets} (returned : (Facet.filter text none).result = .ok facets) :
      Ends text (.ok ())
  | failed {tooLong : Duration.TooLong}
      (failed : (Facet.filter text none).result = .error tooLong) :
      Ends text (.error (.tooLong tooLong))

/-- What an action leads to after a history, in the state that the history has led to: whether it
fails, whether the state stays, and what lines it leaves. -/
inductive Leads (history : List Action) (journal : Journal) : Action → Step → Prop where
  | sets {fallback : Text} {requested : Option Text} {level : Level} {step : Step}
      (sets : SetsLevel (.setup fallback requested) level) (succeeds : step.result = .ok ())
      (silent : step.lines = []) : Leads history journal (.setup fallback requested) step
  | refused {fallback : Text} {requested : Option Text} {step : Step}
      (refused : ∀ level, ¬ SetsLevel (.setup fallback requested) level)
      (kept : step.journal = { journal with streams := journal.streams + 1 })
      (fails : step.result = .error (.unknownLevel ⟨Text.upper (asked fallback requested)⟩))
      (silent : step.lines = []) : Leads history journal (.setup fallback requested) step
  | attaches {logger : Text} {step : Step} (succeeds : step.result = .ok ())
      (silent : step.lines = []) : Leads history journal (.attach logger) step
  | emits {record : Record} {step : Step} (kept : step.journal = journal)
      (succeeds : step.result = .ok ()) (leaves : Leaves history record step.lines) :
      Leads history journal (.emit record) step
  | searches {text : Text} {created : Rat} {step : Step} {lines : List (List (Nat × Text))}
      (kept : step.journal = journal) (ends : Ends text step.result)
      (leaves : List.Forall₂ (fun event lines => Leaves history (event.at created) lines)
        (Facet.filter text none).events lines)
      (in_order : step.lines = lines.flatten) :
      Leads history journal (.search text created) step

theorem ends_search (journal : Journal) (text : Text) (created : Rat) :
    Ends text (journal.perform (.search text created)).result := by
  unfold perform
  dsimp only
  cases result : (Facet.filter text none).result with
  | ok facets => exact .found result
  | error tooLong => exact .failed result

/-- The lines of a search are those of its events, one event after the other. -/
theorem lines_search (journal : Journal) (text : Text) (created : Rat) :
    (journal.perform (.search text created)).lines =
      ((Facet.filter text none).events.map fun event =>
        (journal.deliver (event.at created)).toList.filterMap lineOn?).flatten := by
  unfold perform Step.lines
  dsimp only
  rw [List.filterMap_eq_flatMap_toList fun event : Event => journal.deliver (event.at created),
    List.filterMap_flatMap, List.flatMap_def]

theorem Told.step {history : List Action} {journal : Journal} (told : Told history journal)
    (action : Action) :
    Leads history journal action (journal.perform action) ∧
      Told (history ++ [action]) (journal.perform action).journal := by
  cases action with
  | setup fallback requested =>
      unfold perform
      dsimp only
      rcases setup_cases journal fallback requested with ⟨level, sets, done⟩ | ⟨refused, failed⟩
      · rw [done]
        exact ⟨.sets sets rfl rfl, told_of_sets told sets⟩
      · rw [failed]
        exact ⟨.refused refused rfl rfl rfl, told_of_refused told refused⟩
  | attach logger => exact ⟨.attaches rfl rfl, told_of_attach told logger⟩
  | emit record => exact ⟨.emits rfl rfl (told.leaves record), told.keep_same rfl fun _ => rfl⟩
  | search text created =>
      refine ⟨?_, told.keep_same rfl fun _ => rfl⟩
      refine .searches rfl (ends_search journal text created) ?_ (lines_search journal text created)
      rw [List.forall₂_map_right_iff, List.forall₂_same]
      intro event _
      exact told.leaves (event.at created)

/-- Every step of a run is what its action leads to after the history so far, and the state after it
is the one that the history tells. -/
inductive Run : List Action → Journal → List Action → List Step → Prop where
  | nil {history : List Action} {journal : Journal} : Run history journal [] []
  | cons {history actions : List Action} {journal : Journal} {action : Action} {step : Step}
      {steps : List Step} (leads : Leads history journal action step)
      (told : Told (history ++ [action]) step.journal)
      (later : Run (history ++ [action]) step.journal actions steps) :
      Run history journal (action :: actions) (step :: steps)

theorem Told.run {history : List Action} {journal : Journal} (told : Told history journal)
    (actions : List Action) : Run history journal actions (journal.performAll actions) := by
  induction actions generalizing history journal with
  | nil => exact .nil
  | cons action actions ih =>
      obtain ⟨leads, told_next⟩ := told.step action
      exact .cons leads told_next (ih told_next)

/-- In any run from the start, the history so far tells every state, every failure and every line: a
record that counts leaves just the line that is made of it, unless it cannot be written. -/
theorem histories_told (actions : List Action) :
    Told [] {} ∧ Run [] {} actions (performAll {} actions) :=
  ⟨told_nil, told_nil.run actions⟩

/-- A record with an argument too many is handed on to the stream of the set-up before it, and yet
it leaves no line there. -/
theorem surplus_leaves_no_line :
    ∃ first step, performAll {} [.setup "INFO".toList none, .emit Record.surplus] = [first, step] ∧
      Counts [.setup "INFO".toList none] Record.surplus 0 ∧ 1 ≤ Record.surplus.level ∧
      first.journal.level ≤ Record.surplus.level ∧ ¬ ∃ line, step.lines = [(0, line)] := by
  have sets : SetsLevel (.setup "INFO".toList none) 20 := by
    apply SetsLevel.mk
    have name : Text.upper (asked "INFO".toList none) = "INFO".toList := by decide +kernel
    rw [name]
    exact .info
  have latest : Latest [.setup "INFO".toList none] [] 20 [] := .mk rfl sets noneSets_nil
  have unwritten : lineOn? (0, received Record.surplus) = none := by
    have same : received Record.surplus = Record.surplus := rfl
    rw [lineOn?, same, Record.line?_surplus]
    rfl
  refine ⟨_, _, rfl, .mk latest (by decide) (by decide), by decide, by decide, ?_⟩
  rintro ⟨line, left⟩
  have none_left : [(0, received Record.surplus)].filterMap lineOn? = [] :=
    List.filterMap_cons_none unwritten
  cases none_left.symm.trans left

/-- A set-up that fails keeps level and stream, but the next stream has a later number. -/
example :
    (performAll {} [.setup "INFO".toList none, .setup "INFO".toList (some "loud".toList),
        .setup "INFO".toList (some "error".toList)]).map
      (fun step => (step.journal.level, step.journal.stream?)) =
        [(20, some 0), (20, some 0), (40, some 2)] := by
  rfl

end Journal

end Log

end FacetedSearch
