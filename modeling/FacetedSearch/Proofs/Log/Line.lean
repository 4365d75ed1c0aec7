/-
Module: FacetedSearch.Proofs.Log.Line
Purpose: The line of a log record. It is one line, and it reads as an object that holds the record's
  time, level, logger and message, the attributes that it carries and its error; so nothing of these is
  lost. A record has a line unless its time is too far away, its arguments do not fit into its message,
  or a number in it has more digits than are written.
Imports: FacetedSearch.Log.Record, FacetedSearch.Proofs.Calendar, FacetedSearch.Proofs.Duration,
  FacetedSearch.Proofs.Json.OneLine, FacetedSearch.Proofs.Json.RoundTrip,
  FacetedSearch.Proofs.LastValue
Main exports: Log.LastSet, Log.Carries, Log.Record.Shows, Log.Record.Writable, Log.Record.SameFields,
  Log.Record.line?_eq_ok_iff, Log.Record.line_lossless
-/
import FacetedSearch.Log.Record
import FacetedSearch.Proofs.Calendar
import FacetedSearch.Proofs.Duration
import FacetedSearch.Proofs.Json.OneLine
import FacetedSearch.Proofs.Json.RoundTrip
import FacetedSearch.Proofs.LastValue

namespace FacetedSearch

namespace Log

/-!
### Attributes

A name counts by the value that was set for it last.
-/

/-- The value is set for the name, and no other is set for it later. -/
inductive LastSet (attributes : List (Text × Json)) (name : Text) (value : Json) : Prop where
  | mk {before after : List (Text × Json)} (cut : attributes = before ++ (name, value) :: after)
      (last : ∀ later ∈ after, later.1 ≠ name) : LastSet attributes name value

theorem attribute?_eq_some_iff {event : Event} {name : Text} {value : Json} :
    event.attribute? name = some value ↔ LastSet event.attributes name value := by
  rw [Event.attribute?, find?_reverse_eq_some_iff]
  constructor
  · rintro ⟨before, after, cut, last⟩
    exact .mk cut last
  · rintro @⟨before, after, cut, last⟩
    exact ⟨before, after, cut, last⟩

/-- The attributes of requests and searches that an event carries: in their fixed order, each of them
once, with the value that was set last. -/
structure Carries (event : Event) (carried : List (Text × Json)) : Prop where
  ordered : (carried.map Prod.fst).Sublist attributeNames
  last : ∀ name ∈ attributeNames, ∀ value,
    (name, value) ∈ carried ↔ LastSet event.attributes name value

theorem names_sublist (event : Event) (names : List Text) :
    ((names.filterMap fun name => (event.attribute? name).map fun value => (name, value)).map
      Prod.fst).Sublist names := by
  induction names with
  | nil => exact List.nil_sublist []
  | cons name names ih =>
      rw [List.filterMap_cons]
      cases event.attribute? name with
      | none => exact ih.cons name
      | some value => exact ih.cons_cons name

theorem mem_shown_iff {event : Event} {name : Text} {value : Json} :
    (name, value) ∈ event.shown ↔ name ∈ attributeNames ∧ LastSet event.attributes name value := by
  rw [← attribute?_eq_some_iff]
  unfold Event.shown
  constructor
  · intro mem
    obtain ⟨other, listed, found⟩ := List.mem_filterMap.1 mem
    obtain ⟨value, found, same⟩ := Option.map_eq_some_iff.1 found
    cases same
    exact ⟨listed, found⟩
  · rintro ⟨listed, found⟩
    refine List.mem_filterMap.2 ⟨name, listed, ?_⟩
    rw [found]
    rfl

theorem carries_shown (event : Event) : Carries event event.shown where
  ordered := names_sublist event attributeNames
  last _ listed _ := by rw [mem_shown_iff, and_iff_right listed]

/-- Order, names and values leave no choice. The induction is on the names: the first of them is
either that of the first attribute or of none. -/
theorem eq_filterMap_of_ordered {read : Text → Option Json} {names : List Text}
    (nodup : names.Nodup) {carried : List (Text × Json)}
    (ordered : (carried.map Prod.fst).Sublist names)
    (told : ∀ name ∈ names, ∀ value, (name, value) ∈ carried ↔ read name = some value) :
    carried = names.filterMap fun name => (read name).map fun value => (name, value) := by
  induction names generalizing carried with
  | nil => exact List.map_eq_nil_iff.1 (List.sublist_nil.1 ordered)
  | cons name names ih =>
      obtain ⟨fresh, nodup_names⟩ := List.nodup_cons.1 nodup
      obtain ⟨told_name, told_names⟩ := List.forall_mem_cons.1 told
      rw [List.filterMap_cons]
      generalize keys : carried.map Prod.fst = sublist at ordered
      cases ordered with
      | cons _ ordered =>
          subst keys
          have unset : read name = none := by
            apply Option.eq_none_iff_forall_not_mem.2
            intro value found
            exact fresh (ordered.subset (List.mem_map_of_mem ((told_name value).2 found)))
          rw [unset]
          exact ih nodup_names ordered told_names
      | cons_cons _ ordered =>
          obtain ⟨⟨first, value⟩, rest, rfl, rfl, rfl⟩ := List.map_eq_cons_iff.1 keys
          rw [(told_name value).1 List.mem_cons_self]
          refine congrArg (List.cons _) (ih nodup_names ordered ?_)
          intro other listed value'
          rw [← told_names other listed value', List.mem_cons]
          refine (or_iff_right ?_).symm
          intro same
          rw [(Prod.mk.inj same).1] at listed
          exact fresh listed

theorem Carries.eq_shown {event : Event} {carried : List (Text × Json)}
    (carries : Carries event carried) : carried = event.shown := by
  apply eq_filterMap_of_ordered (by decide) carries.ordered
  intro name listed value
  rw [carries.last name listed, attribute?_eq_some_iff]

/-!
### The object
-/

/-- The stamp of a time. -/
def stampAt (created : Rat) : Text := (CivilTime.ofSeconds created.floor).stamp

namespace Record

variable {record : Record} {text : Text} {members : List (Text × Json)}

/-- The members that every record has. -/
def front (record : Record) (text : Text) : List (Text × Json) :=
  [("ts".toList, .str (stampAt record.created)), ("level".toList, .str record.level.name),
    ("logger".toList, .str record.logger), ("msg".toList, .str text)]

/-- The members that a record is told by, with its message as shown. Only a record with an error has
one at the end. -/
inductive Shows (record : Record) (text : Text) : List (Text × Json) → Prop where
  | whole {carried : List (Text × Json)} (carries : Carries record.toEvent carried)
      (no_failure : record.failure = none) : Shows record text (record.front text ++ carried)
  | failed {carried : List (Text × Json)} {failure : Failure}
      (carries : Carries record.toEvent carried) (failure_some : record.failure = some failure) :
      Shows record text
        (record.front text ++ carried ++ [("exc_info".toList, .str failure.text)])

theorem shows_object (record : Record) (text : Text) :
    ∃ members, record.object (stampAt record.created) text = .obj members ∧
      record.Shows text members := by
  unfold object
  cases failed : record.failure with
  | none =>
      refine ⟨_, rfl, ?_⟩
      rw [Option.map_none, Option.toList_none, List.append_nil]
      exact .whole (carries_shown record.toEvent) failed
  | some failure => exact ⟨_, rfl, .failed (carries_shown record.toEvent) failed⟩

theorem Shows.unique {others : List (Text × Json)} (shows : record.Shows text members)
    (shows' : record.Shows text others) : others = members := by
  cases shows with
  | whole carries no_failure =>
      cases shows' with
      | whole carries' _ => rw [carries.eq_shown, carries'.eq_shown]
      | failed _ failure_some => cases no_failure.symm.trans failure_some
  | failed carries failure_some =>
      cases shows' with
      | whole _ no_failure => cases no_failure.symm.trans failure_some
      | failed carries' failure_some' =>
          obtain rfl := Option.some.inj (failure_some.symm.trans failure_some')
          rw [carries.eq_shown, carries'.eq_shown]

/-!
No two members have the same name, so each of them can be told from its name.
-/

/-- The names of the members that every record has. -/
def frontNames : List Text := ["ts".toList, "level".toList, "logger".toList, "msg".toList]

theorem front_apart : ∀ name ∈ frontNames, name ∉ attributeNames ∧ name ≠ "exc_info".toList := by
  decide

theorem exc_info_apart : "exc_info".toList ∉ attributeNames := by decide

theorem mem_frontNames {name : Text} {value : Json} (mem : (name, value) ∈ record.front text) :
    name ∈ frontNames := by
  have names : (record.front text).map Prod.fst = frontNames := rfl
  rw [← names]
  exact List.mem_map_of_mem mem

/-- The names of an object are some of these, in this order. -/
theorem Shows.names (shows : record.Shows text members) :
    (members.map Prod.fst).Sublist (frontNames ++ attributeNames ++ ["exc_info".toList]) := by
  cases shows with
  | whole carries no_failure =>
      rw [List.map_append]
      exact (carries.ordered.append_left frontNames).trans (List.sublist_append_left _ _)
  | failed carries failure_some =>
      rw [List.map_append, List.map_append]
      exact (carries.ordered.append_left frontNames).append_right _

theorem Shows.nodup (shows : record.Shows text members) : (members.map Prod.fst).Nodup :=
  shows.names.nodup (by decide)

theorem Shows.take_front (shows : record.Shows text members) :
    members.take 4 = record.front text := by
  cases shows with
  | whole carries no_failure => rfl
  | failed carries failure_some => rfl

theorem Shows.mem_iff (shows : record.Shows text members) {name : Text}
    (listed : name ∈ attributeNames) {value : Json} :
    (name, value) ∈ members ↔ LastSet record.attributes name value := by
  have not_front : (name, value) ∉ record.front text :=
    fun mem => (front_apart name (mem_frontNames mem)).1 listed
  cases shows with
  | whole carries no_failure =>
      rw [List.mem_append, carries.last name listed value]
      exact or_iff_right not_front
  | @failed carried failure carries failure_some =>
      have not_failure : (name, value) ∉ [("exc_info".toList, Json.str failure.text)] := by
        intro mem
        rw [(Prod.mk.inj (List.mem_singleton.1 mem)).1] at listed
        exact exc_info_apart listed
      rw [List.mem_append, List.mem_append, carries.last name listed value]
      exact (or_iff_left not_failure).trans (or_iff_right not_front)

theorem Shows.failure_iff (shows : record.Shows text members) {told : Text} :
    ("exc_info".toList, Json.str told) ∈ members ↔ record.failure.map Failure.text = some told := by
  have not_front : ("exc_info".toList, Json.str told) ∉ record.front text :=
    fun mem => (front_apart _ (mem_frontNames mem)).2 rfl
  have not_carried : ∀ {carried : List (Text × Json)}, Carries record.toEvent carried →
      ("exc_info".toList, Json.str told) ∉ carried :=
    fun carries mem => exc_info_apart (carries.ordered.subset (List.mem_map_of_mem mem))
  cases shows with
  | whole carries no_failure =>
      rw [List.mem_append, no_failure]
      refine iff_of_false ?_ fun absurd => by cases absurd
      rintro (front | carried)
      · exact not_front front
      · exact not_carried carries carried
  | @failed carried failure carries failure_some =>
      rw [List.mem_append, List.mem_append, failure_some, List.mem_singleton, Option.map_some,
        or_iff_right (not_or.2 ⟨not_front, not_carried carries⟩)]
      constructor
      · intro same
        rw [Json.str.inj (Prod.mk.inj same).2]
      · intro same
        rw [Option.some.inj same]

/-!
### When there is a line
-/

/-- The record can be written: its time has a stamp, its arguments fit into its message, which is shown
as the text, and no number in it has more digits than are written. -/
structure Writable (record : Record) (text : Text) : Prop where
  dated : CivilTime.HasStamp record.created.floor
  fits : record.text? = .ok text
  level : record.level.natAbs < 10 ^ Duration.digitLimit
  numbers : ∀ name ∈ attributeNames, ∀ value, LastSet record.attributes name value →
    ∀ number ∈ value.ints, number.natAbs < 10 ^ Duration.digitLimit

theorem any_isTooLong_eq_false_iff :
    (record.shown.any fun (_, value) => value.ints.any Duration.isTooLong) = false ↔
      ∀ name ∈ attributeNames, ∀ value, LastSet record.attributes name value →
        ∀ number ∈ value.ints, number.natAbs < 10 ^ Duration.digitLimit := by
  constructor
  · intro none_found name listed value last number mem
    have short := List.any_eq_false.1 none_found _ (mem_shown_iff.2 ⟨listed, last⟩)
    rw [Bool.not_eq_true] at short
    have short_number := List.any_eq_false.1 short number mem
    rw [Bool.not_eq_true] at short_number
    exact Duration.isTooLong_eq_false_iff.1 short_number
  · intro short
    apply List.any_eq_false.2
    rintro ⟨name, value⟩ mem
    obtain ⟨listed, last⟩ := mem_shown_iff.1 mem
    rw [Bool.not_eq_true]
    apply List.any_eq_false.2
    intro number held
    rw [Bool.not_eq_true]
    exact Duration.isTooLong_eq_false_iff.2 (short name listed value last number held)

theorem stamp?_of_hasStamp (dated : CivilTime.HasStamp record.created.floor) :
    record.stamp? = .ok (stampAt record.created) :=
  CivilTime.stamp?_eq_ok_iff.2 ⟨dated, rfl⟩

/-- A record has the line of its object, and it has it exactly when it can be written. -/
theorem line?_eq_ok_iff {line : Text} :
    record.line? = .ok line ↔
      ∃ text, record.Writable text ∧ line = (record.object (stampAt record.created) text).spaced := by
  unfold line? stamped?
  constructor
  · intro written
    -- The causes are looked for in turn; a line is left only where there is none of them.
    split at written
    · cases written
    · next short_level =>
        split at written
        · cases written
        · cases written
        · next stamp text stamped fits =>
            split at written
            · cases written
            · next none_found =>
                cases written
                obtain ⟨dated, rfl⟩ := CivilTime.stamp?_eq_ok_iff.1 stamped
                rw [Bool.not_eq_true] at short_level none_found
                refine ⟨text, ⟨dated, fits, ?_, ?_⟩, rfl⟩
                · exact Duration.isTooLong_eq_false_iff.1 short_level
                · exact any_isTooLong_eq_false_iff.1 none_found
  · rintro ⟨text, ⟨dated, fits, level, numbers⟩, rfl⟩
    rw [Duration.isTooLong_eq_false_iff.2 level, stamp?_of_hasStamp dated, fits]
    dsimp only
    rw [any_isTooLong_eq_false_iff.2 numbers]
    rfl

theorem line?_of_stamp?_error {fault : CivilTime.Fault}
    (short_level : Duration.isTooLong record.level = false)
    (unstamped : record.stamp? = .error fault) : record.line? = .error (.time fault) := by
  unfold line? stamped?
  rw [short_level, unstamped]
  rfl

/-!
### Nothing is lost
-/

/-- What a line says of two records is the same. -/
structure SameFields (first second : Record) : Prop where
  stamp : stampAt first.created = stampAt second.created
  level : first.level.name = second.level.name
  logger : first.logger = second.logger
  message : first.text? = second.text?
  attributes : ∀ name ∈ attributeNames, ∀ value,
    LastSet first.attributes name value ↔ LastSet second.attributes name value
  failure : first.failure.map Failure.text = second.failure.map Failure.text

theorem read?_line {line : Text} (written : record.line? = .ok line) :
    ∃ text members, record.Writable text ∧ Json.read? line = some (.obj members) ∧
      record.Shows text members := by
  obtain ⟨text, writable, rfl⟩ := line?_eq_ok_iff.1 written
  obtain ⟨members, object, shows⟩ := shows_object record text
  refine ⟨text, members, writable, ?_, shows⟩
  rw [Json.read?_spaced, object]

theorem Shows.sameFields {other : Record} {text' : Text} (shows : record.Shows text members)
    (fits : record.text? = .ok text) (shows' : other.Shows text' members)
    (fits' : other.text? = .ok text') : record.SameFields other := by
  have front : record.front text = other.front text' :=
    shows.take_front.symm.trans shows'.take_front
  simp only [Record.front, List.cons.injEq, Prod.mk.injEq, Json.str.injEq, true_and, and_true]
    at front
  obtain ⟨stamp, level, logger, message⟩ := front
  refine ⟨stamp, level, logger, ?_, ?_, ?_⟩
  · rw [fits, fits', message]
  · intro name listed value
    rw [← shows.mem_iff listed, shows'.mem_iff listed]
  · apply Option.ext
    intro told
    rw [← shows.failure_iff, shows'.failure_iff]

theorem sameFields_of_line {other : Record} {line : Text} (written : record.line? = .ok line)
    (written' : other.line? = .ok line) : record.SameFields other := by
  obtain ⟨text, members, writable, reads, shows⟩ := read?_line written
  obtain ⟨text', members', writable', reads', shows'⟩ := read?_line written'
  obtain rfl : members = members' := Json.obj.inj (Option.some.inj (reads.symm.trans reads'))
  exact shows.sameFields writable.fits shows' writable'.fits

/-- A record whose time is not too far away, whose arguments fit into its message, and whose numbers are
not too long, has a line; any other record has none. The line is one line, and it reads as the
members that tell the record and as no others, each of another name. Records with the same line are
told by the same fields. -/
theorem line_lossless (record : Record) :
    (∀ text, record.Writable text →
      ∃ line members, record.line? = .ok line ∧ Json.Unbroken line ∧
        Json.read? line = some (.obj members) ∧ record.Shows text members ∧
          (∀ others, record.Shows text others → others = members) ∧
            (members.map Prod.fst).Nodup) ∧
    ((∀ text, ¬ record.Writable text) → ∃ reason, record.line? = .error reason) ∧
    ∀ other line, record.line? = .ok line → other.line? = .ok line → record.SameFields other := by
  refine ⟨?_, ?_, ?_⟩
  · intro text writable
    obtain ⟨members, object, shows⟩ := shows_object record text
    refine ⟨_, members, line?_eq_ok_iff.2 ⟨text, writable, rfl⟩, Json.unbroken_spaced _, ?_, shows,
      fun _ shows' => shows.unique shows', shows.nodup⟩
    rw [Json.read?_spaced, object]
  · intro unwritable
    cases outcome : record.line? with
    | error reason => exact ⟨reason, rfl⟩
    | ok line =>
        obtain ⟨text, writable, _⟩ := line?_eq_ok_iff.1 outcome
        exact absurd writable (unwritable text)
  · intro other line written written'
    exact sameFields_of_line written written'

/-- A record with an argument that its message has no place for. -/
def surplus : Record :=
  { logger := "n".toList, level := 20, message := "plain".toList, created := 0
    arguments := ["x".toList] }

/-- A record of a time that is too far away. -/
def remote : Record :=
  { logger := "n".toList, level := 20, message := "plain".toList, created := 100000000000000000 }

/-- A record with a number of tokens. -/
def counting (count : Nat) : Record :=
  { logger := "n".toList, level := 20, message := "plain".toList, created := 0
    attributes := [("token_count".toList, .int count)] }

theorem isTooLong_twenty : Duration.isTooLong 20 = false := by decide

theorem hasStamp_epoch : CivilTime.HasStamp (0 : Rat).floor := by decide +kernel

theorem line?_surplus : surplus.line? = .error (.template .surplus) := by
  have no_percent : '%' ∉ "plain".toList := by decide
  have unfit : surplus.text? = .error .surplus :=
    Template.fillRest_of_no_percent no_percent _ ["x".toList]
  have stamped : surplus.stamp? = .ok (stampAt 0) := stamp?_of_hasStamp hasStamp_epoch
  have short_level : Duration.isTooLong surplus.level = false := isTooLong_twenty
  unfold line? stamped?
  rw [short_level, stamped, unfit]
  rfl

theorem line?_remote : remote.line? = .error (.time .calendar) := by
  have unstamped : remote.stamp? = .error .calendar := by decide +kernel
  exact line?_of_stamp?_error isTooLong_twenty unstamped

theorem line?_counting {count : Nat} (long : 10 ^ Duration.digitLimit ≤ count) :
    (counting count).line? = .error .tooLong := by
  have stamped : (counting count).stamp? = .ok (stampAt 0) := stamp?_of_hasStamp hasStamp_epoch
  have text : (counting count).text? = .ok "plain".toList := rfl
  have short_level : Duration.isTooLong (counting count).level = false := isTooLong_twenty
  have found :
      ((counting count).shown.any fun (_, value) => value.ints.any Duration.isTooLong) = true := by
    rw [← Bool.not_eq_false, any_isTooLong_eq_false_iff]
    intro short
    have last : LastSet (counting count).attributes "token_count".toList (.int count) := by
      refine .mk (List.nil_append _).symm ?_
      intro later nowhere
      cases nowhere
    have listed : "token_count".toList ∈ attributeNames := by decide
    have held : (count : Int) ∈ (Json.int count).ints := List.mem_singleton.2 rfl
    exact Nat.not_lt_of_le long (short _ listed _ last _ held)
  unfold line? stamped?
  rw [short_level, stamped, text]
  dsimp only
  rw [found]
  rfl

/-- For each cause there is a record without a line. -/
theorem unwritten_by_cause :
    surplus.line? = .error (.template .surplus) ∧ remote.line? = .error (.time .calendar) ∧
      (counting (10 ^ Duration.digitLimit)).line? = .error .tooLong ∧
        ¬ ∃ line members, surplus.line? = .ok line ∧ Json.read? line = some (.obj members) := by
  refine ⟨line?_surplus, line?_remote, line?_counting (Nat.le_refl _), ?_⟩
  rintro ⟨line, members, written, _⟩
  cases written.symm.trans line?_surplus

end Record

end Log

end FacetedSearch
