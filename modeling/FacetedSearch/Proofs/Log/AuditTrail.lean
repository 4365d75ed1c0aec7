/-
Module: FacetedSearch.Proofs.Log.AuditTrail
Purpose: What a search leaves out can be read off the log. After any history in which a set-up has
  succeeded, each token that a search leaves out has one line on the stream of the latest one, and the
  line names it; at a level above that of debugging there are no such lines.
Imports: FacetedSearch.Proofs.Facet.Audit, FacetedSearch.Proofs.Log.History,
  FacetedSearch.Proofs.Log.Line
Main exports: Log.Journal.after, Log.Journal.Told.after, Log.Journal.Names, Log.Journal.Omits,
  Log.Journal.search_audited
-/
import FacetedSearch.Proofs.Facet.Audit
import FacetedSearch.Proofs.Log.History
import FacetedSearch.Proofs.Log.Line

namespace FacetedSearch

namespace Log

namespace Journal

/-!
### The state after a history
-/

/-- The state that actions lead to. -/
def after (journal : Journal) : List Action → Journal
  | [] => journal
  | action :: rest => (journal.perform action).journal.after rest

theorem performAll_append (journal : Journal) (first second : List Action) :
    journal.performAll (first ++ second) =
      journal.performAll first ++ (journal.after first).performAll second := by
  induction first generalizing journal with
  | nil => rfl
  | cons action first ih => exact congrArg (List.cons _) (ih (journal.perform action).journal)

theorem Told.after {past : List Action} {journal : Journal} (told : Told past journal)
    (history : List Action) : Told (past ++ history) (journal.after history) := by
  induction history generalizing past journal with
  | nil => rwa [List.append_nil]
  | cons action history ih =>
      have later := ih (told.step action).2
      rwa [List.append_assoc, List.singleton_append] at later

theorem Told.eq_latest {history before since : List Action} {journal : Journal} {level : Level}
    (told : Told history journal) (latest : Latest history before level since) :
    journal.level = level ∧ journal.stream? = some (setups before) := by
  cases told with
  | unset never _ _ _ _ => exact absurd never latest.not_noneSets
  | set current stream _ _ _ =>
      obtain ⟨rfl, rfl, _⟩ := latest.unique current
      exact ⟨rfl, stream⟩

/-!
### Lines

What is logged about a token can be written whatever the token holds: there are no arguments and no
numbers in it, and the time is that of a clock, which is not too far away.
-/

/-- A line on a stream names a token that a search has left out, and the time of the search. -/
inductive Names (stream : Nat) (stamp token : Text) : Nat × Text → Prop where
  | mk {line : Text}
      (reads : Json.read? line = some (.obj
        [("ts".toList, .str stamp), ("level".toList, .str "DEBUG".toList),
          ("logger".toList, .str "annoquery.query.facets".toList),
          ("msg".toList, .str "since_term_dropped".toList), ("term".toList, .str token),
          ("field".toList, .str "since".toList)])) :
      Names stream stamp token (stream, line)

/-- The record of a token that is left out. -/
def droppedRecord (created : Rat) (token : Text) : Record := (Facet.droppedEvent token).at created

theorem writable_droppedRecord {created : Rat} (dated : CivilTime.HasStamp created.floor)
    (token : Text) : (droppedRecord created token).Writable "since_term_dropped".toList where
  dated := dated
  fits := rfl
  level := Duration.isTooLong_eq_false_iff.1 (show Duration.isTooLong Level.debug = false by decide)
  numbers := Record.any_isTooLong_eq_false_iff.1 rfl

theorem exists_line_droppedRecord {created : Rat} (dated : CivilTime.HasStamp created.floor)
    (token : Text) :
    ∃ line, (droppedRecord created token).line? = .ok line ∧
      ∀ stream, Names stream (stampAt created) token (stream, line) := by
  have writable := writable_droppedRecord dated token
  refine ⟨_, Record.line?_eq_ok_iff.2 ⟨_, writable, rfl⟩, ?_⟩
  intro stream
  exact .mk (Json.read?_spaced _)

/-!
### A search
-/

/-- The tokens that a search leaves out: those of `since` whose duration cannot be read, and of these
only the ones before the token at which the search stops, if it does. -/
inductive Omits (text : Text) : List Text → Prop where
  | found {facets : Facets} (returned : (Facet.filter text none).result = .ok facets) :
      Omits text (Facet.dropped (Query.tokens text))
  | stopped {tooLong : Duration.TooLong} {before after : List Text} {offending : Text}
      (failed : (Facet.filter text none).result = .error tooLong)
      (cut : Query.tokens text = before ++ offending :: after)
      (routed : ∀ token ∈ before, Facet.HasRoute token)
      (offends : Facet.route offending = .error tooLong) : Omits text (Facet.dropped before)

theorem exists_omits (text : Text) :
    ∃ left, Omits text left ∧ (Facet.filter text none).events = left.map Facet.droppedEvent := by
  cases result : (Facet.filter text none).result with
  | ok facets => exact ⟨_, .found result, (Facet.events_of_ok result).2⟩
  | error tooLong =>
      obtain ⟨before, offending, after, cut, routed, offends, events⟩ :=
        Facet.events_of_error result
      exact ⟨_, .stopped result cut routed offends, events⟩

theorem Told.deliver_dropped {history before since : List Action} {journal : Journal}
    {level : Level} (told : Told history journal) (latest : Latest history before level since)
    (created : Rat) (token : Text) :
    journal.deliver (droppedRecord created token) =
      if level ≤ 10 then some (setups before, droppedRecord created token) else none := by
  obtain ⟨rfl, stream⟩ := told.eq_latest latest
  have positive : Level.notset < Level.debug := by decide
  unfold deliver
  rw [stream]
  by_cases low : journal.level ≤ 10
  · rw [if_pos low]
    exact if_pos ⟨positive, low⟩
  · rw [if_neg low]
    exact if_neg fun both => low both.2

/-- The lines that a search leaves, when these tokens are left out. The induction is on the tokens: each
of them is delivered and has its line. -/
theorem Told.lines_dropped {history before since : List Action} {journal : Journal} {level : Level}
    (told : Told history journal) (latest : Latest history before level since) (low : level ≤ 10)
    {created : Rat} (dated : CivilTime.HasStamp created.floor) (left : List Text) :
    List.Forall₂ (Names (setups before) (stampAt created)) left
      (((left.map (droppedRecord created)).filterMap journal.deliver).filterMap lineOn?) := by
  induction left with
  | nil => exact .nil
  | cons token left ih =>
      obtain ⟨line, written, names⟩ := exists_line_droppedRecord dated token
      have delivered := told.deliver_dropped latest created token
      rw [if_pos low] at delivered
      have left_behind : lineOn? (setups before, droppedRecord created token) =
          some (setups before, line) := by
        rw [lineOn?, written]
        rfl
      rw [List.map_cons, List.filterMap_cons_some delivered, List.filterMap_cons_some left_behind]
      exact .cons (names _) ih

theorem delivered_search (journal : Journal) {text : Text} (created : Rat) {left : List Text}
    (events : (Facet.filter text none).events = left.map Facet.droppedEvent) :
    (journal.perform (.search text created)).delivered =
      (left.map (droppedRecord created)).filterMap journal.deliver := by
  unfold perform
  dsimp only
  rw [events, List.filterMap_map, List.filterMap_map]
  rfl

theorem Omits.eq_dropped {text : Text} {left : List Text} (omits : Omits text left) {facets : Facets}
    (returned : (Facet.filter text none).result = .ok facets) :
    left = Facet.dropped (Query.tokens text) := by
  cases omits with
  | found _ => rfl
  | stopped failed _ _ _ => cases returned.symm.trans failed

/-- After a history whose latest set-up has put the level at debugging or below, a search leaves one
line for each token that it leaves out, in their order and on the stream of that set-up, and the line
names the token. When there are facets, these tokens are the ones that bring no term to any of them.
At a higher level the search leaves no line. The time of the search is one that has a stamp, as every
time up to the year 2147483647 has. -/
theorem search_audited {history before since : List Action} {level : Level}
    (latest : Latest history before level since) (text : Text) {created : Rat}
    (dated : CivilTime.HasStamp created.floor) :
    ∃ step, performAll {} (history ++ [.search text created]) = performAll {} history ++ [step] ∧
      Ends text step.result ∧
      (level ≤ 10 → ∃ left, Omits text left ∧
        List.Forall₂ (Names (setups before) (stampAt created)) left step.lines ∧
        ∀ facets, (Facet.filter text none).result = .ok facets →
          ∃ routes, List.Forall₂ Facet.Routed (Query.tokens text) routes ∧
            (∀ name, facets.terms name = routes.filterMap (Facet.Route.term? name)) ∧
            left = Facet.silent (Query.tokens text) routes) ∧
      (10 < level → step.lines = []) := by
  have told : Told history (after {} history) := told_nil.after history
  -- What is left out does not depend on the journal; only where it is told does.
  obtain ⟨left, omits, events⟩ := exists_omits text
  have delivered := delivered_search (after {} history) created events
  refine ⟨_, performAll_append {} history [.search text created], ends_search _ text created, ?_, ?_⟩
  · intro low
    refine ⟨left, omits, ?_, ?_⟩
    · unfold Step.lines
      rw [delivered]
      exact told.lines_dropped latest low dated left
    · intro facets returned
      obtain ⟨routes, routed⟩ := Facet.routed_of_sort_ok returned
      refine ⟨routes, routed, fun name => Facet.terms_of_routed routed returned name, ?_⟩
      rw [omits.eq_dropped returned, Facet.silent_eq_dropped routed]
  · intro high
    have nothing : (left.map (droppedRecord created)).filterMap (after {} history).deliver = [] := by
      apply List.filterMap_eq_nil_iff.2
      intro record mem
      obtain ⟨token, _, rfl⟩ := List.mem_map.1 mem
      rw [told.deliver_dropped latest, if_neg (Int.not_le.2 high)]
    unfold Step.lines
    rw [delivered, nothing]
    rfl

/-- A set-up that fails after one that has succeeded. -/
def loudHistory : List Action :=
  [.setup "INFO".toList (some "debug".toList), .setup "INFO".toList (some "loud".toList)]

theorem search_audited_after_refusal :
    Latest loudHistory [] 10 [.setup "INFO".toList (some "loud".toList)] ∧
      CivilTime.HasStamp (0 : Rat).floor ∧
      ∃ step, performAll {} (loudHistory ++ [.search "since:soon a".toList 0]) =
          performAll {} loudHistory ++ [step] ∧
        List.Forall₂ (Names 0 "1970-01-01T00:00:00Z".toList) ["since:soon".toList] step.lines := by
  have sets : SetsLevel (.setup "INFO".toList (some "debug".toList)) 10 := by
    apply SetsLevel.mk
    have name : Text.upper (asked "INFO".toList (some "debug".toList)) = "DEBUG".toList := by
      decide +kernel
    rw [name]
    exact .debug
  have refused : ∀ level, ¬ SetsLevel (.setup "INFO".toList (some "loud".toList)) level := by
    rintro level ⟨known⟩
    have name : Text.upper (asked "INFO".toList (some "loud".toList)) = "LOUD".toList := by
      decide +kernel
    rw [name] at known
    cases known
  have latest : Latest loudHistory [] 10 [.setup "INFO".toList (some "loud".toList)] :=
    .mk rfl sets (noneSets_singleton refused)
  have returned : (Facet.filter "since:soon a".toList none).result =
      .ok { any := [.text "a".toList] } := by
    decide +kernel
  have left_out : Facet.dropped (Query.tokens "since:soon a".toList) = ["since:soon".toList] := by
    decide +kernel
  have dated : CivilTime.HasStamp (0 : Rat).floor := Record.hasStamp_epoch
  have stamp : stampAt 0 = "1970-01-01T00:00:00Z".toList := by decide +kernel
  obtain ⟨step, appended, _, lines, _⟩ := search_audited latest "since:soon a".toList dated
  obtain ⟨left, omits, named, _⟩ := lines (Int.le_refl 10)
  rw [omits.eq_dropped returned, left_out, stamp] at named
  exact ⟨latest, dated, step, appended, named⟩

end Journal

end Log

end FacetedSearch
