/-
Module: FacetedSearch.Proofs.CommandLine.Printing
Purpose: The program prints what a search finds and nothing else, and its exit code says whether it
  has. What it writes to the standard output reads as that result; facets with a number that is too
  large to be printed are found all the same, and then the program fails and writes nothing there.
Imports: FacetedSearch.CommandLine.Run, FacetedSearch.Proofs.Answer,
  FacetedSearch.Proofs.Facet.Failure, FacetedSearch.Proofs.Json.RoundTrip
Main exports: CommandLine.asking, CommandLine.Outcome.Shows, CommandLine.Outcome.Fails,
  CommandLine.Printable, CommandLine.Reports, CommandLine.prints_results,
  CommandLine.since_printed_iff
-/
import FacetedSearch.CommandLine.Run
import FacetedSearch.Proofs.Answer
import FacetedSearch.Proofs.Facet.Failure
import FacetedSearch.Proofs.Json.RoundTrip

namespace FacetedSearch

namespace CommandLine

/-!
### Arguments

The text that is searched for stands behind two dashes, so it may be any text whatever. The value of
an option stands behind an equals sign; no option has one in its name, so the first one ends the
name and the value may be any text as well.
-/

/-- Arguments that give a command, options and a search text. -/
def asking (command : String) (options : List Text) (query : Text) : List Text :=
  command.toList :: (options ++ [dashes, query])

/-- The option that looks at a user, if the caller looks at one. -/
def userOption (user : Option Text) : List Text :=
  (user.map fun user => "--user".toList ++ '=' :: user).toList

theorem parts?_dashes (known arguments : List Text) :
    parts? known (dashes :: arguments) = some { plain := arguments } := by
  unfold parts?
  exact if_pos rfl

theorem parts?_equals {known : List Text} {name : Text} (named : ∀ other ∈ known, '=' ∉ other)
    (mem : name ∈ known) (value : Text) (option : isOption (name ++ '=' :: value) = true)
    (rest : List Text) :
    parts? known ((name ++ '=' :: value) :: rest) =
      (parts? known rest).map fun parts =>
        { parts with options := (name, value) :: parts.options } := by
  have equals : '=' ∈ name ++ '=' :: value := List.mem_append_right name List.mem_cons_self
  have differs : ∀ {other : Text}, '=' ∉ other → name ++ '=' :: value ≠ other := by
    rintro other without rfl
    exact without equals
  have not_known : name ++ '=' :: value ∉ known := fun listed => named _ listed equals
  have cut : (name ++ '=' :: value).cut? '=' = some (name, value) :=
    Text.cut?_eq_some_iff.2 ⟨rfl, named name mem⟩
  rw [parts?.eq_def]
  dsimp only
  rw [if_neg (differs (by decide)), if_pos option, if_neg (differs (by decide)), if_neg not_known,
    cut]
  exact if_pos mem

theorem single?_of_parts {known arguments : List Text} {options : List (Text × Text)} {query : Text}
    (parts : parts? known arguments = some { options := options, plain := [query] })
    (command : Text → Parts → Command) :
    single? known arguments command =
      some (.run (command query { options := options, plain := [query] })) := by
  unfold single?
  rw [parts]
  rfl

theorem read?_tokens (settings : Settings) (query : Text) :
    read? settings (asking "tokens" [] query) = some (.run (.tokens query)) :=
  single?_of_parts (parts?_dashes [] [query]) fun query _ => .tokens query

theorem read?_flat (settings : Settings) (query : Text) :
    read? settings (asking "flat" [] query) = some (.run (.flat query)) :=
  single?_of_parts (parts?_dashes [] [query]) fun query _ => .flat query

theorem read?_facets (settings : Settings) (query : Text) (user : Option Text) :
    read? settings (asking "facets" (userOption user) query) = some (.run (.facets query user)) := by
  have told := parts?_dashes ["--user".toList] [query]
  cases user with
  | none =>
      exact single?_of_parts told fun query parts => .facets query (parts.option? "--user")
  | some user =>
      have named : ∀ other ∈ ["--user".toList], '=' ∉ other := by decide
      have parts := parts?_equals named List.mem_cons_self user rfl [dashes, query]
      rw [told] at parts
      exact single?_of_parts parts fun query parts => .facets query (parts.option? "--user")

theorem interpret_of_read {settings : Settings} {level : Log.Level} {arguments : List Text}
    {command : Command} (known : Log.Level.ofName? settings.logLevel = .ok level)
    (read : read? settings arguments = some (.run command)) :
    (interpret settings arguments).1 = (run command).1 := by
  unfold interpret Log.Journal.setup
  rw [read]
  dsimp only
  rw [known]

/-!
### Results

What is printed reads as the value that it was printed for: the line break at the end is a blank.
-/

/-- The program succeeds, and what it writes to the standard output reads as a value. -/
structure Outcome.Shows (outcome : Outcome) (value : Json) : Prop where
  exits : outcome.exitCode = 0
  reads : Json.read? outcome.output = some value

/-- The program fails: it writes nothing to the standard output, and a message elsewhere. -/
structure Outcome.Fails (outcome : Outcome) (message : Text) : Prop where
  exits : outcome.exitCode = 1
  output : outcome.output = []
  report : outcome.report = message ++ ['\n']

theorem fails_failed (failure : Failure) : (Outcome.failed failure).Fails failure.message :=
  ⟨rfl, rfl, rfl⟩

theorem shows_printed (value : Json) : (printed value).Shows value := by
  have blank : Json.Blank ['\n'] := by
    intro c mem
    rw [List.mem_singleton.1 mem]
    rfl
  exact ⟨rfl, Json.read?_write Json.reads_indented value blank⟩

/-- The seconds of `since` have no more digits than are printed. -/
def Printable (facets : Facets) : Prop :=
  ∀ seconds : Int, .number seconds ∈ facets.terms .since → seconds < 10 ^ Duration.digitLimit

theorem cast_lt_iff (n : Nat) :
    (n : Int) < 10 ^ Duration.digitLimit ↔ n < 10 ^ Duration.digitLimit := by
  rw [← Nat.cast_ofNat, ← Nat.cast_pow, Nat.cast_lt]

theorem isUnprintable_number (seconds : Nat) :
    isUnprintable (.number seconds) = true ↔ ¬ (seconds : Int) < 10 ^ Duration.digitLimit := by
  rw [cast_lt_iff, isUnprintable, ← Bool.not_eq_false, Duration.isTooLong_eq_false_iff,
    Int.natAbs_natCast]

theorem any_isUnprintable {facets : Facets} (kinds : Facet.Kinds facets) :
    (facets.toList.any fun (_, facet) => facet.terms.any isUnprintable) = true ↔
      ¬ Printable facets := by
  constructor
  · intro found printable
    obtain ⟨⟨name, facet⟩, listed, held⟩ := List.any_eq_true.1 found
    obtain ⟨name, _, same⟩ := List.mem_map.1 listed
    cases same
    obtain ⟨value, mem, unprintable⟩ := List.any_eq_true.1 held
    cases kinds name value mem with
    | number seconds => exact (isUnprintable_number seconds).1 unprintable (printable seconds mem)
    | text other text => cases unprintable
  · intro unprintable
    unfold Printable at unprintable
    push Not at unprintable
    obtain ⟨number, mem, large⟩ := unprintable
    cases kinds .since (.number number) mem with
    | number seconds =>
        have too_large := (isUnprintable_number seconds).2 (Int.not_lt.2 large)
        have held : ((facets.terms .since).any isUnprintable) = true :=
          List.any_eq_true.2 ⟨_, mem, too_large⟩
        exact List.any_eq_true.2 ⟨_, List.mem_map_of_mem (Facet.Name.mem_all .since), held⟩

/-- What is reported about a number that has too many digits to be printed: not how many. -/
def unprintableMessage : Text :=
  ("Exceeds the limit (4300 digits) for integer string conversion; " ++
    "use sys.set_int_max_str_digits() to increase the limit").toList

/-- What comes of the facets of a search: they are printed, or one of their numbers cannot be, or
there are none because a duration could not be read. -/
inductive Reports : Except Duration.TooLong Facets → Outcome → Prop where
  | shown {facets : Facets} {shown : Json} {outcome : Outcome} (printable : Printable facets)
      (shows_facets : Answer.ShowsFacets facets shown) (shows : outcome.Shows shown) :
      Reports (.ok facets) outcome
  | unprintable {facets : Facets} {outcome : Outcome} (too_large : ¬ Printable facets)
      (fails : outcome.Fails unprintableMessage) : Reports (.ok facets) outcome
  | tooLong {tooLong : Duration.TooLong} {outcome : Outcome}
      (fails : outcome.Fails tooLong.message) : Reports (.error tooLong) outcome

theorem message_unprintable : Failure.unprintable.message = unprintableMessage := by
  decide +kernel

theorem reports_facets (query : Text) (user : Option Text) :
    Reports (Facet.filter query (some (.filter user))).result (run (.facets query user)).1 := by
  unfold run
  cases result : (Facet.filter query (some (.filter user))).result with
  | error tooLong =>
      dsimp only
      rw [result]
      exact .tooLong (fails_failed _)
  | ok facets =>
      have kinds := Facet.kinds_filter result
      dsimp only
      rw [result]
      dsimp only
      unfold printedFacets
      split
      · next found =>
          refine .unprintable ((any_isUnprintable kinds).1 found) ?_
          rw [← message_unprintable]
          exact fails_failed _
      · next none_found =>
          have printable : Printable facets := by
            by_contra too_large
            exact none_found ((any_isUnprintable kinds).2 too_large)
          exact .shown printable (Answer.showsFacets_of_kinds kinds) (shows_printed _)

theorem Reports.exitCode_eq_zero_iff {result : Except Duration.TooLong Facets} {outcome : Outcome}
    (reports : Reports result outcome) :
    outcome.exitCode = 0 ↔ ∃ facets, result = .ok facets ∧ Printable facets := by
  have not_both : ∀ {message : Text}, outcome.Fails message → outcome.exitCode ≠ 0 := by
    intro message fails
    rw [fails.exits]
    decide
  cases reports with
  | shown printable shows_facets shows =>
      exact iff_of_true shows.exits ⟨_, rfl, printable⟩
  | unprintable too_large fails =>
      refine iff_of_false (not_both fails) ?_
      rintro ⟨facets, same, printable⟩
      cases same
      exact too_large printable
  | tooLong fails =>
      refine iff_of_false (not_both fails) ?_
      rintro ⟨facets, same, printable⟩
      cases same

/-- Only a program that succeeds writes to the standard output. -/
theorem Reports.output_eq_nil {result : Except Duration.TooLong Facets} {outcome : Outcome}
    (reports : Reports result outcome) (failed : outcome.exitCode ≠ 0) : outcome.output = [] := by
  cases reports with
  | shown printable shows_facets shows => exact absurd shows.exits failed
  | unprintable too_large fails => exact fails.output
  | tooLong fails => exact fails.output

/-- When logging can be set up at the level of the settings, the program prints the tokens and the
parameters of any search text and exits with 0. It prints the facets of the text, and exits with 0,
exactly when there are some and all of their numbers can be printed; otherwise it exits with another
code, says why, and prints nothing. -/
theorem prints_results {settings : Settings} {level : Log.Level}
    (known : Log.Level.ofName? settings.logLevel = .ok level) (query : Text) (user : Option Text) :
    (interpret settings (asking "tokens" [] query)).1.Shows
        (.arr ((Query.tokens query).map .str)) ∧
      (interpret settings (asking "flat" [] query)).1.Shows
        (.obj ((Backend.named query).map fun group => (group.1, .arr (group.2.map .str)))) ∧
      Reports (Facet.filter query (some (.filter user))).result
        (interpret settings (asking "facets" (userOption user) query)).1 ∧
      ((interpret settings (asking "facets" (userOption user) query)).1.exitCode = 0 ↔
        ∃ facets, (Facet.filter query (some (.filter user))).result = .ok facets ∧
          Printable facets) ∧
      ((interpret settings (asking "facets" (userOption user) query)).1.exitCode ≠ 0 →
        (interpret settings (asking "facets" (userOption user) query)).1.output = []) := by
  rw [interpret_of_read known (read?_tokens settings query),
    interpret_of_read known (read?_flat settings query),
    interpret_of_read known (read?_facets settings query user), ← Answer.parameters_eq]
  have reports := reports_facets query user
  exact ⟨shows_printed _, shows_printed _, reports, reports.exitCode_eq_zero_iff,
    reports.output_eq_nil⟩

theorem prints_results_default :
    Log.Level.ofName? ({} : Settings).logLevel = .ok Log.Level.info ∧
      (interpret {} (asking "tokens" [] "since:2 é".toList)).1.Shows
        (.arr [.str "since:2".toList, .str "é".toList]) ∧
      (interpret {}
        (asking "facets" (userOption (some "al".toList)) "since:2 é".toList)).1.exitCode = 0 := by
  have known : Log.Level.ofName? ({} : Settings).logLevel = .ok Log.Level.info := by decide
  have tokens : Query.tokens "since:2 é".toList = ["since:2".toList, "é".toList] := by decide
  have returned : (Facet.filter "since:2 é".toList (some (.filter (some "al".toList)))).result =
      .ok { any := [.text "é".toList], since := [.number 2], user := [.text "al".toList] } := by
    decide +kernel
  have printable : Printable
      { any := [.text "é".toList], since := [.number 2], user := [.text "al".toList] } := by
    intro seconds mem
    cases List.mem_singleton.1 mem
    have large : (10 : Int) ^ 1 ≤ 10 ^ Duration.digitLimit :=
      pow_le_pow_right₀ (by decide) (by decide)
    exact Int.lt_of_lt_of_le (by decide) large
  obtain ⟨shows_tokens, _, _, exits_iff, _⟩ :=
    prints_results known "since:2 é".toList (some "al".toList)
  rw [tokens] at shows_tokens
  exact ⟨known, shows_tokens, exits_iff.2 ⟨_, returned, printable⟩⟩

/-!
### Two limits

A number that is read has no more digits than are printed, but the seconds that it stands for may
have more. So there are searches that find facets which are then not printed.
-/

theorem seconds?_unit {n : Nat} (short : n < 10 ^ Duration.digitLimit) (unit : Duration.Unit) :
    Duration.seconds? (Numeral.ofNat n ++ unit.name) = .ok (some (n * unit.seconds)) := by
  have digits : ∀ c ∈ Numeral.ofNat n, c.isDigit = true := fun _ => Numeral.isDigit_of_mem_ofNat
  have lower_name : unit.name.lower = unit.name := by
    cases unit <;> rfl
  have spelled : Duration.IsSpelledBy ⟨Numeral.ofNat n, some unit, false⟩
      (Numeral.ofNat n ++ unit.name) := by
    refine ⟨?_, Numeral.ofNat_ne_nil n, digits, fun plural => by cases plural⟩
    rw [Text.lower_append, Duration.lower_of_isDigit digits, lower_name]
    rfl
  have value : Duration.seconds ⟨Numeral.ofNat n, some unit, false⟩ = n * unit.seconds := by
    unfold Duration.seconds
    rw [Numeral.value_ofNat]
    rfl
  unfold Duration.seconds?
  rw [Duration.ofText?_eq_some_iff.2 spelled]
  dsimp only
  rw [if_neg (Nat.not_lt.2 ((Duration.length_ofNat_le_iff n).2 short)), value]

/-- A search for one duration. -/
def since (n : Nat) (unit : Duration.Unit) : Text :=
  (Query.Term.tagged .since (Numeral.ofNat n ++ unit.name)).toText

theorem filter_since {n : Nat} (short : n < 10 ^ Duration.digitLimit) (unit : Duration.Unit)
    (focus : Option Facet.Focus) :
    (Facet.filter (since n unit) focus).result =
      .ok ((Facet.start focus).add .since (.number (n * unit.seconds : Nat))) := by
  have plain_name : unit.name.all Query.isPlain = true := by
    cases unit <;> decide
  have plain : (since n unit).all Query.isPlain = true := by
    rw [since, Query.Term.toText, List.all_append, List.all_cons, List.all_append, plain_name,
      Query.Field.since.name_plain]
    have digits := List.all_eq_true.2 fun c mem =>
      Query.isPlain_of_isDigit (Numeral.isDigit_of_mem_ofNat (n := n) (c := c) mem)
    rw [digits]
    rfl
  have single : Query.tokens (since n unit) = [since n unit] := by
    apply Query.tokens_of_plain plain
    exact List.append_ne_nil_of_right_ne_nil _ (List.cons_ne_nil _ _)
  have way : Facet.route (since n unit) =
      .ok (.into .since (.number (n * unit.seconds : Nat))) := by
    rw [since, Facet.route_tagged, Facet.routeOfTerm, seconds?_unit short unit]
  unfold Facet.filter
  rw [single, Facet.sort_of_routed (.cons (Facet.route_eq_ok_iff.1 way) .nil)]
  rfl

/-- A search for a duration finds facets, and they are printed exactly when its seconds can be. -/
theorem since_printed_iff {n : Nat} (short : n < 10 ^ Duration.digitLimit) (unit : Duration.Unit)
    (user : Option Text) :
    (run (.facets (since n unit) user)).1.exitCode = 0 ↔
      n * unit.seconds < 10 ^ Duration.digitLimit := by
  have found := filter_since short unit (some (.filter user))
  have none_before : (Facet.start (some (.filter user))).terms .since = [] := by
    unfold Facet.start
    split <;> rfl
  have terms := Facets.terms_add .since .since (.number (n * unit.seconds : Nat))
    (Facet.start (some (.filter user)))
  rw [none_before] at terms
  rw [(reports_facets (since n unit) user).exitCode_eq_zero_iff, found]
  constructor
  · rintro ⟨facets, same, printable⟩
    cases same
    apply (cast_lt_iff _).1
    apply printable
    rw [terms]
    exact List.mem_singleton_self _
  · intro small
    refine ⟨_, rfl, ?_⟩
    intro seconds mem
    rw [terms] at mem
    cases List.mem_singleton.1 mem
    exact (cast_lt_iff _).2 small

end CommandLine

end FacetedSearch
