/-
Module: FacetedSearch.Proofs.Facet.FirstFailure
Purpose: Which search texts have no facets, and what is reported for them. Only a token asking for a
  duration of too many digits has no route; a search stops at the first such token, so its count of
  digits is the one reported, whatever the tokens around it are.
Imports: FacetedSearch.Proofs.Spelling, FacetedSearch.Proofs.Facet.Audit
Main exports: Facet.Overlong, Facet.route_eq_error_iff_overlong, Facet.FirstOverlong,
  Facet.sort_eq_error_iff_firstOverlong, Facet.stops_at_first_overlong
-/
import FacetedSearch.Proofs.Spelling
import FacetedSearch.Proofs.Facet.Audit

namespace FacetedSearch

namespace Facet

open Query

/-!
### One token
-/

/-- The token asks for a duration of so many digits, which are more than are read. -/
def Overlong (token : Text) (count : Nat) : Prop :=
  ∃ value duration, token = "since:".toList ++ value ∧ Duration.Spells value duration ∧
    4300 < duration.digits.length ∧ count = duration.digits.length

theorem route_eq_error_iff_overlong {token : Text} {tooLong : Duration.TooLong} :
    route token = .error tooLong ↔ Overlong token tooLong.digits := by
  rw [route_eq_error_iff]
  constructor
  · rintro ⟨value, rfl, unread⟩
    obtain ⟨duration, spelled, long, rfl⟩ := Duration.seconds?_eq_error_iff.1 unread
    exact ⟨value, duration, rfl, Duration.isSpelledBy_iff_spells.1 spelled, long, rfl⟩
  · rintro ⟨value, duration, rfl, spells, long, count⟩
    refine ⟨value, rfl, ?_⟩
    rw [Duration.seconds?_of_spells_long spells long, ← count]

theorem hasRoute_iff {token : Text} : HasRoute token ↔ ∀ count, ¬ Overlong token count := by
  constructor
  · rintro ⟨r, routed⟩ count overlong
    have failed : route token = .error ⟨count⟩ := route_eq_error_iff_overlong.2 overlong
    cases failed.symm.trans (route_of_routed routed)
  · intro fits
    cases way : route token with
    | ok r => exact ⟨r, route_eq_ok_iff.1 way⟩
    | error tooLong => exact absurd (route_eq_error_iff_overlong.1 way) (fits tooLong.digits)

/-!
### A run over tokens

The tokens before the first one that is too long have routes, so the run comes to that one; the
tokens behind it are not looked at.
-/

/-- The first token that asks for too many digits asks for so many. -/
def FirstOverlong (tokens : List Text) (count : Nat) : Prop :=
  ∃ before token after, tokens = before ++ token :: after ∧
    (∀ earlier ∈ before, ∀ other, ¬ Overlong earlier other) ∧ Overlong token count

theorem stopsAfter_of_hasRoute {before after : List Text} {token : Text}
    {tooLong : Duration.TooLong} (routed : ∀ earlier ∈ before, HasRoute earlier)
    (failed : route token = .error tooLong) :
    ∃ routes, StopsAfter tooLong (before ++ token :: after) routes := by
  induction before with
  | nil => exact ⟨[], .here failed⟩
  | cons earlier before ih =>
      obtain ⟨⟨r, first⟩, rest⟩ := List.forall_mem_cons.1 routed
      obtain ⟨routes, stops⟩ := ih rest
      exact ⟨r :: routes, .later first stops⟩

theorem sort_eq_error_iff_firstOverlong {tokens : List Text} {facets : Facets}
    {tooLong : Duration.TooLong} :
    (sort tokens facets).result = .error tooLong ↔ FirstOverlong tokens tooLong.digits := by
  rw [sort_eq_error_iff]
  constructor
  · rintro ⟨routes, stops⟩
    obtain ⟨before, token, after, cut, routed, failed, _⟩ := stops.cut
    refine ⟨before, token, after, cut, ?_, route_eq_error_iff_overlong.1 failed⟩
    exact fun earlier mem => hasRoute_iff.1 (routed earlier mem)
  · rintro ⟨before, token, after, rfl, fits, overlong⟩
    apply stopsAfter_of_hasRoute
    · exact fun earlier mem => hasRoute_iff.2 (fits earlier mem)
    · exact route_eq_error_iff_overlong.2 overlong

/-- Where a token asks for too many digits, there is a first such token. -/
theorem exists_firstOverlong_iff {tokens : List Text} :
    (∃ count, FirstOverlong tokens count) ↔ ∃ token ∈ tokens, ∃ count, Overlong token count := by
  constructor
  · rintro ⟨count, before, token, after, rfl, _, overlong⟩
    exact ⟨token, List.mem_append_right before List.mem_cons_self, count, overlong⟩
  · rintro ⟨token, mem, count, overlong⟩
    induction tokens with
    | nil => cases mem
    | cons first tokens ih =>
        -- Either the search for the first goes on behind this token, or this is it.
        by_cases fits : ∀ other, ¬ Overlong first other
        · have later : token ∈ tokens := by
            rcases List.mem_cons.1 mem with rfl | later
            · exact absurd overlong (fits count)
            · exact later
          obtain ⟨least, before, offending, after, rfl, none_before, offends⟩ := ih later
          refine ⟨least, first :: before, offending, after, rfl, ?_, offends⟩
          exact List.forall_mem_cons.2 ⟨fits, none_before⟩
        · push Not at fits
          obtain ⟨other, first_overlong⟩ := fits
          refine ⟨other, [], first, tokens, rfl, ?_, first_overlong⟩
          intro earlier nowhere
          cases nowhere

/-!
### A search text
-/

/-- A search text has facets unless one of its tokens asks for a duration of more than 4300 digits,
with any unit or none behind them. If one does, the first of them in the order of the tokens is
reported by its count of digits, whatever tokens stand before and behind it. The tokens and the
parameters of a text are told for every text: these functions have no other outcome. -/
theorem stops_at_first_overlong (text : Text) (focus : Option Focus) :
    ((∃ tooLong, (filter text focus).result = .error tooLong) ↔
      ∃ token ∈ tokens text, ∃ count, Overlong token count) ∧
    (∀ tooLong, (filter text focus).result = .error tooLong ↔
      FirstOverlong (tokens text) tooLong.digits) ∧
    (∀ tooLong, (filter text focus).result = .error tooLong → tooLong.message =
      "Exceeds the limit (4300 digits) for integer string conversion: value has ".toList ++
        Numeral.ofNat tooLong.digits ++
        " digits; use sys.set_int_max_str_digits() to increase the limit".toList) ∧
    ((¬ ∃ token ∈ tokens text, ∃ count, Overlong token count) →
      ∃ facets, (filter text focus).result = .ok facets) := by
  have stops : ∀ tooLong, (filter text focus).result = .error tooLong ↔
      FirstOverlong (tokens text) tooLong.digits := fun _ => sort_eq_error_iff_firstOverlong
  refine ⟨?raises, stops, fun tooLong _ => tooLong.message_eq, ?returns⟩
  case raises =>
    rw [← exists_firstOverlong_iff]
    constructor
    · rintro ⟨tooLong, failed⟩
      exact ⟨tooLong.digits, (stops tooLong).1 failed⟩
    · rintro ⟨count, first⟩
      exact ⟨⟨count⟩, (stops ⟨count⟩).2 first⟩
  case returns =>
    intro fits
    cases outcome : (filter text focus).result with
    | ok facets => exact ⟨facets, rfl⟩
    | error tooLong =>
        have first : FirstOverlong (tokens text) tooLong.digits := (stops tooLong).1 outcome
        exact absurd (exists_firstOverlong_iff.1 ⟨_, first⟩) fits

end Facet

end FacetedSearch
