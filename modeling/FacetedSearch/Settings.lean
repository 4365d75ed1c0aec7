/-
Module: FacetedSearch.Settings
Purpose: The settings of the program and their reading from the environment.
Imports: FacetedSearch.Text.LowerCase, FacetedSearch.Text.WholeNumber
Main exports: Settings, Settings.Problem, Settings.ofEnvironment
-/
import FacetedSearch.Text.LowerCase
import FacetedSearch.Text.WholeNumber

namespace FacetedSearch

/-- What can be set from outside. -/
structure Settings where
  logLevel : Text := "INFO".toList
  host : Text := "127.0.0.1".toList
  port : Int := 8000
  maxQueryLength : Int := 2000
deriving Repr, DecidableEq

namespace Settings

/-!
### The environment
-/

/-- A setting that could not be taken: which one, what it was given, and why not. -/
structure Problem where
  setting : Text
  given : Text
  reason : WholeNumber.Fault
deriving Repr, DecidableEq

/-- The variables of the program start with this. -/
def variableStart : Text := "annoquery_".toList

/-- What the environment gives for a setting. Names of variables are read in any case, and the
last variable of a name counts. -/
def given? (environment : List (Text × Text)) (setting : Text) : Option Text :=
  (environment.reverse.find? fun (name, _) => name.lower == variableStart ++ setting).map (·.2)

/-- A whole number from the environment; without a variable the number stays as it was. -/
def intSetting (environment : List (Text × Text)) (setting : Text) (unset : Int) :
    Except Problem Int :=
  match given? environment setting with
  | none => .ok unset
  | some given =>
      match WholeNumber.read given with
      | .ok n => .ok n
      | .error reason => .error ⟨setting, given, reason⟩

/-- The settings under an environment, or every setting that cannot be taken. -/
def ofEnvironment (environment : List (Text × Text)) : Except (List Problem) Settings :=
  let unset : Settings := {}
  let port := intSetting environment "port".toList unset.port
  let length := intSetting environment "max_query_length".toList unset.maxQueryLength
  match port, length with
  | .ok port, .ok length => .ok
      { logLevel := (given? environment "log_level".toList).getD unset.logLevel
        host := (given? environment "host".toList).getD unset.host
        port := port
        maxQueryLength := length }
  | .error first, .error second => .error [first, second]
  | .error problem, .ok _ | .ok _, .error problem => .error [problem]

end Settings

end FacetedSearch
