/-
Module: FacetedSearch.CommandLine.Arguments
Purpose: Reading the arguments of the program as a command.
Imports: FacetedSearch.Settings
Main exports: CommandLine.Command, CommandLine.Request, CommandLine.read?
-/
import FacetedSearch.Settings

namespace FacetedSearch

namespace CommandLine

/-- What the program can be told to do. -/
inductive Command where
  | tokens (query : Text)
  | flat (query : Text)
  | facets (query : Text) (user : Option Text)
  | serve (host : Text) (port : Int) (logLevel : Text)
deriving Repr, DecidableEq

/-- What the arguments ask for: help, or a command. -/
inductive Request where
  | help
  | run (command : Command)
deriving Repr, DecidableEq

/-!
### Options

An option is a name after two dashes with a value, which is the next argument or stands after an
equals sign.  A value may look like an option.  Options and plain arguments may be mixed; after
two dashes on their own all arguments are plain.  A dash on its own is plain as well.
-/

/-- An argument that is read as an option. -/
def isOption : Text → Bool
  | '-' :: _ :: _ => true
  | _ => false

/-- Two dashes on their own, after which nothing is an option. -/
def dashes : Text := "--".toList

/-- The option that asks for help; it has no value. -/
def helpOption : Text := "--help".toList

/-- Arguments told apart: whether help is asked for, the options with their values, and the plain
arguments, all in order. -/
structure Parts where
  help : Bool := false
  options : List (Text × Text) := []
  plain : List Text := []
deriving Repr, DecidableEq

/-- The arguments of a command that has the given options, none when one of them cannot be read. -/
def parts? (known : List Text) : List Text → Option Parts
  | [] => some {}
  | argument :: rest =>
      if argument = dashes then some { plain := rest }
      else if isOption argument then
        if argument = helpOption then
          (parts? known rest).map fun parts => { parts with help := true }
        else if argument ∈ known then
          match rest with
          | [] => none
          | value :: rest =>
              (parts? known rest).map fun parts =>
                { parts with options := (argument, value) :: parts.options }
        else
          match argument.cut? '=' with
          | some (name, value) =>
              if name ∈ known then
                (parts? known rest).map fun parts =>
                  { parts with options := (name, value) :: parts.options }
              else none
          | none => none
      else (parts? known rest).map fun parts => { parts with plain := argument :: parts.plain }

/-- The value of an option: the last one counts. -/
def Parts.option? (parts : Parts) (name : String) : Option Text :=
  (parts.options.reverse.find? (·.1 == name.toList)).map (·.2)

/-!
### Commands
-/

/-- A command that is told by one plain argument and options. -/
def single? (known : List Text) (arguments : List Text) (command : Text → Parts → Command) :
    Option Request :=
  match parts? known arguments with
  | none => none
  | some parts =>
      if parts.help then some .help
      else
        match parts.plain with
        | [query] => some (.run (command query parts))
        | _ => none

/-- The command that serves requests; it has no plain arguments. -/
def serve? (settings : Settings) (arguments : List Text) : Option Request :=
  match parts? ["--host".toList, "--port".toList, "--log-level".toList] arguments with
  | none => none
  | some parts =>
      if parts.help then some .help
      else if parts.plain = [] then
        let port := match parts.option? "--port" with
          | none => some settings.port
          | some text => (WholeNumber.read text).toOption
        port.map fun port => .run (.serve ((parts.option? "--host").getD settings.host) port
          ((parts.option? "--log-level").getD "info".toList))
      else none

/-- The command of a name with its arguments. -/
def command? (settings : Settings) (name : Text) (arguments : List Text) : Option Request :=
  if name = "tokens".toList then single? [] arguments fun query _ => .tokens query
  else if name = "flat".toList then single? [] arguments fun query _ => .flat query
  else if name = "facets".toList then
    single? ["--user".toList] arguments fun query parts => .facets query (parts.option? "--user")
  else if name = "serve".toList then serve? settings arguments
  else none

/-- What comes before the name of the command: whether help is asked for, and the rest. -/
def leading? : List Text → Option (Bool × List Text)
  | [] => some (false, [])
  | argument :: rest =>
      if argument = dashes then some (false, rest)
      else if isOption argument then
        if argument = helpOption then (leading? rest).map fun (_, rest) => (true, rest) else none
      else some (false, argument :: rest)

/-- What the arguments ask for, none when they cannot be read. -/
def read? (settings : Settings) (arguments : List Text) : Option Request :=
  match leading? arguments with
  | none => none
  | some (true, _) => some .help
  | some (false, []) => none
  | some (false, name :: rest) => command? settings name rest

end CommandLine

end FacetedSearch
