import TravelModel.CommandLine.Arguments

/-!
# TravelModel — commands

There are three commands: to check libraries, to list their symbols and to
generate documents from them. Settings can be named before or after the
command; what comes later counts.
-/

namespace TravelModel

/-- What documents to generate and how. -/
structure GenerateRequest where
  output : Option String := none
  xsd : Bool := false
  jsonSchema : Bool := false
  openApi : Bool := false
  swagger : Bool := false
  services : Bool := false
  roots : List String := []
  suppressExtensions : Bool := false
  majorNamespaces : Bool := false
  /-- Whether to generate even if loading reported errors. -/
  force : Bool := false
deriving DecidableEq, Repr, Inhabited

/-- What to do with libraries. -/
inductive Action where
  | check (strict : Bool)
  | symbols (ns : Option String)
  | generate (request : GenerateRequest)
deriving DecidableEq, Repr, Inhabited

/-- A command: settings, libraries and what to do with them. -/
structure Command where
  config : Option String
  paths : List String
  sequential : Bool
  action : Action
deriving DecidableEq, Repr, Inhabited

namespace Command

/-- The option that names settings. -/
def configOption : OptionSpec :=
  { long := "config", short := some 'c', takesValue := true }

/-- Options that all commands have. -/
def sharedOptions : List OptionSpec :=
  [configOption, { long := "sequential" }]

/-- The options of each command. -/
def optionsOf? : String → Option (List OptionSpec)
  | "check" => some ({ long := "strict" } :: sharedOptions)
  | "symbols" =>
    some ({ long := "namespace", short := some 'n', takesValue := true } :: sharedOptions)
  | "generate" =>
    some <|
      [ { long := "output", short := some 'o', takesValue := true, emptyAllowed := false },
        { long := "xsd" }, { long := "json-schema" }, { long := "openapi" },
        { long := "swagger" }, { long := "services" },
        { long := "root", short := some 'r', takesValue := true, repeatable := true },
        { long := "suppress-extensions" }, { long := "major-namespaces" }, { long := "force" } ] ++
      sharedOptions
  | _ => none

/-- What a command is to do. -/
def actionOf (name : String) (a : Arguments) : Action :=
  match name with
  | "check" => .check (a.has "strict")
  | "symbols" => .symbols (a.value? "namespace")
  | _ =>
    .generate
      { output := a.value? "output", xsd := a.has "xsd", jsonSchema := a.has "json-schema"
        openApi := a.has "openapi", swagger := a.has "swagger", services := a.has "services"
        roots := a.values "root", suppressExtensions := a.has "suppress-extensions"
        majorNamespaces := a.has "major-namespaces", force := a.has "force" }

/-- Whether words after `help` name a command at most. -/
def helpOn : List String → UsageProblem
  | [] => .help
  | [name] => if name = "help" || (optionsOf? name).isSome then .help else .wrong
  | _ => .wrong

/-- Reads a command. -/
def parse (args : List String) : Except UsageProblem Command := do
  let (before, rest) ← Arguments.read [configOption] true {} args
  match rest with
  | [] => .error .wrong
  | "help" :: words => .error (helpOn words)
  | name :: rest =>
    match optionsOf? name with
    | none => .error .wrong
    | some specs =>
      let (a, _) ← Arguments.read specs false {} rest
      if a.words.isEmpty then .error .wrong
      else
        return {
          config := (a.value? "config").or (before.value? "config")
          paths := a.words, sequential := a.has "sequential", action := actionOf name a }

end Command

end TravelModel
