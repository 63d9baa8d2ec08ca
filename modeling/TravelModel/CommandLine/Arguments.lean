/-!
# TravelModel — arguments

Arguments are options with one dash or two, and other words in order. Which
options there are is given by a list; an option that is not in it, a value
that is missing and an option given twice are wrong usage.
-/

namespace TravelModel

/-- An option of a command. -/
structure OptionSpec where
  long : String
  short : Option Char := none
  takesValue : Bool := false
  /-- Whether it can be given more than once. -/
  repeatable : Bool := false
  /-- Whether its value can be empty. -/
  emptyAllowed : Bool := true
deriving DecidableEq, Repr, Inhabited

/-- Why arguments do not make a command. -/
inductive UsageProblem where
  /-- Help was asked for. -/
  | help
  | wrong
deriving DecidableEq, Repr, Inhabited

/-- Options with their values, and words. -/
structure Arguments where
  options : List (String × String) := []
  words : List String := []
deriving DecidableEq, Repr, Inhabited

namespace Arguments

/-- Whether an option was given. -/
def has (a : Arguments) (long : String) : Bool :=
  a.options.any fun o => o.1 = long

/-- The value of an option. -/
def value? (a : Arguments) (long : String) : Option String :=
  (a.options.find? fun o => o.1 = long).map Prod.snd

/-- All values of an option. -/
def values (a : Arguments) (long : String) : List String :=
  (a.options.filter fun o => o.1 = long).map Prod.snd

/-- Adds an option. -/
def add (a : Arguments) (s : OptionSpec) (value : String) : Except UsageProblem Arguments :=
  if (a.has s.long && !s.repeatable) || (value = "" && !s.emptyAllowed) then .error .wrong
  else .ok { a with options := a.options ++ [(s.long, value)] }

/-- Adds a word. Words cannot be empty. -/
def addWord (a : Arguments) (word : String) : Except UsageProblem Arguments :=
  if word = "" then .error .wrong else .ok { a with words := a.words ++ [word] }

/-- Whether an argument is a word or a value. -/
def isWord (arg : String) : Bool :=
  arg = "-" || arg.toList.head? ≠ some '-'

end Arguments

/-- What an argument is. -/
inductive ArgumentForm where
  | word
  /-- All that follows is words. -/
  | wordsOnly
  | help
  /-- An option, with a value if it is part of the argument. -/
  | option (spec : OptionSpec) (value : Option String)
  | unknown
deriving DecidableEq, Repr, Inhabited

namespace ArgumentForm

/-- The form of an argument with two dashes. -/
def ofLong (specs : List OptionSpec) (cs : List Char) : ArgumentForm :=
  let name := String.ofList (cs.takeWhile (· ≠ '='))
  let value :=
    match cs.dropWhile (· ≠ '=') with
    | _ :: v => some (String.ofList v)
    | [] => none
  if name = "help" && value.isNone then .help
  else
    match specs.find? fun s => s.long = name with
    | some s => if value.isSome && !s.takesValue then .unknown else .option s value
    | none => .unknown

/-- The form of an argument with one dash. -/
def ofShort (specs : List OptionSpec) (c : Char) (rest : List Char) : ArgumentForm :=
  if c = 'h' then .help
  else
    match specs.find? fun s => s.short = some c with
    | none => .unknown
    | some s =>
      match rest with
      | [] => .option s none
      | '=' :: v => .option s (some (String.ofList v))
      | v => .option s (some (String.ofList v))

/-- The form of an argument. -/
def of (specs : List OptionSpec) (arg : String) : ArgumentForm :=
  match arg.toList with
  | ['-', '-'] => .wordsOnly
  | '-' :: '-' :: cs => ofLong specs cs
  | '-' :: c :: rest => ofShort specs c rest
  | _ => .word

end ArgumentForm

namespace Arguments

/-- Reads arguments. With `stopAtWord` the first word ends the reading; what
follows it is given back with it. -/
def read (specs : List OptionSpec) (stopAtWord : Bool) :
    Arguments → List String → Except UsageProblem (Arguments × List String)
  | a, [] => .ok (a, [])
  | a, arg :: rest =>
    match ArgumentForm.of specs arg with
    | .help => .error .help
    | .unknown => .error .wrong
    | .wordsOnly =>
      if stopAtWord then .error .wrong
      else do return (← rest.foldlM addWord a, [])
    | .word =>
      if stopAtWord then .ok (a, arg :: rest)
      else do read specs stopAtWord (← a.addWord arg) rest
    | .option s (some v) => do read specs stopAtWord (← a.add s v) rest
    | .option s none =>
      if s.takesValue then
        match rest with
        | v :: rest =>
          if isWord v then do read specs stopAtWord (← a.add s v) rest else .error .wrong
        | [] => .error .wrong
      else do read specs stopAtWord (← a.add s "") rest

end Arguments

end TravelModel
