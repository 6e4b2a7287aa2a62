import SourceFacts.Text.Dotted
import SourceFacts.Text.Quoted
import SourceFacts.Text.Similar

/-!
# Arguments of a command

Options have short and long names. A value follows its option, or is attached to it: after the
letter of a short name, after `=` for a long one. What starts with no dash is an argument, and so
is everything after `--`.
-/

namespace SourceFacts.CommandLine

/-- An option; `name` is its long name. -/
structure Switch where
  name : String
  letter : Option Char := none
  takesValue : Bool := true

/-- What is wrong with a value. -/
inductive ValueProblem where
  | notInteger (value : String)
  | noPath (path : String)
  | isDirectory (path : String)
  | isFile (path : String)

/-- A problem in words. -/
def ValueProblem.message : ValueProblem → String
  | .notInteger value => s!"{Text.quoted value} is not a valid integer."
  | .noPath path => s!"Path {Text.quoted path} does not exist."
  | .isDirectory path => s!"File {Text.quoted path} is a directory."
  | .isFile path => s!"Directory {Text.quoted path} is a file."

/-- Why the arguments cannot be used. -/
inductive UsageError where
  | noSuchOption (name : String) (similar : List String)
  | needsArgument (name : String)
  | takesNoValue (name : String)
  | noSuchCommand (name : String) (similar : List String)
  | missingCommand
  | missingArgument (name : String)
  | unexpected (arguments : List String)
  | invalid (parameter : String) (problem : ValueProblem)

/-- Names that were perhaps meant. -/
def suggestion : List String → String
  | [] => ""
  | [name] => s!" Did you mean {Text.quoted name}?"
  | names =>
    let listed := Text.joinWith ", " ((sortBy compare names).map Text.quoted)
    s!" (Did you mean one of: {listed}?)"

/-- The report of an error. -/
def UsageError.message : UsageError → String
  | .noSuchOption name similar => s!"No such option {Text.quoted name}." ++ suggestion similar
  | .needsArgument name => s!"Option {Text.quoted name} requires an argument."
  | .takesNoValue name => s!"Option {Text.quoted name} does not take a value."
  | .noSuchCommand name similar => s!"No such command {Text.quoted name}." ++ suggestion similar
  | .missingCommand => "Missing command."
  | .missingArgument name => s!"Missing argument '{name}'."
  | .unexpected arguments =>
    let noun := if arguments.length = 1 then "argument" else "arguments"
    s!"Got unexpected extra {noun} (" ++ Text.joinWith " " arguments ++ ")"
  | .invalid parameter problem => s!"Invalid value for {parameter}: {problem.message}"

/-- What the arguments say: options with their values in order, and arguments. -/
structure Given where
  options : List (String × String) := []
  arguments : List String := []

namespace Given

/-- The last value of an option. -/
def last? (g : Given) (name : String) : Option String :=
  (g.options.reverse.lookup name)

/-- All values of an option. -/
def all (g : Given) (name : String) : List String :=
  (g.options.filter fun o => o.1 == name).map (·.2)

/-- The option occurs. -/
def has (g : Given) (name : String) : Bool :=
  g.options.any fun o => o.1 == name

/-- The options that occur, by their first occurrence. -/
def names (g : Given) : List String :=
  g.options.foldl (fun seen o => if seen.contains o.1 then seen else seen ++ [o.1]) []

end Given

/-- What one word with options gives: options with their values, and perhaps one whose value is to
follow, with the name under which it was written. -/
structure WordReading where
  options : List (String × String) := []
  pending : Option (Switch × String) := none

/-- Reads a long name with perhaps a value attached. -/
def readLong (switches : List Switch) (name : String) (value : Option String) :
    Except UsageError WordReading :=
  match switches.find? fun s => s.name == name with
  | none => .error (.noSuchOption name (Text.closest name (switches.map (·.name))))
  | some s =>
    match s.takesValue, value with
    | true, some v => .ok { options := [(s.name, v)] }
    | true, none => .ok { pending := some (s, name) }
    | false, some _ => .error (.takesNoValue name)
    | false, none => .ok { options := [(s.name, "")] }

/-- Reads letters; what follows the letter of an option with a value is that value. -/
def readLetters (switches : List Switch) : List Char → Except UsageError WordReading
  | [] => .ok {}
  | c :: rest =>
    let written := String.ofList ['-', c]
    match switches.find? fun s => s.letter == some c with
    | none => .error (.noSuchOption written [])
    | some s =>
      if s.takesValue then
        if rest.isEmpty then .ok { pending := some (s, written) }
        else .ok { options := [(s.name, String.ofList rest)] }
      else
        (readLetters switches rest).map fun r => { r with options := (s.name, "") :: r.options }

/-- Reads a word that starts with a dash. -/
def readWord (switches : List Switch) (word : String) : Except UsageError WordReading :=
  if Text.startsWith "--" word then
    if word.toList.contains '=' then
      readLong switches (Text.beforeFirst '=' word) (some (Text.afterFirst '=' word))
    else readLong switches word none
  else readLetters switches (word.toList.drop 1)

/-- The word holds options. -/
def isOptionWord (word : String) : Bool :=
  Text.startsWith "-" word && word != "-"

/-- Reads words. With `mixed`, options may follow arguments; otherwise the first argument ends
them. -/
def readArguments (switches : List Switch) (mixed : Bool) : List String → Except UsageError Given
  | [] => .ok {}
  | word :: rest =>
    if word = "--" then .ok { arguments := rest }
    else if isOptionWord word then do
      let r ← readWord switches word
      match r.pending, rest with
      | none, rest =>
        let g ← readArguments switches mixed rest
        return { g with options := r.options ++ g.options }
      | some (s, _), value :: rest =>
        let g ← readArguments switches mixed rest
        return { g with options := r.options ++ [(s.name, value)] ++ g.options }
      | some (_, written), [] => throw (.needsArgument written)
    else if mixed then
      (readArguments switches mixed rest).map fun g => { g with arguments := word :: g.arguments }
    else .ok { arguments := word :: rest }

end SourceFacts.CommandLine
