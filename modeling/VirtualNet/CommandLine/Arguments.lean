/-!
# Arguments of a command

Arguments are read against what a command takes, from left to right, and the first of them that
does not fit ends the reading. An option stands before its value or is joined to it by an equals
sign, and a short option may have its value right behind it. A value that stands on its own must
not look like an option. Two dashes end the options. No option may be given twice.

Every command can be asked how it is used. The question counts if everything before it fits.
-/

namespace VirtualNet.CommandLine

/-- An option with a value, known by its name and perhaps by a letter. -/
structure ValueOption (α : Type) where
  name : String
  letter? : Option Char
  /-- Reads the value; a text that is none is refused. -/
  read? : String → Option α

/-- An option that a command takes. -/
structure OptionSpec where
  name : String
  letter? : Option Char
  /-- Which values the option takes; a flag takes none. -/
  accepts? : Option (String → Bool)

/-- What a command that takes an option with a value must know of it. -/
def ValueOption.spec {α : Type} (option : ValueOption α) : OptionSpec :=
  ⟨option.name, option.letter?, some fun text => (option.read? text).isSome⟩

/-- An option that is there or is not. -/
def OptionSpec.flag (name : String) : OptionSpec := ⟨name, none, none⟩

/-- What a command takes. -/
structure Usage where
  options : List OptionSpec
  /-- How many arguments that belong to no option the command must have. -/
  positionals : Nat

/-- Why a command is not run. -/
inductive Stop where
  /-- The arguments do not fit the command. -/
  | misuse
  /-- The arguments ask how the command is used. -/
  | help
  deriving DecidableEq, Repr

/-- The arguments of a command: the values of its options by name, and the rest in order. -/
structure Arguments where
  options : List (String × String)
  positionals : List String
  deriving DecidableEq, Repr

namespace Arguments

/-- No arguments. -/
def empty : Arguments := ⟨[], []⟩

/-- Adds an option, unless it is there already. -/
def addOption (arguments : Arguments) (name value : String) : Except Stop Arguments :=
  if (arguments.options.lookup name).isSome then .error .misuse
  else .ok { arguments with options := arguments.options ++ [(name, value)] }

/-- Adds an option with a value that it takes. -/
def addValued (arguments : Arguments) (spec : OptionSpec) (value : String) :
    Except Stop Arguments :=
  match spec.accepts? with
  | some accepts => if accepts value then arguments.addOption spec.name value else .error .misuse
  | none => .error .misuse

/-- Adds an argument that belongs to no option, if the command takes another one. -/
def addPositional (arguments : Arguments) (usage : Usage) (value : String) :
    Except Stop Arguments :=
  if arguments.positionals.length < usage.positionals then
    .ok { arguments with positionals := arguments.positionals ++ [value] }
  else .error .misuse

/-- What a single argument is. -/
inductive Shape where
  | terminator
  | help
  /-- An option, perhaps with a value joined to it. -/
  | option (spec : OptionSpec) (joined? : Option String)
  | unknownOption
  | positional

/-- A name and what follows the first equals sign, if there is one. -/
def splitAtEquals (text : List Char) : String × Option String :=
  let name := String.ofList (text.takeWhile (· ≠ '='))
  match text.dropWhile (· ≠ '=') with
  | [] => (name, none)
  | _ :: value => (name, some (String.ofList value))

/-- The value that follows the letter of a short option. -/
def joinedToLetter : List Char → Option String
  | [] => none
  | '=' :: value => some (String.ofList value)
  | value => some (String.ofList value)

/-- Tells what an argument is; a single dash is not an option. -/
def shape (specs : List OptionSpec) (argument : String) : Shape :=
  match argument.toList with
  | ['-', '-'] => .terminator
  | '-' :: '-' :: text =>
    let (name, joined?) := splitAtEquals text
    match specs.find? (·.name = name) with
    | some spec => .option spec joined?
    | none => if name = "help" ∧ joined? = none then .help else .unknownOption
  | '-' :: letter :: text =>
    match specs.find? (·.letter? = some letter) with
    | some spec => .option spec (joinedToLetter text)
    | none => if letter = 'h' then .help else .unknownOption
  | _ => .positional

/-- Whether an argument can stand behind an option as its value. -/
def isValue (argument : String) : Bool :=
  match argument.toList with
  | '-' :: _ :: _ => false
  | _ => true

/-- Adds the arguments of a command line to those read so far. -/
def readMore (usage : Usage) (arguments : Arguments) : List String → Except Stop Arguments
  | [] => .ok arguments
  | word :: rest =>
    match shape usage.options word with
    | .terminator => rest.foldlM (fun arguments => arguments.addPositional usage) arguments
    | .help => .error .help
    | .option spec (some value) => do readMore usage (← arguments.addValued spec value) rest
    | .option spec none =>
      if spec.accepts?.isNone then do
        readMore usage (← arguments.addOption spec.name "") rest
      else
        match rest with
        | value :: rest =>
          if isValue value then do readMore usage (← arguments.addValued spec value) rest
          else .error .misuse
        | [] => .error .misuse
    | .unknownOption => .error .misuse
    | .positional => do readMore usage (← arguments.addPositional usage word) rest

/-- Reads the arguments of a command line, of which none may be missing. -/
def read (usage : Usage) (words : List String) : Except Stop Arguments := do
  let arguments ← readMore usage empty words
  if arguments.positionals.length < usage.positionals then throw .misuse
  return arguments

/-- What is made of a command line that does not begin with a command. -/
def noCommand {α : Type} : List String → Except Stop α
  | word :: _ =>
    match shape [] word with
    | .help => .error .help
    | _ => .error .misuse
  | [] => .error .misuse

/-- Whether a flag was given. -/
def hasFlag (arguments : Arguments) (name : String) : Bool :=
  (arguments.options.lookup name).isSome

/-- The value of an option, if it was given. -/
def value? {α : Type} (arguments : Arguments) (option : ValueOption α) : Option α :=
  (arguments.options.lookup option.name).bind option.read?

end Arguments

end VirtualNet.CommandLine
