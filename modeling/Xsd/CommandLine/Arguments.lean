/-!
# Arguments

What the command line asks for.
-/

namespace Xsd.CommandLine

inductive Command where
  | version
  /-- Describe a schema, or one type of it. -/
  | inspect (schema : String) (type : Option String) (json : Bool)
  /-- Validate a document. -/
  | validate (schema file mode : String)
deriving DecidableEq, Repr

/-- What is wrong with the arguments. -/
inductive ArgumentFault where
  | missingCommand
  | unknownCommand (word : String)
  | unexpected (word : String)
  | missingValue (option : String)
  | repeated (option : String)
  | missing (option : String)
deriving DecidableEq, Repr

def ArgumentFault.message : ArgumentFault → String
  | .missingCommand => "a command is required: inspect, validate"
  | .unknownCommand word => s!"unrecognized subcommand '{word}'"
  | .unexpected word => s!"unexpected argument '{word}' found"
  | .missingValue option => s!"a value is required for '{option}'"
  | .repeated option => s!"the argument '{option}' cannot be used multiple times"
  | .missing option => s!"the required argument '{option}' was not provided"

/-- An option of a command: its letter, its name, and whether a value follows it. -/
structure OptionSpec where
  letter : Char
  name : String
  takesValue : Bool
deriving DecidableEq, Repr

def verboseOption : OptionSpec := ⟨'v', "verbose", false⟩

def inspectOptions : List OptionSpec :=
  [⟨'t', "type", true⟩, ⟨'j', "json", false⟩, verboseOption]

def validateOptions : List OptionSpec :=
  [⟨'s', "schema", true⟩, ⟨'m', "mode", true⟩, verboseOption]

/-- The options that have been given, with their values, and the other arguments. -/
structure Given where
  options : List (String × String)
  others : List String

namespace Given

def value? (g : Given) (name : String) : Option String := g.options.lookup name

/-- Give an option. It can be given once. -/
def give (g : Given) (spec : OptionSpec) (value : String) : Except ArgumentFault Given :=
  if (g.value? spec.name).isSome then .error (.repeated ("--" ++ spec.name))
  else .ok { g with options := g.options ++ [(spec.name, value)] }

end Given

/-- An argument that is an option, and not a value. -/
def isOption (word : String) : Bool :=
  match word.toList with
  | '-' :: _ :: _ => true
  | _ => false

/-- The value of an option among the arguments that follow it. -/
def takeValue (spec : OptionSpec) : List String → Except ArgumentFault (String × List String)
  | [] => .error (.missingValue ("--" ++ spec.name))
  | word :: rest =>
    if isOption word then .error (.missingValue ("--" ++ spec.name)) else .ok (word, rest)

/-- Read the letters of an argument such as `-jt`. A value stands after its letter, with or without
an equals sign, or in the next argument. -/
def readLetters (specs : List OptionSpec) (word : String) (given : Given) (rest : List String) :
    List Char → Except ArgumentFault (Given × List String)
  | [] => .ok (given, rest)
  | c :: letters =>
    match specs.find? fun spec => spec.letter == c with
    | none => .error (.unexpected word)
    | some spec =>
      if !spec.takesValue then do readLetters specs word (← given.give spec "") rest letters
      else
        match letters with
        | [] => do
          let (value, rest) ← takeValue spec rest
          return (← given.give spec value, rest)
        | '=' :: value => do return (← given.give spec (String.ofList value), rest)
        | value => do return (← given.give spec (String.ofList value), rest)

/-- Read an argument such as `--type` or `--type=name`. -/
def readName (specs : List OptionSpec) (word : String) (given : Given) (rest : List String)
    (text : List Char) : Except ArgumentFault (Given × List String) :=
  let name := String.ofList (text.takeWhile (· != '='))
  match specs.find? fun spec => spec.name == name with
  | none => .error (.unexpected word)
  | some spec =>
    match text.dropWhile (· != '='), spec.takesValue with
    | _ :: value, true => do return (← given.give spec (String.ofList value), rest)
    | _ :: _, false => .error (.unexpected word)
    | [], true => do
      let (value, rest) ← takeValue spec rest
      return (← given.give spec value, rest)
    | [], false => do return (← given.give spec "", rest)

/-- Read arguments; `fuel` bounds their number. Two hyphens end the options. -/
def readArguments (specs : List OptionSpec) (given : Given) :
    (fuel : Nat) → List String → Except ArgumentFault Given
  | 0, _ => .ok given
  | _, [] => .ok given
  | fuel + 1, word :: rest =>
    match word.toList with
    | ['-', '-'] => .ok { given with others := given.others ++ rest }
    | '-' :: '-' :: text => do
      let (given, rest) ← readName specs word given rest text
      readArguments specs given fuel rest
    | '-' :: c :: letters => do
      let (given, rest) ← readLetters specs word given rest (c :: letters)
      readArguments specs given fuel rest
    | _ => readArguments specs { given with others := given.others ++ [word] } fuel rest

def given (specs : List OptionSpec) (arguments : List String) : Except ArgumentFault Given :=
  readArguments specs ⟨[], []⟩ (arguments.length + 1) arguments

/-- A path is not empty. -/
def path (what word : String) : Except ArgumentFault String :=
  if word.isEmpty then .error (.missingValue what) else .ok word

/-- The one argument that is no option. -/
def single (what : String) : List String → Except ArgumentFault String
  | [] => .error (.missing what)
  | [word] => path what word
  | _ :: word :: _ => .error (.unexpected word)

def readInspect (arguments : List String) : Except ArgumentFault Command := do
  let g ← given inspectOptions arguments
  return .inspect (← single "<SCHEMA>" g.others) (g.value? "type") (g.value? "json").isSome

def readValidate (arguments : List String) : Except ArgumentFault Command := do
  let g ← given validateOptions arguments
  match g.value? "schema" with
  | none => .error (.missing "--schema <SCHEMA>")
  | some schema =>
    return .validate (← path "--schema <SCHEMA>" schema) (← single "<FILE>" g.others)
      ((g.value? "mode").getD "lazy")

/-- Read the letters of an argument such as `-v` that stands before the command, given whether it
was asked to be verbose before; the same is answered after them. The letter `V` asks for the version
at once, whatever follows it: the answer is `none`. -/
def readLeadingLetters (word : String) (verbose : Bool) :
    List Char → Except ArgumentFault (Option Bool)
  | [] => .ok (some verbose)
  | 'V' :: _ => .ok none
  | 'v' :: letters =>
    if verbose then .error (.repeated "--verbose") else readLeadingLetters word true letters
  | _ :: _ => .error (.unexpected word)

/-- Read the arguments of the program from the command on, or from options that stand before it. -/
def readCommandFrom (verbose : Bool) : List String → Except ArgumentFault Command
  | [] => .error .missingCommand
  | word :: rest =>
    match word.toList with
    | '-' :: '-' :: _ =>
      if word == "--version" then .ok .version
      else if word != "--verbose" then .error (.unexpected word)
      else if verbose then .error (.repeated word)
      else readCommandFrom true rest
    | '-' :: c :: letters =>
      match readLeadingLetters word verbose (c :: letters) with
      | .error fault => .error fault
      | .ok none => .ok .version
      | .ok (some verbose) => readCommandFrom verbose rest
    | _ =>
      match word with
      | "inspect" => readInspect rest
      | "validate" => readValidate rest
      | _ => .error (.unknownCommand word)

/-- Read the arguments of the program. -/
def readCommand : List String → Except ArgumentFault Command := readCommandFrom false

end Xsd.CommandLine
