import ModelVault.Environment
import ModelVault.Text.Decimal
import ModelVault.Text.Quoted

/-!
Grammars of command lines: commands with options, positions and commands below them, and the reader that
finds out what a command line gives. The first fault from the left counts, but for a value that stands apart
from its option: it is looked at when the next option or the end of its command comes.
-/

namespace ModelVault.CommandLine

/-- What is wrong with a command line, or that it asks for help. -/
inductive UsageError where
  | unknownArgument
  | invalidSubcommand
  | missingRequiredArgument
  | missingSubcommand
  /-- A command that needs more got nothing at all. -/
  | nothingGiven
  | valueValidation
  /-- An option came without its value, or a path is empty. -/
  | invalidValue
  | argumentConflict
  | tooManyValues
  | displayHelp
  deriving DecidableEq, Repr

/-- The wording of a fault. -/
def UsageError.message : UsageError → String
  | unknownArgument => "unexpected argument"
  | invalidSubcommand => "unrecognized subcommand"
  | missingRequiredArgument => "a required argument is missing"
  | missingSubcommand => "a subcommand is missing"
  | nothingGiven => "arguments are missing"
  | valueValidation => "a value is invalid"
  | invalidValue => "a value is missing"
  | argumentConflict => "an argument is given more than once"
  | tooManyValues => "a value is given to an argument that takes none"
  | displayHelp => "commands: server, config, model, version"

/-- What an argument holds. -/
inductive ArgumentValue where
  | text (value : String)
  | number (value : Nat)
  | entry (key value : String)
  deriving DecidableEq

/-- The form of an argument. -/
inductive ArgumentKind where
  | text
  /-- A text that is not empty. -/
  | path
  /-- A number below a limit, with or without a sign. -/
  | word (limit : Nat)
  /-- A number below `2 ^ 64`. -/
  | size
  /-- A key and a value around the first equals sign. -/
  | entry
  deriving DecidableEq

/-- The key before the first equals sign and the value behind it. -/
def splitEntry? (text : String) : Option (String × String) :=
  let key := text.toList.takeWhile (· ≠ '=')
  match text.toList.drop key.length with
  | _ :: value => some (String.ofList key, String.ofList value)
  | [] => none

/-- What is said of a text that has no equals sign. -/
def entryFault (text : String) : String :=
  "invalid KEY=VALUE: no `=` found in " ++ Text.quoted text

def ArgumentKind.read (kind : ArgumentKind) (text : String) : Except UsageError ArgumentValue :=
  match kind with
  | .text => .ok (.text text)
  | .path => if text.isEmpty then .error .invalidValue else .ok (.text text)
  | .word limit =>
    match Text.signed? text with
    | some value =>
      if 0 ≤ value ∧ value < limit then .ok (.number value.toNat) else .error .valueValidation
    | none => .error .valueValidation
  | .size =>
    match Text.unsigned? text with
    | some value => if value < UInt64.size then .ok (.number value) else .error .valueValidation
    | none => .error .valueValidation
  | .entry =>
    match splitEntry? text with
    | some (key, value) => .ok (.entry key value)
    | none => .error .valueValidation

/-- How often a parameter may be given, and whether it takes a value. -/
inductive Arity where
  /-- Without a value, once. -/
  | flag
  /-- Without a value, and counted. -/
  | count
  /-- With a value, once. -/
  | once
  /-- With a value each time. -/
  | many
  /-- Asks for help. -/
  | help
  deriving DecidableEq

/-- An option, or an argument at a position. A separator parts one text into several values; a fallback is the
variable of the environment that stands in for an option that is not given. -/
structure Parameter where
  name : String
  arity : Arity
  kind : ArgumentKind
  short : Option Char
  separator : Option Char
  fallback : Option String
  deriving DecidableEq

/-- A command with its options, its positions, and the commands below it, one of which has to follow. An
argument at a position that comes once is required. -/
structure Grammar where
  name : String
  options : List Parameter
  positions : List Parameter
  commands : List Grammar

/-- Where values come from. -/
inductive Source where
  | environment
  | commandLine
  deriving DecidableEq

/-- The values of a parameter. -/
structure Found where
  source : Source
  values : List ArgumentValue
  deriving DecidableEq

/-- The parameters that were given. -/
abbrev Findings := List (String × Found)

/-- The values of a parameter, if it was given. -/
def Findings.lookup? (name : String) (findings : Findings) : Option Found :=
  (findings.find? (·.1 = name)).map (·.2)

/-- Put values in the place of those that a parameter had. -/
def Findings.put (name : String) (found : Found) (findings : Findings) : Findings :=
  findings.filter (·.1 ≠ name) ++ [(name, found)]

/-- A command that a command line names, and what it gives to it. -/
structure Level where
  command : String
  findings : Findings

/-- How far a command has been read: what was found, the parameter whose texts are still to be looked at, the
number of positions that are full, whether only positions may follow, and whether an option waits for its
value. -/
structure Reading where
  findings : Findings
  pending : Option (Parameter × List String)
  position : Nat
  trailing : Bool
  expecting : Bool

def Reading.start : Reading := ⟨[], none, 0, false, false⟩

/-- The parts of a text between separators. -/
def splitAt (separator : Char) : List Char → List (List Char)
  | [] => [[]]
  | c :: rest =>
    if c = separator then [] :: splitAt separator rest
    else
      match splitAt separator rest with
      | part :: parts => (c :: part) :: parts
      | [] => [[c]]

/-- The texts that a parameter's text stands for. -/
def Parameter.parts (parameter : Parameter) (text : String) : List String :=
  match parameter.separator with
  | some separator => (splitAt separator text.toList).map String.ofList
  | none => [text]

namespace Reading

/-- Give texts to a parameter that takes values. -/
def give (source : Source) (parameter : Parameter) (texts : List String) (reading : Reading) :
    Except UsageError Reading := do
  if texts.isEmpty then throw .invalidValue
  let earlier := reading.findings.lookup? parameter.name
  if earlier.isSome && parameter.arity = .once then throw .argumentConflict
  let values ← (texts.flatMap parameter.parts).mapM parameter.kind.read
  let earlier := (earlier.map (·.values)).getD []
  return { reading with findings := reading.findings.put parameter.name ⟨source, earlier ++ values⟩ }

/-- Look at the texts that were put off. -/
def settle (reading : Reading) : Except UsageError Reading :=
  match reading.pending with
  | none => .ok reading
  | some (parameter, texts) =>
    { reading with pending := none, expecting := false }.give .commandLine parameter texts

/-- Raise a flag or a count, or show help. A count stays at 255. -/
def raise (parameter : Parameter) (reading : Reading) : Except UsageError Reading := do
  let reading ← reading.settle
  let earlier := reading.findings.lookup? parameter.name
  match parameter.arity with
  | .help => throw .displayHelp
  | .count =>
    let count := match earlier with
      | some ⟨_, [.number count]⟩ => count
      | _ => 0
    return { reading with
      findings := reading.findings.put parameter.name ⟨.commandLine, [.number (min 255 (count + 1))]⟩ }
  | _ =>
    if earlier.isSome then throw .argumentConflict
    return { reading with findings := reading.findings.put parameter.name ⟨.commandLine, []⟩ }

end Reading

def Parameter.takesValue (parameter : Parameter) : Bool :=
  parameter.arity = .once || parameter.arity = .many

/-- Take in an option with the text that is attached to it. -/
def Reading.option (parameter : Parameter) (attached : Option String) (reading : Reading) :
    Except UsageError Reading := do
  if !parameter.takesValue then
    if attached.isSome then throw .tooManyValues
    reading.raise parameter
  else
    let reading ← reading.settle
    match attached with
    | some text => reading.give .commandLine parameter [text]
    | none => return { reading with pending := some (parameter, []), expecting := true }

namespace Grammar

/-- Take in a word with two dashes: the name of an option, and behind an equals sign its value. -/
def long (grammar : Grammar) (word : List Char) (reading : Reading) : Except UsageError Reading :=
  let (name, attached) := match splitEntry? (String.ofList word) with
    | some (name, value) => (name, some value)
    | none => (String.ofList word, none)
  match grammar.options.find? (·.name = name) with
  | some parameter => reading.option parameter attached
  | none => .error .unknownArgument

/-- Take in a word with one dash: letters of options without a value, and perhaps one with a value, which is the
rest of the word or the next one. -/
def short (grammar : Grammar) : List Char → Reading → Except UsageError Reading
  | [], reading => .ok reading
  | letter :: rest, reading =>
    match grammar.options.find? (·.short = some letter) with
    | none => .error .unknownArgument
    | some parameter =>
      if !parameter.takesValue then (reading.raise parameter).bind (grammar.short rest)
      else
        match rest with
        | [] => reading.option parameter none
        | '=' :: value => reading.option parameter (some (String.ofList value))
        | value => reading.option parameter (some (String.ofList value))

/-- The command of a name below another. -/
def command? (grammar : Grammar) (name : String) : Option Grammar :=
  grammar.commands.find? (·.name = name)

/-- The word names a command, or the help on commands. -/
def namesCommand (grammar : Grammar) (word : String) : Bool :=
  (grammar.command? word).isSome || (!grammar.commands.isEmpty && word = "help")

def positional (grammar : Grammar) (word : String) (reading : Reading) : Except UsageError Reading :=
  match grammar.positions[reading.position]? with
  | some parameter =>
    let more := parameter.arity = .many
    match reading.pending with
    | some (earlier, texts) =>
      if more ∧ earlier.name = parameter.name then
        .ok { reading with pending := some (parameter, texts ++ [word]) }
      else reading.settle.map (fill parameter)
    | none => .ok (fill parameter reading)
  | none =>
    if grammar.commands.isEmpty then .error .unknownArgument
    else if reading.trailing && grammar.namesCommand word then .error .unknownArgument
    else .error .invalidSubcommand
where
  /-- Begin the argument at the next position. -/
  fill (parameter : Parameter) (reading : Reading) : Reading :=
    { reading with
      pending := some (parameter, [word])
      position := reading.position + if parameter.arity = .many then 0 else 1 }

/-- The answer to a request for help on commands below each other. The help itself has none below it. -/
def help : Grammar → List String → UsageError
  | _, [] => .displayHelp
  | grammar, name :: rest =>
    match grammar.command? name with
    | some inner => inner.help rest
    | none =>
      if name = "help" ∧ !grammar.commands.isEmpty ∧ rest.isEmpty then .displayHelp
      else .invalidSubcommand

/-- Let variables of the environment stand in for options that were not given. -/
def withVariables (grammar : Grammar) (environment : Environment) (reading : Reading) :
    Except UsageError Reading :=
  grammar.options.foldlM (fun reading parameter =>
    match parameter.fallback.bind (Environment.lookup? · environment) with
    | some text =>
      if (reading.findings.lookup? parameter.name).isSome then .ok reading
      else reading.give .environment parameter [text]
    | none => .ok reading) reading

/-- The end of a command behind which no other follows. -/
def finish (grammar : Grammar) (environment : Environment) (reading : Reading) :
    Except UsageError Level := do
  let reading ← reading.settle
  let reading ← grammar.withVariables environment reading
  let findings := reading.findings
  if !grammar.commands.isEmpty then
    throw (if findings.isEmpty then .nothingGiven else .missingSubcommand)
  if grammar.positions.any fun parameter =>
      parameter.arity = .once && (findings.lookup? parameter.name).isNone then
    throw .missingRequiredArgument
  return ⟨grammar.name, findings⟩

/-- Take in a word that names no command. -/
def word (grammar : Grammar) (word : String) (reading : Reading) : Except UsageError Reading :=
  if reading.trailing then grammar.positional word reading
  else
    match word.toList with
    | ['-', '-'] => .ok { reading with trailing := true }
    | '-' :: '-' :: rest => grammar.long rest reading
    | '-' :: letter :: rest => grammar.short (letter :: rest) reading
    | _ =>
      match reading.expecting, reading.pending with
      | true, some (parameter, _) =>
        .ok { reading with pending := some (parameter, [word]), expecting := false }
      | _, _ => grammar.positional word reading

/-- Read the words of a command behind those that have been read. The commands come from the outermost to the
innermost, and what is wrong further in counts before what was put off further out. -/
def readFrom (environment : Environment) (grammar : Grammar) (reading : Reading) :
    List String → Except UsageError (List Level)
  | [] => (grammar.finish environment reading).map fun level => [level]
  | word :: rest =>
    if !reading.trailing && !reading.expecting && grammar.namesCommand word then
      match grammar.command? word with
      | none => .error (grammar.help rest)
      | some inner => do
        let levels ← inner.readFrom environment .start rest
        let reading ← reading.settle
        let reading ← grammar.withVariables environment reading
        return ⟨grammar.name, reading.findings⟩ :: levels
    else do
      let reading ← grammar.word word reading
      grammar.readFrom environment reading rest

def read (grammar : Grammar) (environment : Environment) (words : List String) :
    Except UsageError (List Level) :=
  grammar.readFrom environment .start words

end Grammar

end ModelVault.CommandLine
