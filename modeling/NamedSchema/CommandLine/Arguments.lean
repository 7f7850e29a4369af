import NamedSchema.CommandLine.LogLevel
import NamedSchema.Output.Format
import NamedSchema.Validation.Config

/-!
# Command line arguments

Reads the arguments of a command. Flags and options may stand in any order among the documents, short
ones may be joined, and after two hyphens only documents follow. The value of an option is either
joined to it or the next argument, and is looked at when the next thing is read. What is not given
is taken from the environment.
-/
namespace NamedSchema.CommandLine

inductive UsageError where
  | helpAsked
  | versionAsked
  | nothingGiven
  | noCommand
  | unknownCommand
  | unknownArgument
  | missingArgument
  /-- A value that is missing, empty, or none of those allowed. -/
  | badValue
  /-- A value that is no number. -/
  | badNumber
  /-- A value for a flag. -/
  | surplusValue
  | repeated
  deriving DecidableEq, Repr

/-- What takes no value. -/
inductive Flag where
  | verbose
  | quiet
  | allErrors
  | help
  | version
  deriving DecidableEq, Repr

/-- What takes values. -/
inductive Parameter where
  | schema
  | format
  | maxDepth
  | documents
  deriving DecidableEq, Repr

inductive Switch where
  | flag (flag : Flag)
  | parameter (parameter : Parameter)
  deriving DecidableEq, Repr

/-- Whose arguments are read: those of the program, or of one of its commands. -/
inductive Level where
  | program
  | validate
  | check
  deriving DecidableEq, Repr

inductive Spelling where
  | short (letter : Char)
  | long (word : String)
  deriving DecidableEq, Repr

namespace Level

def command? : String → Option Level
  | "validate" => some validate
  | "check" => some check
  | _ => none

def switches : Level → List (Option Char × String × Switch)
  | program => [(some 'v', "verbose", .flag .verbose), (some 'q', "quiet", .flag .quiet),
      (some 'h', "help", .flag .help), (some 'V', "version", .flag .version)]
  | check => [(some 's', "schema", .parameter .schema), (none, "format", .parameter .format),
      (some 'v', "verbose", .flag .verbose), (some 'q', "quiet", .flag .quiet),
      (some 'h', "help", .flag .help)]
  | validate => [(some 's', "schema", .parameter .schema), (none, "format", .parameter .format),
      (none, "all-errors", .flag .allErrors), (none, "max-depth", .parameter .maxDepth),
      (some 'v', "verbose", .flag .verbose), (some 'q', "quiet", .flag .quiet),
      (some 'h', "help", .flag .help)]

def switch? (level : Level) (spelling : Spelling) : Option Switch :=
  (level.switches.find? fun (letter, word, _) =>
    match spelling with
    | .short c => letter = some c
    | .long w => w = word).map fun (_, _, switch) => switch

def takesDocuments : Level → Bool
  | validate => true
  | _ => false

end Level

structure Environment where
  schema : Option String
  format : Option String
  maxDepth : Option String
  deriving DecidableEq, Repr

structure Draft where
  verbosity : Nat
  quiet : Bool
  allErrors : Bool
  schema : Option String
  format : Option Output.Format
  maxDepth : Option Nat
  documents : List String
  /-- The parameter read last, with values that are yet to be looked at. -/
  pending : Option (Parameter × List String)
  deriving DecidableEq, Repr

namespace Draft

def empty : Draft := ⟨0, false, false, none, none, none, [], none⟩

/-- A number that fits into 64 bits, with an optional plus sign. -/
def number? (s : String) : Option Nat :=
  let digits := match s.toList with
    | '+' :: rest => rest
    | cs => cs
  if digits.isEmpty || !digits.all Char.isDigit then none
  else
    some (digits.foldl (fun n d => n * 10 + (d.toNat - 48)) 0) |>.filter (· < Nat.pow 2 64)

/-- Takes the value of a parameter. -/
def store (d : Draft) (parameter : Parameter) (value : String) : Except UsageError Draft :=
  match parameter with
  | .schema =>
    if d.schema.isSome then .error .repeated
    else if value = "" then .error .badValue
    else .ok { d with schema := some value }
  | .format =>
    if d.format.isSome then .error .repeated
    else
      match Output.Format.ofName? value with
      | some f => .ok { d with format := some f }
      | none => .error .badValue
  | .maxDepth =>
    if d.maxDepth.isSome then .error .repeated
    else
      match number? value with
      | some n => .ok { d with maxDepth := some n }
      | none => .error .badNumber
  | .documents =>
    if value = "" then .error .badValue else .ok { d with documents := d.documents ++ [value] }

def settle (d : Draft) : Except UsageError Draft :=
  match d.pending with
  | none => .ok d
  | some (_, []) => .error .badValue
  | some (parameter, values) => values.foldlM (·.store parameter ·) { d with pending := none }

def isAwaiting (d : Draft) : Bool := d.pending.any (·.2.isEmpty)

/-- A parameter whose value is the next argument. -/
def await (d : Draft) (parameter : Parameter) : Except UsageError Draft := do
  return { ← d.settle with pending := some (parameter, []) }

/-- A parameter with the value that is joined to it. -/
def give (d : Draft) (parameter : Parameter) (value : String) : Except UsageError Draft := do
  (← d.settle).store parameter value

def raise (d : Draft) (flag : Flag) : Except UsageError Draft := do
  let d ← d.settle
  match flag with
  | .verbose => return { d with verbosity := d.verbosity + 1 }
  | .quiet => if d.quiet then .error .repeated else return { d with quiet := true }
  | .allErrors => if d.allErrors then .error .repeated else return { d with allErrors := true }
  | .help => .error .helpAsked
  | .version => .error .versionAsked

/-! ## Switches -/

def readLong (level : Level) (d : Draft) (word : String) (value : Option String) :
    Except UsageError Draft :=
  match level.switch? (.long word), value with
  | none, _ => .error .unknownArgument
  | some (.flag flag), none => d.raise flag
  | some (.flag _), some _ => .error .surplusValue
  | some (.parameter p), none => d.await p
  | some (.parameter p), some value => d.give p value

def readShort (level : Level) : List Char → Draft → Except UsageError Draft
  | [], d => .ok d
  | c :: rest, d =>
    match level.switch? (.short c) with
    | none => .error .unknownArgument
    | some (.flag flag) => do readShort level rest (← d.raise flag)
    | some (.parameter p) =>
      match rest with
      | [] => d.await p
      | '=' :: value => d.give p (String.ofList value)
      | value => d.give p (String.ofList value)

def readSwitch? (level : Level) (d : Draft) (argument : String) :
    Option (Except UsageError Draft) :=
  match argument.toList with
  | '-' :: '-' :: rest =>
    let word := rest.takeWhile (· ≠ '=')
    let value := (rest.drop word.length).drop 1
    some (d.readLong level (String.ofList word)
      (if rest.contains '=' then some (String.ofList value) else none))
  | '-' :: c :: rest => some (readShort level (c :: rest) d)
  | _ => none

/-! ## The arguments of a command -/

def addDocument (d : Draft) (argument : String) : Except UsageError Draft :=
  match d.pending with
  | some (.documents, values) =>
    .ok { d with pending := some (.documents, values ++ [argument]) }
  | _ => do return { ← d.settle with pending := some (.documents, [argument]) }

/-- Reads the arguments of a command; behind two hyphens all are documents. -/
def readArguments (level : Level) : (onlyDocuments : Bool) → List String → Draft →
    Except UsageError Draft
  | _, [], d => d.settle
  | onlyDocuments, argument :: rest, d => do
    if !onlyDocuments && argument = "--" then readArguments level true rest d
    else
      match if onlyDocuments then none else d.readSwitch? level argument with
      | some result => readArguments level onlyDocuments rest (← result)
      | none =>
        if !onlyDocuments && d.isAwaiting then
          readArguments level onlyDocuments rest
            { d with pending := d.pending.map fun (p, _) => (p, [argument]) }
        else if level.takesDocuments then
          readArguments level onlyDocuments rest (← d.addDocument argument)
        else .error .unknownArgument

/-- Takes from the environment what is not given. -/
def complete (level : Level) (e : Environment) (d : Draft) : Except UsageError Draft := do
  let orElse (d : Draft) (given : Bool) (p : Parameter) (value : Option String) :=
    match value with
    | some value => if given then .ok d else d.store p value
    | none => .ok d
  let d ← orElse d d.schema.isSome .schema e.schema
  let d ← orElse d d.format.isSome .format e.format
  if level = .validate then orElse d d.maxDepth.isSome .maxDepth e.maxDepth else return d

end Draft

/-! ## Invocations -/

inductive Command where
  | validate (schema : String) (documents : List String) (format : Output.Format)
      (allErrors : Bool) (maxDepth : Nat)
  | check (schema : String) (format : Output.Format)
  deriving DecidableEq, Repr

structure Invocation where
  verbosity : Nat
  quiet : Bool
  command : Command
  deriving DecidableEq, Repr

namespace Invocation

def ofCommand (level : Level) (e : Environment) (outer : Draft) (arguments : List String) :
    Except UsageError Invocation := do
  let d ← Draft.readArguments level false arguments .empty
  let d ← d.complete level e
  let some schema := d.schema | .error .missingArgument
  if level.takesDocuments && d.documents.isEmpty then .error .missingArgument
  else
    let format := d.format.getD .table
    let command := match level with
      | .validate =>
        Command.validate schema d.documents format d.allErrors
          (d.maxDepth.getD ValidatorConfig.standard.maxDepth)
      | _ => .check schema format
    return ⟨if d.verbosity = 0 then outer.verbosity else d.verbosity, outer.quiet || d.quiet,
      command⟩

/-- The names behind `help` have to be those of one command. -/
def help (names : List String) : UsageError :=
  match names with
  | [] => .helpAsked
  | [name] =>
    if name = "help" || (Level.command? name).isSome then .helpAsked else .unknownCommand
  | _ => .unknownCommand

/-- Reads the arguments of the program up to the name of a command. -/
def readFrom (e : Environment) (arguments : List String) : (bare : Bool) → (d : Draft) →
    Except UsageError Invocation :=
  match arguments with
  | [] => fun bare _ => .error (if bare then .nothingGiven else .noCommand)
  | argument :: rest => fun bare d =>
    if argument = "help" then .error (help rest)
    else if argument = "--" then
      match rest with
      | [] => .error (if bare then .nothingGiven else .noCommand)
      | next :: _ =>
        if next = "help" || (Level.command? next).isSome then .error .unknownArgument
        else .error .unknownCommand
    else
      match Level.command? argument with
      | some level => ofCommand level e d rest
      | none =>
        match d.readSwitch? .program argument with
        | some (.ok d) => readFrom e rest false d
        | some (.error error) => .error error
        | none => .error .unknownCommand

def ofArguments (e : Environment) (arguments : List String) : Except UsageError Invocation :=
  readFrom e arguments true .empty

def logLevel (i : Invocation) : LogLevel := LogLevel.ofFlags i.verbosity i.quiet

def paths (i : Invocation) : List String :=
  match i.command with
  | .validate schema documents .. => schema :: documents
  | .check schema _ => [schema]

end Invocation

end NamedSchema.CommandLine
