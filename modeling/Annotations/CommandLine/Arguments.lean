import Annotations.Text.Digit

/-!
Contract: the arguments of the command.

A subcommand comes first, then options and at most one directory, in any order.
Long options may be shortened as long as they are told apart, and take their
value after `=` or from the next argument. After `--` every argument is a
directory. Where an option is given twice the last one counts.

Owns:

- `Arguments` and `Arguments.parse`.
-/

namespace Annotations.CommandLine

inductive Subcommand where
  | check
  | symbols
deriving DecidableEq, Repr

inductive OutputFormat where
  | text
  | json
deriving DecidableEq, Repr

inductive Flag where
  | format
  | workers
  | verbose
  | suppressions
  | changes
  | exitZero
deriving DecidableEq, Repr

def Flag.takesValue : Flag → Bool
  | .format | .workers => true
  | _ => false

structure Arguments where
  directories : List String
  format : OutputFormat
  workers? : Option Int
  verbose : Bool
  suppressions : Bool
  changes : Bool
  exitZero : Bool
deriving DecidableEq, Repr

namespace Arguments

/-- What holds where no argument says otherwise. -/
def standard : Arguments :=
  { directories := []
    format := .text
    workers? := none
    verbose := false
    suppressions := false
    changes := false
    exitZero := false }

def directory (arguments : Arguments) : String :=
  arguments.directories.headD "."

end Arguments

def Subcommand.flags : Subcommand → List (String × Flag)
  | .symbols =>
      [("--format", .format), ("--workers", .workers), ("-v", .verbose), ("--verbose", .verbose)]
  | .check =>
      [("--format", .format), ("--workers", .workers), ("-v", .verbose), ("--verbose", .verbose),
        ("--suppressions", .suppressions), ("--changes", .changes), ("--exit-zero", .exitZero)]

structure UsageError where
deriving DecidableEq, Repr

inductive ArgumentForm where
  | positional
  /-- An option under its short or long name, with the text joined to it. -/
  | option (flag : Flag) (isLong : Bool) (joined : Option String)
  | unknown
deriving DecidableEq, Repr

/-- A minus sign and a number, which is no option. -/
def isNegativeNumber (argument : List Char) : Bool :=
  match argument with
  | '-' :: digits =>
      let number := if digits.getLast? = some '\n' then digits.dropLast else digits
      let isDigit (c : Char) : Bool := (Text.digitValue? c).isSome
      let whole := number.takeWhile isDigit
      match number.drop whole.length with
      | [] => !whole.isEmpty
      | '.' :: fraction => !fraction.isEmpty && fraction.all isDigit
      | _ => false
  | _ => false

/-- The part of an argument before its first equals sign, and the part after it, if it has one. -/
def splitAtEquals (argument : List Char) : List Char × Option String :=
  let name := argument.takeWhile (· != '=')
  match argument.drop name.length with
  | _ :: value => (name, some (String.ofList value))
  | [] => (name, none)

/-- The options that an argument may be short for. -/
def candidates (flags : List (String × Flag)) (argument : List Char) : List ArgumentForm :=
  match argument with
  | '-' :: '-' :: _ =>
      let (name, value?) := splitAtEquals argument
      (flags.filter fun entry => name.isPrefixOf entry.1.toList).map fun entry =>
        .option entry.2 true value?
  | '-' :: letter :: rest =>
      (flags.filter fun entry => entry.1.toList = ['-', letter]).map fun entry =>
        .option entry.2 false (some (String.ofList rest))
  | _ => []

/-- The form of an argument before `--`. -/
def formOf (flags : List (String × Flag)) (argument : String) : ArgumentForm :=
  let characters := argument.toList
  if characters.head? ≠ some '-' then .positional
  else
    match flags.lookup argument with
    | some flag => .option flag (['-', '-'].isPrefixOf characters) none
    | none =>
        if characters = ['-'] then .positional
        else
          let (name, value?) := splitAtEquals characters
          match value?, flags.lookup (String.ofList name) with
          | some value, some flag => .option flag (['-', '-'].isPrefixOf characters) (some value)
          | _, _ =>
              match candidates flags characters with
              | [form] => form
              | _ :: _ => .unknown
              | [] =>
                  if isNegativeNumber characters || characters.contains ' ' then .positional
                  else .unknown

namespace Arguments

def setFlag (arguments : Arguments) : Flag → Arguments
  | .verbose => { arguments with verbose := true }
  | .suppressions => { arguments with suppressions := true }
  | .changes => { arguments with changes := true }
  | .exitZero => { arguments with exitZero := true }
  | _ => arguments

def setValue (arguments : Arguments) (flag : Flag) (value : String) :
    Except UsageError Arguments :=
  match flag with
  | .format =>
      match value with
      | "text" => .ok { arguments with format := .text }
      | "json" => .ok { arguments with format := .json }
      | _ => .error ⟨⟩
  | .workers =>
      match Text.readInteger? value.toList with
      | some workers => .ok { arguments with workers? := some workers }
      | none => .error ⟨⟩
  | _ => .error ⟨⟩

/-- Set the short options that further letters of an argument name. None of them takes a value. -/
def setLetters (flags : List (String × Flag)) (arguments : Arguments) :
    List Char → Except UsageError Arguments
  | [] => .ok arguments
  | letter :: rest =>
      match flags.lookup (String.ofList ['-', letter]) with
      | some flag => setLetters flags (arguments.setFlag flag) rest
      | none => .error ⟨⟩

/-- Set an option that takes no value; letters joined to a short one name further options. -/
def setSwitch (flags : List (String × Flag)) (arguments : Arguments) (flag : Flag) (isLong : Bool)
    (joined : Option String) : Except UsageError Arguments :=
  match joined with
  | none => .ok (arguments.setFlag flag)
  | some letters =>
      if isLong || letters = "" then .error ⟨⟩
      else setLetters flags (arguments.setFlag flag) letters.toList

/-- Read the arguments after the subcommand.

`afterDirectory` says that the argument before them is a directory: a closing `--` stands for the
directory or directly after it, and is left over once an option has come between the two. -/
def read (flags : List (String × Flag)) (afterDirectory : Bool) (arguments : Arguments) :
    List String → Except UsageError Arguments
  | [] => .ok arguments
  | argument :: rest =>
      if argument = "--" then
        if rest.isEmpty && !arguments.directories.isEmpty && !afterDirectory then .error ⟨⟩
        else .ok { arguments with directories := arguments.directories ++ rest }
      else
        match formOf flags argument with
        | .positional =>
            read flags true
              { arguments with directories := arguments.directories ++ [argument] } rest
        | .unknown => .error ⟨⟩
        | .option flag isLong joined =>
            if flag.takesValue then
              match joined, rest with
              | some value, rest => (arguments.setValue flag value).bind (read flags false · rest)
              | none, value :: rest =>
                  if value ≠ "--" ∧ formOf flags value = .positional then
                    (arguments.setValue flag value).bind (read flags false · rest)
                  else .error ⟨⟩
              | none, [] => .error ⟨⟩
            else (setSwitch flags arguments flag isLong joined).bind (read flags false · rest)

def parse (arguments : List String) : Except UsageError (Subcommand × Arguments) := do
  let (subcommand, rest) ←
    match arguments with
    | "check" :: rest => .ok (Subcommand.check, rest)
    | "symbols" :: rest => .ok (Subcommand.symbols, rest)
    | _ => .error ⟨⟩
  let found ← read subcommand.flags false standard rest
  if found.directories.length ≤ 1 then .ok (subcommand, found) else .error ⟨⟩

end Arguments

end Annotations.CommandLine
