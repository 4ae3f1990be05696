import Stepper.Text.Quoted

/-! Options of the command line and how one is recognised. A long option may be cut short as long as only one
begins that way, and may carry a value behind an equals sign; short options may be run together. -/

namespace Stepper.CommandLine

inductive Flag where
  | help
  | pcStart
  | pcEnd
  | spStart
  | config
  | snapshot
  | listInstructions
  | verbose
  deriving DecidableEq, Repr

inductive Arity where
  | none
  | one
  | optional
  deriving DecidableEq, Repr

def Flag.arity : Flag → Arity
  | help => .none
  | pcStart => .one
  | pcEnd => .one
  | spStart => .one
  | config => .one
  | snapshot => .optional
  | listInstructions => .none
  | verbose => .none

/-- How a message names an option: by all of its spellings. -/
def Flag.title : Flag → Text
  | help => "-h/--help"
  | pcStart => "--pc-start"
  | pcEnd => "--pc-end"
  | spStart => "--sp-start"
  | config => "--config"
  | snapshot => "--export"
  | listInstructions => "--list-instructions"
  | verbose => "-v/--verbose"

def spellings : List (Text × Flag) := [
  ("-h", .help), ("--help", .help), ("--pc-start", .pcStart), ("--pc-end", .pcEnd),
  ("--sp-start", .spStart), ("--config", .config), ("--export", .snapshot),
  ("--list-instructions", .listInstructions), ("-v", .verbose), ("--verbose", .verbose)]

inductive UsageError where
  | ambiguous (argument : Text) (candidates : List Text)
  | ignoredValue (flag : Flag) (value : Text)
  | missingValue (flag : Flag)
  | notAddress (flag : Flag) (value : Text)
  | unrecognized (arguments : List Text)
  deriving DecidableEq, Repr

def UsageError.message : UsageError → Text
  | ambiguous argument candidates =>
    "ambiguous option: " ++ argument ++ " could match " ++ Text.join ", " candidates
  | ignoredValue flag value =>
    "argument " ++ flag.title ++ ": ignored explicit argument " ++ Text.quote value
  | missingValue flag => "argument " ++ flag.title ++ ": expected one argument"
  | notAddress flag value =>
    "argument " ++ flag.title ++ ": not a non-negative decimal or hex address: " ++ Text.quote value
  | unrecognized arguments => "unrecognized arguments: " ++ Text.join " " arguments

/-- An option may bring a value in the same argument. -/
inductive Argument where
  | word (text : Text)
  | separator
  | option (flag : Flag) (isShort : Bool) (attached : Option Text)
  | unknownOption (text : Text)
  deriving DecidableEq, Repr

/-- What stands before the first equals sign, and what stands behind it if there is one. -/
def splitEquals (t : Text) : Text × Option Text :=
  match t.dropWhile (· != '=') with
  | [] => (t, none)
  | _ :: value => (t.takeWhile (· != '='), some value)

def isLong (t : Text) : Bool :=
  "--".toList.isPrefixOf t

/-- A minus and digits, with an optional decimal point in front of the last of them. A line feed may end
it. -/
def looksNegative : Text → Bool
  | '-' :: rest =>
    let body := if rest.getLast? = some '\n' then rest.dropLast else rest
    let isWhole := fun t : Text => !t.isEmpty && t.all Unicode.isDigit
    isWhole body ||
      match body.dropWhile Unicode.isDigit with
      | '.' :: fraction => isWhole fraction
      | _ => false
  | _ => false

/-- The ways to read an argument as an option that is cut short or run together with a value. -/
def candidates (t : Text) : List (Text × Argument) :=
  if isLong t then
    let (start, value) := splitEquals t
    (spellings.filter fun s => start.isPrefixOf s.1).map fun s =>
      (s.1, .option s.2 false value)
  else
    spellings.filterMap fun s =>
      if s.1 = t.take 2 then some (s.1, .option s.2 true (some (t.drop 2)))
      else if t.isPrefixOf s.1 then some (s.1, .option s.2 false none)
      else none

/-- An argument before any separator. -/
def Argument.read (t : Text) : Except UsageError Argument :=
  match t with
  | '-' :: _ :: _ =>
    match spellings.lookup t with
    | some flag => .ok (.option flag (!isLong t) none)
    | none =>
      let (start, value) := splitEquals t
      match value, spellings.lookup start with
      | some v, some flag => .ok (.option flag (!isLong start) (some v))
      | _, _ =>
        match candidates t with
        | [c] => .ok c.2
        | [] =>
          if looksNegative t || t.contains ' ' then .ok (.word t) else .ok (.unknownOption t)
        | cs => .error (.ambiguous t (cs.map (·.1)))
  | _ => .ok (.word t)

def separator : Text := "--"

/-- All arguments; behind a separator every one is a word. -/
def readArguments : List Text → Except UsageError (List Argument)
  | [] => .ok []
  | t :: rest =>
    if t = separator then .ok (.separator :: rest.map .word)
    else do
      let a ← Argument.read t
      let as ← readArguments rest
      pure (a :: as)

end Stepper.CommandLine
