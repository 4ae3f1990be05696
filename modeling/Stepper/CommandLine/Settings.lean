import Stepper.CommandLine.Option
import Stepper.Files.Path
import Stepper.Numeral.Strict

/-! The settings that a command line makes: one file at most, and the options in any order around it. -/

namespace Stepper.CommandLine

/-- What an option set. One that has a separator for its value is blank. -/
inductive Setting (α : Type) where
  | unset
  | blank
  | value (a : α)
  deriving DecidableEq, Repr

namespace Setting

variable {α : Type}

def value? : Setting α → Option α
  | value a => some a
  | _ => none

def isBlank : Setting α → Bool
  | blank => true
  | _ => false

end Setting

structure Settings where
  file : Option Text
  pcStart : Setting Nat
  pcEnd : Setting Nat
  spStart : Setting Nat
  config : Setting Path
  snapshot : Option Text
  listInstructions : Bool
  verbose : Bool
  deriving DecidableEq, Repr

/-- The reading ends early for help or for an error. -/
inductive Stop where
  | help
  | usage (error : UsageError)
  deriving DecidableEq, Repr

/-- What was read so far. The place of the file can be taken by nothing, too. -/
structure Progress where
  settings : Settings
  fileTaken : Bool
  extras : List Text
  deriving DecidableEq, Repr

namespace Progress

def initial : Progress :=
  ⟨⟨none, .unset, .unset, .unset, .unset, none, false, false⟩, false, []⟩

def extra (p : Progress) (t : Text) : Progress :=
  { p with extras := p.extras ++ [t] }

def takeFile (p : Progress) (file : Option Text) : Progress :=
  { p with settings := { p.settings with file := file }, fileTaken := true }

def address (flag : Flag) : Option Text → Except Stop (Setting Nat)
  | none => .ok .blank
  | some t =>
    match Numeral.readAddress t with
    | .ok n => .ok (.value n)
    | .error _ => .error (.usage (.notAddress flag t))

/-- Makes the setting of an option with its value; without one, an export goes under the usual name. -/
def apply (p : Progress) (flag : Flag) (value : Option Text) : Except Stop Progress := do
  let set := fun s : Settings => { p with settings := s }
  match flag with
  | .help => throw .help
  | .pcStart => pure (set { p.settings with pcStart := ← address flag value })
  | .pcEnd => pure (set { p.settings with pcEnd := ← address flag value })
  | .spStart => pure (set { p.settings with spStart := ← address flag value })
  | .config => pure (set { p.settings with config := (value.map fun t => .value (Path.ofText t)).getD .blank })
  | .snapshot => pure (set { p.settings with snapshot := some (value.getD []) })
  | .listInstructions => pure (set { p.settings with listInstructions := true })
  | .verbose => pure (set { p.settings with verbose := true })

def applyAll (p : Progress) (flags : List Flag) : Except Stop Progress :=
  flags.foldlM (fun p flag => p.apply flag none) p

/-- The short options that are run together, from `flag` on. The first character that is none is refused as a
value of the option in front of it, with all that follows. -/
def bundle (flag : Flag) : Text → Except UsageError (List Flag)
  | [] => .ok [flag]
  | c :: rest =>
    match spellings.lookup ['-', c] with
    | none => .error (.ignoredValue flag (c :: rest))
    | some next => do
      let flags ← bundle next rest
      pure (flag :: flags)

/-- An option with a value attached to it. A separator is no value. -/
def applyAttached (p : Progress) (flag : Flag) (isShort : Bool) (value : Text) : Except Stop Progress := do
  match flag.arity with
  | .none =>
    if isShort && !value.isEmpty then
      let flags ← (bundle flag value).mapError .usage
      p.applyAll flags
    else throw (.usage (.ignoredValue flag value))
  | _ => p.apply flag (if value = separator then none else some value)

/-- Goes through the arguments. The first word is the file, with a separator on either side of it; what has
no place is kept as an extra. -/
def readAll (p : Progress) : List Argument → Except Stop Progress
  | [] => .ok p
  | .unknownOption t :: rest => (p.extra t).readAll rest
  | .option flag isShort (some a) :: rest => do
    let p' ← p.applyAttached flag isShort a
    p'.readAll rest
  | .option flag _ none :: .word value :: rest =>
    if flag.arity = .none then do
      let p' ← p.apply flag none
      p'.readAll (.word value :: rest)
    else do
      let p' ← p.apply flag (some value)
      p'.readAll rest
  | .option flag _ none :: rest =>
    if flag.arity = .one then .error (.usage (.missingValue flag))
    else do
      let p' ← p.apply flag none
      p'.readAll rest
  | .separator :: .word t :: rest =>
    if p.fileTaken then ((p.extra separator).extra t).readAll rest else (p.takeFile (some t)).readAll rest
  | .separator :: rest => if p.fileTaken then (p.extra separator).readAll rest else p.readAll rest
  | .word t :: .separator :: rest =>
    if p.fileTaken then (p.extra t).readAll (.separator :: rest) else (p.takeFile (some t)).readAll rest
  | .word t :: rest => if p.fileTaken then (p.extra t).readAll rest else (p.takeFile (some t)).readAll rest
termination_by arguments => arguments.length

end Progress

def Settings.read (arguments : List Text) : Except Stop Settings := do
  let as ← (readArguments arguments).mapError .usage
  let p ← Progress.initial.readAll as
  if p.extras.isEmpty then pure p.settings else throw (.usage (.unrecognized p.extras))

end Stepper.CommandLine
