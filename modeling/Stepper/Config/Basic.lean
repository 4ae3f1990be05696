import Stepper.Files.Path
import Stepper.Json.Basic
import Stepper.Numeral.Strict
import Stepper.Session.Basic

/-! The configuration: addresses for the next load, sizes of the panels, the name for exports and the file that
was loaded last. It is decoded from a JSON object, in which every member may be missing, and encoded as one
with all of them. -/

namespace Stepper

inductive ConfigError where
  | notObject
  | unknownKeys (keys : List Text)
  | notAddress (key : Text)
  | malformedAddress (key text : Text)
  | negativeAddress (key : Text)
  | notInteger (key : Text)
  | tooSmall (key : Text) (minimum : Int)
  | exportName
  | lastFile
  | notFound (path : Text)
  | invalidJson (path : Text) (cause : JsonError)
  | unreadable (cause : FileError)
  | unwritable (cause : FileError)
  deriving DecidableEq, Repr

def ConfigError.message : ConfigError → Text
  | notObject => "Config must be a JSON object."
  | unknownKeys keys => "Unknown config keys: " ++ Text.join ", " keys
  | notAddress key => key ++ " must be an integer or a hex string."
  | malformedAddress key text => key ++ " is not a valid address: " ++ Text.quote text
  | negativeAddress key => key ++ " must not be negative."
  | notInteger key => key ++ " must be an integer."
  | tooSmall key minimum => key ++ " must be at least " ++ Numeral.decimal minimum ++ "."
  | exportName => "export_name must be a non-empty string."
  | lastFile => "last_file must be a string or null."
  | notFound path => "Config not found: " ++ path
  | invalidJson path cause => "Invalid JSON in " ++ path ++ ": " ++ cause.message
  | unreadable cause => "Failed to read config: " ++ cause.message
  | unwritable cause => "Failed to write config: " ++ cause.message

structure Config where
  pcStart : Int
  pcEnd : Int
  spStart : Int
  codeLines : Int
  lookBehind : Int
  stackLines : Int
  inputCapacity : Int
  exportName : Text
  lastFile : Option Text
  deriving DecidableEq, Repr

namespace Config

def standard : Config :=
  ⟨0x4000, 0x7FFF, 0xFF00, 20, 5, 20, 20, "web_export.html", none⟩

def withLoad (c : Config) (r : LoadRequest) : Config :=
  { c with lastFile := some r.path, pcStart := r.pcStart, pcEnd := r.pcEnd, spStart := r.spStart }

/-- The load that the configuration proposes for a path. -/
def requestFor (c : Config) (path : Text) : LoadRequest :=
  ⟨path, c.pcStart, c.pcEnd, c.spStart⟩

def layout (c : Config) : Layout :=
  ⟨c.codeLines, c.lookBehind, c.stackLines, c.inputCapacity.toNat, c.exportName⟩

def keys : List Text := [
  "pc_start", "pc_end", "sp_start", "code_lines", "code_look_behind", "stack_lines", "input_capacity",
  "export_name", "last_file"]

/-! ### Decoding -/

abbrev Members := List (Text × JsonValue)

def unknownKeys (members : Members) : List Text :=
  ((members.map (·.1)).filter (!keys.contains ·)).mergeSort fun a b => !(b < a)

def addressOf (key : Text) : JsonValue → Except ConfigError Int
  | .int n => if n < 0 then .error (.negativeAddress key) else .ok n
  | .str t =>
    match Numeral.readStrict t with
    | .error _ => .error (.malformedAddress key t)
    | .ok n => if n < 0 then .error (.negativeAddress key) else .ok n
  | _ => .error (.notAddress key)

def countOf (minimum : Int) (key : Text) : JsonValue → Except ConfigError Int
  | .int n => if n < minimum then .error (.tooSmall key minimum) else .ok n
  | _ => .error (.notInteger key)

def exportNameOf (_key : Text) : JsonValue → Except ConfigError Text
  | .str t => if (Text.trim t).isEmpty then .error .exportName else .ok (Text.trim t)
  | _ => .error .exportName

def lastFileOf (_key : Text) : JsonValue → Except ConfigError (Option Text)
  | .null => .ok none
  | .str t => .ok (some t)
  | _ => .error .lastFile

/-- A member, or the standard value if it is missing. -/
def memberOr {α : Type} (members : Members) (key : Text) (decode : Text → JsonValue → Except ConfigError α)
    (other : α) : Except ConfigError α :=
  match members.lookup key with
  | some j => decode key j
  | none => .ok other

def ofMembers (members : Members) : Except ConfigError Config := do
  let unknown := unknownKeys members
  if !unknown.isEmpty then throw (.unknownKeys unknown)
  let pcStart ← memberOr members "pc_start" addressOf standard.pcStart
  let pcEnd ← memberOr members "pc_end" addressOf standard.pcEnd
  let spStart ← memberOr members "sp_start" addressOf standard.spStart
  let codeLines ← memberOr members "code_lines" (countOf 1) standard.codeLines
  let lookBehind ← memberOr members "code_look_behind" (countOf 0) standard.lookBehind
  let stackLines ← memberOr members "stack_lines" (countOf 1) standard.stackLines
  let inputCapacity ← memberOr members "input_capacity" (countOf 1) standard.inputCapacity
  let exportName ← memberOr members "export_name" exportNameOf standard.exportName
  let lastFile ← memberOr members "last_file" lastFileOf standard.lastFile
  pure ⟨pcStart, pcEnd, spStart, codeLines, lookBehind, stackLines, inputCapacity, exportName, lastFile⟩

def decode : JsonValue → Except ConfigError Config
  | .obj members => ofMembers members
  | _ => .error .notObject

/-! ### Encoding -/

def writtenAddress (v : Int) : JsonValue :=
  .str ("0x" ++ Numeral.hexUpper v)

def members (c : Config) : Members := [
  ("pc_start", writtenAddress c.pcStart),
  ("pc_end", writtenAddress c.pcEnd),
  ("sp_start", writtenAddress c.spStart),
  ("code_lines", .int c.codeLines),
  ("code_look_behind", .int c.lookBehind),
  ("stack_lines", .int c.stackLines),
  ("input_capacity", .int c.inputCapacity),
  ("export_name", .str c.exportName),
  ("last_file", (c.lastFile.map JsonValue.str).getD .null)]

def encode (c : Config) : JsonValue :=
  .obj c.members

/-- The text of the encoding, as far as its counts can be written, and whether that is all. -/
def write (c : Config) : Text × Except Numeral.DigitError Unit :=
  Json.writeFlat c.members

end Config

end Stepper
