import Stepper.Config.Basic
import Stepper.Desktop.Toolkit

/-! The dialog that asks for a program: a path and three addresses, filled in from the configuration. What is
entered makes a request, or a warning about the first entry that is no good. -/

namespace Stepper.Desktop

inductive AddressEntry where
  | pcStart
  | pcEnd
  | spStart
  deriving DecidableEq, Repr

def AddressEntry.label : AddressEntry → Text
  | pcStart => "Starting PC"
  | pcEnd => "Ending PC"
  | spStart => "Starting SP"

inductive Warning where
  | missingFile
  | invalidAddress (entry : AddressEntry)
  | exportFailed (message : Text)
  deriving DecidableEq, Repr

def Warning.title : Warning → Text
  | missingFile => "Missing File"
  | invalidAddress _ => "Invalid Address"
  | exportFailed _ => "Export Failed"

def Warning.message : Warning → Text
  | missingFile => "Choose a listing to load."
  | invalidAddress entry => entry.label ++ " must be a non-negative decimal or hex number."
  | exportFailed message => message

/-- The four entries. -/
structure Dialog (T : Toolkit) where
  path : T.Entry
  pcStart : T.Entry
  pcEnd : T.Entry
  spStart : T.Entry

/-- What the user does: maybe picks a file, types over some of the entries, and accepts or cancels. An empty
pick changes nothing. -/
structure DialogInput where
  pick : Option Text
  path : Option Text
  pcStart : Option Text
  pcEnd : Option Text
  spStart : Option Text
  accepts : Bool
  deriving DecidableEq, Repr

def DialogInput.cancel : DialogInput :=
  ⟨none, none, none, none, none, false⟩

namespace Dialog

variable {T : Toolkit}

def addressText (v : Int) : Text :=
  "0x" ++ Numeral.hexUpper v

def ofConfig (T : Toolkit) (c : Config) : Dialog T :=
  ⟨T.entry (c.lastFile.getD []), T.entry (addressText c.pcStart), T.entry (addressText c.pcEnd),
    T.entry (addressText c.spStart)⟩

/-- Types over an entry, or leaves it. -/
def typed (T : Toolkit) (e : T.Entry) (t : Option Text) : T.Entry :=
  (t.map (T.setEntry e)).getD e

/-- After the pick. -/
def picked (x : Dialog T) (user : DialogInput) : Dialog T :=
  { x with path := typed T x.path (user.pick.filter (!·.isEmpty)) }

def entered (x : Dialog T) (user : DialogInput) : Dialog T :=
  let y := x.picked user
  ⟨typed T y.path user.path, typed T y.pcStart user.pcStart, typed T y.pcEnd user.pcEnd,
    typed T y.spStart user.spStart⟩

def address (entry : AddressEntry) (t : Text) : Except Warning Int :=
  match Numeral.readAddress t with
  | .ok n => .ok n
  | .error _ => .error (.invalidAddress entry)

def request (x : Dialog T) : Except Warning LoadRequest := do
  let path := Text.trim (T.entryText x.path)
  if path.isEmpty then throw .missingFile
  let pcStart ← address .pcStart (T.entryText x.pcStart)
  let pcEnd ← address .pcEnd (T.entryText x.pcEnd)
  let spStart ← address .spStart (T.entryText x.spStart)
  pure ⟨path, pcStart, pcEnd, spStart⟩

/-- The request, or none if the user cancels. -/
def answer (x : Dialog T) (user : DialogInput) : Except Warning (Option LoadRequest) :=
  if user.accepts then some <$> (x.entered user).request else .ok none

end Dialog

end Stepper.Desktop
