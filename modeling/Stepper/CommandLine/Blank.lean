import Stepper.CommandLine.Settings
import Stepper.Session.Basic

/-! Settings that were left blank. A blank setting does no harm before it is used, and nothing can use it. -/

namespace Stepper.CommandLine

/-- The first use of a blank address in a load that nothing else stops before, with what was logged until
then. -/
def Settings.blankUse? (s : Settings) (session : Session) (d : Device) (r : LoadRequest) :
    Option (List LogEntry × BlankUse) := do
  let text ← (Emulator.readText d r.path).toOption
  let (notes, listing) := Emulator.listingOf r.path text r.pcStart
  if s.pcStart.isBlank && Asm.takesBase text then return (notes, .base)
  let l ← listing.toOption
  if s.pcStart.isBlank || s.spStart.isBlank then return (notes ++ (Emulator.trimListing l).1, .word)
  let started := session.start d r
  let _ ← started.result.toOption
  if s.pcEnd.isBlank then some (started.log, .shown) else none

end Stepper.CommandLine
