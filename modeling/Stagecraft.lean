import Stagecraft.Main
import Stagecraft.Script.Signature
import Stagecraft.Trace.Read
import Stagecraft.Proofs.Numeral.ReadWrite
import Stagecraft.Proofs.Binary64.Id
import Stagecraft.Proofs.Trace.Image
import Stagecraft.Proofs.Trace.Distinct
import Stagecraft.Proofs.Asset.Envelope
import Stagecraft.Proofs.Scenario.BackwardScan
import Stagecraft.Proofs.Scenario.Coverage
import Stagecraft.Proofs.Script.Demangling
import Stagecraft.Proofs.Script.Runs
import Stagecraft.Proofs.Asset.Playback
import Stagecraft.Proofs.Scenario.Waiting
import Stagecraft.Proofs.Asset.Origins
import Stagecraft.Proofs.Story.RoundTrip
import Stagecraft.Proofs.Command.Emission
import Stagecraft.Proofs.Command.Compiling
import Stagecraft.Proofs.Json.Finite
import Stagecraft.Proofs.Asset.Readable
import Stagecraft.Proofs.Scenario.Scene
import Stagecraft.Proofs.Script.Position
import Stagecraft.Proofs.Script.CompilerOutput
import Stagecraft.Proofs.Asset.Reappearance
import Stagecraft.Proofs.Asset.Gates
import Stagecraft.Proofs.Trace.Spelling
import Stagecraft.Proofs.Script.Wording
import Stagecraft.Proofs.Trace.Telling
import Stagecraft.Proofs.Trace.Rounding
import Stagecraft.Proofs.Asset.Completeness
import Stagecraft.Proofs.Scenario.Naming
import Stagecraft.Proofs.Scenario.Placing
import Stagecraft.Proofs.Trace.Safety
import Stagecraft.Proofs.Trace.Cursor
import Stagecraft.Proofs.Outline.Shape
import Stagecraft.Proofs.Trace.Faults
