import Stagecraft.Json.Decode
import Stagecraft.Files.Basic
import Stagecraft.Trace.Write

namespace Stagecraft

open Json

inductive Problem where
  | options (owner : String) (error : DecodeError)
  | file (error : FileError)
  | asset (source : String) (error : DecodeError)
  | literal (error : Trace.WriteError)

def Problem.message : Problem → String
  | options owner e => "project error: invalid " ++ owner ++ " options: " ++ e.message
  | file e => "I/O error: " ++ e.message
  | asset source e => "parse error in " ++ source ++ ": " ++ e.message
  | literal e => "codegen error: " ++ e.message

/-- Options given as a value; null stands for the default. -/
def decodeOptions {α : Type} (owner : String) (dec : Decoder α) (default : α) (j : Json) :
    Except Problem α :=
  match j with
  | .null => .ok default
  | j =>
    match decodeValue dec j with
    | .ok a => .ok a
    | .error e => .error (.options owner e)

def voiceBundleOption : Json → Except Problem String :=
  decodeOptions "bandori"
    (.record "struct BandoriOptions" (.defaulted "voiceBundlePath" .string "")) ""

def closuresOption : Json → Except Problem Bool :=
  decodeOptions "sirius"
    (.record "struct SiriusOptions" (.defaulted "allowClosures" .boolean true)) true

def serverOption : Json → Except Problem Int :=
  decodeOptions "bestdori" (.record "struct BestdoriOptions" (.defaulted "server" .integer 0)) 0

end Stagecraft
