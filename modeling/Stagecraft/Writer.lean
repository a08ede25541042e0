import Stagecraft.Manifest
import Stagecraft.Options
import Stagecraft.Outline
import Stagecraft.Scenario.Flattening

namespace Stagecraft

inductive Writer where
  | trace
  | outline (closures : Bool)
  | scenario (server : Int)
  deriving DecidableEq

namespace Writer

def ofOptions (format : TargetFormat) (options : Json) : Except Problem Writer :=
  match format with
  | .plainText => .ok trace
  | .sirius => (closuresOption options).map outline
  | .bestdori => (serverOption options).map scenario

def format : Writer → TargetFormat
  | trace => .plainText
  | outline _ => .sirius
  | scenario _ => .bestdori

def write (w : Writer) (s : Story) : Except Problem String :=
  match w with
  | trace =>
    match Trace.write s with
    | .ok written => .ok written
    | .error e => .error (.literal e)
  | outline closures => .ok (Outline.render s closures)
  | scenario server => .ok (Scenario.ofStory s server).toJson.pretty

end Writer

end Stagecraft
