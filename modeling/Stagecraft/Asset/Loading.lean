import Stagecraft.Asset.Conversion
import Stagecraft.Asset.Decode
import Stagecraft.Options

namespace Stagecraft.Asset

/-- Reads an asset from what its file holds and converts it. The options are looked at before the
file. -/
def load (options : Json) (locale : Locale) (source : String) (file : Except FileError String) :
    Except Problem Conversion := do
  let voiceBundle ← voiceBundleOption options
  match file with
  | .error e => throw (.file e)
  | .ok content =>
    match ofText content with
    | .error e => throw (.asset source e)
    | .ok asset => return convert asset locale voiceBundle

end Stagecraft.Asset
