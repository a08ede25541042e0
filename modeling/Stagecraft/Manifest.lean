import Stagecraft.Story.Codec
import Stagecraft.Files.Path

namespace Stagecraft

open Json

inductive SourceFormat where
  | bandori
  | other (name : String)
  deriving DecidableEq

inductive TargetFormat where
  | plainText
  | sirius
  | bestdori
  deriving DecidableEq

namespace SourceFormat

def decoder : Decoder SourceFormat :=
  .choice [("bandori", Decoder.bare bandori),
    ("other", Decoder.carrying (Decoder.string.map other))]

def toJson : SourceFormat → Json
  | bandori => .text "bandori"
  | other name => .object [("other", .text name)]

def display : SourceFormat → String
  | bandori => "Bandori"
  | other name => "Other(" ++ Text.quoted name ++ ")"

end SourceFormat

namespace TargetFormat

def all : List TargetFormat := [plainText, sirius, bestdori]

def name : TargetFormat → String
  | plainText => "plain-text"
  | sirius => "sirius"
  | bestdori => "bestdori"

def table : List (String × TargetFormat) := all.map fun f ↦ (f.name, f)

def display : TargetFormat → String
  | plainText => "PlainText"
  | sirius => "Sirius"
  | bestdori => "Bestdori"

def fileExtension : TargetFormat → String
  | plainText => "txt"
  | sirius => "sirius"
  | bestdori => "json"

end TargetFormat

structure Target where
  format : TargetFormat
  output : String
  options : Json

structure Manifest where
  name : String
  locale : Locale
  format : SourceFormat
  source : String
  options : Json
  targets : List Target

def pathDecoder : Decoder String := .textOf "path string"

namespace Target

def decoder : Decoder Target :=
  .record "struct TargetConfig"
    (Target.mk <$> .required "backend" (.name TargetFormat.table) <*>
      .required "output" pathDecoder <*> .defaulted "options" .value .null)

def toJson (t : Target) : Json :=
  .object [("backend", .text t.format.name), ("output", .text t.output), ("options", t.options)]

end Target

namespace Manifest

def fileName : String := "zeile.json"

def decoder : Decoder Manifest :=
  .record "struct ProjectManifest"
    (Manifest.mk <$> .required "name" .string <*> .defaulted "locale" (.name Locale.table) .jp <*>
      .required "format" SourceFormat.decoder <*> .required "source" pathDecoder <*>
      .defaulted "options" .value .null <*> .defaulted "targets" (.list Target.decoder) [])

def ofText (s : String) : Except DecodeError Manifest := decodeText decoder s

def toJson (m : Manifest) : Json :=
  .object [("name", .text m.name), ("locale", .text m.locale.name), ("format", m.format.toJson),
    ("source", .text m.source), ("options", m.options),
    ("targets", .array (m.targets.map Target.toJson))]

def resolve (base : String) (m : Manifest) : Manifest :=
  { m with
    source := Path.join base m.source
    targets := m.targets.map fun t ↦ { t with output := Path.join base t.output } }

end Manifest

end Stagecraft
