import Stagecraft.Json.Decode

namespace Stagecraft

open Json

/-- A line and a column, both from one. The line zero means that the position is unknown. -/
structure TextPosition where
  line : Nat
  column : Nat
  deriving DecidableEq

namespace TextPosition

def unknown : TextPosition := ⟨0, 0⟩

def isKnown (p : TextPosition) : Bool := 0 < p.line

def message (p : TextPosition) : String :=
  DecodeError.countText p.line ++ ":" ++ DecodeError.countText p.column

def toJson (p : TextPosition) : Json :=
  .object [("line", .integer p.line), ("column", .integer p.column)]

def decoder : Decoder TextPosition :=
  .record "struct TextPosition"
    (TextPosition.mk <$> .required "line" .natural32 <*> .required "column" .natural32)

end TextPosition

/-- What a diagnostic is about: a snippet of an asset, or a position `offset` inside a script whose
text begins at `node` in the source around it. -/
inductive SourceLocation where
  | unknown
  | snippet (index : Nat)
  | literal (node offset : TextPosition)
  deriving DecidableEq

namespace SourceLocation

/-- The position in the source around the script. The script's first line begins behind what stands
before it on that line, later lines begin at the first column. Lines and columns are added as natural
numbers: that a sum may overflow 32 bits is left out. -/
def absolute : SourceLocation → Option TextPosition
  | literal node offset =>
    if node.isKnown then
      if ¬offset.isKnown then some node
      else if offset.line = 1 then some ⟨node.line, node.column + (offset.column - 1)⟩
      else some ⟨node.line + offset.line - 1, offset.column⟩
    else if offset.isKnown then some offset
    else none
  | _ => none

def message : SourceLocation → String
  | unknown => "<unknown>"
  | snippet index => "snippet #" ++ DecodeError.countText index
  | literal node offset =>
    match absolute (literal node offset) with
    | some p => p.message
    | none => "<script>"

def toJson : SourceLocation → Json
  | unknown => .object [("kind", .text "unknown")]
  | snippet index => .object [("kind", .text "snippet"), ("index", .integer index)]
  | literal node offset =>
    .object [("kind", .text "literal"), ("node", node.toJson), ("offset", offset.toJson)]

def decoder : Decoder SourceLocation :=
  .tagged "internally tagged enum SourceLocation" "kind"
    [("unknown", .tagOnly unknown),
      ("snippet", .record "struct variant SourceLocation::Snippet"
        (snippet <$> .required "index" .index)),
      ("literal", .record "struct variant SourceLocation::Literal"
        (literal <$> .required "node" TextPosition.decoder <*>
          .required "offset" TextPosition.decoder))]

end SourceLocation

inductive Severity where
  | note
  | warning
  | error
  deriving DecidableEq

namespace Severity

def rank : Severity → Nat
  | note => 0
  | warning => 1
  | error => 2

def name : Severity → String
  | note => "note"
  | warning => "warning"
  | error => "error"

def table : List (String × Severity) := [note, warning, error].map fun s ↦ (s.name, s)

def max (s t : Severity) : Severity := if s.rank < t.rank then t else s

end Severity

inductive DiagnosticKind where
  /-- Reported by the script compiler. -/
  | typeScriptError
  /-- The script compiler could not be run. -/
  | compilerUnavailable
  /-- A construct of the asset that stories cannot express. -/
  | unsupportedSnippet
  /-- A reference that leads nowhere. -/
  | unresolvedReference
  /-- An appearance of a model whose costume was never named. -/
  | unresolvedCostume
  deriving DecidableEq

namespace DiagnosticKind

def all : List DiagnosticKind :=
  [typeScriptError, compilerUnavailable, unsupportedSnippet, unresolvedReference,
    unresolvedCostume]

def name : DiagnosticKind → String
  | typeScriptError => "typeScriptError"
  | compilerUnavailable => "transpilerUnavailable"
  | unsupportedSnippet => "unsupportedSnippet"
  | unresolvedReference => "unresolvedReference"
  | unresolvedCostume => "unresolvedCostume"

def id : DiagnosticKind → String
  | typeScriptError => "typescript_error"
  | compilerUnavailable => "transpiler_unavailable"
  | unsupportedSnippet => "unsupported_snippet"
  | unresolvedReference => "unresolved_reference"
  | unresolvedCostume => "unresolved_costume"

def table : List (String × DiagnosticKind) := all.map fun k ↦ (k.name, k)

end DiagnosticKind

structure DiagnosticMessage where
  kind : DiagnosticKind
  detail : String
  deriving DecidableEq

structure Diagnostic where
  location : SourceLocation
  severity : Severity
  message : DiagnosticMessage
  deriving DecidableEq

namespace Diagnostic

def error (location : SourceLocation) (kind : DiagnosticKind) (detail : String) : Diagnostic :=
  ⟨location, .error, ⟨kind, detail⟩⟩

def warning (location : SourceLocation) (kind : DiagnosticKind) (detail : String) : Diagnostic :=
  ⟨location, .warning, ⟨kind, detail⟩⟩

def isError (d : Diagnostic) : Bool := d.severity = .error

def display (d : Diagnostic) : String :=
  d.location.message ++ ": " ++ d.severity.name ++ ": " ++ d.message.detail ++
    " [" ++ d.message.kind.id ++ "]"

def toJson (d : Diagnostic) : Json :=
  .object [("location", d.location.toJson), ("severity", .text d.severity.name),
    ("message", .object [("kind", .text d.message.kind.name), ("detail", .text d.message.detail)])]

def messageDecoder : Decoder DiagnosticMessage :=
  .record "struct DiagnosticMessage"
    (DiagnosticMessage.mk <$> .required "kind" (.name DiagnosticKind.table) <*>
      .required "detail" .string)

def decoder : Decoder Diagnostic :=
  .record "struct Diagnostic"
    (Diagnostic.mk <$> .required "location" SourceLocation.decoder <*>
      .required "severity" (.name Severity.table) <*> .required "message" messageDecoder)

def hasErrors (ds : List Diagnostic) : Bool := ds.any isError

def maxSeverity? : List Diagnostic → Option Severity
  | [] => none
  | d :: ds =>
    match maxSeverity? ds with
    | none => some d.severity
    | some s => some (d.severity.max s)

end Diagnostic

end Stagecraft
