import Stagecraft.Asset.Basic
import Stagecraft.Story.Basic
import Stagecraft.Diagnostic

namespace Stagecraft

structure Output where
  actions : List Action
  diagnostics : List Diagnostic

namespace Output

def nothing : Output := ⟨[], []⟩

def ofActions (as : List Action) : Output := ⟨as, []⟩

def ofDiagnostic (d : Diagnostic) : Output := ⟨[], [d]⟩

def append (x y : Output) : Output := ⟨x.actions ++ y.actions, x.diagnostics ++ y.diagnostics⟩

instance : Append Output := ⟨append⟩

end Output

namespace LayoutRecord

def presence? (r : LayoutRecord) : Option Bool :=
  match r.kind with
  | .hide => some false
  | .appear => some true
  | .move => some true
  | _ => none

/-- Whether a character is on stage after some rows, the latest of which comes first. -/
def onStage (character : Int) (earlier : List LayoutRecord) : Bool :=
  match earlier with
  | [] => false
  | r :: rest =>
    if r.character = character then
      match r.presence? with
      | some b => b
      | none => onStage character rest
    else onStage character rest

def latestCostume? (character : Int) (rows : List LayoutRecord) : Option String :=
  (rows.find? fun r ↦ r.character = character && r.costume ≠ "").map costume

end LayoutRecord

namespace StageSide

def anchor? : StageSide → Option Anchor
  | none => .none
  | left => some .left
  | leftOver => some .leftOutside
  | leftInside => some .leftInside
  | center => some .center
  | right => some .right
  | rightOver => some .rightOutside
  | rightInside => some .rightInside
  | leftUnder => some .leftBottom
  | leftInsideUnder => some .leftInsideBottom
  | centerUnder => some .centerBottom
  | rightUnder => some .rightBottom
  | rightInsideUnder => some .rightInsideBottom

end StageSide

/-- The position that a row gives, and a warning where it names no side. -/
def placement (index : Nat) (side : StageSide) (offset : Int) : Position × Output :=
  match side.anchor? with
  | some a => (⟨a, .ofInt offset⟩, .nothing)
  | none =>
    (⟨.center, .ofInt offset⟩,
      .ofDiagnostic (.warning (.snippet index) .unresolvedReference
        "layout side 'none' has no staging slot, using center"))

def modelPath (locale : Locale) (costume : String) : String :=
  locale.name ++ "/live2d/chara/" ++ costume

/-- An appearance. A character on stage is moved; otherwise the model is shown in the costume that
this row or the latest earlier one names. `earlier` has the rows before this one, latest first. -/
def appearance (locale : Locale) (index : Nat) (earlier : List LayoutRecord) (r : LayoutRecord) :
    Output :=
  let (position, warnings) := placement index r.sideTo r.offsetTo
  let staged : Output :=
    if LayoutRecord.onStage r.character earlier then
      .ofActions [.moveModel r.character position]
    else
      match LayoutRecord.latestCostume? r.character (r :: earlier) with
      | some costume => .ofActions [.showModel r.character (modelPath locale costume) position]
      | none =>
        .ofDiagnostic (.error (.snippet index) .unresolvedCostume
          ("no costume was ever named for character " ++
            String.ofList (Numeral.integer r.character)))
  warnings ++ staged

end Stagecraft
