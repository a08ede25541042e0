import Stagecraft.Scenario.Basic
import Stagecraft.Story.Basic

namespace Stagecraft.Scenario

inductive Enclosure where
  | topLevel
  /-- The last member of the group is awaited. -/
  | blocking
  /-- The members run beside the sequence around them and are not awaited. -/
  | fork
  deriving DecidableEq

structure Memory where
  delay : Int
  positions : List (Int × Position)
  models : List (Int × String)

namespace Memory

def start : Memory := ⟨0, [], []⟩

def standing (m : Memory) (character : Int) : Position :=
  (m.positions.lookup character).getD .center

def place (m : Memory) (character : Int) : Place := .ofPosition (m.standing character)

def costume (m : Memory) (character : Int) : String :=
  ((m.models.lookup character).map costumeName).getD ""

def after (m : Memory) : Action → Memory
  | .showModel c model p =>
    { m with positions := (c, p) :: m.positions, models := (c, model) :: m.models }
  | .moveModel c p => { m with positions := (c, p) :: m.positions }
  | .delay seconds => { m with delay := seconds.toId }
  | .waitForTap => { m with delay := 0 }
  | .waitForAll => { m with delay := 0 }
  | _ => m

def unmoved (m : Memory) (kind : LayoutKind) (character : Int) : Body :=
  .layout kind character (m.costume character) (m.place character) (m.place character)

def body? (m : Memory) : Action → Option Body
  | .talk text characters names _ => some (.talk characters (names.head?.getD "") text)
  | .telop text => some (.effect (.telop text))
  | .showModel c model p =>
    some (.layout .appear c (costumeName model) (.ofPosition p) (.ofPosition p))
  | .moveModel c p => some (.layout .move c (m.costume c) (m.place c) (.ofPosition p))
  | .hideModel c => some (m.unmoved .hide c)
  | .horizontalShake c => some (m.unmoved .shakeX c)
  | .verticalShake c => some (m.unmoved .shakeY c)
  | .act c motion => some (.motion c (m.costume c) motion "")
  | .express c expression => some (.motion c (m.costume c) "" expression)
  | .showBlackCover d => some (.effect (.blackOut d))
  | .hideBlackCover d => some (.effect (.blackIn d))
  | .showWhiteCover d => some (.effect (.whiteOut d))
  | .hideWhiteCover d => some (.effect (.whiteIn d))
  | .shakeScreen d => some (.effect (.shakeScreen d))
  | .shakeDialogBox d => some (.effect (.shakeWindow d))
  | .changeBackground path => some (.effect (.changeBackground (.ofBackground path)))
  | .changeBgm path => some (.sound (some (.ofBgm path)) none)
  | .changeSe path => some (.sound none (some (.ofSe path)))
  | .blocking _ => none
  | .forkTask _ => none
  | .delay _ => none
  | .waitForTap => none
  | .waitForAll => none

end Memory

def isTalk : Action → Bool
  | .talk .. => true
  | _ => false

/-- The record of an action that is no group. `last` says that it ends its sequence. -/
def record? (enclosure : Enclosure) (m : Memory) (last : Bool) (a : Action) : Option Record :=
  (m.body? a).map fun b ↦ ⟨m.delay, isTalk a || (enclosure = .blocking && last), b⟩

mutual

def flattenAction (enclosure : Enclosure) (m : Memory) (last : Bool) (a : Action) :
    List Record :=
  match a with
  -- A group knows nothing of what is before it, and what is behind it nothing of the group.
  | .blocking actions => flattenSequence .blocking .start actions
  | .forkTask actions => flattenSequence .fork .start actions
  | a => (record? enclosure m last a).toList

def flattenSequence (enclosure : Enclosure) (m : Memory) (actions : List Action) :
    List Record :=
  match actions with
  | [] => []
  | a :: rest =>
    flattenAction enclosure m rest.isEmpty a ++ flattenSequence enclosure (m.after a) rest

end

structure Opening where
  background : Option Reference
  bgm : Option Reference

def opening (o : Opening) : List Action → Opening × List Action
  | .changeBackground path :: rest =>
    opening { o with background := some (.ofBackground path) } rest
  | .changeBgm path :: rest => opening { o with bgm := some (.ofBgm path) } rest
  | rest => (o, rest)

def ofStory (s : Story) (server : Int) : Scenario :=
  let (scene, rest) := opening ⟨none, none⟩ s.actions
  ⟨server, scene.background, scene.bgm, flattenSequence .topLevel .start rest⟩

end Stagecraft.Scenario
