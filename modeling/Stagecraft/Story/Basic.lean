import Stagecraft.Story.Locale
import Stagecraft.Story.Position

namespace Stagecraft

inductive Action where
  /-- A line of dialogue with its speakers and the names shown for them. -/
  | talk (text : String) (characters : List Int) (names : List String) (voice : Option String)
  | telop (text : String)
  | showModel (character : Int) (model : String) (position : Position)
  | hideModel (character : Int)
  | moveModel (character : Int) (position : Position)
  | act (character : Int) (motion : String)
  | express (character : Int) (expression : String)
  | horizontalShake (character : Int)
  | verticalShake (character : Int)
  | showBlackCover (duration : Binary64)
  | hideBlackCover (duration : Binary64)
  | showWhiteCover (duration : Binary64)
  | hideWhiteCover (duration : Binary64)
  | shakeScreen (duration : Binary64)
  | shakeDialogBox (duration : Binary64)
  | changeBackground (path : String)
  | changeBgm (path : String)
  | changeSe (path : String)
  /-- Members run to completion before the sequence goes on. -/
  | blocking (actions : List Action)
  /-- Time that passes before the rest of the sequence. -/
  | delay (seconds : Binary64)
  /-- Members run while the sequence goes on. -/
  | forkTask (actions : List Action)
  | waitForTap
  | waitForAll

structure Story where
  locale : Locale
  actions : List Action

namespace Action

def name : Action → String
  | talk .. => "talk"
  | telop .. => "telop"
  | showModel .. => "showModel"
  | hideModel .. => "hideModel"
  | moveModel .. => "moveModel"
  | act .. => "act"
  | express .. => "express"
  | horizontalShake .. => "horizontalShake"
  | verticalShake .. => "verticalShake"
  | showBlackCover .. => "showBlackCover"
  | hideBlackCover .. => "hideBlackCover"
  | showWhiteCover .. => "showWhiteCover"
  | hideWhiteCover .. => "hideWhiteCover"
  | shakeScreen .. => "shakeScreen"
  | shakeDialogBox .. => "shakeDialogBox"
  | changeBackground .. => "changeBackground"
  | changeBgm .. => "changeBGM"
  | changeSe .. => "changeSE"
  | blocking .. => "blocking"
  | delay .. => "delay"
  | forkTask .. => "forkTask"
  | waitForTap => "waitForTap"
  | waitForAll => "waitForAll"

def members? : Action → Option (List Action)
  | blocking actions => some actions
  | forkTask actions => some actions
  | _ => none

mutual

def walk : Action → List Action
  | blocking actions => blocking actions :: walkAll actions
  | forkTask actions => forkTask actions :: walkAll actions
  | a => [a]

def walkAll : List Action → List Action
  | [] => []
  | a :: rest => walk a ++ walkAll rest

end

mutual

/-- Equality with numbers compared as numbers. -/
def agrees : Action → Action → Bool
  | talk t cs ns v, talk t' cs' ns' v' => t = t' && cs = cs' && ns = ns' && v = v'
  | telop t, telop t' => t = t'
  | showModel c m p, showModel c' m' p' => c = c' && m = m' && p.agrees p'
  | hideModel c, hideModel c' => c = c'
  | moveModel c p, moveModel c' p' => c = c' && p.agrees p'
  | act c m, act c' m' => c = c' && m = m'
  | express c e, express c' e' => c = c' && e = e'
  | horizontalShake c, horizontalShake c' => c = c'
  | verticalShake c, verticalShake c' => c = c'
  | showBlackCover d, showBlackCover d' => d.agrees d'
  | hideBlackCover d, hideBlackCover d' => d.agrees d'
  | showWhiteCover d, showWhiteCover d' => d.agrees d'
  | hideWhiteCover d, hideWhiteCover d' => d.agrees d'
  | shakeScreen d, shakeScreen d' => d.agrees d'
  | shakeDialogBox d, shakeDialogBox d' => d.agrees d'
  | changeBackground p, changeBackground p' => p = p'
  | changeBgm p, changeBgm p' => p = p'
  | changeSe p, changeSe p' => p = p'
  | blocking as, blocking as' => agreeAll as as'
  | delay s, delay s' => s.agrees s'
  | forkTask as, forkTask as' => agreeAll as as'
  | waitForTap, waitForTap => true
  | waitForAll, waitForAll => true
  | _, _ => false

def agreeAll : List Action → List Action → Bool
  | [], [] => true
  | a :: as, b :: bs => agrees a b && agreeAll as bs
  | _, _ => false

end

end Action

namespace Story

def push (s : Story) (a : Action) : Story := { s with actions := s.actions ++ [a] }

def append (s : Story) (as : List Action) : Story := { s with actions := s.actions ++ as }

def walk (s : Story) : List Action := Action.walkAll s.actions

/-- Equality with numbers compared as numbers. -/
def agrees (s t : Story) : Bool := s.locale = t.locale && Action.agreeAll s.actions t.actions

end Story

end Stagecraft
