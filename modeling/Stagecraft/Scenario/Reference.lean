import Stagecraft.Text.Lines
import Stagecraft.Json.Basic

namespace Stagecraft.Scenario

inductive Reference where
  | custom (url : String)
  | game (file : String) (bundle : Option String)
  deriving DecidableEq

namespace Reference

def isAddress (path : List Char) : Bool :=
  (Text.after? "http://".toList path).isSome || (Text.after? "https://".toList path).isSome

def lastComponent (path : List Char) : List Char × Option (List Char) :=
  match Text.splitAtLast? '/' path with
  | some (before, last) => (last, some before)
  | none => (path, none)

def stem (file : List Char) : List Char :=
  match Text.splitAtLast? '.' file with
  | some (stem, _) => stem
  | none => file

def without (ending cs : List Char) : List Char :=
  match Text.after? ending.reverse cs.reverse with
  | some rest => rest.reverse
  | none => cs

def bundleName (directory : List Char) : List Char := without "_rip".toList directory

/-- The reference of a path. An address is kept. Any other path names a file, and with `hasBundle`
the bundle it lies in, written behind `bundleStart`. -/
def ofPath (path : String) (hasBundle : Bool) (bundleStart : String) : Reference :=
  let cs := path.toList
  if isAddress cs then .custom path
  else
    let (file, before) := lastComponent cs
    let bundle := if hasBundle then
        before.map fun b ↦ bundleStart ++ String.ofList (bundleName (lastComponent b).1)
      else none
    .game (String.ofList (stem file)) bundle

def ofBackground (path : String) : Reference := ofPath path true "bg/"

def ofBgm (path : String) : Reference := ofPath path false ""

def ofSe (path : String) : Reference := ofPath path true ""

def toJson : Reference → Json
  | custom url => .object [("type", .text "custom"), ("url", .text url)]
  | game file bundle =>
    let fields := [("type", Json.text "bandori"), ("file", .text file)]
    .object (fields ++ (bundle.map fun b ↦ ("bundle", Json.text b)).toList)

end Reference

def costumeName (model : String) : String := String.ofList (Reference.lastComponent model.toList).1

end Stagecraft.Scenario
