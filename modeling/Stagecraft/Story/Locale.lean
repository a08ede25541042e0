import Stagecraft.Text.Quoted

namespace Stagecraft

inductive Locale where
  | jp
  | en
  | tw
  | cn
  | kr
  deriving DecidableEq

namespace Locale

def all : List Locale := [jp, en, tw, cn, kr]

def name : Locale → String
  | jp => "jp"
  | en => "en"
  | tw => "tw"
  | cn => "cn"
  | kr => "kr"

def capitals (l : Locale) : String := String.ofList (l.name.toList.map Char.toUpper)

def table : List (String × Locale) := all.map fun l ↦ (l.name, l)

/-- The locale of a name in any case of its ASCII letters. -/
def ofName? (s : String) : Option Locale :=
  all.find? fun l ↦ l.name.toList = s.toList.map Char.toLower

def unknownMessage (s : String) : String :=
  "unknown locale " ++ Text.quoted s ++ " (expected one of jp, en, tw, cn, kr)"

end Locale

end Stagecraft
