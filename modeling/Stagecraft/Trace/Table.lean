import Stagecraft.Trace.Operand

namespace Stagecraft

def Action.texts : Action → List String
  | talk text _ names _ => text :: names
  | telop text => [text]
  | act _ motion => [motion]
  | express _ expression => [expression]
  | _ => []

def Action.paths : Action → List String
  | talk _ _ _ voice => voice.toList
  | showModel _ model _ => [model]
  | changeBackground path => [path]
  | changeBgm path => [path]
  | changeSe path => [path]
  | _ => []

namespace Trace

abbrev Table := List String

namespace Table

def insert (t : Table) (s : String) : Table := if s ∈ t then t else t ++ [s]

def ofLiterals (ss : List String) : Table := ss.foldl insert []

def index? (t : Table) (s : String) : Option Nat := t.idxOf? s

end Table

structure Tables where
  texts : Table
  paths : Table

def Tables.ofStory (s : Story) : Tables where
  texts := Table.ofLiterals (s.walk.flatMap Action.texts)
  paths := Table.ofLiterals (s.walk.flatMap Action.paths)

def escape : List Char → List Char
  | [] => []
  | c :: cs => if c = ';' then '\\' :: ';' :: escape cs else c :: escape cs

def unescape : List Char → List Char
  | [] => []
  | '\\' :: ';' :: cs => ';' :: unescape cs
  | c :: cs => c :: unescape cs

def label (tag : Char) (i : Nat) : List Char := tag :: Numeral.digits i ++ [':', ' ']

def writeEntries (tag : Char) : Nat → Table → List Char
  | _, [] => []
  | i, s :: rest => label tag i ++ escape s.toList ++ [';', '\n'] ++ writeEntries tag (i + 1) rest

/-- The section of a table: a header line, the entries, and an empty line. -/
def writeTable (header : String) (tag : Char) (t : Table) : List Char :=
  header.toList ++ '\n' :: writeEntries tag 0 t ++ ['\n']

end Trace

end Stagecraft
