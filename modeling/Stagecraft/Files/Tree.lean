import Stagecraft.Files.Basic
import Stagecraft.Files.Path

namespace Stagecraft.Files

abbrev Location := List String

/-- What a location holds. Links, permissions and files that are not UTF-8 are left out. -/
inductive Entry where
  | file (content : String)
  | directory
  deriving DecidableEq

structure Tree where
  entries : List (Location × Entry)

namespace Tree

def empty : Tree := ⟨[]⟩

/-- What is at a location. The root is always a directory. -/
def entry? (t : Tree) (here : Location) : Option Entry :=
  if here = [] then some .directory else t.entries.lookup here

def setIn (here : Location) (e : Entry) : List (Location × Entry) → List (Location × Entry)
  | [] => [(here, e)]
  | (l, old) :: rest => if l = here then (l, e) :: rest else (l, old) :: setIn here e rest

def set (t : Tree) (here : Location) (e : Entry) : Tree := ⟨setIn here e t.entries⟩

def step (here : Location) (piece : String) : Location :=
  if Path.isIdle piece then here
  else if piece = ".." then here.dropLast
  else here ++ [piece]

/-- Walks from a location; every place that is left must be a directory. -/
def walk (t : Tree) (here : Location) : List String → Except FileError Location
  | [] => .ok here
  | piece :: rest =>
    match t.entry? here with
    | none => .error .notFound
    | some (.file _) => .error .notDirectory
    | some .directory => walk t (step here piece) rest

/-- The location of a path. There need not be anything at it, but its directory exists. -/
def locate (t : Tree) (cwd : Location) (path : String) : Except FileError Location :=
  if path = "" then .error .notFound
  else if Path.isAbsolute path then t.walk [] (Path.pieces path)
  else t.walk cwd (Path.pieces path)

def find? (t : Tree) (cwd : Location) (path : String) : Option Entry :=
  match t.locate cwd path with
  | .ok l => t.entry? l
  | .error _ => none

def doesExist (t : Tree) (cwd : Location) (path : String) : Bool := (t.find? cwd path).isSome

def isDirectory (t : Tree) (cwd : Location) (path : String) : Bool :=
  t.find? cwd path = some .directory

def read (t : Tree) (cwd : Location) (path : String) : Except FileError String := do
  match t.entry? (← t.locate cwd path) with
  | none => throw .notFound
  | some .directory => throw .isDirectory
  | some (.file content) => return content

def absolutePath (here : Location) : String := "/" ++ Path.ofPieces here

def canonical (t : Tree) (cwd : Location) (path : String) : Except FileError String := do
  let l ← t.locate cwd path
  if (t.entry? l).isSome then return absolutePath l else throw .notFound

/-- Writes a file. A path that ends in a slash is no name for a new file. -/
def write (t : Tree) (cwd : Location) (path content : String) : Except FileError Tree :=
  match t.locate cwd path with
  | .ok l =>
    if t.entry? l = some .directory then .error .isDirectory else .ok (t.set l (.file content))
  | .error e =>
    let ps := Path.pieces path
    if ps.getLast? = some "" ∧ (t.locate cwd (Path.ofPieces ps.dropLast)).isOk ∧ e = .notFound then
      .error .isDirectory
    else .error e

def makeDirectory (t : Tree) (cwd : Location) (path : String) : Except FileError Tree := do
  let l ← t.locate cwd (Path.trimmed path)
  if (t.entry? l).isSome then throw .alreadyExists else return t.set l .directory

def makeWithin (cwd : Location) : Nat → Tree → String → Except FileError Tree
  | 0, _, _ => .error .notFound
  | fuel + 1, t, path =>
    if path = "" then .ok t
    else match t.makeDirectory cwd path with
      | .ok t => .ok t
      | .error .notFound =>
        match Path.parent? path with
        | none => .error .notFound
        | some above => do
          let t ← makeWithin cwd fuel t above
          match t.makeDirectory cwd path with
          | .ok t => return t
          | .error e => if t.isDirectory cwd path then return t else throw e
      | .error e => if t.isDirectory cwd path then .ok t else .error e

def makeDirectories (t : Tree) (cwd : Location) (path : String) : Except FileError Tree :=
  makeWithin cwd (path.length + 1) t path

def files (t : Tree) : List (Location × String) :=
  t.entries.filterMap fun (l, e) ↦
    match e with
    | .file content => some (l, content)
    | .directory => none

end Tree

end Stagecraft.Files
