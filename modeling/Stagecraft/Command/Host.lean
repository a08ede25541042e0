import Stagecraft.Files.Tree
import Stagecraft.Script.Compiler

namespace Stagecraft.Command

open Script (Invocation ProgramRun)

class Host (m : Type → Type) where
  workingDirectory : m String
  doesExist : String → m Bool
  isDirectory : String → m Bool
  read : String → m (Except FileError String)
  /-- The absolute path of what is at a path. -/
  canonical : String → m (Except FileError String)
  makeDirectories : String → m (Except FileError Unit)
  write : String → String → m (Except FileError Unit)
  run : Invocation → m ProgramRun
  print : String → m Unit
  complain : String → m Unit

structure World where
  tree : Files.Tree
  cwd : Files.Location
  /-- How programs behave. -/
  program : Invocation → ProgramRun
  stdout : String
  stderr : String

namespace World

def change (f : Files.Tree → Files.Location → Except FileError Files.Tree) :
    StateM World (Except FileError Unit) := fun w ↦
  match f w.tree w.cwd with
  | .ok tree => (.ok (), { w with tree := tree })
  | .error e => (.error e, w)

instance : Host (StateM World) where
  workingDirectory w := (Files.Tree.absolutePath w.cwd, w)
  doesExist path w := (w.tree.doesExist w.cwd path, w)
  isDirectory path w := (w.tree.isDirectory w.cwd path, w)
  read path w := (w.tree.read w.cwd path, w)
  canonical path w := (w.tree.canonical w.cwd path, w)
  makeDirectories path := change fun tree cwd ↦ tree.makeDirectories cwd path
  write path content := change fun tree cwd ↦ tree.write cwd path content
  run invocation w := (w.program invocation, w)
  print text w := ((), { w with stdout := w.stdout ++ text })
  complain text w := ((), { w with stderr := w.stderr ++ text })

end World

end Stagecraft.Command
