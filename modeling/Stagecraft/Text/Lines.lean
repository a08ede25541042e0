namespace Stagecraft.Text

structure Line where
  number : Nat
  text : List Char
  deriving DecidableEq

/-- The pieces between line feeds. There is always a last piece, possibly empty. -/
def pieces : List Char → List (List Char)
  | [] => [[]]
  | c :: cs =>
    if c = '\n' then [] :: pieces cs
    else match pieces cs with
      | [] => [[c]]
      | p :: ps => (c :: p) :: ps

/-- A line ends at a line feed or at the end of the text; nothing follows the last line feed. -/
def lines (cs : List Char) : List (List Char) :=
  let ps := pieces cs
  if ps.getLast? = some [] then ps.dropLast else ps

def numberedFrom : Nat → List (List Char) → List Line
  | _, [] => []
  | n, l :: ls => ⟨n, l⟩ :: numberedFrom (n + 1) ls

def numberedLines (cs : List Char) : List Line := numberedFrom 1 (lines cs)

def after? : List Char → List Char → Option (List Char)
  | [], cs => some cs
  | _ :: _, [] => none
  | p :: ps, c :: cs => if p = c then after? ps cs else none

def before? (last : Char) (cs : List Char) : Option (List Char) :=
  if cs.getLast? = some last then some cs.dropLast else none

def splitAt? (sep : Char) : List Char → Option (List Char × List Char)
  | [] => none
  | c :: cs => if c = sep then some ([], cs) else (splitAt? sep cs).map fun (a, b) ↦ (c :: a, b)

def splitAtLast? (sep : Char) : List Char → Option (List Char × List Char)
  | [] => none
  | c :: cs =>
    match splitAtLast? sep cs with
    | some (a, b) => some (c :: a, b)
    | none => if c = sep then some ([], cs) else none

def joined (sep : List Char) : List (List Char) → List Char
  | [] => []
  | [p] => p
  | p :: ps => p ++ sep ++ joined sep ps

end Stagecraft.Text
