namespace Stagecraft.Path

def isAbsolute (p : String) : Bool := p.toList.head? = some '/'

def pieces (p : String) : List String := (p.toList.splitOn '/').map String.ofList

def ofPieces (ps : List String) : String := "/".intercalate ps

def join (base p : String) : String :=
  if isAbsolute p then p
  else if base = "" then p
  else if base.toList.getLast? = some '/' then base ++ p
  else base ++ "/" ++ p

def isIdle (piece : String) : Bool := piece = "" || piece = "."

/-- Drops pieces without meaning from the end, all but the first piece. -/
def dropIdle : List String → List String
  | [] => []
  | first :: rest => first :: (rest.reverse.dropWhile isIdle).reverse

def trimmed (p : String) : String :=
  match dropIdle (pieces p) with
  | [""] => if isAbsolute p then "/" else ""
  | ps => ofPieces ps

/-- The path without its last component: none if it has no component, empty if it has one. -/
def parent? (p : String) : Option String :=
  match dropIdle (pieces p) with
  | [] => none
  | [first] => if first = "" then none else some ""
  | ps =>
    match dropIdle ps.dropLast with
    | [""] => some "/"
    | ps => some (ofPieces ps)

def fileName? (p : String) : Option String :=
  match (dropIdle (pieces p)).getLast? with
  | none => none
  | some name => if isIdle name || name = ".." then none else some name

end Stagecraft.Path
