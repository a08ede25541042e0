import Stagecraft.Options

namespace Stagecraft.Command

structure Report where
  message : String
  causes : List String

namespace Report

def ofMessage (message : String) : Report := ⟨message, []⟩

def within (context : String) (r : Report) : Report := ⟨context, r.message :: r.causes⟩

def ofProblem (p : Problem) : Report :=
  match p with
  | .file e => ⟨p.message, [e.message]⟩
  | p => ofMessage p.message

def indented (blanks : List Char) (s : String) : String :=
  String.ofList (s.toList.flatMap fun c ↦ if c = '\n' then '\n' :: blanks else [c])

def numbered : Nat → List String → String
  | _, [] => ""
  | n, c :: rest =>
    let number := Numeral.digits n
    "\n" ++ String.ofList (List.replicate (5 - number.length) ' ' ++ number) ++ ": " ++
      indented (List.replicate 7 ' ') c ++ numbered (n + 1) rest

def causesText : List String → String
  | [] => ""
  | [c] => "\n\nCaused by:\n    " ++ indented (List.replicate 4 ' ') c
  | cs => "\n\nCaused by:" ++ numbered 0 cs

def text (r : Report) : String := "Error: " ++ r.message ++ causesText r.causes ++ "\n"

end Report

end Stagecraft.Command
