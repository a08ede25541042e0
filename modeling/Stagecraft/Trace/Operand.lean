import Stagecraft.Story.Basic
import Stagecraft.Binary64.Numeral
import Stagecraft.Text.Lines

namespace Stagecraft.Trace

inductive Operand where
  | integer (value : Int)
  | number (value : Binary64)
  | text (index : Nat)
  | path (index : Nat)
  | sub (index : Nat)
  | list (items : List Operand)
  | position (parts : List Operand)

namespace Operand

mutual

def write : Operand → List Char
  | integer n => '#' :: Numeral.integer n
  | number x => '#' :: Numeral.argument.write x
  | text i => 't' :: Numeral.digits i
  | path i => 'p' :: Numeral.digits i
  | sub i => "$sub_".toList ++ Numeral.digits i
  | list items => '[' :: writeAll items ++ [']']
  | position parts => '\x7b' :: writeAll parts ++ ['\x7d']

def writeAll : List Operand → List Char
  | [] => []
  | [a] => write a
  | a :: rest => write a ++ ',' :: ' ' :: writeAll rest

end

def ofPosition (p : Position) : Operand :=
  position [integer p.anchor.number, number p.offset]

end Operand

structure Instruction where
  opcode : String
  operands : List Operand

def Instruction.write (i : Instruction) : List Char :=
  match i.operands with
  | [] => i.opcode.toList
  | operands => i.opcode.toList ++ [' ', ' ', ' ', ' '] ++ Operand.writeAll operands

end Stagecraft.Trace
