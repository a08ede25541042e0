import Stagecraft.Json.Number

namespace Stagecraft.Json

/-- Why no value could be read at a place. A quoted text or a scalar may fail in one way where it is
wanted and in another where it is passed over. -/
inductive Failure where
  | absent (fault : Fault)
  | scalar (wanted passed : Fault)
  | quoted (wanted passed : Fault)

def Failure.wanted : Failure → Fault
  | absent f => f
  | scalar f _ => f
  | quoted f _ => f

def Failure.passed : Failure → Fault
  | absent f => f
  | scalar _ f => f
  | quoted _ f => f

def Failure.asName : Failure → Fault
  | absent f => f
  | scalar _ _ => .malformed
  | quoted f _ => f

def Failure.asPassedName : Failure → Fault
  | absent f => f
  | scalar _ _ => .malformed
  | quoted _ f => f

/-- A JSON text up to the place where it breaks off; nothing follows a broken place. What is well
formed but cannot be read as a value, such as a lone surrogate, a number out of range or too deep a
nesting, is `unreadable` and does no harm where it is passed over. -/
inductive Draft where
  | null
  | boolean (value : Bool)
  | integer (value : Int)
  | decimal (value : Binary64)
  | text (value : String)
  /-- `ending` is the fault met where a comma or the closing bracket should be. -/
  | array (items : List Draft) (ending : Option Fault)
  | object (fields : List (Draft × Draft)) (ending : Option Fault)
  | unreadable (inner : Draft)
  | broken (failure : Failure)

def maxDepth : Nat := 127

def isSpace (c : Char) : Bool := c = ' ' || c = '\n' || c = '\t' || c = '\r'

def skipSpace (cs : List Char) : List Char := cs.dropWhile isSpace

def hexValue? (c : Char) : Option Nat :=
  if '0' ≤ c ∧ c ≤ '9' then some (c.toNat - 48)
  else if 'a' ≤ c ∧ c ≤ 'f' then some (c.toNat - 87)
  else if 'A' ≤ c ∧ c ≤ 'F' then some (c.toNat - 55)
  else none

def quad? (a b c d : Char) : Option Nat := do
  return ((← hexValue? a) * 16 + (← hexValue? b)) * 256 + (← hexValue? c) * 16 + (← hexValue? d)

/-- The fault of an escape that lacks its four digits. Digits are counted in bytes: with fewer than
four bytes left the text is truncated. -/
def escapeFault (cs : List Char) : Fault :=
  if (String.ofList cs).utf8ByteSize < 4 then .truncated else .malformed

def simpleEscape? (c : Char) : Option Char :=
  match c with
  | '"' => some '"'
  | '\\' => some '\\'
  | '/' => some '/'
  | 'b' => some '\x08'
  | 'f' => some '\x0c'
  | 'n' => some '\n'
  | 'r' => some '\r'
  | 't' => some '\t'
  | _ => none

def isHighSurrogate (n : Nat) : Bool := 0xD800 ≤ n && n ≤ 0xDBFF

def isLowSurrogate (n : Nat) : Bool := 0xDC00 ≤ n && n ≤ 0xDFFF

def ofSurrogates (high low : Nat) : Char :=
  Char.ofNat ((high - 0xD800) * 0x400 + (low - 0xDC00) + 0x10000)

def scanQuoted : List Char → Except Fault (List Char × List Char)
  | [] => .error .truncated
  | '"' :: rest => .ok ([], rest)
  | '\\' :: 'u' :: a :: b :: c :: d :: rest =>
    match quad? a b c d with
    | none => .error .malformed
    | some n =>
      if isLowSurrogate n then .error .malformed
      else if isHighSurrogate n then
        -- A high surrogate is half a character; the low one must follow as an escape too.
        match rest with
        | '\\' :: 'u' :: e :: f :: g :: h :: rest =>
          match quad? e f g h with
          | none => .error .malformed
          | some m =>
            if isLowSurrogate m then
              (scanQuoted rest).map fun (cs, tail) ↦ (ofSurrogates n m :: cs, tail)
            else .error .malformed
        | '\\' :: 'u' :: short => .error (escapeFault short)
        | [] => .error .truncated
        | ['\\'] => .error .truncated
        | _ => .error .malformed
      else (scanQuoted rest).map fun (cs, tail) ↦ (Char.ofNat n :: cs, tail)
  | '\\' :: 'u' :: short => .error (escapeFault short)
  | ['\\'] => .error .truncated
  | '\\' :: c :: rest =>
    match simpleEscape? c with
    | none => .error .malformed
    | some c => (scanQuoted rest).map fun (cs, tail) ↦ (c :: cs, tail)
  | c :: rest =>
    if c.toNat < 0x20 then .error .malformed
    else (scanQuoted rest).map fun (cs, tail) ↦ (c :: cs, tail)

/-- Passes over a quoted text behind its opening quote. Surrogates need not be paired. -/
def skipQuoted : List Char → Except Fault (List Char)
  | [] => .error .truncated
  | '"' :: rest => .ok rest
  | '\\' :: 'u' :: a :: b :: c :: d :: rest =>
    if (quad? a b c d).isSome then skipQuoted rest else .error .malformed
  | '\\' :: 'u' :: short => .error (escapeFault short)
  | ['\\'] => .error .truncated
  | '\\' :: c :: rest =>
    if (simpleEscape? c).isSome then skipQuoted rest else .error .malformed
  | c :: rest => if c.toNat < 0x20 then .error .malformed else skipQuoted rest

/-- A draft and the text behind it, which is absent behind a broken place. -/
abbrev Scanned := Draft × Option (List Char)

def draftQuoted (cs : List Char) : Scanned :=
  match scanQuoted cs, skipQuoted cs with
  | .ok (s, rest), _ => (.text (String.ofList s), some rest)
  | .error _, .ok rest => (.unreadable (.text ""), some rest)
  | .error f, .error g => (.broken (.quoted f g), none)

def draftWord (d : Draft) : List Char → List Char → Scanned
  | [], rest => (d, some rest)
  | _ :: _, [] => (.broken (.scalar .truncated .truncated), none)
  | w :: word, c :: cs =>
    if w = c then draftWord d word cs else (.broken (.scalar .malformed .malformed), none)

def draftNumber (cs : List Char) : Scanned :=
  match scanNumber cs with
  | .error f => (.broken (.scalar f.wanted .malformed), none)
  | .ok (t, rest) =>
    match t.value? with
    | some (.integer n) => (.integer n, some rest)
    | some (.decimal x) => (.decimal x, some rest)
    | _ => (.unreadable .null, some rest)

def limitDepth (depth : Nat) (d : Draft) : Draft := if depth < maxDepth then d else .unreadable d

mutual

def scanValue : Nat → Nat → List Char → Scanned
  | 0, _, _ => (.broken (.absent .malformed), none)
  | fuel + 1, depth, cs =>
    match skipSpace cs with
    | [] => (.broken (.absent .truncated), none)
    | '"' :: rest => draftQuoted rest
    | '[' :: rest =>
      let (items, ending, rest) := scanItems fuel (depth + 1) true rest
      (limitDepth depth (.array items ending), rest)
    | '\x7b' :: rest =>
      let (fields, ending, rest) := scanFields fuel (depth + 1) true rest
      (limitDepth depth (.object fields ending), rest)
    | 'n' :: rest => draftWord .null ['u', 'l', 'l'] rest
    | 't' :: rest => draftWord (.boolean true) ['r', 'u', 'e'] rest
    | 'f' :: rest => draftWord (.boolean false) ['a', 'l', 's', 'e'] rest
    | c :: rest =>
      if c = '-' ∨ c.isDigit then draftNumber (c :: rest)
      else (.broken (.absent .malformed), none)

def scanItems : Nat → Nat → Bool → List Char →
    List Draft × Option Fault × Option (List Char)
  | 0, _, _, _ => ([], some .malformed, none)
  | fuel + 1, depth, first, cs =>
    let oneMore (cs : List Char) : List Draft × Option Fault × Option (List Char) :=
      match scanValue fuel depth cs with
      | (d, none) => ([d], none, none)
      | (d, some rest) =>
        let (ds, ending, rest) := scanItems fuel depth false rest
        (d :: ds, ending, rest)
    match skipSpace cs with
    | [] => ([], some .truncated, none)
    | c :: rest =>
      if c = ']' then ([], none, some rest)
      else if first then oneMore (c :: rest)
      else if c = ',' then oneMore rest
      else ([], some .malformed, none)

def scanFields : Nat → Nat → Bool → List Char →
    List (Draft × Draft) × Option Fault × Option (List Char)
  | 0, _, _, _ => ([], some .malformed, none)
  | fuel + 1, depth, first, cs =>
    let oneMore (cs : List Char) : List (Draft × Draft) × Option Fault × Option (List Char) :=
      -- The key may be any value here. That it is a quoted text is asked where it is decoded.
      match scanValue fuel depth cs with
      | (key, none) => ([(key, .broken (.absent .malformed))], none, none)
      | (key, some rest) =>
        match skipSpace rest with
        | [] => ([(key, .broken (.absent .truncated))], none, none)
        | c :: rest =>
          if c = ':' then
            match scanValue fuel depth rest with
            | (d, none) => ([(key, d)], none, none)
            | (d, some rest) =>
              let (fs, ending, rest) := scanFields fuel depth false rest
              ((key, d) :: fs, ending, rest)
          else ([(key, .broken (.absent .malformed))], none, none)
    match skipSpace cs with
    | [] => ([], some .truncated, none)
    | c :: rest =>
      if c = '\x7d' then ([], none, some rest)
      else if first then oneMore (c :: rest)
      else if c = ',' then oneMore rest
      else ([], some .malformed, none)

end

/-- Steps that suffice for a text: a value takes at most two for each of its characters. -/
def scanFuel (cs : List Char) : Nat := 2 * cs.length + 2

structure Document where
  root : Draft
  hasTail : Bool

def Document.ofText (s : String) : Document :=
  let cs := s.toList
  match scanValue (scanFuel cs) 0 cs with
  | (d, none) => ⟨d, false⟩
  | (d, some rest) => ⟨d, decide (skipSpace rest ≠ [])⟩

namespace Draft

def key? : Draft → Except Fault String
  | .text s => .ok s
  | .broken f => .error f.asName
  | _ => .error .malformed

def keyFault? : Draft → Option Fault
  | .text _ => none
  | .unreadable (.text _) => none
  | .broken f => some f.asPassedName
  | _ => some .malformed

mutual

def fault? : Draft → Option Fault
  | .array items ending => itemsFault? items <|> ending
  | .object fields ending => fieldsFault? fields <|> ending
  | .unreadable d => fault? d
  | .broken f => some f.passed
  | _ => none

def itemsFault? : List Draft → Option Fault
  | [] => none
  | d :: rest => fault? d <|> itemsFault? rest

def fieldsFault? : List (Draft × Draft) → Option Fault
  | [] => none
  | (k, d) :: rest => keyFault? k <|> fault? d <|> fieldsFault? rest

end

def closed (ending : Option Fault) : Except Fault Unit :=
  match ending with
  | none => .ok ()
  | some f => .error f

mutual

def read : Draft → Except Fault Json
  | .null => .ok .null
  | .boolean b => .ok (.boolean b)
  | .integer n => .ok (.integer n)
  | .decimal x => .ok (.decimal x)
  | .text s => .ok (.text s)
  | .array items ending => do
    let js ← readItems items
    closed ending
    return .array js
  | .object fields ending => do
    let js ← readFields fields
    closed ending
    return .object js
  | .unreadable _ => .error .malformed
  | .broken f => .error f.wanted

def readItems : List Draft → Except Fault (List Json)
  | [] => .ok []
  | d :: rest => do
    let j ← read d
    return j :: (← readItems rest)

def readFields : List (Draft × Draft) → Except Fault (List (String × Json))
  | [] => .ok []
  | (k, d) :: rest => do
    let key ← key? k
    let j ← read d
    return (key, j) :: (← readFields rest)

end

mutual

def ofJson : Json → Draft
  | .null => .null
  | .boolean b => .boolean b
  | .integer n => .integer n
  | .decimal x => .decimal x
  | .text s => .text s
  | .array items => .array (ofItems items) none
  | .object fields => .object (ofFields fields) none

def ofItems : List Json → List Draft
  | [] => []
  | j :: rest => ofJson j :: ofItems rest

def ofFields : List (String × Json) → List (Draft × Draft)
  | [] => []
  | (k, j) :: rest => (.text k, ofJson j) :: ofFields rest

end

end Draft

end Stagecraft.Json
