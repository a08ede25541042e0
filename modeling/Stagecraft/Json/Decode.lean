import Stagecraft.Json.Draft
import Stagecraft.Text.Quoted

namespace Stagecraft.Json

/-- Where a draft comes from: straight from a text, from a value that was read before, or from the
fields that were set aside while a tag was looked for. -/
inductive Origin where
  | text
  | value
  | setAside
  deriving DecidableEq

inductive Found where
  | null
  | boolean (value : Bool)
  | integer (value : Int)
  | decimal (value : Binary64)
  | text (value : String)
  | array
  | object
  /-- A name that stands alone though it should come with a value. -/
  | bareName

inductive DecodeError where
  /-- The text itself is at fault. -/
  | fault (fault : Fault)
  | wrongKind (found : Found) (wanted : String)
  | outOfRange (value : Int) (wanted : String)
  | notSingleKey
  | unknownName (name : String) (known : List String)
  | missingField (name : String)
  | repeatedField (name : String)
  | wrongLength (length : Nat) (wanted : String)
  | noFormMatches (wanted : String)

inductive Category where
  | malformed
  | truncated
  | data
  deriving DecidableEq

namespace DecodeError

def category : DecodeError → Category
  | fault .malformed => .malformed
  | fault .truncated => .truncated
  | _ => .data

def inTicks (s : String) : String := "`" ++ s ++ "`"

def alternatives : List String → String
  | [] => "there are no variants"
  | [a] => "expected " ++ inTicks a
  | [a, b] => "expected " ++ inTicks a ++ " or " ++ inTicks b
  | names => "expected one of " ++ ", ".intercalate (names.map inTicks)

def integerText (n : Int) : String := String.ofList (Numeral.integer n)

def countText (n : Nat) : String := String.ofList (Numeral.digits n)

def foundText : Found → String
  | .null => "null"
  | .boolean b => "boolean " ++ inTicks (if b then "true" else "false")
  | .integer n => "integer " ++ inTicks (integerText n)
  | .decimal x => "floating point " ++ inTicks (String.ofList (Numeral.json.write x))
  | .text s => "string " ++ Text.quoted s
  | .array => "sequence"
  | .object => "map"
  | .bareName => "unit variant"

def message : DecodeError → String
  | fault .malformed => "malformed text"
  | fault .truncated => "unexpected end of text"
  | wrongKind found wanted => "invalid type: " ++ foundText found ++ ", expected " ++ wanted
  | outOfRange n wanted =>
    "invalid value: integer " ++ inTicks (integerText n) ++ ", expected " ++ wanted
  | notSingleKey => "invalid value: map, expected map with a single key"
  | unknownName name known => "unknown variant " ++ inTicks name ++ ", " ++ alternatives known
  | missingField name => "missing field " ++ inTicks name
  | repeatedField name => "duplicate field " ++ inTicks name
  | wrongLength n wanted => "invalid length " ++ countText n ++ ", expected " ++ wanted
  | noFormMatches wanted => "data did not match any variant of " ++ wanted

end DecodeError

/-- A decoder goes through a draft in reading order and reports the first problem it meets. -/
abbrev Decoder (α : Type) := Origin → Draft → Except DecodeError α

def reject {α : Type} (wanted : String) : Draft → Except DecodeError α
  | .null => .error (.wrongKind .null wanted)
  | .boolean b => .error (.wrongKind (.boolean b) wanted)
  | .integer n => .error (.wrongKind (.integer n) wanted)
  | .decimal x => .error (.wrongKind (.decimal x) wanted)
  | .text s => .error (.wrongKind (.text s) wanted)
  | .array _ _ => .error (.wrongKind .array wanted)
  | .object _ _ => .error (.wrongKind .object wanted)
  | .unreadable (.array _ _) => .error (.wrongKind .array wanted)
  | .unreadable (.object _ _) => .error (.wrongKind .object wanted)
  | .unreadable _ => .error (.fault .malformed)
  | .broken f => .error (.fault f.wanted)

def ofFault {α : Type} : Except Fault α → Except DecodeError α
  | .ok a => .ok a
  | .error f => .error (.fault f)

namespace Decoder

def map {α β : Type} (f : α → β) (dec : Decoder α) : Decoder β := fun o d ↦ (dec o d).map f

def textOf (wanted : String) : Decoder String
  | _, .text s => .ok s
  | _, d => reject wanted d

def string : Decoder String := textOf "a string"

def boolean : Decoder Bool
  | _, .boolean b => .ok b
  | _, d => reject "a boolean" d

def integerIn (lo hi : Int) (wanted : String) : Decoder Int
  | _, .integer n => if lo ≤ n ∧ n ≤ hi then .ok n else .error (.outOfRange n wanted)
  | _, d => reject wanted d

def integer : Decoder Int := integerIn Binary64.minId Binary64.maxId "i64"

def natural32 : Decoder Nat := map Int.toNat (integerIn 0 0xFFFFFFFF "u32")

def index : Decoder Nat := map Int.toNat (integerIn 0 0xFFFFFFFFFFFFFFFF "usize")

/-- A number; integers are rounded to the nearest one. -/
def number : Decoder Binary64
  | _, .decimal x => .ok x
  | _, .integer n => .ok (Binary64.ofInt n)
  | _, d => reject "f64" d

def value : Decoder Json := fun _ d ↦ ofFault (d.read.map Json.sorted)

def optional {α : Type} (dec : Decoder α) : Decoder (Option α)
  | _, .null => .ok none
  | o, d => (dec o d).map some

def items {α : Type} (dec : Decoder α) (o : Origin) : List Draft → Except DecodeError (List α)
  | [] => .ok []
  | d :: rest => do
    let a ← dec o d
    return a :: (← items dec o rest)

def list {α : Type} (dec : Decoder α) : Decoder (List α)
  | o, .array ds ending => do
    let as ← items dec o ds
    ofFault (Draft.closed ending)
    return as
  | _, d => reject "a sequence" d

def named {α : Type} (table : List (String × α)) (name : String) : Except DecodeError α :=
  match table.lookup name with
  | some a => .ok a
  | none => .error (.unknownName name (table.map Prod.fst))

def rejectName {α : Type} (o : Origin) (d : Draft) : Except DecodeError α :=
  match o, d with
  | .text, .broken f => .error (.fault f.asName)
  | .text, _ => .error (.fault .malformed)
  | _, d => reject "string or map" d

def unit : Decoder Unit
  | _, .null => .ok ()
  | .setAside, .object [] none => .ok ()
  | _, d => reject "unit" d

/-- A choice by name, written as the name or as an object with the name as its only key. The decoder
behind a name gets what stands behind the key, if anything. -/
def choice {α : Type} (table : List (String × (Origin → Option Draft → Except DecodeError α))) :
    Decoder α
  | o, .text name => do
    let dec ← named table name
    dec o none
  | .text, .object [] none => .error (.fault .malformed)
  | .text, .object [] (some f) => .error (.fault f)
  | .text, .object ((k, d) :: rest) ending => do
    let name ← textOf "variant identifier" .text k
    let dec ← named table name
    let a ← dec .text (some d)
    if rest.isEmpty then ofFault (Draft.closed ending) else .error (.fault .malformed)
    return a
  | o, .object [(k, d)] _ => do
    let name ← ofFault k.key?
    let dec ← named table name
    dec o (some d)
  | _, .object _ _ => .error .notSingleKey
  | o, d => rejectName o d

def bare {α : Type} (a : α) : Origin → Option Draft → Except DecodeError α
  | _, none => .ok a
  | o, some d => (unit o d).map fun _ ↦ a

def carrying {α : Type} (dec : Decoder α) : Origin → Option Draft → Except DecodeError α
  | _, none => .error (.wrongKind .bareName "newtype variant")
  | o, some d => dec o d

def name {α : Type} (table : List (String × α)) : Decoder α :=
  choice (table.map fun (n, a) ↦ (n, bare a))

end Decoder

/-- An error and its place in reading order; of two errors the earlier one is reported. -/
abbrev Placed (α : Type) := Except (Nat × DecodeError) α

def Placed.at {α : Type} (place : Nat) : Except DecodeError α → Placed α
  | .ok a => .ok a
  | .error e => .error (place, e)

def Placed.both {α β : Type} : Placed (α → β) → Placed α → Placed β
  | .ok f, .ok a => .ok (f a)
  | .ok _, .error e => .error e
  | .error e, .ok _ => .error e
  | .error e, .error e' => .error (if e'.1 < e.1 then e' else e)

structure Leftover where
  taken : Nat
  items : List Draft
  ending : Option Fault

/-- The fields of a record with the way to decode them, from an object or from an array. -/
structure Fields (α : Type) where
  names : List String
  ofObject : Origin → List (Draft × Draft) → Placed α
  /-- The text is what the array should have been. -/
  ofArray : Origin → String → Leftover → Except DecodeError (α × Leftover)

namespace Fields

variable {α β : Type}

def keyPlace (i : Nat) : Nat := 2 * i

def valuePlace (i : Nat) : Nat := 2 * i + 1

def isKey (name : String) : Draft × Draft → Bool
  | (.text s, _) => s = name
  | _ => false

/-- A field; `absent` stands for its value where it is missing. -/
def field (name : String) (dec : Decoder α) (absent : Option α) : Fields α where
  names := [name]
  ofObject o fs :=
    match fs.findIdx? (isKey name) with
    | some i => Placed.at (valuePlace i) (dec o (fs.getD i (.null, .null)).2)
    | none =>
      match absent with
      | some a => .ok a
      | none => .error (valuePlace fs.length, .missingField name)
  ofArray o wanted left :=
    match left.items with
    | d :: rest => do
      let a ← dec o d
      return (a, { left with taken := left.taken + 1, items := rest })
    | [] => do
      ofFault (Draft.closed left.ending)
      match absent with
      | some a => return (a, left)
      | none => throw (.wrongLength left.taken wanted)

def required (name : String) (dec : Decoder α) : Fields α := field name dec none

def defaulted (name : String) (dec : Decoder α) (absent : α) : Fields α :=
  field name dec (some absent)

/-- A record without fields. -/
protected def pure (a : α) : Fields α where
  names := []
  ofObject _ _ := .ok a
  ofArray _ _ left := .ok (a, left)

protected def map (f : α → β) (x : Fields α) : Fields β where
  names := x.names
  ofObject o fs := (x.ofObject o fs).map f
  ofArray o wanted left := (x.ofArray o wanted left).map fun (a, left) ↦ (f a, left)

protected def seq (f : Fields (α → β)) (x : Fields α) : Fields β where
  names := f.names ++ x.names
  ofObject o fs := Placed.both (f.ofObject o fs) (x.ofObject o fs)
  ofArray o wanted left := do
    let (g, left) ← f.ofArray o wanted left
    let (a, left) ← x.ofArray o wanted left
    return (g a, left)

instance : Functor Fields := ⟨Fields.map, fun a ↦ Fields.map fun _ ↦ a⟩

instance : Seq Fields := ⟨fun f x ↦ Fields.seq f (x ())⟩

instance : Pure Fields := ⟨Fields.pure⟩

def namesProblem (names : List String) : Nat → List String → List (Draft × Draft) → Option Fault →
    Placed Unit
  | i, _, [], ending => Placed.at (keyPlace i) (ofFault (Draft.closed ending))
  | i, seen, (k, d) :: rest, ending =>
    match k.key? with
    | .error f => .error (keyPlace i, .fault f)
    | .ok name =>
      if name ∈ names then
        if name ∈ seen then .error (keyPlace i, .repeatedField name)
        else namesProblem names (i + 1) (name :: seen) rest ending
      else
        match d.fault? with
        | some f => .error (valuePlace i, .fault f)
        | none => namesProblem names (i + 1) seen rest ending

def elementsText (n : Nat) : String :=
  if n = 1 then "1 element" else DecodeError.countText n ++ " elements"

def finish (left : Leftover) : Origin → Except DecodeError Unit
  | .text =>
    match left.items with
    | [] => ofFault (Draft.closed left.ending)
    | _ => .error (.fault .malformed)
  | .value =>
    match left.items with
    | [] => .ok ()
    | rest => .error (.wrongLength (left.taken + rest.length) "fewer elements in array")
  | .setAside =>
    match left.items with
    | [] => .ok ()
    | rest =>
      .error (.wrongLength (left.taken + rest.length) (elementsText left.taken ++ " in sequence"))

end Fields

open Fields in
def Decoder.ofObject {α : Type} (fields : Fields α) (o : Origin) (fs : List (Draft × Draft))
    (ending : Option Fault) : Except DecodeError α :=
  match Placed.both ((namesProblem fields.names 0 [] fs ending).map fun _ a ↦ a)
      (fields.ofObject o fs) with
  | .ok a => .ok a
  | .error (_, e) => .error e

def Decoder.record {α : Type} (wanted : String) (fields : Fields α) : Decoder α
  | o, .object fs ending => Decoder.ofObject fields o fs ending
  | o, .array ds ending => do
    let size := Fields.elementsText fields.names.length
    let (a, left) ← fields.ofArray o (wanted ++ " with " ++ size) ⟨0, ds, ending⟩
    Fields.finish left o
    return a
  | _, d => reject wanted d

/-- The decoder that a tag names. A tag that was set aside may also be the number of the name. -/
def Decoder.tag {α : Type} (table : List (String × α)) : Decoder α
  | _, .text name => Decoder.named table name
  | .setAside, .integer n =>
    match n, table[n.toNat]? with
    | .ofNat _, some (_, a) => .ok a
    | .ofNat _, none =>
      let wanted := "variant index 0 <= i < " ++ DecodeError.countText table.length
      .error (.outOfRange n wanted)
    | .negSucc _, _ => reject "variant identifier" (.integer n)
  | _, d => reject "variant identifier" d

def Decoder.findTag {α : Type} (tagName : String) (table : List (String × α)) (o : Origin) :
    Option α → List (String × Json) → List (Draft × Draft) → Option Fault →
    Except DecodeError (α × List (String × Json))
  | found, others, [], ending => do
    ofFault (Draft.closed ending)
    match found with
    | some a => return (a, others.reverse)
    | none => throw (.missingField tagName)
  | found, others, (k, d) :: rest, ending => do
    let key ← ofFault k.key?
    if key = tagName then
      if found.isSome then throw (.repeatedField tagName)
      let a ← Decoder.tag table o d
      findTag tagName table o (some a) others rest ending
    else
      let j ← ofFault d.read
      findTag tagName table o found ((key, j) :: others) rest ending

/-- A record whose fields depend on a tag among them, or as an array on its first item. -/
def Decoder.tagged {α : Type} (wanted tagName : String) (table : List (String × Decoder α)) :
    Decoder α
  | o, .object fs ending => do
    let (dec, others) ← Decoder.findTag tagName table o none [] fs ending
    dec .setAside (Draft.ofJson (.object others))
  | _, .array [] ending => do
    ofFault (Draft.closed ending)
    throw (.missingField tagName)
  | o, .array (d :: rest) ending => do
    let dec ← Decoder.tag table o d
    let items ← ofFault (Draft.readItems rest)
    ofFault (Draft.closed ending)
    dec .setAside (Draft.ofJson (.array items))
  | _, d => reject wanted d

def Decoder.tagOnly {α : Type} (a : α) : Decoder α
  | o, .array ds ending => do
    Fields.finish ⟨0, ds, ending⟩ o
    return a
  | _, _ => .ok a

/-- Decodes a whole text. What follows the value is looked at last. -/
def decodeText {α : Type} (dec : Decoder α) (s : String) : Except DecodeError α := do
  let document := Document.ofText s
  let a ← dec .text document.root
  if document.hasTail then throw (.fault .malformed)
  return a

def decodeValue {α : Type} (dec : Decoder α) (j : Json) : Except DecodeError α :=
  dec .value (Draft.ofJson j)

def ofText (s : String) : Except DecodeError Json := decodeText Decoder.value s

end Stagecraft.Json
