import Mathlib.Tactic
import Stagecraft.Proofs.Numeral.ReadWrite
import Stagecraft.Proofs.Text.Lines
import Stagecraft.Script.Signature

namespace Stagecraft.Script

open Text (Alphabet)

def isName (s : String) : Bool := Text.isIdentifier s.toList

def isNameIn (a : Alphabet) (s : String) : Bool := a.isIdentifier s.toList

def Parameter.names (p : Parameter) : List String := [p.label, p.type]

def Signature.names (s : Signature) : List String :=
  s.parent.toList ++ s.name :: s.parameters.flatMap Parameter.names ++ s.returnType.toList

def spelled (s : String) : List Char := Numeral.digits s.toList.length ++ s.toList

def spelledParent : Option String → List Char
  | none => []
  | some s => 'p' :: spelled s

def spelledReturn : Option String → List Char
  | none => ['V']
  | some s => spelled s

def spelledParameters (ps : List Parameter) : List Char :=
  ps.flatMap fun p ↦ spelled p.label ++ spelled p.type

def Signature.spelled (s : Signature) : List Char :=
  ['$', 'z'] ++ spelledParent s.parent ++ 'f' :: Script.spelled s.name ++
    spelledParameters s.parameters ++ writeEffects s.isAsync s.isStatic ++
    'r' :: spelledReturn s.returnType

def checked (a : Alphabet) (names : List String) (text : List Char) :
    Except InvalidIdentifier (List Char) :=
  match names.find? (!isNameIn a ·) with
  | some name => .error ⟨name⟩
  | none => .ok text

section checked

variable (a : Alphabet) (names names' : List String) (text : List Char) (f : List Char → List Char)

theorem checked_map : (do return f (← checked a names text)) = checked a names (f text) := by
  rw [checked, checked]
  cases names.find? (!isNameIn a ·) <;> rfl

theorem checked_bind :
    (do checked a names' (f (← checked a names text))) = checked a (names ++ names') (f text) := by
  rw [checked, checked, List.find?_append]
  cases names.find? (!isNameIn a ·) <;> rfl

end checked

section written

variable (a : Alphabet)

theorem writeName_eq (s : String) : writeName a s = checked a [s] (spelled s) := by
  rw [writeName, checked, List.find?_singleton, isNameIn]
  cases a.isIdentifier s.toList <;> rfl

theorem writeParent_eq (parent : Option String) :
    writeParent a parent = checked a parent.toList (spelledParent parent) := by
  cases parent with
  | none => rfl
  | some s =>
    rw [writeParent, writeName_eq, checked_map]
    rfl

theorem writeParameters_eq (ps : List Parameter) :
    writeParameters a ps = checked a (ps.flatMap Parameter.names) (spelledParameters ps) := by
  induction ps with
  | nil => rfl
  | cons p rest ih =>
    simp only [writeParameters, writeName_eq, ih, checked_map, checked_bind]
    simp [Parameter.names, spelledParameters]

theorem writeReturn_eq (result : Option String) :
    writeReturn a result = checked a result.toList (spelledReturn result) := by
  cases result with
  | none => rfl
  | some s => exact writeName_eq a s

theorem Signature.write_eq (s : Signature) : s.write a = checked a s.names s.spelled := by
  simp only [Signature.write, writeParent_eq, writeName_eq, writeParameters_eq, writeReturn_eq,
    checked_map, checked_bind]
  simp [Signature.names, Signature.spelled]

end written

inductive Part where
  | mark (cs : List Char)
  | name (s : String)

def Part.spelled : Part → List Char
  | mark cs => cs
  | name s => Script.spelled s

def parentParts : Option String → List Part
  | none => []
  | some s => [.mark ['p'], .name s]

def Parameter.parts (p : Parameter) : List Part := [.name p.label, .name p.type]

def returnParts : Option String → List Part
  | none => [.mark ['V']]
  | some s => [.name s]

def Signature.parts (s : Signature) : List Part :=
  .mark ['$', 'z'] :: (parentParts s.parent ++ .mark ['f'] :: .name s.name ::
    (s.parameters.flatMap Parameter.parts ++ .mark (writeEffects s.isAsync s.isStatic) ::
      .mark ['r'] :: returnParts s.returnType))

/-- A text that has some parts before the rest, with zeros before the counts, so many in all. -/
inductive Padded (a : Alphabet) (rest : List Char) : ℕ → List Part → List Char → Prop
  | done : Padded a rest 0 [] rest
  | mark (m : List Char) {zeros : ℕ} {ps : List Part} {cs : List Char}
      (h : Padded a rest zeros ps cs) : Padded a rest zeros (.mark m :: ps) (m ++ cs)
  | name {s : String} (hs : isNameIn a s = true) (more : ℕ) {zeros : ℕ} {ps : List Part}
      {cs : List Char} (h : Padded a rest zeros ps cs) :
      Padded a rest (more + zeros) (.name s :: ps) (List.replicate more '0' ++ (spelled s ++ cs))

section Padded

variable {a : Alphabet} {rest mid cs : List Char} {m n zeros : ℕ} {ps qs : List Part}

theorem Padded.of_mark {mark : List Char} (h : Padded a rest zeros (.mark mark :: ps) cs) :
    ∃ tail, cs = mark ++ tail ∧ Padded a rest zeros ps tail := by
  cases h with
  | mark _ h => exact ⟨_, rfl, h⟩

theorem Padded.of_name {s : String} (h : Padded a rest zeros (.name s :: ps) cs) :
    isNameIn a s = true ∧ ∃ more n tail, cs = List.replicate more '0' ++ (spelled s ++ tail) ∧
      Padded a rest n ps tail := by
  cases h with
  | name hs more h => exact ⟨hs, more, _, _, rfl, h⟩

theorem Padded.append (h : Padded a mid m ps cs) (h' : Padded a rest n qs mid) :
    Padded a rest (m + n) (ps ++ qs) cs := by
  induction h with
  | done => simpa using h'
  | mark m h ih => exact .mark m ih
  | name hs more h ih => exact Nat.add_assoc .. ▸ .name hs more ih

theorem Padded.split (h : Padded a rest zeros (ps ++ qs) cs) :
    ∃ m n mid, Padded a mid m ps cs ∧ Padded a rest n qs mid := by
  induction ps generalizing zeros cs with
  | nil => exact ⟨0, zeros, cs, .done, h⟩
  | cons p ps ih =>
    cases h with
    | mark word h =>
      obtain ⟨m, n, mid, hps, hqs⟩ := ih h
      exact ⟨m, n, mid, .mark word hps, hqs⟩
    | name hs more h =>
      obtain ⟨m, n, mid, hps, hqs⟩ := ih h
      exact ⟨more + m, n, mid, .name hs more hps, hqs⟩

theorem Padded.isName (h : Padded a rest zeros ps cs) {s : String} (hs : .name s ∈ ps) :
    isNameIn a s = true := by
  induction h with
  | done => cases hs
  | mark m h ih => exact ih (by simpa using hs)
  | name ht more h ih =>
    rcases List.mem_cons.1 hs with heq | hs
    · exact Part.name.inj heq ▸ ht
    · exact ih hs

theorem Padded.length_eq (h : Padded a rest zeros ps cs) :
    cs.length = (ps.flatMap Part.spelled ++ rest).length + zeros := by
  induction h with
  | done => rfl
  | mark m h ih =>
    rw [List.length_append, ih, List.flatMap_cons, Part.spelled]
    simp only [List.length_append]
    omega
  | name hs more h ih =>
    rw [List.length_append, List.length_append, ih, List.flatMap_cons, Part.spelled]
    simp only [List.length_append, List.length_replicate]
    omega

/-- Without zeros there is one text for some parts. -/
theorem padded_zero : Padded a rest 0 ps cs ↔
    (∀ s, .name s ∈ ps → isNameIn a s = true) ∧ cs = ps.flatMap Part.spelled ++ rest := by
  constructor
  · intro h
    refine ⟨fun s ↦ h.isName, ?_⟩
    generalize hzero : 0 = zeros at h
    induction h with
    | done => rfl
    | mark m h ih => rw [ih hzero, List.flatMap_cons, Part.spelled, List.append_assoc]
    | name hs more h ih =>
      obtain ⟨rfl, rfl⟩ := Nat.add_eq_zero_iff.1 hzero.symm
      rw [ih rfl, List.flatMap_cons, Part.spelled, List.append_assoc]
      rfl
  · rintro ⟨hnames, rfl⟩
    induction ps with
    | nil => exact .done
    | cons p ps ih =>
      have hps := ih fun s hs ↦ hnames s (List.mem_cons_of_mem p hs)
      rw [List.flatMap_cons, List.append_assoc]
      cases p with
      | mark m => exact .mark m hps
      | name s => exact .name (hnames s List.mem_cons_self) 0 hps

end Padded

theorem name_mem_parts {s : Signature} {n : String} : .name n ∈ s.parts ↔ n ∈ s.names := by
  cases hparent : s.parent <;> cases hreturn : s.returnType <;>
    simp [Signature.parts, Signature.names, parentParts, returnParts, Parameter.parts,
      Parameter.names, hparent, hreturn]

theorem flatMap_parts (s : Signature) : s.parts.flatMap Part.spelled = s.spelled := by
  have hparameters : (s.parameters.flatMap Parameter.parts).flatMap Part.spelled =
      spelledParameters s.parameters := by
    rw [List.flatMap_assoc]
    simp [Parameter.parts, Part.spelled, spelledParameters]
  cases hparent : s.parent <;> cases hreturn : s.returnType <;>
    simp [Signature.parts, Signature.spelled, parentParts, returnParts, spelledParent, spelledReturn,
      Part.spelled, hparent, hreturn, hparameters]

section reading

variable {a : Alphabet}

/-- A name does not begin with a digit, so that its count ends where it begins. -/
theorem exists_head {s : String} (h : isNameIn a s = true) :
    ∃ c cs, s.toList = c :: cs ∧ c.isDigit = false := by
  rw [isNameIn] at h
  cases hs : s.toList with
  | nil =>
    rw [hs] at h
    cases h
  | cons c cs =>
    rw [hs, Alphabet.isIdentifier, Bool.and_eq_true] at h
    refine ⟨c, cs, rfl, Bool.eq_false_iff.2 fun hc ↦ ?_⟩
    rw [a.starts_digit c hc] at h
    exact Bool.false_ne_true h.1

theorem isDigit_head_padded (zeros : ℕ) (s : String) (rest : List Char) :
    (((List.replicate zeros '0' ++ (spelled s ++ rest)).head?).map Char.isDigit).getD false = true := by
  cases zeros with
  | zero =>
    obtain ⟨d, ds, hd, hdigit⟩ := Numeral.digits_eq_cons s.toList.length
    simp [spelled, hd, hdigit]
  | succ zeros => rfl

theorem readName_padded {s : String} (h : isNameIn a s = true) (zeros : ℕ) (rest : List Char) :
    readName a (List.replicate zeros '0' ++ (spelled s ++ rest)) = some (s, rest) := by
  obtain ⟨c, cs, hs, hc⟩ := exists_head h
  let count := List.replicate zeros '0' ++ Numeral.digits s.toList.length
  have hdigits : ∀ d ∈ count, d.isDigit := fun d hd ↦
    (List.mem_append.1 hd).elim (Numeral.isDigit_of_mem_zeros zeros) Numeral.isDigit_of_mem_digits
  have hcount : Numeral.natural? count = some s.toList.length := by
    have hne : count ≠ [] := List.append_ne_nil_of_right_ne_nil _ (Numeral.digits_ne_nil _)
    rw [Numeral.natural?, if_pos ⟨hne, List.all_eq_true.2 hdigits⟩, Numeral.valueOf_append,
      Numeral.valueOf_zeros, Numeral.valueOf_digits, Nat.mul_zero, Nat.zero_add]
  have htext : List.replicate zeros '0' ++ (spelled s ++ rest) = count ++ (c :: (cs ++ rest)) := by
    rw [spelled, hs]
    simp [count, hs]
  have htake : (count ++ c :: (cs ++ rest)).takeWhile Char.isDigit = count := by
    rw [List.takeWhile_append_of_pos hdigits, List.takeWhile_cons_of_neg (by simp [hc]),
      List.append_nil]
  have hdrop : (count ++ c :: (cs ++ rest)).dropWhile Char.isDigit = s.toList ++ rest := by
    rw [List.dropWhile_append_of_pos hdigits, List.dropWhile_cons_of_neg (by simp [hc]), hs,
      List.cons_append]
  rw [isNameIn] at h
  simp [readName, htext, htake, hcount, hdrop, h]

theorem takeParent_padded {parent : Option String} {zeros : ℕ} {rest cs : List Char}
    (h : Padded a ('f' :: rest) zeros (parentParts parent) cs) :
    takeParent a cs = some (parent, 'f' :: rest) := by
  cases parent with
  | none =>
    cases h
    rfl
  | some s =>
    obtain ⟨_, rfl, hname⟩ := h.of_mark
    obtain ⟨hs, more, _, _, rfl, hdone⟩ := hname.of_name
    cases hdone
    rw [List.singleton_append, takeParent, readName_padded hs]
    rfl

theorem takeParameters_padded {ps : List Parameter} {zeros : ℕ} {rest cs : List Char}
    (h : Padded a rest zeros (ps.flatMap Parameter.parts) cs) {fuel : ℕ} (hfuel : cs.length ≤ fuel)
    (hhead : ∀ c ∈ rest.head?, c.isDigit = false) : takeParameters a fuel cs = some (ps, rest) := by
  induction ps generalizing fuel zeros cs with
  | nil =>
    cases h
    have hdigit : (rest.head?.map Char.isDigit).getD false = false := by
      cases hc : rest.head? with
      | none => rfl
      | some c => exact hhead c hc
    cases fuel with
    | zero => rfl
    | succ fuel => simp [takeParameters, hdigit]
  | cons p ps ih =>
    change Padded a rest zeros (.name p.label :: .name p.type :: ps.flatMap Parameter.parts) cs at h
    obtain ⟨hlabel, more, _, _, rfl, hnext⟩ := h.of_name
    obtain ⟨htype, more', _, tail, rfl, hrest⟩ := hnext.of_name
    have hdigit := isDigit_head_padded more p.label
      (List.replicate more' '0' ++ (spelled p.type ++ tail))
    have hlength := Numeral.length_digits_pos p.label.toList.length
    simp only [List.length_append, spelled] at hfuel
    cases fuel with
    | zero => omega
    | succ fuel =>
      have htail : takeParameters a fuel tail = some (ps, rest) := ih hrest (by omega)
      rw [takeParameters, hdigit]
      simp [readName_padded hlabel, readName_padded htype, htail]

theorem takeEffects_written (isAsync isStatic : Bool) (rest : List Char) :
    takeEffects (writeEffects isAsync isStatic ++ 'r' :: rest) =
      some ((isAsync, isStatic), 'r' :: rest) := by
  cases isAsync <;> cases isStatic <;> rfl

theorem isDigit_head_effects (isAsync isStatic : Bool) (rest : List Char) :
    ∀ c ∈ (writeEffects isAsync isStatic ++ 'r' :: rest).head?, c.isDigit = false := by
  cases isAsync <;> cases isStatic <;> exact fun c hc ↦ Option.some.inj hc ▸ rfl

theorem readReturn_padded {result : Option String} {zeros : ℕ} {cs : List Char}
    (h : Padded a [] zeros (returnParts result) cs) : readReturn a cs = some result := by
  cases result with
  | none =>
    obtain ⟨_, rfl, hdone⟩ := h.of_mark
    cases hdone
    rfl
  | some s =>
    obtain ⟨hs, more, _, _, rfl, hdone⟩ := h.of_name
    cases hdone
    have hV : List.replicate more '0' ++ (spelled s ++ []) ≠ ['V'] := by
      intro hV
      have hdigit := isDigit_head_padded more s []
      rw [hV] at hdigit
      cases hdigit
    rw [readReturn, if_neg hV, readName_padded hs]

/-- A signature is read back from its mangled name, also where there are zeros before the counts. -/
theorem Signature.read?_padded {s : Signature} {zeros : ℕ} {cs : List Char}
    (h : Padded a [] zeros s.parts cs) : Signature.read? a cs = some s := by
  obtain ⟨_, rfl, hsignature⟩ := h.of_mark
  obtain ⟨_, _, _, hparent, hfunction⟩ := hsignature.split
  obtain ⟨_, rfl, hname⟩ := hfunction.of_mark
  obtain ⟨hs, more, _, behind, rfl, hbehind⟩ := hname.of_name
  obtain ⟨_, _, _, hparameters, heffects⟩ := hbehind.split
  obtain ⟨_, rfl, hmark⟩ := heffects.of_mark
  obtain ⟨result, rfl, hreturn⟩ := hmark.of_mark
  let named := List.replicate more '0' ++ (Script.spelled s.name ++ behind)
  have hparent : takeParent a _ = some (s.parent, 'f' :: named) := takeParent_padded hparent
  have hname : readName a named = some (s.name, behind) := readName_padded hs more behind
  have hparameters : takeParameters a _ behind = some (s.parameters, _ ++ 'r' :: result) :=
    takeParameters_padded hparameters le_rfl (isDigit_head_effects s.isAsync s.isStatic result)
  have heffects := takeEffects_written s.isAsync s.isStatic result
  have hreturn := readReturn_padded hreturn
  have hmark (c : Char) (cs : List Char) : Text.after? [c] (c :: cs) = some cs :=
    Text.after?_append [c] cs
  simp only [Signature.read?, Text.after?_append, Option.bind_eq_bind, Option.bind_some, hparent,
    hmark, hname, hparameters, heffects, hreturn]
  rfl

theorem Signature.read?_spelled {s : Signature} (h : ∀ n ∈ s.names, isNameIn a n = true) :
    Signature.read? a s.spelled = some s :=
  read?_padded (padded_zero.2 ⟨fun n hn ↦ h n (name_mem_parts.1 hn),
    by rw [flatMap_parts, List.append_nil]⟩)

end reading

namespace Signature

variable {a : Alphabet} {s : Signature} {m : String}

theorem mangleWith_of_find?_eq_some {name : String}
    (h : s.names.find? (!isNameIn a ·) = some name) : s.mangleWith a = .error ⟨name⟩ := by
  rw [mangleWith, write_eq, checked, h]
  rfl

theorem mangleWith_of_find?_eq_none (h : s.names.find? (!isNameIn a ·) = none) :
    s.mangleWith a = .ok (String.ofList s.spelled) := by
  rw [mangleWith, write_eq, checked, h]
  rfl

theorem demangleWith?_eq_of_mangleWith (h : s.mangleWith a = .ok m) :
    demangleWith? a m = some s := by
  cases hfind : s.names.find? (!isNameIn a ·) with
  | some name =>
    rw [mangleWith_of_find?_eq_some hfind] at h
    cases h
  | none =>
    rw [mangleWith_of_find?_eq_none hfind, Except.ok.injEq] at h
    have hnames : ∀ n ∈ s.names, isNameIn a n = true := by simpa using hfind
    rw [← h, demangleWith?, String.toList_ofList, read?_spelled hnames]

/-- With any alphabet a signature is mangled unless one of its names is none, and is read back. -/
theorem mangleWith_refused_or_read_back (a : Alphabet) (s : Signature) :
    match s.names.find? (!isNameIn a ·) with
    | some name => s.mangleWith a = .error ⟨name⟩
    | none => ∃ m, s.mangleWith a = .ok m ∧ demangleWith? a m = some s ∧
        ∀ t : Signature, t.mangleWith a = .ok m → t = s := by
  cases h : s.names.find? (!isNameIn a ·) with
  | some name => exact mangleWith_of_find?_eq_some h
  | none =>
    have hm := mangleWith_of_find?_eq_none h
    refine ⟨_, hm, demangleWith?_eq_of_mangleWith hm, fun t ht ↦ ?_⟩
    have hread := demangleWith?_eq_of_mangleWith ht
    rw [demangleWith?_eq_of_mangleWith hm] at hread
    exact (Option.some.inj hread).symm

/-- A signature is mangled unless one of its names is no identifier; then the first such name is
reported. A mangled name is read back, so that no other signature has it. -/
theorem mangle_refused_or_read_back (s : Signature) :
    match s.names.find? (!isName ·) with
    | some name => s.mangle = .error ⟨name⟩
    | none => ∃ m, s.mangle = .ok m ∧ demangle? m = some s ∧
        ∀ t : Signature, t.mangle = .ok m → t = s :=
  mangleWith_refused_or_read_back .unicode s

end Signature

end Stagecraft.Script
