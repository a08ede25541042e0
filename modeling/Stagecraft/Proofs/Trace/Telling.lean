import Stagecraft.Proofs.Trace.Blocks
import Stagecraft.Proofs.Trace.Distinct

namespace Stagecraft.Trace

open Stagecraft.Action (walkAll)
open List (Forall₂ Perm)
open Text (IsLine lines isBlank)

def isBreak (c : Char) : Bool := isBlank c || c ∈ [',', '[', ']', '\x7b', '\x7d']

def words (cs : List Char) : List (List Char) := (cs.splitOnP isBreak).filter (· ≠ [])

theorem words_append {c : Char} (hc : isBreak c = true) (cs ds : List Char) :
    words (cs ++ c :: ds) = words cs ++ words ds := by
  rw [words, List.splitOnP_append_cons cs ds hc, List.filter_append, words, words]

theorem words_cons {c : Char} (hc : isBreak c = true) (cs : List Char) :
    words (c :: cs) = words cs :=
  words_append hc [] cs

theorem words_of_ordinary {cs : List Char} (hne : cs ≠ []) (h : ∀ c ∈ cs, Ordinary c) :
    words cs = [cs] := by
  have hbreak : ∀ c ∈ cs, isBreak c = false := by
    intro c hc
    obtain ⟨hblank, hothers⟩ := h c hc
    simp only [List.mem_cons, not_or] at hothers
    simp [isBreak, hblank, hothers]
  rw [words, List.splitOnP_eq_singleton hbreak]
  simp [hne]

theorem words_atom (first : List Char) {cs : List Char} (hne : first ≠ [])
    (hf : first.all fun c ↦ decide (Ordinary c)) (hcs : ∀ c ∈ cs, Ordinary c) :
    words (first ++ cs) = [first ++ cs] :=
  words_of_ordinary (List.append_ne_nil_of_left_ne_nil hne cs) (ordinary_atom first hf hcs)

theorem words_bracket {opening closing : Char} (ho : isBreak opening = true)
    (hc : isBreak closing = true) (cs : List Char) :
    words (opening :: cs ++ [closing]) = words cs := by
  rw [List.cons_append, words_cons ho, words_append hc]
  exact List.append_nil _

namespace Operand

mutual

theorem words_write : ∀ a : Operand, words a.write = a.atoms.map write
  | integer n => words_atom ['#'] (by decide) (by decide) (ordinary_integer n)
  | number x => words_atom ['#'] (by decide) (by decide) (ordinary_number _ x)
  | text i => words_atom ['t'] (by decide) (by decide) (ordinary_digits i)
  | path i => words_atom ['p'] (by decide) (by decide) (ordinary_digits i)
  | sub i => words_atom "$sub_".toList (by decide) (by decide) (ordinary_digits i)
  | list items => (words_bracket (by decide) (by decide) _).trans (words_writeAll items)
  | position parts => (words_bracket (by decide) (by decide) _).trans (words_writeAll parts)

theorem words_writeAll : ∀ ops : List Operand, words (writeAll ops) = (atomsAll ops).map write
  | [] => rfl
  | [a] => by
    rw [writeAll, words_write a, atomsAll, atomsAll, List.append_nil]
  | a :: b :: rest => by
    have hcomma : isBreak ',' = true := by decide
    have hspace : isBreak ' ' = true := by decide
    rw [writeAll_cons_cons, List.append_assoc, List.append_assoc, List.singleton_append,
      words_append hcomma, List.singleton_append, words_cons hspace, words_write a,
      words_writeAll (b :: rest), ← List.map_append]
    rfl

end

/-- The character that an operand begins with. -/
def tag : Operand → Char
  | integer _ | number _ => '#'
  | text _ => 't'
  | path _ => 'p'
  | sub _ => '$'
  | list _ => '['
  | position _ => '\x7b'

theorem head?_write (a : Operand) : a.write.head? = some a.tag := by
  cases a <;> rfl

end Operand

theorem Instruction.Spelled.words_write {i : Instruction} (h : i.Spelled) :
    words i.write = i.opcode.toList :: (Operand.atomsAll i.operands).map Operand.write := by
  have hspace : isBreak ' ' = true := by decide
  have hopcode : words i.opcode.toList = [i.opcode.toList] := words_of_ordinary h.named h.ordinary
  by_cases ho : i.operands = []
  · rw [Instruction.write_of_no_operands ho, ho, hopcode]
    rfl
  · have hw : i.write =
        i.opcode.toList ++ ' ' :: ' ' :: ' ' :: ' ' :: Operand.writeAll i.operands := by
      simp [Instruction.write_of_operands ho, Instruction.gap]
    rw [hw, words_append hspace, words_cons hspace, words_cons hspace, words_cons hspace, hopcode,
      Operand.words_writeAll]
    rfl

def wordsWith (tag : Char) (l : List Char) : List (List Char) :=
  (words l).tail.filter (·.head? = some tag)

structure IsTag (tag : Char) (f : Operand → Option ℕ) (word : ℕ → List Char) : Prop where
  write_eq : ∀ a n, f a = some n → a.write = word n
  head_word : ∀ n, (word n).head? = some tag
  head_write : ∀ a : Operand, f a = none → a.write.head? ≠ some tag

theorem isTag_text : IsTag 't' Operand.text? ('t' :: Numeral.digits ·) where
  write_eq a n h := by cases a <;> cases h; rfl
  head_word _ := rfl
  head_write a h := by
    rw [Operand.head?_write]
    cases a <;> cases h <;> simp [Operand.tag]

theorem isTag_path : IsTag 'p' Operand.path? ('p' :: Numeral.digits ·) where
  write_eq a n h := by cases a <;> cases h; rfl
  head_word _ := rfl
  head_write a h := by
    rw [Operand.head?_write]
    cases a <;> cases h <;> simp [Operand.tag]

def subWord (n : ℕ) : List Char := "$sub_".toList ++ Numeral.digits n

theorem isTag_sub : IsTag '$' Operand.sub? subWord where
  write_eq a n h := by cases a <;> cases h; rfl
  head_word _ := rfl
  head_write a h := by
    rw [Operand.head?_write]
    cases a <;> cases h <;> simp [Operand.tag]

namespace IsTag

variable {tag : Char} {f : Operand → Option ℕ} {word : ℕ → List Char}

theorem filter_write (h : IsTag tag f word) (ops : List Operand) :
    (ops.map Operand.write).filter (·.head? = some tag) = (ops.filterMap f).map word := by
  induction ops with
  | nil => rfl
  | cons a ops ih =>
    rw [List.map_cons, List.filter_cons, ih, List.filterMap_cons]
    cases hf : f a with
    | none => simp [h.head_write a hf]
    | some n => simp [h.write_eq a n hf, h.head_word]

theorem wordsWith_write (h : IsTag tag f word) {i : Instruction} (hi : i.Spelled) :
    wordsWith tag i.write = (i.references f).map word := by
  rw [wordsWith, hi.words_write, List.tail_cons, h.filter_write, Instruction.references]

end IsTag

/-- The entry of a section with a number: it comes behind that many others and holds a literal. -/
def HasEntry (header : String) (tag : Char) (cs : List Char) (i : ℕ) (x : String) : Prop :=
  ∃ (earlier : Table) (later : List Char), earlier.length = i ∧
    cs = header.toList ++ '\n' :: writeEntries tag 0 earlier ++ (entryText tag i x ++ '\n' :: later)

theorem writeEntries_append (tag : Char) (n : ℕ) (t t' : Table) : writeEntries tag n (t ++ t') =
    writeEntries tag n t ++ writeEntries tag (n + t.length) t' := by
  induction t generalizing n with
  | nil => rfl
  | cons s t ih =>
    have hn : n + 1 + t.length = n + (s :: t).length := by
      rw [List.length_cons]
      omega
    rw [List.cons_append, writeEntries, ih, writeEntries, hn]
    simp only [List.append_assoc]

theorem Table.Denotes.hasEntry {t : Table} {i : ℕ} {x : String} (h : t.Denotes i x)
    (header : String) (tag : Char) : HasEntry header tag (writeTable header tag t) i x := by
  obtain ⟨hi, rfl⟩ := h
  have hlength : (t.take i).length = i := List.length_take_of_le hi.le
  have hsplit : t = t.take i ++ t[i] :: t.drop (i + 1) := by
    rw [← List.drop_eq_getElem_cons hi, List.take_append_drop]
  refine ⟨t.take i, writeEntries tag (i + 1) (t.drop (i + 1)) ++ ['\n'], hlength, ?_⟩
  conv_lhs => rw [writeTable, hsplit, writeEntries_append, hlength, Nat.zero_add, writeEntries]
  simp [entryText]

def LeadsTo (header : String) (tag : Char) (cs w : List Char) (x : String) : Prop :=
  ∃ i, w = tag :: Numeral.digits i ∧ HasEntry header tag cs i x

/-- A line begins with the opcode of an action, and what it refers to in the sections of literals are
those of the action, in their order. -/
structure Mentions (texts paths : List Char) (a : Action) (l : List Char) : Prop where
  opcode : (words l).head? = some (opcode a).toList
  texts : Forall₂ (LeadsTo ".text" 't' texts) (wordsWith 't' l) a.texts
  paths : Forall₂ (LeadsTo ".path" 'p' paths) (wordsWith 'p' l) a.paths

theorem leadsTo_of_denotes {t : Table} {ns : List ℕ} {xs : List String}
    (h : Forall₂ t.Denotes ns xs) (header : String) (tag : Char) :
    Forall₂ (LeadsTo header tag (writeTable header tag t)) (ns.map (tag :: Numeral.digits ·)) xs := by
  rw [List.forall₂_map_left_iff]
  exact h.imp fun n x hx ↦ ⟨n, rfl, hx.hasEntry header tag⟩

theorem RefersTo.mentions {t : Tables} {a : Action} {i : Instruction} (h : RefersTo t a i)
    (hi : i.Spelled) : Mentions (writeTable ".text" 't' t.texts) (writeTable ".path" 'p' t.paths) a
      i.write where
  opcode := by rw [hi.words_write, List.head?_cons, h.opcode]
  texts := by
    rw [isTag_text.wordsWith_write hi]
    exact leadsTo_of_denotes h.texts ".text" 't'
  paths := by
    rw [isTag_path.wordsWith_write hi]
    exact leadsTo_of_denotes h.paths ".path" 'p'

/-- `Tells texts paths code n actions` says that the text `code` has a line for each of the actions from
line `n` on, and then an empty line or none. The line of a group refers to a label, and the lines
behind the label tell of the sequence of the group. -/
inductive Tells (texts paths code : List Char) : ℕ → List Action → Prop
  | nil {n : ℕ} (hend : ∀ l, IsLine code ⟨n, l⟩ → l = []) : Tells texts paths code n []
  | leaf {n : ℕ} {a : Action} {rest : List Action} {l : List Char} (ha : a.members? = none)
      (hl : IsLine code ⟨n, l⟩) (hmentions : Mentions texts paths a l)
      (hrest : Tells texts paths code (n + 1) rest) : Tells texts paths code n (a :: rest)
  | group {n m k : ℕ} {a : Action} {members rest : List Action} {l : List Char}
      (ha : a.members? = some members) (hl : IsLine code ⟨n, l⟩)
      (hwords : words l = [(opcode a).toList, subWord m]) (hlabel : IsLine code ⟨k, subLabel m⟩)
      (hmembers : Tells texts paths code (k + 1) members)
      (hrest : Tells texts paths code (n + 1) rest) : Tells texts paths code n (a :: rest)

theorem exists_subLines {subs : List (List Instruction)} {m : ℕ} {body : List Instruction}
    (h : subs[m]? = some body) (n : ℕ) : ∃ before behind, (∀ l ∈ behind.head?, l = []) ∧
      subLines n subs = before ++ subLabel (n + m) :: (body.map Instruction.write ++ behind) := by
  induction subs generalizing n m with
  | nil => cases h
  | cons b rest ih =>
    cases m with
    | zero =>
      obtain rfl : b = body := Option.some.inj h
      cases rest with
      | nil => exact ⟨[], [], nofun, by simp [subLines]⟩
      | cons b' rest => exact ⟨[], [] :: subLines (n + 1) (b' :: rest), by simp, by simp [subLines]⟩
    | succ m =>
      obtain ⟨before, behind, hend, hlines⟩ := ih h (n + 1)
      have hn : n + 1 + m = n + (m + 1) := by omega
      rw [hn] at hlines
      cases rest with
      | nil => cases h
      | cons b' rest =>
        refine ⟨subLabel n :: b.map Instruction.write ++ [] :: before, behind, hend, ?_⟩
        rw [subLines, hlines]
        · simp
        · simp

variable {t : Tables} {code : Code} {actions : List Action} {is : List Instruction} {ns : List ℕ}

/-- The lines of a block tell of its sequence where they stand in the code. -/
theorem Unfolds.tells (h : Unfolds t code.subs actions is ns) (hcode : code.Spelled)
    (before : List (List Char)) {behind : List (List Char)} (hend : ∀ l ∈ behind.head?, l = [])
    (hlines : codeLines code = before ++ is.map Instruction.write ++ behind) :
    Tells (writeTable ".text" 't' t.texts) (writeTable ".path" 'p' t.paths) (writeCode code)
      (before.length + 1) actions := by
  have hline (n : ℕ) (l : List Char) :
      IsLine (writeCode code) ⟨n + 1, l⟩ ↔ (codeLines code)[n]? = some l := by
    rw [Text.isLine_iff_getElem?, lines_writeCode hcode]
  induction h generalizing before behind with
  | nil =>
    refine .nil fun l hl ↦ hend l ?_
    rw [hline, hlines, List.map_nil, List.append_nil, List.getElem?_append_right le_rfl,
      Nat.sub_self, ← List.head?_eq_getElem?] at hl
    exact hl
  | @leaf a rest ops is ns ha hops _ ih =>
    have hspelled := opcode_spelled a ops
    have hrest := ih (before ++ [Instruction.write ⟨opcode a, ops⟩]) hend
      (by simpa using hlines)
    rw [List.length_append, List.length_singleton] at hrest
    refine .leaf ha ((hline _ _).2 ?_) ((LineOf.leaf ha hops).refersTo.mentions hspelled) hrest
    simp [hlines]
  | @group a members rest body is inner ns m ha hm _ _ ihbody ih =>
    have hspelled := opcode_spelled a [.sub m]
    have hrest := ih (before ++ [Instruction.write ⟨opcode a, [.sub m]⟩]) hend
      (by simpa using hlines)
    rw [List.length_append, List.length_singleton] at hrest
    -- The sub-block stands behind the main block, wherever its group stands.
    obtain ⟨above, below, hbelow, hsub⟩ := exists_subLines hm 0
    rw [Nat.zero_add] at hsub
    have hlabel : codeLines code =
        (".code".toList :: code.main.map Instruction.write ++ [] :: above) ++
          subLabel m :: (body.map Instruction.write ++ below) := by
      rw [codeLines, hsub]
      simp
    generalize ".code".toList :: code.main.map Instruction.write ++ [] :: above = start at hlabel
    have hmembers := ihbody (start ++ [subLabel m]) hbelow (by simpa using hlabel)
    rw [List.length_append, List.length_singleton] at hmembers
    refine .group (k := start.length + 1) ha ((hline _ _).2 ?_) hspelled.words_write
      ((hline _ _).2 ?_) hmembers hrest
    · simp [hlines]
    · simp [hlabel]

theorem wordsWith_subLabel (n : ℕ) : wordsWith '$' (subLabel n) = [] := by
  have hordinary : ∀ c ∈ subLabel n, Ordinary c := by
    rw [subLabel_eq, List.forall_mem_append]
    exact ⟨ordinary_atom "sub_".toList (by decide) (ordinary_digits n),
      List.forall_mem_singleton.2 (by decide)⟩
  rw [wordsWith, words_of_ordinary (subLabel_ne_nil n) hordinary]
  rfl

theorem flatMap_wordsWith_block {is : List Instruction} (h : ∀ i ∈ is, i.Spelled) :
    (is.map Instruction.write).flatMap (wordsWith '$') = (subReferences is).map subWord := by
  rw [List.flatMap_map, subReferences, List.map_flatMap]
  exact List.flatMap_congr fun i hi ↦ isTag_sub.wordsWith_write (h i hi)

theorem flatMap_wordsWith_subLines {subs : List (List Instruction)}
    (h : ∀ b ∈ subs, ∀ i ∈ b, i.Spelled) (n : ℕ) :
    (subLines n subs).flatMap (wordsWith '$') = (subReferences subs.flatten).map subWord := by
  have hempty : wordsWith '$' [] = [] := rfl
  induction subs generalizing n with
  | nil => rfl
  | cons b rest ih =>
    obtain ⟨hb, hrest⟩ := List.forall_mem_cons.1 h
    have hsplit : (subReferences (b :: rest).flatten).map subWord =
        (subReferences b).map subWord ++ (subReferences rest.flatten).map subWord := by
      rw [List.flatten_cons, subReferences, List.flatMap_append, List.map_append]
      rfl
    rw [hsplit]
    cases rest with
    | nil =>
      rw [subLines, List.flatMap_cons, wordsWith_subLabel, flatMap_wordsWith_block hb]
      exact (List.append_nil _).symm
    | cons b' rest =>
      rw [subLines, List.flatMap_append, List.flatMap_cons, wordsWith_subLabel,
        flatMap_wordsWith_block hb, List.flatMap_cons, hempty, ih hrest]
      · rfl
      · simp

theorem flatMap_wordsWith_codeLines (h : code.Spelled) :
    (codeLines code).flatMap (wordsWith '$') =
      (subReferences (code.main ++ code.subs.flatten)).map subWord := by
  have hheader : wordsWith '$' ".code".toList = [] := by decide
  have hempty : wordsWith '$' [] = [] := rfl
  rw [codeLines, List.flatMap_append, List.flatMap_cons, List.flatMap_cons, hheader, hempty,
    flatMap_wordsWith_block h.main, flatMap_wordsWith_subLines h.subs, subReferences, subReferences,
    subReferences, List.flatMap_append, List.map_append]
  rfl

/-- Every story has a trace that tells of it, by the words of the text alone: the lines behind the
header of the code are those of the story, what they refer to is in the two sections, and every
group's label is referred to once. -/
theorem write_tells (s : Story) : ∃ texts paths code : List Char,
    write s = .ok (String.ofList (texts ++ paths ++ code)) ∧
    IsLine code ⟨1, ".code".toList⟩ ∧ Tells texts paths code 2 s.actions ∧
    ((lines code).flatMap (wordsWith '$')).Perm
      ((List.range (s.walk.countP (·.members?.isSome))).map subWord) := by
  obtain ⟨code, hcompiles, hwrite⟩ := exists_code s
  have hspelled := hcompiles.code_spelled
  have hforest := hcompiles.isForest
  refine ⟨writeTable ".text" 't' (Tables.ofStory s).texts,
    writeTable ".path" 'p' (Tables.ofStory s).paths, writeCode code, ?_, ?_, ?_, ?_⟩
  · rw [hwrite, writeTrace_eq]
  · rw [Text.isLine_iff_getElem?, lines_writeCode hspelled]
    rfl
  · exact hforest.unfolds.tells hspelled [".code".toList] (by simp) rfl
  · rw [lines_writeCode hspelled, flatMap_wordsWith_codeLines hspelled]
    have honce := hforest.once
    rw [hforest.length] at honce
    exact honce.map subWord

end Stagecraft.Trace
