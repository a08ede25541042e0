import Mathlib.Tactic
import Stagecraft.Outline
import Stagecraft.Proofs.Story.Sequence
import Stagecraft.Proofs.Trace.Splitting

namespace Stagecraft

namespace Text

theorem newline_not_mem_hexadecimal (n : ℕ) : '\n' ∉ hexadecimal n := by
  induction n using Nat.strongRecOn with
  | ind n ih =>
    have hdigit (d : ℕ) : '\n' ≠ d.digitChar := (Nat.digitChar_ne '\n' (by decide)).symm
    rw [hexadecimal]
    by_cases h : n < 16
    · rw [Nat.toDigits_of_lt_base h, List.mem_singleton]
      exact hdigit n
    · rw [Nat.toDigits_of_base_le (by decide) (by omega), List.mem_append,
        List.mem_singleton, not_or]
      exact ⟨ih (n / 16) (by omega), hdigit (n % 16)⟩

theorem newline_not_mem_quoteChar (quote c : Char) : '\n' ∉ quoteChar quote c := by
  have hcode := newline_not_mem_hexadecimal c.toNat
  rw [quoteChar]
  split_ifs with h0 ht hn hr hq hu
  · decide
  · decide
  · decide
  · decide
  · simpa using Ne.symm hn
  · simpa using hcode
  · simpa using Ne.symm hn

theorem newline_not_mem_quoted (s : String) : '\n' ∉ (quoted s).toList := by
  simp [quoted, newline_not_mem_quoteChar]

end Text

def Action.plainTexts : Action → List String
  | .talk _ _ _ voice => voice.toList
  | .telop text => [text]
  | .showModel _ model _ => [model]
  | .act _ motion => [motion]
  | .express _ expression => [expression]
  | .changeBackground path => [path]
  | .changeBgm path => [path]
  | .changeSe path => [path]
  | _ => []

namespace Outline

open Text (pieces)

variable {a : Action} {members : List Action}

def feeds (a : Action) : ℕ := (a.plainTexts.map fun s ↦ s.toList.count '\n').sum

theorem feeds_eq_zero : feeds a = 0 ↔ ∀ s ∈ a.plainTexts, '\n' ∉ s.toList := by
  simp [feeds, List.sum_eq_zero_iff, List.count_eq_zero]

theorem feeds_group (h : a.members? = some members) : feeds a = 0 := by
  cases a <;> cases h <;> rfl

theorem count_of_ordinary {cs : List Char} (h : ∀ c ∈ cs, Trace.Ordinary c) : cs.count '\n' = 0 :=
  List.count_eq_zero.2 fun hc ↦ (h _ hc).inline.2 rfl

@[simp] theorem count_digits (n : ℕ) : (Numeral.digits n).count '\n' = 0 :=
  count_of_ordinary (Trace.ordinary_digits n)

@[simp] theorem count_ofInt (n : ℤ) : (ofInt n).count '\n' = 0 :=
  count_of_ordinary (Trace.ordinary_integer n)

@[simp] theorem count_ofNumber (x : Binary64) : (ofNumber x).count '\n' = 0 :=
  count_of_ordinary (Trace.ordinary_number _ x)

@[simp] theorem count_ofPosition (p : Position) : (ofPosition p).count '\n' = 0 := by
  have hbase : ('\x7b' :: "base: ".toList).count '\n' = 0 := by decide
  have hname : p.anchor.name.toList.count '\n' = 0 := by cases p.anchor <;> decide
  have hkey : ", offsetX: ".toList.count '\n' = 0 := by decide
  have hoffset : (Numeral.argument.write p.offset).count '\n' = 0 := count_ofNumber p.offset
  rw [ofPosition, List.count_append, List.count_append, List.count_append, List.count_append, hbase,
    hname, hkey, hoffset]
  rfl

@[simp] theorem count_flatten (s : String) : (flatten s).count '\n' = 0 := by
  rw [flatten, List.count_eq_zero, List.mem_flatMap]
  rintro ⟨c, -, hc⟩
  split_ifs at hc with h
  · simp at hc
  · exact h (List.mem_singleton.1 hc).symm

@[simp] theorem count_quoted (s : String) : (Text.quoted s).toList.count '\n' = 0 :=
  List.count_eq_zero.2 (Text.newline_not_mem_quoted s)

theorem count_commaJoined (parts : List (List Char)) :
    (commaJoined parts).count '\n' = (parts.map (List.count '\n')).sum := by
  induction parts with
  | nil => rfl
  | cons p ps ih =>
    cases ps with
    | nil => simp [commaJoined, Text.joined]
    | cons q ps => simpa [commaJoined, Text.joined] using ih

theorem count_bracketed (parts : List (List Char)) :
    (bracketed parts).count '\n' = (parts.map (List.count '\n')).sum := by
  simp [bracketed, count_commaJoined]

theorem count_parameter {p : Parameter} (h : '\n' ∉ p.key.toList) :
    p.write.count '\n' = p.value.count '\n' := by
  rw [Parameter.write]
  split
  · rfl
  · simp [List.count_eq_zero.2 h]

theorem count_call {name : String} {ps : List Parameter} (hname : '\n' ∉ name.toList)
    (hps : ∀ p ∈ ps, '\n' ∉ p.key.toList) :
    (call name ps).count '\n' = (ps.map fun p ↦ p.value.count '\n').sum := by
  have hzero := List.count_eq_zero.2 hname
  have hwrite : ps.map (fun p ↦ p.write.count '\n') = ps.map fun p ↦ p.value.count '\n' :=
    List.map_congr_left fun p hp ↦ count_parameter (hps p hp)
  rw [call]
  split
  · next h => simp [List.isEmpty_iff.1 h, hzero]
  · simp [count_commaJoined, hzero, Function.comp_def, hwrite]

def headings : List String :=
  ["Talk", "Telop", "ShowModel", "HideModel", "MoveModel", "Act", "Express", "HorizontalShake",
    "VerticalShake", "ShowBlackCover", "HideBlackCover", "ShowWhiteCover", "HideWhiteCover",
    "ShakeScreen", "ShakeDialogBox", "ChangeBackground", "ChangeBGM", "ChangeSE", "Blocking", "Delay",
    "ForkTask", "WaitForTap", "WaitForAll"]

theorem getElem?_headings (a : Action) : headings[a.ctorIdx]? = some (heading a) := by
  cases a <;> rfl

theorem isAlpha_of_mem_heading (a : Action) : ∀ c ∈ (heading a).toList, c.isAlpha := by
  have hall : headings.all (·.toList.all Char.isAlpha) := by decide +kernel
  have hmem : heading a ∈ headings := List.mem_of_getElem? (getElem?_headings a)
  exact List.all_eq_true.1 (List.all_eq_true.1 hall (heading a) hmem)

theorem newline_not_mem_heading (a : Action) : '\n' ∉ (heading a).toList := fun h ↦
  absurd (isAlpha_of_mem_heading a '\n' h) (by decide)

theorem newline_not_mem_key (a : Action) : ∀ p ∈ parameters a, '\n' ∉ p.key.toList := by
  cases a <;> simp [parameters]

theorem sum_values (a : Action) :
    ((parameters a).map fun p ↦ p.value.count '\n').sum = feeds a := by
  cases a with
  | talk text characters names voice =>
    cases voice <;> simp [parameters, feeds, Action.plainTexts, count_bracketed, Function.comp_def]
  | _ => simp [parameters, feeds, Action.plainTexts]

theorem count_leaf (a : Action) : (call (heading a) (parameters a)).count '\n' = feeds a := by
  rw [count_call (newline_not_mem_heading a) (newline_not_mem_key a), sum_values]

theorem inline_leaf (h : a.members? = none) : inline a = call (heading a) (parameters a) := by
  cases a <;> cases h <;> rfl

theorem inline_group (h : a.members? = some members) :
    inline a = call (heading a) [⟨"array", bracketed (inlineAll members)⟩] := by
  cases a <;> cases h <;> rfl

theorem sum_inlineAll (actions : List Action) :
    ((inlineAll actions).map (List.count '\n')).sum =
      ((Action.walkAll actions).map feeds).sum := by
  induction actions using Action.sequence_induction with
  | nil => rfl
  | leaf a rest h ih =>
    rw [inlineAll, Action.walkAll_leaf h, List.map_cons, List.map_cons, List.sum_cons,
      List.sum_cons, inline_leaf h, count_leaf, ih]
  | group a members rest h ihm ih =>
    have hcount : (inline a).count '\n' = ((Action.walkAll members).map feeds).sum := by
      rw [inline_group h, count_call (newline_not_mem_heading a) (by simp)]
      simp [count_bracketed, ihm]
    rw [inlineAll, Action.walkAll_group h, List.map_cons, List.map_cons, List.sum_cons,
      List.sum_cons, List.map_append, List.sum_append, hcount, feeds_group h, ih, Nat.zero_add]

def Row.line (r : Row) : List Char := List.replicate (2 * r.depth) ' ' ++ r.text

theorem Row.write_eq (r : Row) : r.write = r.line ++ ['\n'] := rfl

theorem Row.count_line (r : Row) : r.line.count '\n' = r.text.count '\n' := by
  simp [Row.line, List.count_replicate]

def opening (a : Action) : List Char :=
  match a.members? with
  | none => call (heading a) (parameters a)
  | some [] => (heading a).toList ++ [' ', '\x7b', '\x7d']
  | some (_ :: _) => (heading a).toList ++ [' ', '\x7b']

def closing (depth : ℕ) (a : Action) : List Row :=
  match a.members? with
  | some (_ :: _) => [⟨depth, ['\x7d']⟩]
  | _ => []

/-- The lines an action is meant to take: two for a group with members, one for any other. -/
def lineCount (a : Action) : ℕ :=
  match a.members? with
  | some (_ :: _) => 2
  | _ => 1

theorem closure_of_ne_nil {rs : List Row} (h : rs ≠ []) (depth index : ℕ) (name : String) :
    closure depth index name rs = ⟨depth, indexed index (name.toList ++ [' ', '\x7b'])⟩ :: rs ++
      [⟨depth, ['\x7d']⟩] := by
  cases rs with
  | nil => exact absurd rfl h
  | cons r rs => rfl

theorem rows_leaf (h : a.members? = none) (depth index : ℕ) :
    rows depth index a = [⟨depth, indexed index (call (heading a) (parameters a))⟩] := by
  cases a <;> cases h <;> rfl

theorem rows_group (h : a.members? = some members) (depth index : ℕ) :
    rows depth index a = closure depth index (heading a) (rowsFrom (depth + 1) 0 members) := by
  cases a <;> cases h <;> rfl

theorem rows_ne_nil (depth index : ℕ) (a : Action) : rows depth index a ≠ [] := by
  cases h : a.members? with
  | none => simp [rows_leaf h]
  | some members =>
    rw [rows_group h, closure.eq_def]
    split <;> simp

/-- The rows of an action: its first one, those of its members, and the one that ends a group. -/
theorem rows_eq (depth index : ℕ) (a : Action) :
    rows depth index a = ⟨depth, indexed index (opening a)⟩ ::
      rowsFrom (depth + 1) 0 (a.members?.getD []) ++ closing depth a := by
  rw [opening, closing]
  cases h : a.members? with
  | none =>
    rw [rows_leaf h]
    rfl
  | some members =>
    rw [rows_group h]
    cases members with
    | nil => rfl
    | cons m ms =>
      have hne : rowsFrom (depth + 1) 0 (m :: ms) ≠ [] := by simp [rowsFrom, rows_ne_nil]
      exact closure_of_ne_nil hne depth index (heading a)

theorem count_indexed (index : ℕ) (text : List Char) :
    (indexed index text).count '\n' = text.count '\n' := by
  simp [indexed]

theorem count_opening (a : Action) : (opening a).count '\n' = feeds a := by
  have hname := List.count_eq_zero.2 (newline_not_mem_heading a)
  rw [opening]
  split
  · exact count_leaf a
  · next h => simp [hname, feeds_group h]
  · next h => simp [hname, feeds_group h]

theorem length_closing (depth : ℕ) (a : Action) : (closing depth a).length + 1 = lineCount a := by
  rw [closing, lineCount]
  split <;> rfl

theorem sum_closing (depth : ℕ) (a : Action) :
    ((closing depth a).map fun r ↦ r.text.count '\n').sum = 0 := by
  rw [closing]
  split <;> rfl

theorem length_rowsFrom (depth index : ℕ) (actions : List Action) :
    (rowsFrom depth index actions).length = ((Action.walkAll actions).map lineCount).sum := by
  induction actions using Action.members_induction generalizing depth index with
  | nil => rfl
  | cons a rest ihm ih =>
    have hclosing := length_closing depth a
    simp only [rowsFrom, rows_eq, Action.walkAll_cons, List.length_append, List.length_cons,
      List.map_cons, List.map_append, List.sum_cons, List.sum_append, ihm, ih]
    omega

theorem sum_rowsFrom (depth index : ℕ) (actions : List Action) :
    ((rowsFrom depth index actions).map fun r ↦ r.text.count '\n').sum =
      ((Action.walkAll actions).map feeds).sum := by
  induction actions using Action.members_induction generalizing depth index with
  | nil => rfl
  | cons a rest ihm ih =>
    simp only [rowsFrom, rows_eq, Action.walkAll_cons, List.cons_append, List.map_append,
      List.map_cons, List.sum_append, List.sum_cons, count_indexed, count_opening, sum_closing,
      ihm, ih, Nat.add_zero]

theorem length_flatRows (index : ℕ) (actions : List Action) :
    (flatRows index actions).length = actions.length := by
  induction actions generalizing index with
  | nil => rfl
  | cons a rest ih => rw [flatRows, List.length_cons, ih, List.length_cons]

theorem sum_flatRows (index : ℕ) (actions : List Action) :
    ((flatRows index actions).map fun r ↦ r.text.count '\n').sum =
      ((Action.walkAll actions).map feeds).sum := by
  rw [← sum_inlineAll]
  induction actions generalizing index with
  | nil => rfl
  | cons a rest ih =>
    rw [flatRows, List.map_cons, List.sum_cons, count_indexed, ih, inlineAll, List.map_cons,
      List.sum_cons]

/-- No text of the story that is shown as it is has a line feed. -/
def Unbroken (s : Story) : Prop := ∀ a ∈ s.walk, ∀ x ∈ a.plainTexts, '\n' ∉ x.toList

instance (s : Story) : Decidable (Unbroken s) :=
  inferInstanceAs (Decidable (∀ a ∈ s.walk, ∀ x ∈ a.plainTexts, '\n' ∉ x.toList))

def bodyRows (s : Story) (closures : Bool) : List Row :=
  if closures then rowsFrom 0 0 s.actions else flatRows 0 s.actions

def body (s : Story) (closures : Bool) : List (List Char) :=
  (bodyRows s closures).flatMap fun r ↦ pieces r.line

def header (s : Story) : List Char := "# LOCALE: ".toList ++ s.locale.capitals.toList

def bodyCount (s : Story) (closures : Bool) : ℕ :=
  if closures then (s.walk.map lineCount).sum else s.actions.length

theorem capitals_toList (l : Locale) : l.capitals.toList = l.name.toList.map Char.toUpper :=
  String.toList_ofList

theorem sum_feeds_eq_zero (s : Story) : (s.walk.map feeds).sum = 0 ↔ Unbroken s := by
  simp [List.sum_eq_zero_iff, Unbroken, feeds_eq_zero]

theorem newline_not_mem_header (s : Story) : '\n' ∉ header s := by
  have hcapitals : '\n' ∉ s.locale.name.toList.map Char.toUpper := by cases s.locale <;> decide
  rw [← capitals_toList] at hcapitals
  exact fun h ↦ (List.mem_append.1 h).elim (by decide) hcapitals

theorem pieces_rows (rs : List Row) (rest : List Char) :
    pieces (rs.flatMap Row.write ++ rest) = (rs.flatMap fun r ↦ pieces r.line) ++ pieces rest := by
  induction rs with
  | nil => rfl
  | cons r rs ih =>
    rw [List.flatMap_cons, Row.write_eq, List.append_assoc, List.append_assoc,
      List.singleton_append, Text.pieces_append, ih, List.flatMap_cons, List.append_assoc]

theorem text_eq (s : Story) (closures : Bool) : text s closures = header s ++
    '\n' :: ([] ++ '\n' :: ((bodyRows s closures).flatMap Row.write ++
      ([] ++ '\n' :: "EOF.".toList))) := by
  have h : text s closures = header s ++ ['\n', '\n'] ++
      (bodyRows s closures).flatMap Row.write ++ '\n' :: "EOF.".toList := rfl
  rw [h, List.append_assoc _ ['\n', '\n'], List.append_assoc _ _ ('\n' :: _)]
  rfl

theorem pieces_text (s : Story) (closures : Bool) :
    pieces (text s closures) = [header s, []] ++ body s closures ++ [[], "EOF.".toList] := by
  have hend : pieces "EOF.".toList = ["EOF.".toList] := Text.pieces_of_not_mem (by decide)
  rw [text_eq, Text.pieces_append, Text.pieces_append, pieces_rows, Text.pieces_append, hend,
    Text.pieces_of_not_mem (newline_not_mem_header s), body]
  rfl

theorem length_bodyRows (s : Story) (closures : Bool) :
    (bodyRows s closures).length = bodyCount s closures := by
  cases closures
  · exact length_flatRows 0 s.actions
  · exact length_rowsFrom 0 0 s.actions

theorem sum_bodyRows (s : Story) (closures : Bool) :
    ((bodyRows s closures).map fun r ↦ r.text.count '\n').sum = (s.walk.map feeds).sum := by
  cases closures
  · exact sum_flatRows 0 s.actions
  · exact sum_rowsFrom 0 0 s.actions

theorem length_flatMap_pieces (rs : List Row) :
    (rs.flatMap fun r ↦ pieces r.line).length =
      rs.length + (rs.map fun r ↦ r.text.count '\n').sum := by
  induction rs with
  | nil => rfl
  | cons r rs ih =>
    rw [List.flatMap_cons, List.length_append, ih, Text.length_pieces, Row.count_line,
      List.length_cons, List.map_cons, List.sum_cons]
    omega

/-- An outline has its header, an empty line, the lines of its actions, an empty line and its last
line. The actions take as many lines as they are meant to and one more for every line feed in a
text that is shown as it is. -/
theorem pieces_render (s : Story) (closures : Bool) :
    pieces (render s closures).toList = [header s, []] ++ body s closures ++ [[], "EOF.".toList] ∧
      (body s closures).length = bodyCount s closures + (s.walk.map feeds).sum ∧
      ((body s closures).length = bodyCount s closures ↔ Unbroken s) := by
  have hlength : (body s closures).length = bodyCount s closures + (s.walk.map feeds).sum := by
    rw [body, length_flatMap_pieces, length_bodyRows, sum_bodyRows]
  refine ⟨?_, hlength, ?_⟩
  · rw [render, String.toList_ofList, pieces_text]
  · rw [hlength, Nat.add_eq_left, sum_feeds_eq_zero]

def broken : Story := ⟨.jp, [.telop "a\nb"]⟩

theorem not_bodyCount : ¬∀ (s : Story) (closures : Bool), ∃ ls,
    pieces (render s closures).toList = [header s, []] ++ ls ++ [[], "EOF.".toList] ∧
      ls.length = bodyCount s closures := by
  intro h
  obtain ⟨ls, hpieces, hlength⟩ := h broken true
  have hrender : pieces (render broken true).toList =
      [header broken, []] ++ ["0 Telop(a".toList, "b)".toList] ++ [[], "EOF.".toList] := by
    decide +kernel
  rw [hrender, List.append_left_inj, List.append_right_inj] at hpieces
  rw [← hpieces] at hlength
  exact absurd hlength (by decide)

end Outline

end Stagecraft
