import Stagecraft.Proofs.Trace.Checked
import Stagecraft.Proofs.Trace.Image

namespace Stagecraft

namespace Action

mutual

def depth : Action → ℕ
  | blocking actions => depthAll actions + 1
  | forkTask actions => depthAll actions + 1
  | _ => 0

def depthAll : List Action → ℕ
  | [] => 0
  | a :: rest => max (depth a) (depthAll rest)

end

end Action

namespace Trace

open Outcome (bind_eq_ok mapM_eq_ok exists_left)
open Text (Line)

namespace Checked

/-- A complete literal; what is taken off at its end must be a semicolon. -/
def literal (body : List Char) : Checked ReadError String :=
  if body.getLast? = some ';' then .ok (Trace.literal body) else fault .noSemicolon

def readEntries (tag : Char) (done : Table) (entry : Option (ℕ × List Char)) :
    List Line → Checked ReadError (Table × List Line)
  | [] =>
    match entry with
    | none => .ok (done, [])
    | some (n, _) => .error (.error (.line n .unterminated))
  | l :: rest =>
    match entry with
    | some (n, body) =>
      let body := body ++ '\n' :: l.text
      if endsLiteral body then do readEntries tag (done ++ [← literal body]) none rest
      else readEntries tag done (some (n, body)) rest
    | none =>
      if l.text = [] then .ok (done, rest)
      else match Text.after? (label tag done.length) l.text with
        | none => .error (.error (.line l.number (.wrongEntry (label tag done.length))))
        | some body =>
          if endsLiteral body then do readEntries tag (done ++ [← literal body]) none rest
          else readEntries tag done (some (l.number, body)) rest

def readSections (ls : List Line) : Checked ReadError Sections := do
  let (texts, ls) ← readEntries 't' [] none (← sound (readHeader ".text" ls))
  let (paths, ls) ← readEntries 'p' [] none (← sound (readHeader ".path" ls))
  let ls ← sound (readHeader ".code" ls)
  let subs ← sound (readBlocks [] none ((ls.dropWhile (·.text ≠ [])).drop 1))
  return ⟨texts, paths, ls.takeWhile (·.text ≠ []), subs⟩

def demanded? (opcode : List Char) (args : List Argument) : Option ℕ :=
  if String.ofList opcode = "blk" ∨ String.ofList opcode = "tsk" then
    match args with
    | .sub n :: _ => some n
    | _ => none
  else none

def demanded {ε : Type} (groups : ℕ → Except ε (List Action)) (opcode : List Char)
    (args : List Argument) : Except ε (List Action) :=
  match demanded? opcode args with
  | some n => groups n
  | none => .ok []

def readAction (s : Sections) (depth : ℕ) (groups : ℕ → Checked ReadError (List Action)) (l : Line) :
    Checked ReadError Action := do
  let (opcode, rest) := splitOpcode l.text
  let c : LineContext := ⟨s, l.number, opcode⟩
  let args ← mapError (fun e ↦ .line l.number (.argument e)) (readWithin depth rest)
  let members ← demanded groups opcode args
  let (a, left) ← sound (c.action (fun _ ↦ .ok members) args)
  if left.isEmpty then return a else sound (c.fail (.tooManyArguments opcode))

def readSub (s : Sections) (depth : ℕ) : ℕ → ℕ → ℕ → Checked ReadError (List Action)
  | 0, _, _ => fault .tooDeep
  | nesting + 1, limit, n =>
    if limit ≤ n then .error (.error (.unknownSub n))
    else match s.subs[n]? with
      | none => fault (.noSub n)
      | some ls => ls.mapM (readAction s depth (readSub s depth nesting n))

/-- Reads a trace whose brackets and sub-blocks are nested less than `depth` deep. -/
def read (depth : ℕ) (text : String) (locale : Locale) : Checked ReadError Story := do
  let s ← readSections (Text.numberedLines text.toList)
  let actions ← s.main.mapM (readAction s depth (readSub s depth depth s.subs.length))
  return ⟨locale, actions⟩

end Checked

theorem literal_checked {body : List Char} (h : endsLiteral body) :
    Checked.literal body = .ok (literal body) := by
  have hlast : body.getLast? = some ';' := by
    rcases List.eq_nil_or_concat body with rfl | ⟨cs, c, rfl⟩
    · cases h
    · rw [List.concat_eq_append] at h ⊢
      by_cases hc : c = ';'
      · rw [hc, List.getLast?_concat]
      · rw [endsLiteral_concat_ne hc] at h
        cases h
  exact if_pos hlast

theorem readEntries_checked (tag : Char) (done : Table) (entry : Option (ℕ × List Char))
    (ls : List Line) : Checked.readEntries tag done entry ls =
      Checked.sound (readEntries tag done entry ls) := by
  induction ls generalizing done entry with
  | nil => cases entry <;> rfl
  | cons l ls ih =>
    cases entry with
    | some e =>
      rw [Checked.readEntries, readEntries]
      split
      · next h => rw [literal_checked h, Outcome.ok_bind, ih]
      · exact ih done _
    | none =>
      rw [Checked.readEntries, readEntries]
      split
      · rfl
      · cases Text.after? (label tag done.length) l.text with
        | none => rfl
        | some body =>
          dsimp only
          split
          · next h => rw [literal_checked h, Outcome.ok_bind, ih]
          · exact ih done _

theorem readSections_checked (ls : List Line) :
    Checked.readSections ls = Checked.sound (readSections ls) := by
  rw [Checked.readSections, readSections]
  simp only [Checked.sound_bind, readTable, readEntries_checked]
  rfl

section code

variable {s : Sections} {depth : ℕ} {l : Line} {ls : List Line}

/-- Only groups ask for sub-blocks. -/
theorem action_congr {c : LineContext}
    (h : ¬(String.ofList c.opcode = "blk" ∨ String.ofList c.opcode = "tsk"))
    (groups groups' : ℕ → Except ReadError (List Action)) : c.action groups = c.action groups' := by
  rw [not_or] at h
  unfold LineContext.action
  split
  case h_20 hop => exact absurd hop h.1
  case h_21 hop => exact absurd hop h.2
  all_goals rfl

theorem action_group {c : LineContext}
    (h : String.ofList c.opcode = "blk" ∨ String.ofList c.opcode = "tsk") :
    ∃ make : List Action → Action, ∀ groups,
      c.action groups = do return make (← c.group groups) := by
  rcases h with h | h
  · refine ⟨.blocking, fun groups ↦ ?_⟩
    rw [LineContext.action, h]
    rfl
  · refine ⟨.forkTask, fun groups ↦ ?_⟩
    rw [LineContext.action, h]
    rfl

/-- An instruction asks for the members of its group before all else. -/
theorem action_demanded (c : LineContext) (groups : ℕ → Except ReadError (List Action))
    (args : List Argument) : c.action groups args =
      Checked.demanded groups c.opcode args >>= fun members ↦
        c.action (fun _ ↦ .ok members) args := by
  rw [Checked.demanded]
  by_cases h : String.ofList c.opcode = "blk" ∨ String.ofList c.opcode = "tsk"
  · obtain ⟨make, hmake⟩ := action_group h
    simp only [Checked.demanded?, if_pos h, hmake]
    cases args with
    | nil => rfl
    | cons arg rest =>
      cases arg with
      | sub n =>
        have hrun (groups : ℕ → Except ReadError (List Action)) :
            (do return make (← c.group groups) : LineContext.Taking Action) (.sub n :: rest) =
              (groups n).map fun members ↦ (make members, rest) := by
          change ((groups n).map fun members ↦ (members, rest)) >>= _ = _
          cases groups n <;> rfl
        simp only [hrun]
        cases groups n <;> rfl
      | _ => rfl
  · simp only [Checked.demanded?, if_neg h]
    exact congrFun (action_congr h _ _) args

theorem length_le_of_splitAt? {sep : Char} {cs before behind : List Char}
    (h : Text.splitAt? sep cs = some (before, behind)) : behind.length ≤ cs.length := by
  induction cs generalizing before with
  | nil => cases h
  | cons c cs ih =>
    rw [Text.splitAt?] at h
    split at h
    · cases h
      exact Nat.le_succ _
    · obtain ⟨⟨before', behind'⟩, hsplit, heq⟩ := Option.map_eq_some_iff.1 h
      cases heq
      exact (ih hsplit).trans (Nat.le_succ _)

theorem length_splitOpcode_le (cs : List Char) : (splitOpcode cs).2.length ≤ cs.length := by
  rw [splitOpcode]
  split
  · next h => exact (length_trim_le _).trans (length_le_of_splitAt? h)
  · exact Nat.zero_le _

theorem demanded_checked {groups : ℕ → Except ReadError (List Action)} (opcode : List Char)
    (args : List Argument) : Checked.demanded (fun n ↦ Checked.sound (groups n)) opcode args =
      Checked.sound (Checked.demanded groups opcode args) := by
  rw [Checked.demanded, Checked.demanded]
  cases Checked.demanded? opcode args <;> rfl

theorem readAction_checked {groups : ℕ → Except ReadError (List Action)}
    (hl : l.text.length < depth) :
    Checked.readAction s depth (fun n ↦ Checked.sound (groups n)) l =
      Checked.sound (readAction s groups l) := by
  have hrest : (splitOpcode l.text).2.length < depth :=
    (length_splitOpcode_le l.text).trans_lt hl
  rw [Checked.readAction, readAction]
  dsimp only
  rw [readArguments_checked hrest]
  cases readArguments (splitOpcode l.text).2 with
  | error e => rfl
  | ok args =>
    dsimp only
    rw [Checked.mapError_sound, Outcome.ok_bind, demanded_checked, action_demanded]
    cases Checked.demanded groups (splitOpcode l.text).1 args with
    | error e => rfl
    | ok members =>
      rw [Checked.sound_ok, Outcome.ok_bind, Outcome.ok_bind]
      cases LineContext.action _ (fun _ ↦ .ok members) args with
      | error e => rfl
      | ok p =>
        obtain ⟨a, left⟩ := p
        cases left <;> rfl

theorem readGroup_of_le {limit n : ℕ} (h : limit ≤ n) :
    readGroup s limit n = .error (.unknownSub n) := by
  induction limit with
  | zero => rfl
  | succ limit ih => rw [readGroup, if_neg (by omega), ih (by omega)]

/-- Every sub-block that is looked up is there, and it refers to earlier ones only, so that sub-blocks
are nested no deeper than there are some. -/
theorem readSub_checked {nesting limit n : ℕ} (hdepth : ∀ ls ∈ s.subs, ∀ l ∈ ls, l.text.length < depth)
    (hlimit : limit ≤ s.subs.length) (hnesting : limit < nesting) :
    Checked.readSub s depth nesting limit n = Checked.sound (readGroup s limit n) := by
  induction nesting generalizing limit n with
  | zero => omega
  | succ nesting ih =>
    rw [Checked.readSub]
    split_ifs with hn
    · rw [readGroup_of_le hn]
      rfl
    · have hsub : s.subs[n]? = some s.subs[n] := List.getElem?_eq_getElem (by omega)
      have hgroups : Checked.readSub s depth nesting n = fun m ↦ Checked.sound (readGroup s n m) := by
        funext m
        exact ih (by omega) (by omega)
      rw [hsub, readGroup_eq (by omega), List.getD_eq_getElem?_getD, hsub, Option.getD_some,
        Checked.sound_mapM, hgroups]
      exact Checked.mapM_congr fun l hl ↦
        readAction_checked (hdepth _ (List.getElem_mem _) l hl)

end code

section lines

variable {ls rest : List Line}

structure CutFrom (before : List (List Line)) (ls : List Line) (blocks : List (List Line)) : Prop where
  lines : blocks.flatten.Sublist (before.flatten ++ ls)
  length_le : blocks.length ≤ before.length + ls.length

namespace CutFrom

variable {before blocks : List (List Line)} {b : List Line} {l : Line}

theorem skip (h : CutFrom before ls blocks) : CutFrom before (l :: ls) blocks where
  lines := h.lines.trans ((List.sublist_cons_self l ls).append_left _)
  length_le := h.length_le.trans (Nat.add_le_add_left (Nat.le_succ _) _)

theorem grow (h : CutFrom (before ++ [b ++ [l]]) ls blocks) :
    CutFrom (before ++ [b]) (l :: ls) blocks where
  lines := by simpa using h.lines
  length_le := by
    have hlength := h.length_le
    simp only [List.length_append, List.length_cons] at hlength ⊢
    omega

theorem begin (h : CutFrom (before ++ [[]]) ls blocks) : CutFrom before (l :: ls) blocks where
  lines := by
    have hlines := h.lines
    rw [List.flatten_concat, List.append_nil] at hlines
    exact hlines.trans ((List.sublist_cons_self l ls).append_left _)
  length_le := by
    have hlength := h.length_le
    rw [List.length_append, List.length_singleton] at hlength
    rw [List.length_cons]
    omega

end CutFrom

theorem cutFrom_readBlocks {done blocks : List (List Line)} {current : Option (List Line)}
    (h : readBlocks done current ls = .ok blocks) : CutFrom (done ++ current.toList) ls blocks := by
  induction ls generalizing done current with
  | nil =>
    cases h
    exact ⟨by rw [List.append_nil], le_rfl⟩
  | cons l ls ih =>
    cases current with
    | some b =>
      rw [readBlocks] at h
      split at h
      · have hrest := ih h
        rw [Option.toList_none, List.append_nil] at hrest
        exact hrest.skip
      · exact (ih h).grow
    | none =>
      rw [readBlocks] at h
      rw [Option.toList_none, List.append_nil]
      split at h
      · have hrest := ih h
        rw [Option.toList_none, List.append_nil] at hrest
        exact hrest.skip
      · split at h
        · cases h
        · split at h
          · exact (ih h).begin
          · cases h

theorem bounds_of_readSections {s : Sections} (h : readSections ls = .ok s) :
    s.subs.length ≤ ls.length ∧ (∀ l ∈ s.main, l ∈ ls) ∧ ∀ b ∈ s.subs, ∀ l ∈ b, l ∈ ls := by
  rw [readSections_eq] at h
  obtain ⟨ls₁, h₁, h⟩ := bind_eq_ok.1 h
  obtain ⟨⟨texts, ls₂⟩, h₂, h⟩ := bind_eq_ok.1 h
  obtain ⟨ls₃, h₃, h⟩ := bind_eq_ok.1 h
  obtain ⟨⟨paths, ls₄⟩, h₄, h⟩ := bind_eq_ok.1 h
  obtain ⟨ls₅, h₅, h⟩ := bind_eq_ok.1 h
  obtain ⟨subs, hsubs, h⟩ := bind_eq_ok.1 h
  obtain rfl := Except.ok.inj h
  have hpaths : ls₄ <:+ ls₂ := (suffix_of_readEntries h₄).trans (suffix_of_readHeader h₃)
  have htexts : ls₂ <:+ ls := (suffix_of_readEntries h₂).trans (suffix_of_readHeader h₁)
  have hcode : ls₅ <:+ ls := (suffix_of_readHeader h₅).trans (hpaths.trans htexts)
  have hbehind : ((ls₅.dropWhile (·.text ≠ [])).drop 1) <:+ ls :=
    (List.drop_suffix _ _).trans ((List.dropWhile_suffix _).trans hcode)
  have hblocks := cutFrom_readBlocks hsubs
  refine ⟨?_, fun l hl ↦ ?_, fun b hb l hl ↦ ?_⟩
  · have hlength := hblocks.length_le
    rw [Option.toList_none, List.append_nil, List.length_nil, Nat.zero_add] at hlength
    exact hlength.trans hbehind.length_le
  · exact hcode.subset ((List.takeWhile_prefix _).subset hl)
  · exact hbehind.subset (hblocks.lines.subset (List.mem_flatten.2 ⟨b, hb, hl⟩))

end lines

section nesting

variable {s : Sections}

theorem depth_eq (a : Action) : a.depth = (a.members?.map fun ms ↦ Action.depthAll ms + 1).getD 0 := by
  cases a <;> rfl

theorem depthAll_le_iff {actions : List Action} {n : ℕ} :
    Action.depthAll actions ≤ n ↔ ∀ a ∈ actions, a.depth ≤ n := by
  induction actions with
  | nil => simp [Action.depthAll]
  | cons a actions ih => rw [Action.depthAll, max_le_iff, ih, List.forall_mem_cons]

theorem depthAll_le_of_groups {groups : ℕ → Except ReadError (List Action)} {limit : ℕ}
    {ls : List Line} {actions : List Action}
    (hgroups : ∀ n members, groups n = .ok members → Action.depthAll members < limit)
    (h : ls.mapM (readAction s groups) = .ok actions) : Action.depthAll actions ≤ limit := by
  rw [depthAll_le_iff]
  intro a ha
  obtain ⟨l, -, hl⟩ := exists_left (mapM_eq_ok.1 h) ha
  obtain ⟨-, hmembers⟩ := readAction_sound hl
  rw [depth_eq]
  cases hm : a.members? with
  | none => exact Nat.zero_le _
  | some members =>
    obtain ⟨n, hn⟩ := hmembers members hm
    exact hgroups n members hn

theorem depthAll_lt_of_readGroup {limit n : ℕ} {actions : List Action}
    (h : readGroup s limit n = .ok actions) : Action.depthAll actions < limit := by
  induction limit generalizing n actions with
  | zero => cases h
  | succ limit ih =>
    rw [readGroup] at h
    split at h
    · exact Nat.lt_succ_of_le (depthAll_le_of_groups (fun n members hn ↦ ih hn) h)
    · exact (ih h).trans (Nat.lt_succ_self _)

end nesting

theorem read_checked (text : String) (locale : Locale) {depth : ℕ} (h : text.length < depth) :
    Checked.read depth text locale = Checked.sound (read text locale) := by
  rw [Checked.read, read, readSections_checked]
  cases hsections : readSections (Text.numberedLines text.toList) with
  | error e => rfl
  | ok s =>
    obtain ⟨hsubs, hmain, hlines⟩ := bounds_of_readSections hsections
    have hlength : text.toList.length < depth := by rwa [String.length_toList]
    have hcount := Text.length_numberedLines_le text.toList
    have hshort : ∀ l ∈ Text.numberedLines text.toList, l.text.length < depth := fun l hl ↦
      (Text.length_text_le hl).trans_lt hlength
    have hgroups : Checked.readSub s depth depth s.subs.length =
        fun n ↦ Checked.sound (readGroup s s.subs.length n) := by
      funext n
      exact readSub_checked (fun b hb l hl ↦ hshort l (hlines b hb l hl)) le_rfl (by omega)
    have hcode : s.main.mapM
        (Checked.readAction s depth (Checked.readSub s depth depth s.subs.length)) =
          Checked.sound (readCode s) := by
      rw [readCode, Checked.sound_mapM, hgroups]
      exact Checked.mapM_congr fun l hl ↦ readAction_checked (hshort l (hmain l hl))
    rw [Checked.sound_ok, Outcome.ok_bind, Outcome.ok_bind, hcode, Checked.sound_bind]
    rfl

/-- Every step of the reader stays in bounds, however deep it is allowed to nest as long as that is more
than the text is long. A story that was read is nested no deeper than the text has sub-blocks. -/
theorem read_safe (text : String) (locale : Locale) :
    (∀ depth, text.length < depth →
      Checked.read depth text locale = Checked.sound (read text locale)) ∧
    ∀ story, read text locale = .ok story →
      ∃ s, readSections (Text.numberedLines text.toList) = .ok s ∧
        Action.depthAll story.actions ≤ s.subs.length := by
  refine ⟨fun depth h ↦ read_checked text locale h, fun story h ↦ ?_⟩
  obtain ⟨s, hs, h⟩ := bind_eq_ok.1 h
  obtain ⟨actions, hactions, h⟩ := bind_eq_ok.1 h
  obtain rfl := Except.ok.inj h
  exact ⟨s, hs, depthAll_le_of_groups (fun n members ↦ depthAll_lt_of_readGroup) hactions⟩

theorem read_safe_sharedText :
    sharedText.length < 100 ∧
    Checked.read 100 sharedText .jp = Checked.sound (.ok sharedStory) ∧
    read sharedText .jp = .ok sharedStory ∧
    ∃ s, readSections (Text.numberedLines sharedText.toList) = .ok s ∧
      Action.depthAll sharedStory.actions ≤ s.subs.length := by
  have hlength : sharedText.length < 100 := by decide +kernel
  obtain ⟨hchecked, hdepth⟩ := read_safe sharedText .jp
  have hsound := hchecked 100 hlength
  rw [read_sharedText] at hsound
  exact ⟨hlength, hsound, read_sharedText, hdepth sharedStory read_sharedText⟩

end Trace

end Stagecraft
