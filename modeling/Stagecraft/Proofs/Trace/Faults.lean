import Stagecraft.Proofs.Trace.Layout
import Stagecraft.Proofs.Trace.Safety

namespace Stagecraft.Trace

open Outcome (bind_eq_ok mapM_eq_error)
open Text (Line)

def asked? (l : Line) : Option ℕ :=
  match readArguments (splitOpcode l.text).2 with
  | .ok args => Checked.demanded? (splitOpcode l.text).1 args
  | .error _ => none

def Fits (s : Sections) (l : Line) : Prop :=
  ∃ groups a args, readArguments (splitOpcode l.text).2 = .ok args ∧
    String.ofList (splitOpcode l.text).1 = opcode a ∧
    ReadsFrom ⟨s, l.number, (splitOpcode l.text).1⟩ groups a args

/-- The opcode or the arguments of a line are refused: those of no action are so, and `e` is what is wrong
with them, whatever the sub-blocks hold. -/
structure Refused (s : Sections) (l : Line) (e : LineError) : Prop where
  unfit : ¬Fits s l
  reason : ∀ groups, (∀ n, ∃ members, groups n = .ok members) →
    readAction s groups l = .error (.line l.number e)

def FailsAt {α : Type} (n : ℕ) (x : Except ReadError α) : Prop :=
  ∀ e, x = .error e → ∃ e', e = .line n e'

namespace FailsAt

variable {α β : Type} {n : ℕ}

theorem ok (a : α) : FailsAt n (.ok a) := nofun

theorem line (e : LineError) : FailsAt n (.error (.line n e) : Except ReadError α) := by
  intro e' h
  exact ⟨e, (Except.error.inj h).symm⟩

theorem bind {x : Except ReadError α} {f : α → Except ReadError β} (hx : FailsAt n x)
    (hf : ∀ a, FailsAt n (f a)) : FailsAt n (x >>= f) := by
  cases x with
  | error e =>
    intro e' h
    exact hx e' (congrArg _ (Except.error.inj h))
  | ok a => exact hf a

theorem map {x : Except ReadError α} (hx : FailsAt n x) (f : α → β) : FailsAt n (x.map f) := by
  cases x with
  | error e =>
    intro e' h
    exact hx e' (congrArg _ (Except.error.inj h))
  | ok a => exact ok _

theorem mapM {f : α → Except ReadError β} (hf : ∀ a, FailsAt n (f a)) (xs : List α) :
    FailsAt n (xs.mapM f) := by
  intro e h
  obtain ⟨_, x, _, -, -, hx⟩ := mapM_eq_error.1 h
  exact hf x e hx

end FailsAt

namespace LineContext

variable {c : LineContext} {α β : Type}

theorem failsAt_integer (a : Argument) : FailsAt c.line (c.asInteger a) := by
  unfold asInteger
  split
  · split
    · exact .ok _
    · exact .line _
  · exact .line _

theorem failsAt_text (a : Argument) : FailsAt c.line (c.asText a) := by
  unfold asText
  split
  · split
    · exact .ok _
    · exact .line _
  · exact .line _

theorem failsAt_path (a : Argument) : FailsAt c.line (c.asPath a) := by
  unfold asPath
  split
  · split
    · exact .ok _
    · exact .line _
  · exact .line _

theorem failsAt_number (a : Argument) : FailsAt c.line (c.asNumber a) := by
  unfold asNumber
  split
  · exact .ok _
  · exact .line _

theorem failsAt_list (a : Argument) : FailsAt c.line (c.asList a) := by
  unfold asList
  split
  · exact .ok _
  · exact .line _

theorem failsAt_position (a : Argument) : FailsAt c.line (c.asPosition a) := by
  unfold asPosition
  split
  · split
    · exact .ok _
    · exact .line _
  · exact .line _

def Local (c : LineContext) (m : Taking α) : Prop := ∀ args, FailsAt c.line (m args)

namespace Local

theorem pure (a : α) : c.Local (Pure.pure a) := fun _ ↦ .ok _

theorem bind {m : Taking α} {k : α → Taking β} (hm : c.Local m) (hk : ∀ a, c.Local (k a)) :
    c.Local (m >>= k) := fun args ↦ (hm args).bind fun (a, left) ↦ hk a left

theorem take {wanted : String} {read : Argument → Except ReadError α}
    (h : ∀ a, FailsAt c.line (read a)) : c.Local (c.take wanted read) := by
  intro args
  cases args with
  | nil => exact .line _
  | cons a rest => exact (h a).map _

theorem integer : c.Local c.integer := take failsAt_integer

theorem number : c.Local c.number := take failsAt_number

theorem text : c.Local c.text := take failsAt_text

theorem path : c.Local c.path := take failsAt_path

theorem position : c.Local c.position := take failsAt_position

theorem list {read : Argument → Except ReadError α} (h : ∀ a, FailsAt c.line (read a)) :
    c.Local (c.list read) := take fun a ↦ (failsAt_list a).bind fun items ↦ .mapM h items

theorem optionalPath : c.Local c.optionalPath := by
  intro args
  cases args with
  | nil => exact .ok _
  | cons a rest => exact path.bind (fun s ↦ pure (some s)) (a :: rest)

theorem group {groups : ℕ → Except ReadError (List Action)} (h : ∀ n, FailsAt c.line (groups n)) :
    c.Local (c.group groups) := by
  refine take fun a ↦ ?_
  cases a with
  | sub n => exact h n
  | _ => exact .line _

theorem action {groups : ℕ → Except ReadError (List Action)} (h : ∀ n, FailsAt c.line (groups n)) :
    c.Local (c.action groups) := by
  unfold LineContext.action
  split
  · exact text.bind fun _ ↦ (list failsAt_integer).bind fun _ ↦ (list failsAt_text).bind fun _ ↦
      optionalPath.bind fun _ ↦ pure _
  · exact text.bind fun _ ↦ pure _
  · exact integer.bind fun _ ↦ path.bind fun _ ↦ position.bind fun _ ↦ pure _
  · exact integer.bind fun _ ↦ pure _
  · exact integer.bind fun _ ↦ position.bind fun _ ↦ pure _
  · exact integer.bind fun _ ↦ text.bind fun _ ↦ pure _
  · exact integer.bind fun _ ↦ text.bind fun _ ↦ pure _
  · exact integer.bind fun _ ↦ pure _
  · exact integer.bind fun _ ↦ pure _
  · exact number.bind fun _ ↦ pure _
  · exact number.bind fun _ ↦ pure _
  · exact number.bind fun _ ↦ pure _
  · exact number.bind fun _ ↦ pure _
  · exact number.bind fun _ ↦ pure _
  · exact number.bind fun _ ↦ pure _
  · exact path.bind fun _ ↦ pure _
  · exact path.bind fun _ ↦ pure _
  · exact path.bind fun _ ↦ pure _
  · exact number.bind fun _ ↦ pure _
  · exact (group h).bind fun _ ↦ pure _
  · exact (group h).bind fun _ ↦ pure _
  · exact pure _
  · exact pure _
  · exact fun _ ↦ .line _

end Local

/-- The members of a group change neither whether its arguments are accepted nor which are left. -/
theorem map_snd_action (members members' : List Action) (args : List Argument) :
    (c.action (fun _ ↦ .ok members) args).map Prod.snd =
      (c.action (fun _ ↦ .ok members') args).map Prod.snd := by
  by_cases h : String.ofList c.opcode = "blk" ∨ String.ofList c.opcode = "tsk"
  · obtain ⟨make, hmake⟩ := action_group h
    rw [hmake, hmake]
    cases args with
    | nil => rfl
    | cons a rest => cases a <;> rfl
  · rw [action_congr h (fun _ ↦ .ok members) (fun _ ↦ .ok members')]

end LineContext

variable {s : Sections} {groups : ℕ → Except ReadError (List Action)} {l : Line}
  {members : List Action} {e : LineError}

/-- A line is read as what its group holds and what it says itself. -/
theorem readAction_bind (s : Sections) (groups : ℕ → Except ReadError (List Action)) (l : Line) :
    readAction s groups l = (asked? l).elim (.ok []) groups >>= fun members ↦
      readAction s (fun _ ↦ .ok members) l := by
  simp only [readAction, asked?]
  cases readArguments (splitOpcode l.text).2 with
  | error e => rfl
  | ok args =>
    dsimp only
    rw [action_demanded, Checked.demanded]
    cases Checked.demanded? (splitOpcode l.text).1 args with
    | none => rfl
    | some n =>
      dsimp only [Option.elim]
      cases groups n <;> rfl

theorem failsAt_readAction (h : ∀ n, FailsAt l.number (groups n)) :
    FailsAt l.number (readAction s groups l) := by
  simp only [readAction]
  cases readArguments (splitOpcode l.text).2 with
  | error e => exact .line _
  | ok args =>
    have hlocal := LineContext.Local.action (c := ⟨s, l.number, (splitOpcode l.text).1⟩) h args
    dsimp only
    split
    · next e' he' =>
      intro e'' h''
      exact hlocal e'' (he'.trans (congrArg _ (Except.error.inj h'')))
    · split
      · exact .ok _
      · exact .line _

theorem readAction_members {e : ReadError} (h : readAction s (fun _ ↦ .ok members) l = .error e)
    (members' : List Action) : readAction s (fun _ ↦ .ok members') l = .error e := by
  simp only [readAction] at h ⊢
  cases hargs : readArguments (splitOpcode l.text).2 with
  | error e' =>
    rw [hargs] at h
    exact h
  | ok args =>
    rw [hargs] at h
    have hsame := LineContext.map_snd_action (c := ⟨s, l.number, (splitOpcode l.text).1⟩) members
      members' args
    dsimp only at h ⊢
    -- Only the arguments that are left decide, and these are the same.
    revert h hsame
    generalize LineContext.action _ (fun _ ↦ .ok members) args = x
    generalize LineContext.action _ (fun _ ↦ .ok members') args = y
    intro h hsame
    cases x with
    | error e₁ =>
      cases y with
      | error e₂ =>
        obtain rfl := Except.error.inj hsame
        exact h
      | ok p => cases hsame
    | ok p =>
      cases y with
      | error e₂ => cases hsame
      | ok q =>
        obtain ⟨a, left⟩ := p
        obtain ⟨b, left'⟩ := q
        obtain rfl : left = left' := Except.ok.inj hsame
        cases left with
        | nil => cases h
        | cons d left => exact h

/-- If a line is not read although its group is, the line itself is refused. -/
theorem exists_refused {e : ReadError} (h : readAction s (fun _ ↦ .ok members) l = .error e) :
    ∃ e', e = .line l.number e' ∧ Refused s l e' := by
  obtain ⟨e', rfl⟩ := failsAt_readAction (fun _ ↦ .ok members) e h
  refine ⟨e', rfl, ?_, ?_⟩
  · rintro ⟨groups, a, hfits⟩
    have hread := readAction_eq_ok.2 hfits
    rw [readAction_bind] at hread
    obtain ⟨members', -, hread⟩ := bind_eq_ok.1 hread
    rw [readAction_members h members'] at hread
    cases hread
  · intro groups hgroups
    rw [readAction_bind]
    cases asked? l with
    | none => exact readAction_members h []
    | some n =>
      obtain ⟨members', hmembers⟩ := hgroups n
      rw [Option.elim, hmembers]
      exact readAction_members h members'

theorem Refused.readAction_eq_error (h : Refused s l e)
    (hasked : ∀ n ∈ asked? l, ∃ members, groups n = .ok members) :
    readAction s groups l = .error (.line l.number e) := by
  have hself (members : List Action) : readAction s (fun _ ↦ .ok members) l = _ :=
    h.reason (fun _ ↦ .ok members) fun _ ↦ ⟨members, rfl⟩
  rw [readAction_bind]
  cases ha : asked? l with
  | none => exact hself []
  | some n =>
    obtain ⟨members, hmembers⟩ := hasked n ha
    rw [Option.elim, hmembers]
    exact hself members

/-- `Reaches s limit ls l` says that reading the lines `ls`, which may ask for sub-blocks below `limit`,
comes to the line `l`: all lines before it are read, and it is one of `ls` or of the sub-block that one of
them asks for, however deep. -/
inductive Reaches (s : Sections) : ℕ → List Line → Line → Prop
  | here {limit : ℕ} {before behind : List Line} {l : Line}
      (hread : ∀ m ∈ before, ∃ a, readAction s (readGroup s limit) m = .ok a)
      (hasked : ∀ n ∈ asked? l, ∃ members, readGroup s limit n = .ok members) :
      Reaches s limit (before ++ l :: behind) l
  | sub {limit n : ℕ} {before behind block : List Line} {m l : Line}
      (hread : ∀ m ∈ before, ∃ a, readAction s (readGroup s limit) m = .ok a)
      (hm : asked? m = some n) (hn : n < limit) (hblock : s.subs[n]? = some block)
      (hl : Reaches s n block l) : Reaches s limit (before ++ m :: behind) l

variable {ls : List Line} {limit n : ℕ}

theorem Reaches.mem (h : Reaches s limit ls l) : l ∈ ls ∨ ∃ b ∈ s.subs, l ∈ b := by
  induction h with
  | here hread hasked => exact .inl (List.mem_append_right _ List.mem_cons_self)
  | sub hread hm hn hblock hl ih =>
    rcases ih with ih | ih
    · exact .inr ⟨_, List.mem_of_getElem? hblock, ih⟩
    · exact .inr ih

theorem readGroup_block {block : List Line} (hn : n < limit) (hblock : s.subs[n]? = some block) :
    readGroup s limit n = block.mapM (readAction s (readGroup s n)) := by
  rw [readGroup_eq hn, List.getD_eq_getElem?_getD, hblock, Option.getD_some]

theorem Reaches.mapM_eq_error (h : Reaches s limit ls l) (hr : Refused s l e) :
    ls.mapM (readAction s (readGroup s limit)) = .error (.line l.number e) := by
  induction h with
  | here hread hasked =>
    exact Outcome.mapM_eq_error.2 ⟨_, _, _, rfl, hread, hr.readAction_eq_error hasked⟩
  | @sub limit n before behind block m l hread hm hn hblock hl ih =>
    refine Outcome.mapM_eq_error.2 ⟨_, _, _, rfl, hread, ?_⟩
    rw [readAction_bind, hm, Option.elim, readGroup_block hn hblock, ih hr]
    rfl

theorem exists_reaches (hlimit : limit ≤ s.subs.length)
    (h : ls.mapM (readAction s (readGroup s limit)) = .error (.line n e)) :
    ∃ l, l.number = n ∧ Reaches s limit ls l ∧ Refused s l e := by
  induction limit using Nat.strong_induction_on generalizing ls with
  | h limit ih =>
    obtain ⟨before, m, behind, rfl, hread, hm⟩ := Outcome.mapM_eq_error.1 h
    have hself {members : List Action}
        (hasked : ∀ k ∈ asked? m, ∃ members, readGroup s limit k = .ok members)
        (hm : readAction s (fun _ ↦ .ok members) m = .error (.line n e)) :
        ∃ l, l.number = n ∧ Reaches s limit (before ++ m :: behind) l ∧ Refused s l e := by
      obtain ⟨e', he', hrefused⟩ := exists_refused hm
      obtain ⟨rfl, rfl⟩ := ReadError.line.inj he'
      exact ⟨m, rfl, .here hread hasked, hrefused⟩
    rw [readAction_bind] at hm
    cases ha : asked? m with
    | none =>
      rw [ha] at hm
      exact hself (by simp [ha]) hm
    | some k =>
      rw [ha, Option.elim] at hm
      cases hk : readGroup s limit k with
      | ok members =>
        rw [hk] at hm
        exact hself (by simpa [ha] using ⟨members, hk⟩) hm
      | error e' =>
        rw [hk] at hm
        obtain rfl := Except.error.inj hm
        -- A reference to any other sub-block is an error without a line.
        have hlt : k < limit := by
          by_contra hle
          rw [readGroup_of_le (not_lt.1 hle)] at hk
          cases hk
        have hblock : s.subs[k]? = some s.subs[k] := List.getElem?_eq_getElem (by omega)
        rw [readGroup_block hlt hblock] at hk
        obtain ⟨l, hl, hreaches, hrefused⟩ := ih k hlt (by omega) hk
        exact ⟨l, hl, .sub hread ha hlt hblock hreaches, hrefused⟩

/-- The line at fault and what is wrong with it: the first line that is out of place or, if there is none,
the first line of code that is refused, in the order in which code and sub-blocks are read. -/
inductive AtFault : List Line → Line → LineError → Prop
  | layout {ls : List Line} {l : Line} {e : LineError} (h : Misplaced ls l e) : AtFault ls l e
  | code {ls : List Line} {s : Sections} {l : Line} {e : LineError} (hs : Complete ls s)
      (hl : Reaches s s.subs.length s.main l) (h : Refused s l e) : AtFault ls l e

theorem AtFault.mem (h : AtFault ls l e) : l ∈ ls := by
  cases h with
  | layout h => cases h <;> exact List.mem_append_right _ List.mem_cons_self
  | code hs hl h =>
    obtain ⟨-, hmain, hsubs⟩ := bounds_of_readSections hs.readSections
    rcases hl.mem with hl | ⟨b, hb, hl⟩
    · exact hmain l hl
    · exact hsubs b hb l hl

theorem AtFault.read {text : String} (h : AtFault (Text.numberedLines text.toList) l e)
    (locale : Locale) : Trace.read text locale = .error (.line l.number e) := by
  rw [Trace.read]
  cases h with
  | layout h =>
    rw [h.readSections]
    rfl
  | code hs hl h =>
    rw [hs.readSections, Outcome.ok_bind, readCode, hl.mapM_eq_error h]
    rfl

theorem exists_atFault {text : String} {locale : Locale}
    (h : read text locale = .error (.line n e)) :
    ∃ l, l.number = n ∧ AtFault (Text.numberedLines text.toList) l e := by
  rw [read] at h
  cases hs : readSections (Text.numberedLines text.toList) with
  | error e' =>
    rw [hs] at h
    obtain rfl := Except.error.inj h
    cases readSections_eq_iff.1 hs with
    | misplaced hl => exact ⟨_, rfl, .layout hl⟩
  | ok s =>
    rw [hs, Outcome.ok_bind] at h
    have hcode : readCode s = .error (.line n e) := by
      cases hc : readCode s with
      | error e' =>
        rw [hc] at h
        exact congrArg _ (Except.error.inj h)
      | ok actions =>
        rw [hc] at h
        cases h
    obtain ⟨l, hl, hreaches, hrefused⟩ := exists_reaches le_rfl hcode
    cases readSections_eq_iff.1 hs with
    | complete hs => exact ⟨l, hl, .code hs hreaches hrefused⟩

/-- The reader fails at a line just if that line is at fault, and it names it by its number in the text. -/
theorem read_eq_error_iff (text : String) (locale : Locale) (n : ℕ) (e : LineError) :
    read text locale = .error (.line n e) ↔
      ∃ l, l.number = n ∧ Text.IsLine text.toList l ∧
        AtFault (Text.numberedLines text.toList) l e := by
  constructor
  · intro h
    obtain ⟨l, hl, hfault⟩ := exists_atFault h
    exact ⟨l, hl, Text.mem_numberedLines.1 hfault.mem, hfault⟩
  · rintro ⟨l, rfl, -, hfault⟩
    exact hfault.read locale

def nestedText : String :=
  ".text\nt0: two\n\nlines;\n\n.path\n\n.code\nblk    $sub_1\n\nsub_0:\nzzz\n\nsub_1:\ntsk    $sub_0\n"

def nestedSections : Sections where
  texts := ["two\n\nlines"]
  paths := []
  main := [⟨9, "blk    $sub_1".toList⟩]
  subs := [[⟨12, "zzz".toList⟩], [⟨15, "tsk    $sub_0".toList⟩]]

theorem complete_nestedText :
    Complete (Text.numberedLines nestedText.toList) nestedSections := by
  have hread : readSections (Text.numberedLines nestedText.toList) = .ok nestedSections := rfl
  cases readSections_eq_iff.1 hread with
  | complete h => exact h

theorem asked?_group {a : Action} {n : ℕ} (hn : n < referenceBound)
    (ha : opcode a = "blk" ∨ opcode a = "tsk")
    (hl : l.text = Instruction.write ⟨opcode a, [.sub n]⟩) : asked? l = some n := by
  have hi : (⟨opcode a, [.sub n]⟩ : Instruction).Regular := opcode_regular a ⟨hn, trivial⟩
  have hargs : readArguments (splitOpcode l.text).2 = .ok [.sub n] := by
    rw [hl, hi.readArguments_splitOpcode]
    rfl
  rw [asked?, hargs, hl, hi.splitOpcode_write]
  simp only [Checked.demanded?, String.ofList_toList, if_pos ha]

theorem reaches_nestedText : Reaches nestedSections nestedSections.subs.length nestedSections.main
    ⟨12, "zzz".toList⟩ := by
  have houter : asked? ⟨9, "blk    $sub_1".toList⟩ = some 1 :=
    asked?_group (a := .blocking []) (by decide) (.inl rfl) (by decide)
  have hinner : asked? ⟨15, "tsk    $sub_0".toList⟩ = some 0 :=
    asked?_group (a := .forkTask []) (by decide) (.inr rfl) (by decide)
  have hnone : asked? ⟨12, "zzz".toList⟩ = none := by cbv
  have hhere : Reaches nestedSections 0 ([] ++ [⟨12, "zzz".toList⟩]) ⟨12, "zzz".toList⟩ := by
    refine .here (List.forall_mem_nil _) fun n hn ↦ ?_
    rw [hnone] at hn
    cases hn
  have hsub : Reaches nestedSections 1 ([] ++ [⟨15, "tsk    $sub_0".toList⟩]) ⟨12, "zzz".toList⟩ :=
    .sub (List.forall_mem_nil _) hinner Nat.zero_lt_one rfl hhere
  have hmain : Reaches nestedSections 2 ([] ++ [⟨9, "blk    $sub_1".toList⟩]) ⟨12, "zzz".toList⟩ :=
    .sub (List.forall_mem_nil _) houter Nat.one_lt_two rfl hsub
  exact hmain

theorem refused_nestedText :
    Refused nestedSections ⟨12, "zzz".toList⟩ (.unknownOpcode "zzz".toList) := by
  have hread : readAction nestedSections (fun _ ↦ .ok []) ⟨12, "zzz".toList⟩ =
      .error (.line 12 (.unknownOpcode "zzz".toList)) := by cbv
  obtain ⟨e, he, hrefused⟩ := exists_refused hread
  obtain ⟨-, rfl⟩ := ReadError.line.inj he
  exact hrefused

theorem read_eq_error_iff_nestedText :
    AtFault (Text.numberedLines nestedText.toList) ⟨12, "zzz".toList⟩ (.unknownOpcode "zzz".toList) ∧
      read nestedText .jp = .error (.line 12 (.unknownOpcode "zzz".toList)) := by
  have hfault := AtFault.code complete_nestedText reaches_nestedText refused_nestedText
  have hline := Text.mem_numberedLines.1 hfault.mem
  exact ⟨hfault, (read_eq_error_iff nestedText .jp 12 _).2 ⟨_, rfl, hline, hfault⟩⟩

end Stagecraft.Trace
