import Stagecraft.Proofs.Trace.RoundTrip
import Stagecraft.Proofs.Trace.Spelling

namespace Stagecraft.Trace

open Text (Line)

variable {t t' : Tables} {code code' : Code} {i j : Instruction}

/-- Lines that are not empty end at the first empty line. -/
theorem append_nil_cons_inj {xs xs' ys ys' : List (List Char)} (hxs : [] ∉ xs) (hxs' : [] ∉ xs')
    (h : xs ++ [] :: ys = xs' ++ [] :: ys') : xs = xs' ∧ ys = ys' := by
  induction xs generalizing xs' with
  | nil =>
    cases xs' with
    | nil => exact ⟨rfl, List.tail_eq_of_cons_eq h⟩
    | cons x xs' => exact absurd (List.head_eq_of_cons_eq h ▸ List.mem_cons_self) hxs'
  | cons x xs ih =>
    cases xs' with
    | nil => exact absurd (List.head_eq_of_cons_eq h ▸ List.mem_cons_self) hxs
    | cons x' xs' =>
      obtain ⟨hx, hrest⟩ := List.cons.inj h
      obtain ⟨hxs, hys⟩ := ih (fun hm ↦ hxs (List.mem_cons_of_mem x hm))
        (fun hm ↦ hxs' (List.mem_cons_of_mem x' hm)) hrest
      exact ⟨by rw [hx, hxs], hys⟩

theorem nil_notMem_lines {is : List Instruction} (h : ∀ i ∈ is, i.Spelled) :
    [] ∉ is.map Instruction.write := by
  intro hm
  obtain ⟨i, hi, hnil⟩ := List.mem_map.1 hm
  exact (h i hi).write_ne_nil hnil

theorem subLabel_ne_nil (n : ℕ) : subLabel n ≠ [] := by simp [subLabel_eq]

theorem nil_notMem_block {b : List Instruction} (h : ∀ i ∈ b, i.Spelled) (n : ℕ) :
    [] ∉ subLabel n :: b.map Instruction.write := by
  rw [List.mem_cons, not_or]
  exact ⟨(subLabel_ne_nil n).symm, nil_notMem_lines h⟩

def closedLines : ℕ → List (List Instruction) → List (List Char)
  | _, [] => []
  | n, b :: rest => subLabel n :: b.map Instruction.write ++ [] :: closedLines (n + 1) rest

theorem subLines_cons_ne_nil (n : ℕ) (b : List Instruction) (rest : List (List Instruction)) :
    subLines n (b :: rest) ≠ [] := by
  cases rest <;> exact List.cons_ne_nil _ _

theorem closedLines_eq (n : ℕ) (subs : List (List Instruction)) : closedLines n subs =
    if subLines n subs = [] then [] else subLines n subs ++ [[]] := by
  induction subs generalizing n with
  | nil => rfl
  | cons b rest ih =>
    rw [if_neg (subLines_cons_ne_nil n b rest), closedLines, ih]
    cases rest with
    | nil => rfl
    | cons b' rest =>
      have hlines : subLines n (b :: b' :: rest) =
          subLabel n :: b.map Instruction.write ++ [] :: subLines (n + 1) (b' :: rest) := rfl
      rw [if_neg (subLines_cons_ne_nil (n + 1) b' rest), hlines, List.append_assoc]
      rfl

theorem map_write_of_closedLines {subs subs' : List (List Instruction)} {n : ℕ}
    (hsubs : ∀ b ∈ subs, ∀ i ∈ b, i.Spelled) (hsubs' : ∀ b ∈ subs', ∀ i ∈ b, i.Spelled)
    (h : closedLines n subs = closedLines n subs') :
    subs.map (List.map Instruction.write) = subs'.map (List.map Instruction.write) := by
  induction subs generalizing n subs' with
  | nil =>
    cases subs' with
    | nil => rfl
    | cons b rest => cases h
  | cons b rest ih =>
    cases subs' with
    | nil => cases h
    | cons b' rest' =>
      obtain ⟨hb, hrest⟩ := List.forall_mem_cons.1 hsubs
      obtain ⟨hb', hrest'⟩ := List.forall_mem_cons.1 hsubs'
      obtain ⟨hblock, hlines⟩ :=
        append_nil_cons_inj (nil_notMem_block hb n) (nil_notMem_block hb' n) h
      rw [List.map_cons, List.map_cons, List.tail_eq_of_cons_eq hblock, ih hrest hrest' hlines]

/-- The lines of sub-blocks tell the lines of each. -/
theorem map_write_of_subLines {subs subs' : List (List Instruction)} {n : ℕ}
    (hsubs : ∀ b ∈ subs, ∀ i ∈ b, i.Spelled) (hsubs' : ∀ b ∈ subs', ∀ i ∈ b, i.Spelled)
    (h : subLines n subs = subLines n subs') :
    subs.map (List.map Instruction.write) = subs'.map (List.map Instruction.write) := by
  refine map_write_of_closedLines (n := n) hsubs hsubs' ?_
  rw [closedLines_eq, closedLines_eq, h]

theorem map_write_of_codeLines (hc : code.Spelled) (hc' : code'.Spelled)
    (h : codeLines code = codeLines code') :
    code.main.map Instruction.write = code'.main.map Instruction.write ∧
      code.subs.map (List.map Instruction.write) = code'.subs.map (List.map Instruction.write) := by
  obtain ⟨hmain, hsubs⟩ := append_nil_cons_inj (nil_notMem_lines hc.main) (nil_notMem_lines hc'.main)
    (List.tail_eq_of_cons_eq h)
  exact ⟨hmain, map_write_of_subLines hc.subs hc'.subs hsubs⟩

/-- A section of a table is read as that table, so it tells the table and what follows. -/
theorem table_of_section {header : String} {tag : Char} {table table' : Table}
    {rest rest' : List (List Char)} (ht : tag ≠ '\n') (hs : ∀ s ∈ table, ¬EndsInBackslash s)
    (hs' : ∀ s ∈ table', ¬EndsInBackslash s)
    (h : header.toList :: entryLines tag 0 table ++ [] :: rest =
      header.toList :: entryLines tag 0 table' ++ [] :: rest') : table = table' ∧ rest = rest' := by
  obtain ⟨ls, hls⟩ : ∃ ls : List Line, ls.map Line.text =
      header.toList :: entryLines tag 0 table ++ [] :: rest :=
    ⟨_, Text.map_text_numberedFrom 0 _⟩
  obtain ⟨xs, e, ys, hheader, hxs, he, hys⟩ := exists_section hls
  obtain ⟨xs', e', ys', hheader', hxs', he', hys'⟩ := exists_section (hls.trans h)
  have hsame := readTable_good ht hs hxs he ys
  rw [Except.ok.inj (hheader.symm.trans hheader'), readTable_good ht hs' hxs' he' ys'] at hsame
  cases hsame
  exact ⟨rfl, hys.symm.trans hys'⟩

/-- The lines of a trace tell its tables and the lines of its code. -/
theorem tables_of_traceLines (ht : ∀ s ∈ t.texts, ¬EndsInBackslash s)
    (hp : ∀ s ∈ t.paths, ¬EndsInBackslash s) (ht' : ∀ s ∈ t'.texts, ¬EndsInBackslash s)
    (hp' : ∀ s ∈ t'.paths, ¬EndsInBackslash s) (h : traceLines t code = traceLines t' code') :
    t = t' ∧ codeLines code = codeLines code' := by
  obtain ⟨htexts, hrest⟩ := table_of_section (by decide) ht ht' h
  obtain ⟨hpaths, hcode⟩ := table_of_section (by decide) hp hp' hrest
  cases t
  cases t'
  cases htexts
  cases hpaths
  exact ⟨rfl, hcode⟩

theorem instruction_of_write (hi : i.Spelled) (hj : j.Spelled) (h : i.write = j.write) :
    i.opcode = j.opcode ∧ i.operands.map Operand.write = j.operands.map Operand.write := by
  have hsplit := hi.splitOpcode_write
  rw [h, hj.splitOpcode_write] at hsplit
  obtain ⟨hopcode, hoperands⟩ := Prod.mk.inj hsplit
  exact ⟨(String.toList_injective hopcode).symm, Operand.map_write_of_writeAll hoperands.symm⟩

/-- The line of a group is not that of an action without members. -/
theorem isSome_members? {a b : Action} {ops ops' : List Operand}
    (h : Instruction.write ⟨opcode a, ops⟩ = Instruction.write ⟨opcode b, ops'⟩) :
    a.members?.isSome = b.members?.isSome := by
  obtain ⟨hopcode, -⟩ : opcode a = opcode b ∧ _ :=
    instruction_of_write (opcode_spelled a ops) (opcode_spelled b ops') h
  rw [Bool.eq_iff_iff, members?_isSome_iff, members?_isSome_iff, hopcode]

namespace Compiles

variable {subs subs' subs₀ subs₀' : List (List Instruction)} {actions actions' : List Action}
  {is is' : List Instruction}

theorem spelled (h : Compiles t subs actions is subs') (hs : ∀ b ∈ subs, ∀ i ∈ b, i.Spelled) :
    (∀ i ∈ is, i.Spelled) ∧ ∀ b ∈ subs', ∀ i ∈ b, i.Spelled := by
  induction h with
  | nil subs => exact ⟨nofun, hs⟩
  | leaf _ _ _ ih =>
    obtain ⟨his, hsubs⟩ := ih hs
    exact ⟨List.forall_mem_cons.2 ⟨opcode_spelled _ _, his⟩, hsubs⟩
  | group _ _ _ ihbody ih =>
    obtain ⟨hbody, hmid⟩ := ihbody hs
    obtain ⟨his, hsubs⟩ := ih (List.forall_mem_append.2 ⟨hmid, List.forall_mem_singleton.2 hbody⟩)
    exact ⟨List.forall_mem_cons.2 ⟨opcode_spelled _ _, his⟩, hsubs⟩

theorem code_spelled (h : Compiles t [] actions code.main code.subs) : code.Spelled := by
  obtain ⟨hmain, hsubs⟩ := h.spelled nofun
  exact ⟨hmain, hsubs⟩

/-- Sequences with the same lines of code, main block and sub-blocks, are the same. -/
theorem actions_eq (hsame : code.subs.map (List.map Instruction.write) =
      code'.subs.map (List.map Instruction.write))
    (h : Compiles t subs actions is subs') (h' : Compiles t subs₀ actions' is' subs₀')
    (hsubs : subs' <+: code.subs) (hsubs' : subs₀' <+: code'.subs)
    (his : is.map Instruction.write = is'.map Instruction.write) : actions = actions' := by
  induction h generalizing actions' is' subs₀ subs₀' with
  | nil subs =>
    cases h' with
    | nil _ => rfl
    | leaf _ _ _ => cases his
    | group _ _ _ => cases his
  | @leaf _ _ a rest ops is ha hops _ ih =>
    cases h' with
    | nil _ => cases his
    | @leaf _ _ b rest' ops' is' hb hops' hrest' =>
      obtain ⟨hline, his⟩ := List.cons.inj his
      obtain ⟨hopcode, hwrite⟩ :=
        instruction_of_write (opcode_spelled a ops) (opcode_spelled b ops') hline
      rw [action_eq_of_write ha hb hopcode hops hops' hwrite, ih hrest' hsubs hsubs' his]
    | @group _ mid _ b members rest' body is' hb hbody hrest' =>
      have hgroup := isSome_members? (List.head_eq_of_cons_eq his)
      rw [ha, hb] at hgroup
      cases hgroup
  | @group _ mid _ a members rest body is ha hbody hrest ihbody ih =>
    cases h' with
    | nil _ => cases his
    | @leaf _ _ b rest' ops' is' hb hops' hrest' =>
      have hgroup := isSome_members? (List.head_eq_of_cons_eq his)
      rw [ha, hb] at hgroup
      cases hgroup
    | @group _ mid' _ b members' rest' body' is' hb hbody' hrest' =>
      obtain ⟨hline, his⟩ := List.cons.inj his
      obtain ⟨hopcode, hwrite⟩ :=
        instruction_of_write (opcode_spelled a _) (opcode_spelled b _) hline
      have hlength : mid.length = mid'.length :=
        Operand.write_sub_injective (List.head_eq_of_cons_eq hwrite)
      -- Both groups refer to the same sub-block, so their members have the same lines.
      have hmid := hrest.subs_prefix.trans hsubs
      have hmid' := hrest'.subs_prefix.trans hsubs'
      have hlines : body.map Instruction.write = body'.map Instruction.write := by
        have hget := congrArg (·[mid.length]?) hsame
        simp only [List.getElem?_map] at hget
        rw [getElem?_body hmid, hlength, getElem?_body hmid'] at hget
        exact Option.some.inj hget
      have hmembers := ihbody hbody' ((List.prefix_append mid [body]).trans hmid)
        ((List.prefix_append mid' [body']).trans hmid') hlines
      subst hmembers
      rw [group_eq ha hb hopcode, ih hrest' hsubs hsubs' his]

end Compiles

section stories

variable {s s' : Story}

theorem actions_eq_of_write (hs : ∀ x ∈ s.literals, ¬EndsInBackslash x)
    (hs' : ∀ x ∈ s'.literals, ¬EndsInBackslash x) (h : write s = write s') :
    s.actions = s'.actions := by
  obtain ⟨code, hcompiles, hwrite⟩ := exists_code s
  obtain ⟨code', hcompiles', hwrite'⟩ := exists_code s'
  rw [hwrite, hwrite'] at h
  have htrace := String.ofList_injective (Except.ok.inj h)
  have hlines : traceLines (Tables.ofStory s) code = traceLines (Tables.ofStory s') code' := by
    rw [← lines_writeTrace hcompiles.code_spelled, htrace, lines_writeTrace hcompiles'.code_spelled]
  obtain ⟨htables, hcode⟩ := tables_of_traceLines
    (fun x hx ↦ hs x (Story.mem_literals.2 (.inl hx)))
    (fun x hx ↦ hs x (Story.mem_literals.2 (.inr hx)))
    (fun x hx ↦ hs' x (Story.mem_literals.2 (.inl hx)))
    (fun x hx ↦ hs' x (Story.mem_literals.2 (.inr hx))) hlines
  obtain ⟨hmain, hsubs⟩ :=
    map_write_of_codeLines hcompiles.code_spelled hcompiles'.code_spelled hcode
  rw [← htables] at hcompiles'
  exact hcompiles.actions_eq hsubs hcompiles' (List.prefix_refl _) (List.prefix_refl _) hmain

theorem write_congr (h : s.actions = s'.actions) : write s = write s' := by
  cases s
  cases s'
  cases h
  rfl

/-- Two stories of which no literal ends in a backslash have the same trace just if they tell the
same. Their ids need not be such that a reader could hold them. -/
theorem trace_eq_iff (hs : ∀ x ∈ s.literals, ¬EndsInBackslash x)
    (hs' : ∀ x ∈ s'.literals, ¬EndsInBackslash x) :
    ∃ text text', write s = .ok text ∧ write s' = .ok text' ∧
      (text = text' ↔ s.actions = s'.actions) := by
  obtain ⟨code, -, hwrite⟩ := exists_code s
  obtain ⟨code', -, hwrite'⟩ := exists_code s'
  refine ⟨_, _, hwrite, hwrite', fun h ↦ actions_eq_of_write hs hs' ?_, fun h ↦ ?_⟩
  · rw [hwrite, hwrite', h]
  · exact Except.ok.inj (hwrite.symm.trans ((write_congr h).trans hwrite'))

end stories

def sighting (id : Int) : Story :=
  ⟨.jp, [.telop "a;\n\n.path\n\n.code\nwft\n", .blocking [.forkTask [.hideModel id]]]⟩

theorem literals_sighting (id : Int) : ∀ x ∈ (sighting id).literals, ¬EndsInBackslash x := by
  have hliterals : (sighting id).literals = ["a;\n\n.path\n\n.code\nwft\n"] := rfl
  rw [hliterals]
  decide

/-- The two ids are read as the same number. -/
theorem trace_eq_iff_sighting :
    (∀ x ∈ (sighting (2 ^ 53)).literals, ¬EndsInBackslash x) ∧
      (∀ x ∈ (sighting (2 ^ 53 + 1)).literals, ¬EndsInBackslash x) ∧
      ∃ text text', write (sighting (2 ^ 53)) = .ok text ∧
        write (sighting (2 ^ 53 + 1)) = .ok text' ∧ text ≠ text' := by
  have hfirst := literals_sighting (2 ^ 53)
  have hsecond := literals_sighting (2 ^ 53 + 1)
  obtain ⟨text, text', hwrite, hwrite', hiff⟩ := trace_eq_iff hfirst hsecond
  refine ⟨hfirst, hsecond, text, text', hwrite, hwrite', fun h ↦ ?_⟩
  simpa [sighting] using hiff.1 h

end Stagecraft.Trace
