import Stagecraft.Proofs.Trace.References

namespace Stagecraft.Trace

open Stagecraft.Action (walkAll bodiesAll)
open List (Forall₂ Perm)

/-- `Unfolds t subs actions is ns` says that the lines `is` stand for `actions` where the line of a
group refers to a sub-block whose own lines stand for the sequence of the group. The sub-blocks of
the groups, in post-order, have the numbers `ns`. -/
inductive Unfolds (t : Tables) (subs : List (List Instruction)) :
    List Action → List Instruction → List ℕ → Prop
  | nil : Unfolds t subs [] [] []
  | leaf {a : Action} {rest : List Action} {ops : List Operand} {is : List Instruction}
      {ns : List ℕ} (ha : a.members? = none) (hops : Forall₂ (Writes t) (values a) ops)
      (hrest : Unfolds t subs rest is ns) : Unfolds t subs (a :: rest) (⟨opcode a, ops⟩ :: is) ns
  | group {a : Action} {members rest : List Action} {body is : List Instruction} {inner ns : List ℕ}
      {n : ℕ} (ha : a.members? = some members) (hn : subs[n]? = some body)
      (hbody : Unfolds t subs members body inner) (hrest : Unfolds t subs rest is ns) :
      Unfolds t subs (a :: rest) (⟨opcode a, [.sub n]⟩ :: is) (inner ++ n :: ns)

variable {t : Tables} {subs subs' all : List (List Instruction)} {actions : List Action}
  {is : List Instruction} {code : Code}

theorem range'_group (k m n : ℕ) :
    List.range' k m ++ (k + m) :: List.range' (k + m + 1) n = List.range' k (m + n + 1) := by
  rw [← List.range'_succ, List.range'_append_1, Nat.add_assoc]

theorem Compiles.unfolds (h : Compiles t subs actions is subs') (hall : subs' <+: all) :
    Unfolds t all actions is
      (List.range' subs.length ((walkAll actions).countP (·.members?.isSome))) := by
  induction h with
  | nil subs => exact .nil
  | leaf ha hops _ ih =>
    rw [Action.walkAll_leaf ha, List.countP_cons_of_neg (by simp [ha])]
    exact .leaf ha hops (ih hall)
  | @group _ mid _ a members rest body is ha hbody hrest ihbody ih =>
    have hmid := hrest.subs_prefix.trans hall
    have hinner := ihbody ((List.prefix_append mid [body]).trans hmid)
    have hns := ih hall
    rw [Action.walkAll_group ha, List.countP_cons_of_pos (by simp [ha]), List.countP_append,
      ← range'_group, ← hbody.length_subs]
    rw [List.length_append, List.length_singleton] at hns
    exact .group ha (getElem?_body hmid) hinner hns

def subReferences (is : List Instruction) : List ℕ :=
  is.flatMap (Instruction.references Operand.sub?)

theorem Writes.no_subs {v : Value} {op : Operand} (h : Writes t v op) :
    op.atoms.filterMap Operand.sub? = [] := by
  cases h with
  | integers ns => exact Operand.filterMap_list_map_eq_nil (fun _ ↦ rfl) (fun _ ↦ rfl) ns
  | texts _ => exact Operand.filterMap_list_map_eq_nil (fun _ ↦ rfl) (fun _ ↦ rfl) _
  | _ => rfl

theorem references_leaf {vs : List Value} {ops : List Operand} (h : Forall₂ (Writes t) vs ops)
    (o : String) : Instruction.references Operand.sub? ⟨o, ops⟩ = [] := by
  rw [Instruction.references]
  induction h with
  | nil => rfl
  | cons hv _ ih => rw [Operand.atomsAll, List.filterMap_append, hv.no_subs, ih, List.append_nil]

theorem references_group (o : String) (n : ℕ) :
    Instruction.references Operand.sub? ⟨o, [.sub n]⟩ = [n] := rfl

/-- The lines and the sub-blocks of their groups refer to each of those sub-blocks once. -/
theorem Unfolds.once {ns : List ℕ} (h : Unfolds t subs actions is ns) :
    (subReferences is ++ ns.flatMap fun n ↦ subReferences (subs.getD n [])).Perm ns := by
  induction h with
  | nil => exact .nil
  | @leaf a rest ops is ns _ hops _ ih =>
    rwa [subReferences, List.flatMap_cons, references_leaf hops]
  | @group a members rest body is inner ns n _ hn _ _ ihbody ih =>
    have hget : subs.getD n [] = body := by rw [List.getD_eq_getElem?_getD, hn, Option.getD_some]
    -- The reference of the group itself stands between those inside it and those behind it.
    have hcount : (n :: subReferences is ++ (inner ++ n :: ns).flatMap fun n ↦
        subReferences (subs.getD n [])).Perm
          ((subReferences body ++ inner.flatMap fun n ↦ subReferences (subs.getD n [])) ++
            n :: (subReferences is ++ ns.flatMap fun n ↦ subReferences (subs.getD n []))) := by
      rw [List.flatMap_append, List.flatMap_cons, hget, List.perm_iff_count]
      intro m
      simp only [List.count_append, List.count_cons]
      omega
    exact hcount.trans (ihbody.append (ih.cons n))

def Backward (subs : List (List Instruction)) : Prop :=
  ∀ (n : ℕ) (b : List Instruction), subs[n]? = some b → ∀ m ∈ subReferences b, m < n

theorem Backward.concat {body : List Instruction} (h : Backward subs)
    (hbody : ∀ m ∈ subReferences body, m < subs.length) : Backward (subs ++ [body]) := by
  intro n b hn
  rcases Nat.lt_or_ge n subs.length with hlt | hge
  · rw [List.getElem?_append_left hlt] at hn
    exact h n b hn
  · rw [List.getElem?_append_right hge, List.getElem?_singleton] at hn
    split at hn
    · obtain rfl := Option.some.inj hn
      intro m hm
      exact (hbody m hm).trans_le hge
    · cases hn

theorem Compiles.backward (h : Compiles t subs actions is subs') (hsubs : Backward subs) :
    (∀ m ∈ subReferences is, m < subs'.length) ∧ Backward subs' := by
  induction h with
  | nil subs => exact ⟨nofun, hsubs⟩
  | leaf _ hops _ ih =>
    rw [subReferences, List.flatMap_cons, references_leaf hops]
    exact ih hsubs
  | @group _ mid _ a members rest body is ha hbody hrest ihbody ih =>
    obtain ⟨hinner, hmid⟩ := ihbody hsubs
    obtain ⟨his, hsubs'⟩ := ih (hmid.concat hinner)
    refine ⟨?_, hsubs'⟩
    rw [subReferences, List.flatMap_cons, references_group]
    intro m hm
    rcases List.mem_cons.1 hm with rfl | hm
    · exact hrest.lt_length_subs
    · exact his m hm

theorem writeSubs_eq_mapIdx (n : ℕ) (subs : List (List Instruction)) :
    writeSubs n subs = subs.mapIdx fun k b ↦ subLabel (n + k) ++ '\n' :: writeBlock b := by
  induction subs generalizing n with
  | nil => rfl
  | cons b rest ih =>
    rw [writeSubs, ih, List.mapIdx_cons]
    simp [subLabel_eq, Nat.add_comm, Nat.add_left_comm]

structure IsForest (t : Tables) (actions : List Action) (code : Code) : Prop where
  length : code.subs.length = (walkAll actions).countP (·.members?.isSome)
  bodies : Forall₂ (Forall₂ (LineOf t)) (bodiesAll actions) code.subs
  unfolds : Unfolds t code.subs actions code.main (List.range code.subs.length)
  once : (subReferences (code.main ++ code.subs.flatten)).Perm (List.range code.subs.length)
  backward : Backward code.subs

theorem map_getD_range {α : Type} (xs : List α) (d : α) :
    (List.range xs.length).map (xs.getD · d) = xs := by
  apply List.ext_getElem
  · simp
  · intro n _ hn
    rw [List.getElem_map, List.getElem_range, List.getD_eq_getElem?_getD, List.getElem?_eq_getElem hn,
      Option.getD_some]

theorem Compiles.isForest (h : Compiles t [] actions code.main code.subs) :
    IsForest t actions code := by
  have hlength := h.length_subs
  rw [List.length_nil, Nat.zero_add] at hlength
  have hunfolds := h.unfolds (List.prefix_refl _)
  rw [List.length_nil, ← List.range_eq_range', ← hlength] at hunfolds
  refine ⟨hlength, (h.lineOf .nil).2, hunfolds, ?_, (h.backward nofun).2⟩
  have honce := hunfolds.once
  rw [← List.flatMap_map (code.subs.getD · []) subReferences, map_getD_range] at honce
  rwa [subReferences, List.flatMap_append, ← List.flatMap_id, List.flatMap_assoc]

/-- Every story has a trace, and its code is written with the sub-blocks in order, each behind the
label of its number. -/
theorem write_blocks (s : Story) : ∃ code : Code,
    write s = .ok (String.ofList (writeTable ".text" 't' (Tables.ofStory s).texts ++
      writeTable ".path" 'p' (Tables.ofStory s).paths ++ ".code\n".toList ++ writeBlock code.main ++
      '\n' :: Text.joined ['\n']
        (code.subs.mapIdx fun n b ↦ subLabel n ++ '\n' :: writeBlock b))) ∧
    IsForest (Tables.ofStory s) s.actions code := by
  obtain ⟨code, hcompiles, hwrite⟩ := exists_code s
  refine ⟨code, ?_, hcompiles.isForest⟩
  rw [hwrite, writeTrace, writeSubs_eq_mapIdx]
  simp only [Nat.zero_add]

end Stagecraft.Trace
