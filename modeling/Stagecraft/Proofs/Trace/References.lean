import Stagecraft.Proofs.Trace.RoundTrip

namespace Stagecraft.Trace

open Stagecraft.Action (walkAll bodiesAll)
open List (Forall₂)

namespace Table

structure Lists (t : Table) (ss : List String) : Prop where
  mem_iff : ∀ x, x ∈ t ↔ x ∈ ss
  nodup : t.Nodup
  ordered : t.Pairwise fun x y ↦ ss.idxOf x < ss.idxOf y

theorem ofLiterals_concat (ss : List String) (s : String) :
    ofLiterals (ss ++ [s]) = (ofLiterals ss).insert s := by
  rw [ofLiterals, List.foldl_append]
  rfl

theorem ordered_ofLiterals (ss : List String) :
    (ofLiterals ss).Pairwise fun x y ↦ ss.idxOf x < ss.idxOf y := by
  induction ss using List.reverseRecOn with
  | nil => exact .nil
  | append_singleton ss s ih =>
    -- In the longer list the old literals keep their first places.
    have hidx : ∀ x ∈ ofLiterals ss, (ss ++ [s]).idxOf x = ss.idxOf x := by
      intro x hx
      exact List.idxOf_append_of_mem (mem_ofLiterals.1 hx)
    have hold : (ofLiterals ss).Pairwise fun x y ↦ (ss ++ [s]).idxOf x < (ss ++ [s]).idxOf y := by
      apply ih.imp_of_mem
      intro x y hx hy hxy
      rwa [hidx x hx, hidx y hy]
    rw [ofLiterals_concat, insert]
    split
    · exact hold
    · next hs =>
      rw [mem_ofLiterals] at hs
      apply List.pairwise_append.2 ⟨hold, List.pairwise_singleton _ s, ?_⟩
      intro x hx y hy
      obtain rfl := List.mem_singleton.1 hy
      have hlast : (ss ++ [y]).idxOf y = ss.length := by
        rw [List.idxOf_append_of_notMem hs, List.idxOf_cons_self, Nat.add_zero]
      rw [hidx x hx, hlast]
      exact List.idxOf_lt_length_of_mem (mem_ofLiterals.1 hx)

theorem lists_ofLiterals (ss : List String) : (ofLiterals ss).Lists ss :=
  ⟨fun _ ↦ mem_ofLiterals, nodup_ofLiterals ss, ordered_ofLiterals ss⟩

def Denotes (t : Table) (n : ℕ) (x : String) : Prop := ∃ h : n < t.length, t[n] = x

theorem denotes_of_index? {t : Table} {n : ℕ} {x : String} (h : t.index? x = some n) :
    t.Denotes n x :=
  List.getElem?_eq_some_iff.1 (getElem?_of_index? h)

end Table

namespace Operand

mutual

def atoms : Operand → List Operand
  | list items => atomsAll items
  | position parts => atomsAll parts
  | a => [a]

def atomsAll : List Operand → List Operand
  | [] => []
  | a :: rest => atoms a ++ atomsAll rest

end

def text? : Operand → Option ℕ
  | text i => some i
  | _ => none

def path? : Operand → Option ℕ
  | path i => some i
  | _ => none

def sub? : Operand → Option ℕ
  | sub i => some i
  | _ => none

theorem atomsAll_map {α : Type} {g : α → Operand} (hg : ∀ x, (g x).atoms = [g x]) (xs : List α) :
    atomsAll (xs.map g) = xs.map g := by
  induction xs with
  | nil => rfl
  | cons x xs ih => rw [List.map_cons, atomsAll, hg, ih, List.singleton_append]

theorem filterMap_list_map {α : Type} (f : Operand → Option ℕ) {g : α → Operand}
    (hg : ∀ x, (g x).atoms = [g x]) (xs : List α) :
    (list (xs.map g)).atoms.filterMap f = xs.filterMap fun x ↦ f (g x) := by
  rw [atoms, atomsAll_map hg, List.filterMap_map]
  rfl

theorem filterMap_list_map_eq_nil {α : Type} {f : Operand → Option ℕ} {g : α → Operand}
    (hg : ∀ x, (g x).atoms = [g x]) (hf : ∀ x, f (g x) = none) (xs : List α) :
    (list (xs.map g)).atoms.filterMap f = [] := by
  rw [filterMap_list_map f hg, List.filterMap_eq_nil_iff]
  intro x _
  exact hf x

end Operand

def Instruction.references (f : Operand → Option ℕ) (i : Instruction) : List ℕ :=
  (Operand.atomsAll i.operands).filterMap f

variable {t : Tables} {v : Value} {op : Operand}

theorem Writes.denotes_texts (h : Writes t v op) :
    Forall₂ t.texts.Denotes (op.atoms.filterMap Operand.text?) v.textLiterals := by
  cases h with
  | text h => exact .cons (Table.denotes_of_index? h) .nil
  | integers ns =>
    rw [Operand.filterMap_list_map_eq_nil (fun _ ↦ rfl) fun _ ↦ rfl]
    exact .nil
  | texts h =>
    rw [Operand.filterMap_list_map _ fun _ ↦ rfl]
    simp only [Operand.text?, List.filterMap_some]
    exact h.flip.imp fun _ _ hi ↦ Table.denotes_of_index? hi
  | _ => exact .nil

theorem Writes.denotes_paths (h : Writes t v op) :
    Forall₂ t.paths.Denotes (op.atoms.filterMap Operand.path?) v.pathLiterals := by
  cases h with
  | path h => exact .cons (Table.denotes_of_index? h) .nil
  | integers ns =>
    rw [Operand.filterMap_list_map_eq_nil (fun _ ↦ rfl) fun _ ↦ rfl]
    exact .nil
  | texts _ =>
    rw [Operand.filterMap_list_map_eq_nil (fun _ ↦ rfl) fun _ ↦ rfl]
    exact .nil
  | _ => exact .nil

theorem denotes_operands {table : Table} {f : Operand → Option ℕ} {literals : Value → List String}
    (hf : ∀ v op, Writes t v op → Forall₂ table.Denotes (op.atoms.filterMap f) (literals v))
    {vs : List Value} {ops : List Operand} (h : Forall₂ (Writes t) vs ops) :
    Forall₂ table.Denotes ((Operand.atomsAll ops).filterMap f) (vs.flatMap literals) := by
  induction h with
  | nil => exact .nil
  | cons hv _ ih =>
    rw [Operand.atomsAll, List.filterMap_append, List.flatMap_cons]
    exact List.rel_append (hf _ _ hv) ih

/-- `LineOf t a i` says that `i` is a line for `a`: its opcode, with the values of `a` written by the
tables or, if `a` is a group, with some sub-block. -/
inductive LineOf (t : Tables) : Action → Instruction → Prop
  | leaf {a : Action} {ops : List Operand} (ha : a.members? = none)
    (hops : Forall₂ (Writes t) (values a) ops) : LineOf t a ⟨opcode a, ops⟩
  | group {a : Action} {members : List Action} (ha : a.members? = some members) (n : ℕ) :
    LineOf t a ⟨opcode a, [.sub n]⟩

/-- The lines of a block stand for the actions of the sequence, those of the new sub-blocks for the
actions of the groups in post-order. -/
theorem Compiles.lineOf {subs subs' : List (List Instruction)} {actions : List Action}
    {is : List Instruction} (h : Compiles t subs actions is subs') {bodies : List (List Action)}
    (hsubs : Forall₂ (Forall₂ (LineOf t)) bodies subs) :
    Forall₂ (LineOf t) actions is ∧
      Forall₂ (Forall₂ (LineOf t)) (bodies ++ bodiesAll actions) subs' := by
  induction h generalizing bodies with
  | nil subs =>
    rw [bodiesAll, List.append_nil]
    exact ⟨.nil, hsubs⟩
  | leaf ha hops _ ih =>
    obtain ⟨his, hsubs'⟩ := ih hsubs
    rw [Action.bodiesAll_leaf ha]
    exact ⟨.cons (.leaf ha hops) his, hsubs'⟩
  | @group _ mid _ a members rest body is ha _ _ ihbody ih =>
    obtain ⟨hbody, hmid⟩ := ihbody hsubs
    have hclosed : Forall₂ (Forall₂ (LineOf t)) (bodies ++ bodiesAll members ++ [members])
        (mid ++ [body]) := List.rel_append hmid (.cons hbody .nil)
    obtain ⟨his, hsubs'⟩ := ih hclosed
    refine ⟨.cons (.group ha mid.length) his, ?_⟩
    rw [Action.bodiesAll_group ha]
    simpa only [List.append_assoc, List.singleton_append] using hsubs'

/-- The references of a line to the tables are the literals of an action, in their order. -/
structure RefersTo (t : Tables) (a : Action) (i : Instruction) : Prop where
  opcode : i.opcode = opcode a
  texts : Forall₂ t.texts.Denotes (i.references Operand.text?) a.texts
  paths : Forall₂ t.paths.Denotes (i.references Operand.path?) a.paths

theorem LineOf.refersTo {a : Action} {i : Instruction} (h : LineOf t a i) : RefersTo t a i := by
  cases h with
  | leaf ha hops =>
    constructor
    · rfl
    · rw [texts_eq]
      exact denotes_operands (fun _ _ ↦ Writes.denotes_texts) hops
    · rw [paths_eq]
      exact denotes_operands (fun _ _ ↦ Writes.denotes_paths) hops
  | group ha n =>
    constructor
    · rfl
    · rw [texts_eq, values_group ha]
      exact .nil
    · rw [paths_eq, values_group ha]
      exact .nil

/-- Every story has a trace. Its tables list the literals of the story in pre-order, and the lines of
its blocks refer to the literals of their actions: those of the main block to the sequence of the
story, those of the sub-blocks to the sequences of the groups. -/
theorem write_refers (s : Story) : ∃ code : Code,
    write s = .ok (String.ofList (writeTrace (Tables.ofStory s) code)) ∧
    (Tables.ofStory s).texts.Lists (s.walk.flatMap Action.texts) ∧
    (Tables.ofStory s).paths.Lists (s.walk.flatMap Action.paths) ∧
    Forall₂ (RefersTo (Tables.ofStory s)) s.actions code.main ∧
    Forall₂ (Forall₂ (RefersTo (Tables.ofStory s))) (bodiesAll s.actions) code.subs := by
  obtain ⟨code, hcompiles, hwrite⟩ := exists_code s
  obtain ⟨hmain, hsubs⟩ := hcompiles.lineOf .nil
  refine ⟨code, hwrite, Table.lists_ofLiterals _, Table.lists_ofLiterals _, ?_, ?_⟩
  · exact hmain.imp fun _ _ h ↦ h.refersTo
  · exact hsubs.imp fun _ _ hblock ↦ hblock.imp fun _ _ h ↦ h.refersTo

end Stagecraft.Trace
