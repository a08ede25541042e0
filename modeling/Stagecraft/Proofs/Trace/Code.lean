import Stagecraft.Proofs.Trace.Reading
import Stagecraft.Proofs.Trace.Sections

namespace Stagecraft.Trace

open Stagecraft.Action (walkAll mapIdsAll)
open Binary64 (ofInt roundedId)
open Outcome (exists_left exists_right mapM_eq_ok)
open Text (Line)

/-- `Compiles t subs actions is subs'` says that the sequence becomes the instructions `is`, and that
its groups become the blocks in `subs'` behind those of `subs`. -/
inductive Compiles (t : Tables) : List (List Instruction) → List Action → List Instruction →
    List (List Instruction) → Prop
  | nil (subs : List (List Instruction)) : Compiles t subs [] [] subs
  | leaf {subs subs' : List (List Instruction)} {a : Action} {rest : List Action}
      {ops : List Operand} {is : List Instruction} (ha : a.members? = none)
      (hops : List.Forall₂ (Writes t) (values a) ops) (hrest : Compiles t subs rest is subs') :
      Compiles t subs (a :: rest) (⟨opcode a, ops⟩ :: is) subs'
  | group {subs mid subs' : List (List Instruction)} {a : Action} {members rest : List Action}
      {body is : List Instruction} (ha : a.members? = some members)
      (hbody : Compiles t subs members body mid)
      (hrest : Compiles t (mid ++ [body]) rest is subs') :
      Compiles t subs (a :: rest) (⟨opcode a, [.sub mid.length]⟩ :: is) subs'

variable {t : Tables} {subs subs' : List (List Instruction)} {a : Action} {actions : List Action}
  {is : List Instruction}

theorem instruction_leaf (ha : a.members? = none) (t : Tables) (subs : List (List Instruction)) :
    instruction t subs a = (do return (⟨opcode a, ← operands t a⟩, subs)) := by
  cases a <;> cases ha <;> rfl

theorem instruction_group {members : List Action} (ha : a.members? = some members) (t : Tables)
    (subs : List (List Instruction)) : instruction t subs a = (do
      let (body, mid) ← block t subs members
      return (⟨opcode a, [.sub mid.length]⟩, mid ++ [body])) := by
  cases a <;> cases ha <;> rfl

/-- Writing code never fails with tables that hold all its literals. -/
theorem block_compiles
    (h : ∀ a ∈ walkAll actions, (∀ s ∈ a.texts, s ∈ t.texts) ∧ ∀ s ∈ a.paths, s ∈ t.paths)
    (subs : List (List Instruction)) :
    ∃ is subs', block t subs actions = .ok (is, subs') ∧ Compiles t subs actions is subs' := by
  induction actions using Action.sequence_induction generalizing subs with
  | nil => exact ⟨[], subs, rfl, .nil subs⟩
  | leaf a rest ha ih =>
    rw [Action.walkAll_leaf ha] at h
    obtain ⟨hhead, htail⟩ := List.forall_mem_cons.1 h
    obtain ⟨ops, hops, hwrites⟩ := operands_writes hhead.1 hhead.2
    obtain ⟨is, subs', hblock, hrest⟩ := ih htail subs
    refine ⟨_, subs', ?_, .leaf ha hwrites hrest⟩
    rw [block, instruction_leaf ha, hops]
    simp only [bind, Except.bind, pure, Except.pure, hblock]
  | group a members rest ha ihbody ih =>
    rw [Action.walkAll_group ha] at h
    obtain ⟨-, htail⟩ := List.forall_mem_cons.1 h
    obtain ⟨hmembers, hrest⟩ := List.forall_mem_append.1 htail
    obtain ⟨body, mid, hbody, hcompiles⟩ := ihbody hmembers subs
    obtain ⟨is, subs', hblock, hcompiles'⟩ := ih hrest (mid ++ [body])
    refine ⟨_, subs', ?_, .group ha hcompiles hcompiles'⟩
    rw [block, instruction_group ha, hbody]
    simp only [bind, Except.bind, pure, Except.pure, hblock]

theorem boundedAll_iff {ops : List Operand} :
    Operand.BoundedAll ops ↔ ∀ op ∈ ops, op.Bounded := by
  induction ops with
  | nil => simp [Operand.BoundedAll]
  | cons op ops ih => rw [Operand.BoundedAll, ih, List.forall_mem_cons]

theorem lt_of_index? {ss : Table} {s : String} {i : ℕ} (h : ss.index? s = some i) :
    i < ss.length :=
  (List.idxOf?_eq_some_iff.1 h).1

theorem Writes.bounded {v : Value} {op : Operand} (h : Writes t v op)
    (ht : t.texts.length ≤ referenceBound) (hp : t.paths.length ≤ referenceBound) :
    op.Bounded := by
  cases h with
  | text h => exact (lt_of_index? h).trans_le ht
  | path h => exact (lt_of_index? h).trans_le hp
  | position p => exact ⟨trivial, trivial, trivial⟩
  | integers ns =>
    refine boundedAll_iff.2 fun op hop ↦ ?_
    obtain ⟨n, -, rfl⟩ := List.mem_map.1 hop
    trivial
  | texts h =>
    refine boundedAll_iff.2 fun op hop ↦ ?_
    obtain ⟨i, hi, rfl⟩ := List.mem_map.1 hop
    obtain ⟨s, -, hs⟩ := exists_left h hi
    exact (lt_of_index? hs).trans_le ht
  | _ => trivial

def opcodes : List String :=
  ["tlk", "tlp", "mds", "mdh", "mdm", "act", "exp", "hsk", "vsk", "bcs", "bch", "wcs", "wch", "ssc",
    "sdb", "cbg", "cbm", "cse", "blk", "slp", "tsk", "wft", "wfa"]

theorem opcode_mem (a : Action) : opcode a ∈ opcodes := by
  cases a <;> simp [opcode, opcodes]

theorem opcode_spelled (a : Action) (ops : List Operand) :
    (⟨opcode a, ops⟩ : Instruction).Spelled := by
  have hopcodes : ∀ o ∈ opcodes, o.toList ≠ [] ∧ o.toList.all fun c ↦ decide (Ordinary c) := by
    decide
  obtain ⟨hne, hordinary⟩ := hopcodes _ (opcode_mem a)
  exact ⟨hne, Text.forall_mem_of_all hordinary⟩

theorem opcode_regular (a : Action) {ops : List Operand} (h : Operand.BoundedAll ops) :
    (⟨opcode a, ops⟩ : Instruction).Regular :=
  ⟨opcode_spelled a ops, h⟩

namespace Compiles

theorem subs_prefix (h : Compiles t subs actions is subs') : subs <+: subs' := by
  induction h with
  | nil subs => exact List.prefix_refl subs
  | leaf _ _ _ ih => exact ih
  | group _ _ _ ihbody ih => exact ihbody.trans ((List.prefix_append _ _).trans ih)

/-- The sub-block of a group that is followed by some sequence has its place among all. -/
theorem lt_length_subs {mid : List (List Instruction)} {body : List Instruction}
    (h : Compiles t (mid ++ [body]) actions is subs') : mid.length < subs'.length := by
  have hlen := h.subs_prefix.length_le
  rw [List.length_append, List.length_singleton] at hlen
  omega

theorem length_subs (h : Compiles t subs actions is subs') :
    subs'.length = subs.length + (walkAll actions).countP (·.members?.isSome) := by
  induction h with
  | nil subs => rfl
  | leaf ha _ _ ih => rw [Action.walkAll_leaf ha, List.countP_cons_of_neg (by simp [ha]), ih]
  | group ha _ _ ihbody ih =>
    rw [Action.walkAll_group ha, List.countP_cons_of_pos (by simp [ha]), List.countP_append, ih,
      List.length_append, ihbody, List.length_singleton]
    omega

theorem regular (h : Compiles t subs actions is subs') (ht : t.texts.length ≤ referenceBound)
    (hp : t.paths.length ≤ referenceBound) (hn : subs'.length ≤ referenceBound)
    (hs : ∀ b ∈ subs, ∀ i ∈ b, i.Regular) :
    (∀ i ∈ is, i.Regular) ∧ ∀ b ∈ subs', ∀ i ∈ b, i.Regular := by
  induction h with
  | nil subs => exact ⟨nofun, hs⟩
  | leaf _ hops _ ih =>
    obtain ⟨his, hsubs⟩ := ih hn hs
    refine ⟨List.forall_mem_cons.2 ⟨opcode_regular _ (boundedAll_iff.2 fun op hop ↦ ?_), his⟩, hsubs⟩
    obtain ⟨v, -, hv⟩ := exists_left hops hop
    exact hv.bounded ht hp
  | group _ _ hrest ihbody ih =>
    have hlen := hrest.lt_length_subs
    obtain ⟨hbody, hmid⟩ := ihbody (hlen.le.trans hn) hs
    obtain ⟨his, hsubs⟩ := ih hn
      (List.forall_mem_append.2 ⟨hmid, List.forall_mem_singleton.2 hbody⟩)
    have hsub : (Operand.sub _).Bounded := hlen.trans_le hn
    exact ⟨List.forall_mem_cons.2 ⟨opcode_regular _ ⟨hsub, trivial⟩, his⟩, hsubs⟩

end Compiles

section

variable {code : Code} {s : Sections} {limit : ℕ} {ls : List Line} {l : Line} {i : Instruction}

theorem readAction_write {groups : ℕ → Except ReadError (List Action)} (hi : i.Regular)
    (hl : l.text = i.write) : readAction s groups l = .ok a ↔ i.opcode = opcode a ∧
      ReadsFrom ⟨s, l.number, i.opcode.toList⟩ groups a (Operand.arguments i.operands) := by
  rw [readAction_eq_ok, hl, hi.readArguments_splitOpcode, hi.splitOpcode_write]
  simp only [Except.ok.injEq, exists_eq_left', String.ofList_toList]

theorem getElem?_body {all mid : List (List Instruction)} {body : List Instruction}
    (h : mid ++ [body] <+: all) : all[mid.length]? = some body := by
  obtain ⟨rest, hrest⟩ := h
  simp [← hrest]

theorem Sections.Carries.sub {body : List Instruction} {mid : List (List Instruction)}
    (h : s.Carries code) (hsub : mid ++ [body] <+: code.subs) :
    (s.subs.getD mid.length []).map Line.text = body.map Instruction.write := by
  have hget := getElem?_body hsub
  have hmap := congrArg (·[mid.length]?) h.subs
  simp only [List.getElem?_map, hget, Option.map_some] at hmap
  obtain ⟨b, hb, hbody⟩ := Option.map_eq_some_iff.1 hmap
  rw [List.getD_eq_getElem?_getD, hb, Option.getD_some, hbody]

theorem readAction_leaf {ops : List Operand} {groups : ℕ → Except ReadError (List Action)}
    (ha : a.members? = none) (hops : List.Forall₂ (Writes t) (values a) ops)
    (hi : (⟨opcode a, ops⟩ : Instruction).Regular)
    (hl : l.text = Instruction.write ⟨opcode a, ops⟩) (ht : s.texts = t.texts)
    (hp : s.paths = t.paths) (hid : ∀ n ∈ a.characters, (ofInt n).isIntegral) :
    readAction s groups l = .ok (a.mapIds roundedId) := by
  refine (readAction_write hi hl).2 ⟨(opcode_mapIds roundedId a).symm, ?_⟩
  have hleaf : (a.mapIds roundedId).members? = none := by
    rw [Action.members?_mapIds, ha, Option.map_none]
  rw [ReadsFrom, hleaf, Operand.arguments_eq_map, values_mapIds]
  have hids : ∀ v ∈ values a, ∀ n ∈ v.ids, (ofInt n).isIntegral := by
    intro v hv n hn
    exact hid n (List.mem_flatMap_of_mem hv hn)
  refine List.forall₂_map_left_iff.2 (List.forall₂_map_right_iff.2 ?_)
  exact ((List.forall₂_and_left _ _).2 ⟨hids, hops⟩).imp fun v op h ↦ h.2.reads ht hp h.1

namespace Compiles

theorem reads (h : Compiles t subs actions is subs') (hc : code.Regular) (hs : s.Carries code)
    (ht : s.texts = t.texts) (hp : s.paths = t.paths)
    (hid : ∀ a ∈ walkAll actions, ∀ n ∈ a.characters, (ofInt n).isIntegral)
    (hsub : subs' <+: code.subs) (his : ∀ i ∈ is, i.Regular) (hlimit : subs'.length ≤ limit)
    (hls : ls.map Line.text = is.map Instruction.write) :
    ls.mapM (readAction s (readGroup s limit)) = .ok (mapIdsAll roundedId actions) := by
  induction h generalizing limit ls with
  | nil subs =>
    obtain rfl := List.map_eq_nil_iff.1 hls
    rfl
  | @leaf _ _ a rest ops is ha hops _ ih =>
    obtain ⟨l, ls, rfl, hl, hls⟩ := List.map_eq_cons_iff.1 hls
    obtain ⟨hi, his⟩ := List.forall_mem_cons.1 his
    rw [Action.walkAll_leaf ha] at hid
    obtain ⟨hida, hid⟩ := List.forall_mem_cons.1 hid
    have hread : readAction s (readGroup s limit) l = .ok (a.mapIds roundedId) :=
      readAction_leaf ha hops hi hl ht hp hida
    rw [List.mapM_cons, hread, ih hid hsub his hlimit hls]
    rfl
  | @group _ mid _ a members rest body is ha hbody hrest ihbody ih =>
    obtain ⟨l, ls, rfl, hl, hls⟩ := List.map_eq_cons_iff.1 hls
    obtain ⟨hi, his⟩ := List.forall_mem_cons.1 his
    rw [Action.walkAll_group ha] at hid
    obtain ⟨hidm, hid⟩ := List.forall_mem_append.1 (List.forall_mem_cons.1 hid).2
    have hmid := hrest.subs_prefix.trans hsub
    have hread : readAction s (readGroup s limit) l = .ok (a.mapIds roundedId) := by
      refine (readAction_write hi hl).2 ⟨(opcode_mapIds roundedId a).symm, ?_⟩
      rw [ReadsFrom, Action.members?_mapIds, ha]
      refine ⟨mid.length, rfl, ?_⟩
      rw [readGroup_eq (hrest.lt_length_subs.trans_le hlimit)]
      -- The sub-blocks of the body all come before it, so they are below its own number.
      refine ihbody hidm ((List.prefix_append mid [body]).trans hmid) ?_ le_rfl (hs.sub hmid)
      exact hc.subs body (hmid.subset (by simp))
    rw [List.mapM_cons, hread, ih hid hsub his hlimit hls]
    rfl

end Compiles

def Located (t : Tables) (s : Sections) (a : Action) : Prop :=
  (∀ x ∈ a.texts, ∃ i, t.texts.index? x = some i ∧ i < s.texts.length) ∧
    ∀ x ∈ a.paths, ∃ i, t.paths.index? x = some i ∧ i < s.paths.length

theorem located_leaf {ops : List Operand} {c : LineContext}
    {groups : ℕ → Except ReadError (List Action)}
    {b : Action} (hops : List.Forall₂ (Writes t) (values a) ops)
    (hr : ReadsFrom c groups b (Operand.arguments ops)) : Located t c.sections a := by
  have hvalue : ∀ v ∈ values a, ∃ w op, Writes t v op ∧ Reads c w op.argument := by
    intro v hv
    obtain ⟨op, hop, hw⟩ := exists_right hops hv
    have harg : op.argument ∈ Operand.arguments ops := by
      rw [Operand.arguments_eq_map]
      exact List.mem_map_of_mem hop
    rw [ReadsFrom] at hr
    split at hr
    · obtain ⟨n, hn, -⟩ := hr
      rw [hn, List.mem_singleton] at harg
      cases hw <;> cases harg
    · obtain ⟨w, -, hrw⟩ := exists_left hr harg
      exact ⟨w, op, hw, hrw⟩
  constructor
  · intro x hx
    rw [texts_eq] at hx
    obtain ⟨v, hv, hx⟩ := List.mem_flatMap.1 hx
    obtain ⟨w, op, hw, hrw⟩ := hvalue v hv
    exact hw.text_lt hrw x hx
  · intro x hx
    rw [paths_eq] at hx
    obtain ⟨v, hv, hx⟩ := List.mem_flatMap.1 hx
    obtain ⟨w, op, hw, hrw⟩ := hvalue v hv
    exact hw.path_lt hrw x hx

theorem members?_isSome_iff (a : Action) : a.members?.isSome ↔ opcode a ∈ ["blk", "tsk"] := by
  cases a <;> simp [Action.members?, opcode]

theorem located_group {members : List Action} (h : a.members? = some members) : Located t s a := by
  rw [Located, texts_eq, paths_eq, values_group h]
  exact ⟨nofun, nofun⟩

/-- Code that is read at all, with whatever tables, has all its literals in them. -/
theorem Compiles.located (h : Compiles t subs actions is subs') (hc : code.Regular)
    (hs : s.Carries code) (hsub : subs' <+: code.subs) (his : ∀ i ∈ is, i.Regular)
    (hlimit : subs'.length ≤ limit) (hls : ls.map Line.text = is.map Instruction.write)
    {actions' : List Action} (hread : ls.mapM (readAction s (readGroup s limit)) = .ok actions') :
    ∀ a ∈ walkAll actions, Located t s a := by
  induction h generalizing limit ls actions' with
  | nil subs => simp [walkAll]
  | @leaf _ _ a rest ops is ha hops _ ih =>
    obtain ⟨l, ls, rfl, hl, hls⟩ := List.map_eq_cons_iff.1 hls
    obtain ⟨hi, his⟩ := List.forall_mem_cons.1 his
    obtain ⟨b, rest', hb, hrest', rfl⟩ := List.forall₂_cons_left_iff.1 (mapM_eq_ok.1 hread)
    rw [Action.walkAll_leaf ha]
    refine List.forall_mem_cons.2 ⟨?_, ih hsub his hlimit hls (mapM_eq_ok.2 hrest')⟩
    exact located_leaf hops ((readAction_write hi hl).1 hb).2
  | @group _ mid _ a members rest body is ha hbody hrest ihbody ih =>
    obtain ⟨l, ls, rfl, hl, hls⟩ := List.map_eq_cons_iff.1 hls
    obtain ⟨hi, his⟩ := List.forall_mem_cons.1 his
    obtain ⟨b, rest', hb, hrest', rfl⟩ := List.forall₂_cons_left_iff.1 (mapM_eq_ok.1 hread)
    have hmid := hrest.subs_prefix.trans hsub
    obtain ⟨hopcode, hr⟩ := (readAction_write hi hl).1 hb
    obtain ⟨members', hmembers⟩ : ∃ members', b.members? = some members' := by
      rw [← Option.isSome_iff_exists, members?_isSome_iff, ← hopcode, ← members?_isSome_iff, ha]
      rfl
    rw [ReadsFrom, hmembers] at hr
    obtain ⟨n, hn, hgroup⟩ := hr
    cases hn
    rw [readGroup_eq (hrest.lt_length_subs.trans_le hlimit)] at hgroup
    rw [Action.walkAll_group ha, List.forall_mem_cons, List.forall_mem_append]
    refine ⟨located_group ha, ?_, ih hsub his hlimit hls (mapM_eq_ok.2 hrest')⟩
    refine ihbody ((List.prefix_append mid [body]).trans hmid) ?_ le_rfl (hs.sub hmid) hgroup
    exact hc.subs body (hmid.subset (by simp))

end

end Stagecraft.Trace
