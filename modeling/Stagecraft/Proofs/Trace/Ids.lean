import Stagecraft.Proofs.Trace.Value

namespace Stagecraft

namespace Action

mutual

def mapIds (f : ℤ → ℤ) : Action → Action
  | talk text cs names voice => talk text (cs.map f) names voice
  | showModel c model p => showModel (f c) model p
  | hideModel c => hideModel (f c)
  | moveModel c p => moveModel (f c) p
  | act c motion => act (f c) motion
  | express c expression => express (f c) expression
  | horizontalShake c => horizontalShake (f c)
  | verticalShake c => verticalShake (f c)
  | blocking actions => blocking (mapIdsAll f actions)
  | forkTask actions => forkTask (mapIdsAll f actions)
  | a => a

def mapIdsAll (f : ℤ → ℤ) : List Action → List Action
  | [] => []
  | a :: rest => mapIds f a :: mapIdsAll f rest

end

end Action

namespace Trace

def Value.mapIds (f : ℤ → ℤ) : Value → Value
  | integer n => integer (f n)
  | integers ns => integers (ns.map f)
  | v => v

theorem Value.ids_mapIds (f : ℤ → ℤ) (v : Value) : (v.mapIds f).ids = v.ids.map f := by
  cases v <;> rfl

theorem values_mapIds (f : ℤ → ℤ) (a : Action) :
    values (a.mapIds f) = (values a).map (Value.mapIds f) := by
  cases a with
  | talk text characters names voice => cases voice <;> rfl
  | _ => rfl

theorem opcode_mapIds (f : ℤ → ℤ) (a : Action) : opcode (a.mapIds f) = opcode a := by
  cases a <;> rfl

end Trace

namespace Action

variable {f : ℤ → ℤ} {a : Action} {actions members : List Action}

theorem members?_mapIds (f : ℤ → ℤ) (a : Action) :
    (a.mapIds f).members? = a.members?.map (mapIdsAll f) := by
  cases a <;> rfl

theorem characters_mapIds (f : ℤ → ℤ) (a : Action) :
    (a.mapIds f).characters = a.characters.map f := by
  rw [characters, Trace.values_mapIds, List.flatMap_map, characters, List.map_flatMap]
  simp only [Trace.Value.ids_mapIds]

theorem walkAll_mapIdsAll (f : ℤ → ℤ) (actions : List Action) :
    walkAll (mapIdsAll f actions) = (walkAll actions).map (mapIds f) := by
  induction actions using members_induction with
  | nil => rfl
  | cons a rest ihmembers ih =>
    have hmembers : (a.mapIds f).members?.getD [] = mapIdsAll f (a.members?.getD []) := by
      rw [members?_mapIds]
      cases a.members? <;> rfl
    rw [mapIdsAll, walkAll_cons, walkAll_cons, hmembers, ihmembers, ih, List.map_cons,
      List.map_append]

def idsAll (actions : List Action) : List ℤ := (walkAll actions).flatMap characters

theorem idsAll_mapIdsAll (f : ℤ → ℤ) (actions : List Action) :
    idsAll (mapIdsAll f actions) = (idsAll actions).map f := by
  rw [idsAll, walkAll_mapIdsAll, List.flatMap_map, idsAll, List.map_flatMap]
  simp only [characters_mapIds]

theorem mapIds_leaf (ha : a.members? = none) (h : ∀ n ∈ a.characters, f n = n) : a.mapIds f = a := by
  cases a with
  | talk text cs names voice =>
    have hfixed : ∀ n ∈ cs, f n = id n := by
      intro n hn
      apply h n
      simp [characters, Trace.values, Trace.Value.ids, hn]
    rw [mapIds, List.map_congr_left hfixed, List.map_id]
  | blocking actions => cases ha
  | forkTask actions => cases ha
  | _ => simp_all [mapIds, characters, Trace.values, Trace.Value.ids]

theorem mapIds_group (ha : a.members? = some members) (h : mapIdsAll f members = members) :
    a.mapIds f = a := by
  cases a <;> cases ha <;> rw [mapIds, h]

/-- A sequence is unchanged if none of its ids changes. -/
theorem mapIdsAll_eq_self (h : ∀ a ∈ walkAll actions, ∀ n ∈ a.characters, f n = n) :
    mapIdsAll f actions = actions := by
  induction actions using sequence_induction with
  | nil => rfl
  | leaf a rest ha ih =>
    rw [walkAll_leaf ha] at h
    obtain ⟨hhead, hrest⟩ := List.forall_mem_cons.1 h
    rw [mapIdsAll, mapIds_leaf ha hhead, ih hrest]
  | group a members rest ha ihmembers ih =>
    rw [walkAll_group ha] at h
    obtain ⟨hmembers, hrest⟩ := List.forall_mem_append.1 (List.forall_mem_cons.1 h).2
    rw [mapIdsAll, mapIds_group ha (ihmembers hmembers), ih hrest]

end Action

end Stagecraft
