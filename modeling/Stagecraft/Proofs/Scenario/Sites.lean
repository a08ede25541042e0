import Stagecraft.Proofs.Story.Sequence
import Stagecraft.Scenario.Flattening

namespace Stagecraft.Scenario

/-- An action at its place in a flat sequence. -/
structure Site where
  enclosure : Enclosure
  /-- The actions before it in the sequence, the nearest first. -/
  earlier : List Action
  action : Action
  later : List Action

def Site.sequence (x : Site) : List Action := x.earlier.reverse ++ x.action :: x.later

def siteAt (e : Enclosure) (actions : List Action) (i : Fin actions.length) : Site :=
  ⟨e, (actions.take i).reverse, actions[i], actions.drop (i + 1)⟩

def Enclosure.ofGroup : Action → Enclosure
  | .blocking _ => .blocking
  | _ => .fork

mutual

def sitesOf (e : Enclosure) (earlier later : List Action) (a : Action) : List Site :=
  match a with
  | .blocking members => ⟨e, earlier, .blocking members, later⟩ :: sites .blocking [] members
  | .forkTask members => ⟨e, earlier, .forkTask members, later⟩ :: sites .fork [] members
  | a => [⟨e, earlier, a, later⟩]

def sites (e : Enclosure) (earlier actions : List Action) : List Site :=
  match actions with
  | [] => []
  | a :: rest => sitesOf e earlier rest a ++ sites e (a :: earlier) rest

end

/-- The flat sequences of a story whose own sequence starts with `top`. -/
inductive Flat (top : List Action) : Enclosure → List Action → Prop
  | top : Flat top .topLevel top
  | group {e : Enclosure} {actions members : List Action} {a : Action} :
      Flat top e actions → a ∈ actions → a.members? = some members →
      Flat top (.ofGroup a) members

variable {e : Enclosure} {earlier actions rest top : List Action} {a : Action} {x : Site}

theorem sites_cons (e : Enclosure) (earlier : List Action) (a : Action) (rest : List Action) :
    sites e earlier (a :: rest) = ⟨e, earlier, a, rest⟩ ::
      (sites (.ofGroup a) [] (a.members?.getD []) ++ sites e (a :: earlier) rest) := by
  cases a <;> rfl

/-- Every action of the tree has its place, in pre-order. -/
theorem map_action_sites (e : Enclosure) (earlier actions : List Action) :
    (sites e earlier actions).map Site.action = Action.walkAll actions := by
  induction actions using Action.members_induction generalizing e earlier with
  | nil => rfl
  | cons a rest hmembers hrest =>
    rw [sites_cons, Action.walkAll_cons, List.map_cons, List.map_append, hmembers, hrest]

theorem mem_sites_append (e : Enclosure) (earlier before later : List Action) (a : Action) :
    ⟨e, before.reverse ++ earlier, a, later⟩ ∈ sites e earlier (before ++ a :: later) := by
  induction before generalizing earlier with
  | nil =>
    rw [List.nil_append, sites_cons]
    exact List.mem_cons_self
  | cons b before ih =>
    rw [List.cons_append, sites_cons, List.reverse_cons, List.append_assoc]
    exact List.mem_cons_of_mem _ (List.mem_append_right _ (ih (b :: earlier)))

theorem sites_members_subset {members : List Action} (ha : a ∈ actions)
    (hm : a.members? = some members) (e : Enclosure) (earlier : List Action) :
    sites (.ofGroup a) [] members ⊆ sites e earlier actions := by
  induction actions generalizing earlier with
  | nil => cases ha
  | cons b rest ih =>
    rw [sites_cons]
    refine List.Subset.trans ?_ (List.subset_cons_self _ _)
    rcases List.mem_cons.1 ha with rfl | ha
    · rw [hm, Option.getD_some]
      exact List.subset_append_left _ _
    · exact List.Subset.trans (ih ha (b :: earlier)) (List.subset_append_right _ _)

theorem Flat.sites_subset (h : Flat top e actions) : sites e [] actions ⊆ sites .topLevel [] top := by
  induction h with
  | top => exact List.Subset.refl _
  | group _ ha hm ih => exact List.Subset.trans (sites_members_subset ha hm _ _) ih

theorem flat_of_mem_sites (h : Flat top e (earlier.reverse ++ rest)) (hx : x ∈ sites e earlier rest) :
    Flat top x.enclosure x.sequence := by
  induction rest using Action.members_induction generalizing e earlier with
  | nil => cases hx
  | cons a rest hmembers hrest =>
    rw [sites_cons] at hx
    rcases List.mem_cons.1 hx with rfl | hx
    · exact h
    rcases List.mem_append.1 hx with hx | hx
    · cases hm : a.members? with
      | none =>
        rw [hm] at hx
        cases hx
      | some members =>
        have hflat : Flat top (.ofGroup a) ([].reverse ++ members) :=
          .group h (List.mem_append_right _ List.mem_cons_self) hm
        rw [hm] at hx hmembers
        exact hmembers hflat hx
    · refine hrest ?_ hx
      rwa [List.reverse_cons, List.append_assoc]

theorem Flat.siteAt_mem (h : Flat top e actions) (i : Fin actions.length) :
    siteAt e actions i ∈ sites .topLevel [] top := by
  have hi := mem_sites_append e [] (actions.take i) (actions.drop (i + 1)) actions[i]
  rw [List.append_nil, Fin.getElem_fin, ← List.drop_eq_getElem_cons i.isLt,
    List.take_append_drop] at hi
  exact h.sites_subset hi

theorem Site.eq_siteAt (x : Site) : ∃ i, x = siteAt x.enclosure x.sequence i := by
  have hi : x.earlier.reverse.length < x.sequence.length := by
    rw [sequence, List.length_append, List.length_cons]
    omega
  have hlater : x.sequence.drop (x.earlier.reverse.length + 1) = x.later := by
    rw [sequence, ← List.drop_drop, List.drop_left, List.drop_one, List.tail_cons]
  refine ⟨⟨x.earlier.reverse.length, hi⟩, ?_⟩
  simp only [siteAt, hlater]
  simp [sequence]

/-- The places of a story are exactly the indices of its flat sequences. -/
theorem mem_sites : x ∈ sites .topLevel [] top ↔
    ∃ actions, Flat top x.enclosure actions ∧ ∃ i, x = siteAt x.enclosure actions i := by
  constructor
  · intro hx
    exact ⟨x.sequence, flat_of_mem_sites .top hx, x.eq_siteAt⟩
  · rintro ⟨actions, h, i, hi⟩
    rw [hi]
    exact h.siteAt_mem i

end Stagecraft.Scenario
