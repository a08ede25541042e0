import Mathlib.Tactic
import Stagecraft.Story.Basic

namespace Stagecraft.Action

variable {a : Action} {members : List Action}

theorem sizeOf_members (h : a.members? = some members) : sizeOf members < sizeOf a := by
  cases a <;> cases h <;> simp

/-- Induction over a sequence with an hypothesis for the sequence of each group. -/
@[elab_as_elim]
theorem sequence_induction {P : List Action → Prop} (nil : P [])
    (leaf : ∀ a rest, a.members? = none → P rest → P (a :: rest))
    (group : ∀ a members rest, a.members? = some members → P members → P rest → P (a :: rest)) :
    ∀ actions, P actions
  | [] => nil
  | a :: rest =>
    have hrest : P rest := sequence_induction nil leaf group rest
    match h : a.members? with
    | none => leaf a rest h hrest
    | some members =>
      have _ := sizeOf_members h
      group a members rest h (sequence_induction nil leaf group members) hrest
  termination_by actions => sizeOf actions
  decreasing_by all_goals simp only [List.cons.sizeOf_spec]; omega

/-- Induction over a sequence where an action that is no group is a group without members. -/
@[elab_as_elim]
theorem members_induction {P : List Action → Prop} (nil : P [])
    (cons : ∀ a rest, P (a.members?.getD []) → P rest → P (a :: rest)) (actions : List Action) :
    P actions := by
  induction actions using sequence_induction with
  | nil => exact nil
  | leaf a rest h hrest => exact cons a rest (h ▸ nil) hrest
  | group a members rest h hmembers hrest => exact cons a rest (h ▸ hmembers) hrest

theorem walk_eq (a : Action) : a.walk = a :: walkAll (a.members?.getD []) := by
  cases a <;> rfl

theorem walkAll_leaf (h : a.members? = none) (rest : List Action) :
    walkAll (a :: rest) = a :: walkAll rest := by
  rw [walkAll, walk_eq, h]
  rfl

theorem walkAll_group (h : a.members? = some members) (rest : List Action) :
    walkAll (a :: rest) = a :: (walkAll members ++ walkAll rest) := by
  rw [walkAll, walk_eq, h]
  rfl

theorem walkAll_cons (a : Action) (rest : List Action) :
    walkAll (a :: rest) = a :: (walkAll (a.members?.getD []) ++ walkAll rest) := by
  rw [walkAll, walk_eq]
  rfl

theorem walkAll_append (actions rest : List Action) :
    walkAll (actions ++ rest) = walkAll actions ++ walkAll rest := by
  induction actions with
  | nil => rfl
  | cons a actions ih => rw [List.cons_append, walkAll, walkAll, ih, List.append_assoc]

theorem walkAll_of_leaves {actions : List Action} (h : ∀ a ∈ actions, a.members? = none) :
    walkAll actions = actions := by
  induction actions with
  | nil => rfl
  | cons a rest ih =>
    obtain ⟨ha, hrest⟩ := List.forall_mem_cons.1 h
    rw [walkAll_leaf ha, ih hrest]

mutual

/-- The sequences of the groups in an action, each behind those of the groups inside it. -/
def bodies : Action → List (List Action)
  | blocking actions => bodiesAll actions ++ [actions]
  | forkTask actions => bodiesAll actions ++ [actions]
  | _ => []

def bodiesAll : List Action → List (List Action)
  | [] => []
  | a :: rest => bodies a ++ bodiesAll rest

end

theorem bodiesAll_leaf (h : a.members? = none) (rest : List Action) :
    bodiesAll (a :: rest) = bodiesAll rest := by
  have hnone : a.bodies = [] := by cases a <;> cases h <;> rfl
  rw [bodiesAll, hnone, List.nil_append]

theorem bodiesAll_group (h : a.members? = some members) (rest : List Action) :
    bodiesAll (a :: rest) = bodiesAll members ++ members :: bodiesAll rest := by
  have hgroup : a.bodies = bodiesAll members ++ [members] := by cases a <;> cases h <;> rfl
  rw [bodiesAll, hgroup, List.append_assoc, List.singleton_append]

end Stagecraft.Action
