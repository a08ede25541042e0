import Stagecraft.Proofs.Trace.Entry
import Stagecraft.Proofs.Trace.Value

namespace Stagecraft

namespace Trace.Table

variable {t : Table} {s : String}

theorem mem_insert {x : String} : x ∈ t.insert s ↔ x ∈ t ∨ x = s := by
  rw [insert]
  split
  · next hs =>
    refine ⟨.inl, ?_⟩
    rintro (h | rfl)
    · exact h
    · exact hs
  · rw [List.mem_append, List.mem_singleton]

theorem nodup_insert (h : t.Nodup) (s : String) : (t.insert s).Nodup := by
  rw [insert]
  split
  · exact h
  · next hs => exact h.append (List.nodup_singleton s) (List.disjoint_singleton.2 hs)

theorem mem_foldl_insert {ss : List String} {x : String} :
    x ∈ ss.foldl insert t ↔ x ∈ t ∨ x ∈ ss := by
  induction ss generalizing t with
  | nil => simp
  | cons s ss ih => rw [List.foldl_cons, ih, mem_insert, List.mem_cons, or_assoc]

@[simp] theorem mem_ofLiterals {ss : List String} {x : String} : x ∈ ofLiterals ss ↔ x ∈ ss := by
  rw [ofLiterals, mem_foldl_insert]
  simp

theorem nodup_foldl_insert (h : t.Nodup) (ss : List String) : (ss.foldl insert t).Nodup := by
  induction ss generalizing t with
  | nil => exact h
  | cons s ss ih => exact ih (nodup_insert h s)

theorem nodup_ofLiterals (ss : List String) : (ofLiterals ss).Nodup :=
  nodup_foldl_insert List.nodup_nil ss

end Trace.Table

namespace Story

open Trace

def literals (s : Story) : List String := s.walk.flatMap fun a ↦ a.texts ++ a.paths

/-- The tables and the sub-blocks of the story have no more members than a 64-bit number can refer
to. A story held in the memory of a 64-bit machine is never greater. -/
structure Addressable (s : Story) : Prop where
  texts : (Tables.ofStory s).texts.length ≤ referenceBound
  paths : (Tables.ofStory s).paths.length ≤ referenceBound
  groups : s.walk.countP (·.members?.isSome) ≤ referenceBound

variable {s : Story} {a : Action} {x : String}

theorem mem_texts : x ∈ (Tables.ofStory s).texts ↔ ∃ a ∈ s.walk, x ∈ a.texts := by
  rw [Tables.ofStory, Table.mem_ofLiterals, List.mem_flatMap]

theorem mem_paths : x ∈ (Tables.ofStory s).paths ↔ ∃ a ∈ s.walk, x ∈ a.paths := by
  rw [Tables.ofStory, Table.mem_ofLiterals, List.mem_flatMap]

theorem mem_literals :
    x ∈ s.literals ↔ x ∈ (Tables.ofStory s).texts ∨ x ∈ (Tables.ofStory s).paths := by
  rw [mem_texts, mem_paths, literals, List.mem_flatMap]
  simp only [List.mem_append]
  constructor
  · rintro ⟨a, ha, hx | hx⟩
    · exact .inl ⟨a, ha, hx⟩
    · exact .inr ⟨a, ha, hx⟩
  · rintro (⟨a, ha, hx⟩ | ⟨a, ha, hx⟩)
    · exact ⟨a, ha, .inl hx⟩
    · exact ⟨a, ha, .inr hx⟩

theorem literals_mem_tables (ha : a ∈ s.walk) :
    (∀ x ∈ a.texts, x ∈ (Tables.ofStory s).texts) ∧ ∀ x ∈ a.paths, x ∈ (Tables.ofStory s).paths :=
  ⟨fun _ hx ↦ mem_texts.2 ⟨a, ha, hx⟩, fun _ hx ↦ mem_paths.2 ⟨a, ha, hx⟩⟩

end Story

end Stagecraft
