import Stagecraft.Proofs.Trace.RoundTrip

namespace Stagecraft

def Story.ids (s : Story) : List ℤ := Action.idsAll s.actions

namespace Trace

open Stagecraft.Action (mapIdsAll idsAll)
open Binary64 (IsExactId minId maxId ofInt roundedId)

variable {s : Story}

theorem isIntegral_of_ids (hid : ∀ n ∈ s.ids, minId ≤ n ∧ n ≤ maxId) :
    ∀ a ∈ s.walk, ∀ n ∈ a.characters, (ofInt n).isIntegral := by
  intro a ha n hn
  obtain ⟨hlower, hupper⟩ := hid n (List.mem_flatMap_of_mem ha hn)
  exact Binary64.isIntegral_ofInt hlower hupper

/-- A story of 64-bit ids in which no literal ends in a backslash is read back with nothing changed
but ids, and says which of them are. -/
theorem read_write_ids (h : s.Addressable) (hx : ∀ x ∈ s.literals, ¬EndsInBackslash x)
    (hid : ∀ n ∈ s.ids, minId ≤ n ∧ n ≤ maxId) (l : Locale) :
    ∃ text s', write s = .ok text ∧ read text l = .ok s' ∧
      s' = ⟨l, mapIdsAll roundedId s.actions⟩ ∧
      List.Forall₂ (fun n m ↦ m = n ↔ IsExactId n ∨ n = maxId) s.ids s'.ids := by
  obtain ⟨text, hwrite, hread⟩ := read_rounded h (isIntegral_of_ids hid) hx l
  refine ⟨text, _, hwrite, hread, rfl, ?_⟩
  rw [Story.ids, Story.ids, Action.idsAll_mapIdsAll, List.forall₂_map_right_iff, List.forall₂_same]
  intro n hn
  obtain ⟨hlower, hupper⟩ := hid n hn
  exact Binary64.roundedId_eq_iff hlower hupper

def crowd : Story := ⟨.jp, [
  .talk "who?;\n\n.path\n" [3, 2 ^ 53 + 1] ["t0: both;"] none,
  .forkTask [.act maxId "smile", .hideModel (2 ^ 53 + 1)]]⟩

theorem read_write_ids_crowd :
    crowd.Addressable ∧ (∀ x ∈ crowd.literals, ¬EndsInBackslash x) ∧
      (∀ n ∈ crowd.ids, minId ≤ n ∧ n ≤ maxId) ∧
      ∃ text s', write crowd = .ok text ∧ read text .en = .ok s' ∧
        s'.ids = [3, 2 ^ 53, maxId, 2 ^ 53] := by
  have h : crowd.Addressable := by constructor <;> decide
  have hx : ∀ x ∈ crowd.literals, ¬EndsInBackslash x := by decide
  have hid : ∀ n ∈ crowd.ids, minId ≤ n ∧ n ≤ maxId := by decide
  obtain ⟨text, s', hwrite, hread, rfl, -⟩ := read_write_ids h hx hid .en
  exact ⟨h, hx, hid, text, _, hwrite, hread, by decide +kernel⟩

def beyondExact : Story := ⟨.jp, [.hideModel (2 ^ 53 + 1)]⟩

theorem not_read_write_ids : ¬∀ s : Story, s.Addressable →
    (∀ x ∈ s.literals, ¬EndsInBackslash x) → (∀ n ∈ s.ids, minId ≤ n ∧ n ≤ maxId) →
    ∀ l, ∃ text s', write s = .ok text ∧ read text l = .ok s' ∧ s'.ids = s.ids := by
  intro hall
  have h : beyondExact.Addressable := by constructor <;> decide
  have hx : ∀ x ∈ beyondExact.literals, ¬EndsInBackslash x := nofun
  have hid : ∀ n ∈ beyondExact.ids, minId ≤ n ∧ n ≤ maxId := by decide
  obtain ⟨text, s', hwrite, hread, hids⟩ := hall beyondExact h hx hid .jp
  obtain ⟨text', hwrite', hread'⟩ := read_rounded h (isIntegral_of_ids hid) hx .jp
  obtain rfl := Except.ok.inj (hwrite.symm.trans hwrite')
  obtain rfl := Except.ok.inj (hread.symm.trans hread')
  rw [Story.ids, Action.idsAll_mapIdsAll] at hids
  have hrounded : roundedId (2 ^ 53 + 1) = 2 ^ 53 := by decide +kernel
  have hsame : roundedId (2 ^ 53 + 1) = 2 ^ 53 + 1 := List.head_eq_of_cons_eq hids
  omega

end Trace

end Stagecraft
