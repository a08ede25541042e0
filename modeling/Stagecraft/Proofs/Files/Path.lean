import Mathlib.Tactic
import Stagecraft.Files.Path

namespace Stagecraft.Path

variable {p : String} {ps : List String}

theorem slash_notMem_splitOn (cs : List Char) : ∀ ds ∈ cs.splitOn '/', '/' ∉ ds := by
  rw [List.splitOn_eq_splitOnP]
  induction cs with
  | nil => simp
  | cons c cs ih =>
    rw [List.splitOnP_cons_eq_if_modifyHead]
    split
    · exact List.forall_mem_cons.2 ⟨List.not_mem_nil, ih⟩
    · next hc =>
      obtain ⟨ds, dss, hds⟩ := List.exists_cons_of_ne_nil (List.splitOnP_ne_nil (· == '/') cs)
      rw [hds] at ih ⊢
      obtain ⟨hd, hds⟩ := List.forall_mem_cons.1 ih
      refine List.forall_mem_cons.2 ⟨?_, hds⟩
      rw [List.mem_cons, not_or]
      exact ⟨fun h ↦ hc (by simp [← h]), hd⟩

structure ArePieces (ps : List String) : Prop where
  ne_nil : ps ≠ []
  slash : ∀ piece ∈ ps, '/' ∉ piece.toList

theorem arePieces_pieces (p : String) : ArePieces (pieces p) where
  ne_nil := by
    rw [pieces, ne_eq, List.map_eq_nil_iff, List.splitOn_eq_splitOnP]
    exact List.splitOnP_ne_nil _ _
  slash := by
    rw [pieces, List.forall_mem_map]
    intro ds hds
    rw [String.toList_ofList]
    exact slash_notMem_splitOn _ ds hds

theorem pieces_ofPieces (h : ArePieces ps) : pieces (ofPieces ps) = ps := by
  rw [pieces, ofPieces, String.toList_intercalate, show "/".toList = ['/'] from rfl,
    List.splitOn_intercalate]
  · simp
  · exact List.forall_mem_map.2 h.slash
  · simpa using h.ne_nil

theorem ofPieces_pieces (p : String) : ofPieces (pieces p) = p := by
  rw [← String.toList_inj, ofPieces, String.toList_intercalate, pieces, show "/".toList = ['/'] from rfl,
    List.map_map]
  simp [Function.comp_def, List.intercalate_splitOn]

theorem isAbsolute_iff : isAbsolute p ↔ ∃ rest, pieces p = "" :: rest ∧ rest ≠ [] := by
  rw [isAbsolute, pieces]
  cases p.toList with
  | nil => simp
  | cons c cs =>
    rw [List.splitOn_cons_eq_if_modifyHead]
    by_cases hc : c = '/'
    · simp [hc]
    · obtain ⟨ds, dss, hds⟩ := List.exists_cons_of_ne_nil (List.splitOn_ne_nil '/' cs)
      simp [hc, hds, ← String.toList_inj]

theorem dropIdle_append (h : ps ≠ []) :
    ∃ idle, dropIdle ps ++ idle = ps ∧ ∀ piece ∈ idle, isIdle piece := by
  obtain ⟨first, rest, rfl⟩ := List.exists_cons_of_ne_nil h
  refine ⟨(rest.reverse.takeWhile isIdle).reverse, ?_, ?_⟩
  · rw [dropIdle, List.cons_append, ← List.reverse_append, List.takeWhile_append_dropWhile,
      List.reverse_reverse]
  · intro piece hpiece
    exact List.all_eq_true.1 List.all_takeWhile _ (List.mem_reverse.1 hpiece)

theorem dropIdle_ne_nil (h : ps ≠ []) : dropIdle ps ≠ [] := by
  obtain ⟨first, rest, rfl⟩ := List.exists_cons_of_ne_nil h
  exact List.cons_ne_nil _ _

/-- A path without the pieces that mean nothing at its end is the root or begins with some pieces of
the path. -/
theorem trimmed_cases (hp : p ≠ "") :
    (∃ idle, pieces p = "" :: idle ∧ idle ≠ [] ∧ (∀ piece ∈ idle, isIdle piece) ∧ trimmed p = "/") ∨
    ∃ qs idle, pieces p = qs ++ idle ∧ qs ≠ [] ∧ qs ≠ [""] ∧ (∀ piece ∈ idle, isIdle piece) ∧
      trimmed p = ofPieces qs := by
  have hne := (arePieces_pieces p).ne_nil
  obtain ⟨idle, hpieces, hidle⟩ := dropIdle_append hne
  rw [trimmed]
  split
  · next hroot =>
    rw [hroot, List.singleton_append] at hpieces
    have hidleNe : idle ≠ [] := by
      rintro rfl
      exact hp (by rw [← ofPieces_pieces p, ← hpieces]; rfl)
    exact .inl ⟨idle, hpieces.symm, hidleNe, hidle,
      if_pos (isAbsolute_iff.2 ⟨idle, hpieces.symm, hidleNe⟩)⟩
  · next hroot => exact .inr ⟨_, idle, hpieces.symm, dropIdle_ne_nil hne, hroot, hidle, rfl⟩

/-- The parent of a path that is not a name alone is the root or begins with some pieces of the
path. -/
theorem parent?_cases {q : String} (h : parent? p = some q) (hq : q ≠ "") :
    (∃ rest, pieces p = "" :: rest ∧ rest ≠ [] ∧ q = "/") ∨
    ∃ qs rest, pieces p = qs ++ rest ∧ rest ≠ [] ∧ qs ≠ [] ∧ qs ≠ [""] ∧ q = ofPieces qs := by
  obtain ⟨idle, hpieces, -⟩ := dropIdle_append (arePieces_pieces p).ne_nil
  rw [parent?] at h
  split at h
  · cases h
  · split at h
    · cases h
    · exact absurd (Option.some.inj h).symm hq
  · next hnil hone =>
    generalize dropIdle (pieces p) = ps at h hpieces hnil hone
    obtain ⟨ps, last, rfl⟩ := (List.eq_nil_or_concat ps).resolve_left hnil
    rw [List.concat_eq_append, List.dropLast_concat] at h
    rw [List.concat_eq_append] at hpieces
    have hps : ps ≠ [] := by
      rintro rfl
      exact hone last rfl
    obtain ⟨idle', hps', -⟩ := dropIdle_append hps
    rw [← hps', List.append_assoc, List.append_assoc] at hpieces
    have hrest : idle' ++ ([last] ++ idle) ≠ [] := by simp
    split at h
    · next hroot =>
      rw [hroot] at hpieces
      exact .inl ⟨_, hpieces.symm, hrest, (Option.some.inj h).symm⟩
    · next hroot =>
      exact .inr ⟨_, _, hpieces.symm, hrest, dropIdle_ne_nil hps, hroot, (Option.some.inj h).symm⟩

end Stagecraft.Path
