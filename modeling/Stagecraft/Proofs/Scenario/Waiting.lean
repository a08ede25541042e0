import Stagecraft.Proofs.Scenario.Coverage

namespace Stagecraft.Scenario

variable {x : Site} {top : List Action}

theorem Memory.exists_recalls (earlier : List Action) : ∃ m : Memory, m.Recalls earlier := by
  induction earlier with
  | nil => exact ⟨.start, Memory.recalls_start⟩
  | cons a earlier ih =>
    obtain ⟨m, hm⟩ := ih
    exact ⟨m.after a, hm.after a⟩

namespace Site

def EndsBlocking (x : Site) : Prop := x.enclosure = .blocking ∧ x.later = []

/-- The sequence in which an action stands belongs to the story itself or to a group in it. -/
def Stands (top : List Action) (x : Site) : Prop :=
  match x.enclosure with
  | .topLevel => x.sequence = top
  | .blocking => ∃ e actions, Flat top e actions ∧ .blocking x.sequence ∈ actions
  | .fork => ∃ e actions, Flat top e actions ∧ .forkTask x.sequence ∈ actions

theorem stands_of_flat (h : Flat top x.enclosure x.sequence) : x.Stands top := by
  rw [Stands]
  generalize x.enclosure = e, x.sequence = actions at h
  cases h with
  | top => rfl
  | @group e' outer _ a h ha hm =>
    cases a with
    | blocking members =>
      cases hm
      exact ⟨e', outer, h, ha⟩
    | forkTask members =>
      cases hm
      exact ⟨e', outer, h, ha⟩
    | _ => cases hm

theorem stands_of_mem (h : x ∈ sites .topLevel [] top) : x.Stands top :=
  stands_of_flat (flat_of_mem_sites .top h)

theorem isAwaited_iff : x.isAwaited = true ↔ isTalk x.action = true ∨ x.EndsBlocking := by
  rw [isAwaited, Bool.or_eq_true, Bool.and_eq_true, decide_eq_true_eq, List.isEmpty_iff, EndsBlocking]

/-- An action that ends its group is the last of the sequence it stands in. -/
theorem EndsBlocking.getLast?_eq (h : x.EndsBlocking) : x.sequence.getLast? = some x.action := by
  rw [sequence, h.2, List.getLast?_concat]

/-- In a blocking group that ends in an action without a record, and everywhere outside of blocking
groups, no recorded action ends its group. -/
theorem not_endsBlocking (hrecorded : isRecorded x.action = true)
    (h : x.enclosure ≠ .blocking ∨ ∃ a ∈ x.sequence.getLast?, isRecorded a = false) :
    ¬x.EndsBlocking := by
  intro hends
  rcases h with henclosure | ⟨a, ha, hunrecorded⟩
  · exact henclosure hends.1
  · rw [hends.getLast?_eq, Option.mem_some_iff] at ha
    rw [ha, hunrecorded] at hrecorded
    cases hrecorded

/-- What a place makes of its action is what a memory of the earlier actions makes of it. -/
theorem exists_body?_eq (x : Site) : ∃ m : Memory, x.body? = m.body? x.action := by
  obtain ⟨m, hm⟩ := Memory.exists_recalls x.earlier
  exact ⟨m, hm.body?_eq.symm⟩

theorem exists_record (h : isRecorded x.action = true) :
    ∃ r, x.record? = some r ∧ Carries x.action r.body ∧ r.wait = x.isAwaited := by
  obtain ⟨m, hm⟩ := x.exists_body?_eq
  obtain ⟨b, hb, hcarries⟩ := m.exists_carries h
  exact ⟨_, by rw [record?, hm, hb, Option.map_some], hcarries, rfl⟩

theorem record?_eq_none (h : isRecorded x.action = false) : x.record? = none := by
  obtain ⟨m, hm⟩ := x.exists_body?_eq
  rw [record?, hm, m.body?_eq_none h, Option.map_none]

end Site

/-- The recorded places of some sites and the records of all of them go together, one by one. -/
theorem forall₂_record (xs : List Site) :
    List.Forall₂ (fun x r ↦ Carries x.action r.body ∧ r.wait = x.isAwaited)
      (xs.filter (isRecorded ·.action)) (xs.filterMap Site.record?) := by
  induction xs with
  | nil => exact .nil
  | cons x xs ih =>
    rw [List.filter_cons]
    cases h : isRecorded x.action with
    | true =>
      obtain ⟨r, hr, hx⟩ := x.exists_record h
      rw [List.filterMap_cons_some hr]
      exact .cons hx ih
    | false =>
      rw [List.filterMap_cons_none (x.record?_eq_none h)]
      exact ih

/-- The player waits for a record exactly if it comes from a line of dialogue or from the action that
ends the blocking group that holds it directly. So in a blocking group that ends in an action without
a record, and among the members of a fork and of the story itself, lines of dialogue alone are
awaited. -/
theorem wait_ofStory (s : Story) (server : Int) :
    let top := s.actions.dropWhile isOpening
    List.Forall₂ (fun x r ↦ x.Stands top ∧ Carries x.action r.body ∧
        (r.wait = true ↔ isTalk x.action = true ∨ x.EndsBlocking) ∧
        (isTalk x.action = false →
          (x.enclosure ≠ .blocking ∨ ∃ a ∈ x.sequence.getLast?, isRecorded a = false) →
          r.wait = false))
      ((sites .topLevel [] top).filter (isRecorded ·.action)) (ofStory s server).records ∧
    (∀ x, x ∈ sites .topLevel [] top ↔
      ∃ actions, Flat top x.enclosure actions ∧ ∃ i, x = siteAt x.enclosure actions i) := by
  refine ⟨?_, fun x ↦ mem_sites⟩
  generalize htop : s.actions.dropWhile isOpening = top
  have hrecords : (ofStory s server).records = (sites .topLevel [] top).filterMap Site.record? := by
    rw [ofStory_eq, htop]
    exact flattenSequence_eq Memory.recalls_start .topLevel top
  have hplaces : ∀ x ∈ (sites .topLevel [] top).filter (isRecorded ·.action),
      isRecorded x.action = true ∧ x.Stands top := by
    intro x hx
    obtain ⟨hmem, hrecorded⟩ := List.mem_filter.1 hx
    exact ⟨hrecorded, Site.stands_of_mem hmem⟩
  rw [hrecords]
  refine ((List.forall₂_and_left _ _).2 ⟨hplaces, forall₂_record _⟩).imp ?_
  rintro x r ⟨⟨hrecorded, hstands⟩, hcarries, hwait⟩
  refine ⟨hstands, hcarries, hwait ▸ Site.isAwaited_iff, fun htalk hgroup ↦ ?_⟩
  rw [hwait, ← Bool.not_eq_true, Site.isAwaited_iff, not_or]
  exact ⟨Bool.eq_false_iff.1 htalk, Site.not_endsBlocking hrecorded hgroup⟩

end Stagecraft.Scenario
