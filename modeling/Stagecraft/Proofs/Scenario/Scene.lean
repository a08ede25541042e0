import Stagecraft.Proofs.Scenario.Coverage

namespace Stagecraft.Scenario

abbrev Scene := Opening

namespace Scene

def after (scene : Scene) (r : Record) : Scene :=
  match r.body with
  | .effect (.changeBackground background) => { scene with background := some background }
  | .sound (some bgm) _ => { scene with bgm := some bgm }
  | _ => scene

/-- The scene that some actions have set last. -/
def told (past : List Action) : Scene :=
  ⟨(lastSet? background? past).map .ofBackground, (lastSet? bgm? past).map .ofBgm⟩

def play (scene : Scene) : List Record → List (Record × Scene)
  | [] => []
  | r :: rest => (r, scene.after r) :: play (scene.after r) rest

end Scene

def played (s : Scenario) : List (Record × Scene) := Scene.play ⟨s.background, s.bgm⟩ s.records

variable {a : Action} {past rest whole : List Action} {r : Record} {records : List Record}

namespace Scene

theorem told_concat (past : List Action) (a : Action) :
    told (past ++ [a]) = ⟨((background? a).map .ofBackground).or (told past).background,
      ((bgm? a).map .ofBgm).or (told past).bgm⟩ := by
  rw [told, lastSet?_concat, lastSet?_concat, Option.map_or, Option.map_or]
  rfl

/-- The record of an action does to the scene what the action does to it. -/
theorem after_told (h : Carries a r.body) (past : List Action) :
    (told past).after r = told (past ++ [a]) := by
  obtain ⟨delay, wait, body⟩ := r
  rw [told_concat]
  cases h <;> rfl

theorem told_unrecorded (h : isRecorded a = false) (past : List Action) :
    told (past ++ [a]) = told past := by
  rw [told_concat]
  cases a with
  | blocking _ => rfl
  | forkTask _ => rfl
  | delay _ => rfl
  | waitForTap => rfl
  | waitForAll => rfl
  | _ => cases h

theorem map_fst_play (scene : Scene) (records : List Record) :
    (scene.play records).map Prod.fst = records := by
  induction records generalizing scene with
  | nil => rfl
  | cons r rest ih => exact congrArg (r :: ·) (ih _)

/-- If the scene is the one that the actions so far have set, it stays so as the records of the
following actions are played. -/
theorem play_told (hwhole : past ++ rest = whole)
    (h : List.Forall₂ (fun a r ↦ Carries a r.body) (rest.filter isRecorded) records) :
    List.Forall₂ (fun p q ↦ Carries p.1 q.1.body ∧ q.2 = told (whole.take (p.2 + 1)))
      ((rest.zipIdx past.length).filter (isRecorded ·.1)) ((told past).play records) := by
  induction rest generalizing past records with
  | nil =>
    cases h
    exact .nil
  | cons a rest ih =>
    rw [List.append_cons] at hwhole
    have hpast : whole.take (past.length + 1) = past ++ [a] := by
      rw [← hwhole, List.take_left' (by simp)]
    have hlength : (past ++ [a]).length = past.length + 1 := by simp
    rw [List.zipIdx_cons, List.filter_cons, ← hlength]
    rw [List.filter_cons] at h
    cases hrecorded : isRecorded a with
    | true =>
      rw [hrecorded] at h
      cases h with
      | @cons _ r _ records hr hrest =>
        have hscene : (told past).after r = told (past ++ [a]) := after_told hr past
        refine .cons ⟨hr, hscene.trans (congrArg told hpast.symm)⟩ ?_
        rw [hscene]
        exact ih hwhole hrest
    | false =>
      rw [hrecorded] at h
      rw [← told_unrecorded hrecorded past]
      exact ih hwhole h

end Scene

theorem walkAll_opening (actions : List Action) : Action.walkAll actions =
    actions.takeWhile isOpening ++ Action.walkAll (actions.dropWhile isOpening) := by
  have hleaves : ∀ a ∈ actions.takeWhile isOpening, a.members? = none :=
    fun a ha ↦ members?_of_isRecorded (isRecorded_of_isOpening (List.mem_takeWhile_imp ha))
  conv_lhs => rw [← List.takeWhile_append_dropWhile (p := isOpening) (l := actions)]
  rw [Action.walkAll_append, Action.walkAll_of_leaves hleaves]

/-- Behind every record the player shows the background and plays the music that the story has set
last, up to the action of the record in pre-order: at the opening, at the top or inside a group. -/
theorem scene_ofStory (s : Story) (server : Int) :
    let opening := s.actions.takeWhile isOpening
    let scenario := ofStory s server
    scenario.played.map Prod.fst = scenario.records ∧
    List.Forall₂ (fun p q ↦ Carries p.1 q.1.body ∧ q.2 = Scene.told (s.walk.take (p.2 + 1)))
      ((s.walk.zipIdx.drop opening.length).filter (isRecorded ·.1)) scenario.played := by
  intro opening scenario
  refine ⟨Scene.map_fst_play _ _, ?_⟩
  generalize hrest : s.actions.dropWhile isOpening = rest
  have hwalk : opening ++ Action.walkAll rest = s.walk := by
    rw [← hrest]
    exact (walkAll_opening s.actions).symm
  have hplaces : s.walk.zipIdx.drop opening.length =
      (Action.walkAll rest).zipIdx opening.length := by
    rw [← hwalk, List.zipIdx_append, List.drop_left' List.length_zipIdx, Nat.zero_add]
  have hplayed : scenario.played =
      (Scene.told opening).play (flattenSequence .topLevel .start rest) := by
    rw [← hrest]
    exact congrArg played (ofStory_eq s server)
  rw [hplaces, hplayed]
  exact Scene.play_told hwalk (flattenSequence_carries .topLevel .start rest)

end Stagecraft.Scenario
