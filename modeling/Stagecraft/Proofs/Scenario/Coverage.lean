import Stagecraft.Proofs.Scenario.BackwardScan

namespace Stagecraft.Scenario

def isRecorded : Action → Bool
  | .blocking _ => false
  | .forkTask _ => false
  | .delay _ => false
  | .waitForTap => false
  | .waitForAll => false
  | _ => true

/-- What a record says of the action it comes from. The costume of a character that is not shown and
the place where it was are left open. -/
inductive Carries : Action → Body → Prop
  | talk (text : String) (characters : List Int) (names : List String) (voice : Option String) :
      Carries (.talk text characters names voice) (.talk characters (names.headD "") text)
  | telop (text : String) : Carries (.telop text) (.effect (.telop text))
  | showModel (c : Int) (model : String) (p : Position) (start : Place) :
      Carries (.showModel c model p) (.layout .appear c (lastPart model) start (.ofPosition p))
  | moveModel (c : Int) (p : Position) (costume : String) (start : Place) :
      Carries (.moveModel c p) (.layout .move c costume start (.ofPosition p))
  | hideModel (c : Int) (costume : String) (start target : Place) :
      Carries (.hideModel c) (.layout .hide c costume start target)
  | horizontalShake (c : Int) (costume : String) (start target : Place) :
      Carries (.horizontalShake c) (.layout .shakeX c costume start target)
  | verticalShake (c : Int) (costume : String) (start target : Place) :
      Carries (.verticalShake c) (.layout .shakeY c costume start target)
  | act (c : Int) (motion costume : String) : Carries (.act c motion) (.motion c costume motion "")
  | express (c : Int) (expression costume : String) :
      Carries (.express c expression) (.motion c costume "" expression)
  -- A cover that is shown is the player's fade to it, and one that is hidden its fade from it.
  | showBlackCover (d : Binary64) : Carries (.showBlackCover d) (.effect (.blackOut d))
  | hideBlackCover (d : Binary64) : Carries (.hideBlackCover d) (.effect (.blackIn d))
  | showWhiteCover (d : Binary64) : Carries (.showWhiteCover d) (.effect (.whiteOut d))
  | hideWhiteCover (d : Binary64) : Carries (.hideWhiteCover d) (.effect (.whiteIn d))
  | shakeScreen (d : Binary64) : Carries (.shakeScreen d) (.effect (.shakeScreen d))
  | shakeDialogBox (d : Binary64) : Carries (.shakeDialogBox d) (.effect (.shakeWindow d))
  | changeBackground (path : String) :
      Carries (.changeBackground path) (.effect (.changeBackground (.ofBackground path)))
  | changeBgm (path : String) : Carries (.changeBgm path) (.sound (some (.ofBgm path)) none)
  | changeSe (path : String) : Carries (.changeSe path) (.sound none (some (.ofSe path)))

variable {a : Action}

theorem members?_of_isRecorded (h : isRecorded a = true) : a.members? = none := by
  cases a <;> first | rfl | cases h

theorem isRecorded_of_isOpening (h : isOpening a = true) : isRecorded a = true := by
  cases a <;> first | rfl | cases h

theorem Memory.exists_carries (h : isRecorded a = true) (m : Memory) :
    ∃ b, m.body? a = some b ∧ Carries a b := by
  cases a with
  | blocking _ => cases h
  | forkTask _ => cases h
  | delay _ => cases h
  | waitForTap => cases h
  | waitForAll => cases h
  | talk text characters names voice =>
    refine ⟨_, rfl, ?_⟩
    rw [← List.headD_eq_head?_getD]
    exact .talk text characters names voice
  | showModel c model p =>
    refine ⟨_, rfl, ?_⟩
    rw [← lastPart_eq_costumeName]
    exact .showModel c model p _
  | _ => exact ⟨_, rfl, by constructor⟩

theorem Memory.body?_eq_none (h : isRecorded a = false) (m : Memory) : m.body? a = none := by
  cases a with
  | blocking _ => rfl
  | forkTask _ => rfl
  | delay _ => rfl
  | waitForTap => rfl
  | waitForAll => rfl
  | _ => cases h

/-- The records of a sequence are those of the recorded actions in its tree, in pre-order. -/
theorem flattenSequence_carries (e : Enclosure) (m : Memory) (actions : List Action) :
    List.Forall₂ (fun a r ↦ Carries a r.body) ((Action.walkAll actions).filter isRecorded)
      (flattenSequence e m actions) := by
  induction actions using Action.members_induction generalizing e m with
  | nil => exact .nil
  | cons a rest hmembers hrest =>
    have htail := List.rel_append (hmembers (.ofGroup a) .start) (hrest e (m.after a))
    rw [flattenSequence_cons, Action.walkAll_cons, List.filter_cons, List.filter_append, record?]
    cases h : isRecorded a with
    | true =>
      obtain ⟨b, hb, hcarries⟩ := m.exists_carries h
      rw [hb]
      exact .cons hcarries htail
    | false =>
      rw [m.body?_eq_none h]
      exact htail

def background? : Action → Option String
  | .changeBackground path => some path
  | _ => none

def bgm? : Action → Option String
  | .changeBgm path => some path
  | _ => none

def lastSet? (set? : Action → Option String) (actions : List Action) : Option String :=
  (actions.filterMap set?).getLast?

theorem lastSet?_cons (set? : Action → Option String) (a : Action) (rest : List Action) :
    lastSet? set? (a :: rest) = (lastSet? set? rest).or (set? a) := by
  rw [lastSet?, List.filterMap_cons, lastSet?]
  cases set? a with
  | none => rw [Option.or_none]
  | some path =>
    rw [List.getLast?_cons]
    cases (rest.filterMap set?).getLast? <;> rfl

theorem lastSet?_concat (set? : Action → Option String) (past : List Action) (a : Action) :
    lastSet? set? (past ++ [a]) = (set? a).or (lastSet? set? past) := by
  rw [lastSet?, List.filterMap_append]
  cases h : set? a with
  | none =>
    rw [List.filterMap_cons_none h, List.filterMap_nil, List.append_nil, Option.none_or, lastSet?]
  | some path =>
    rw [List.filterMap_cons_some h, List.filterMap_nil, List.getLast?_concat, Option.some_or]

theorem opening_fst (o : Opening) (actions : List Action) :
    (opening o actions).1 =
      ⟨((lastSet? background? (actions.takeWhile isOpening)).map .ofBackground).or o.background,
        ((lastSet? bgm? (actions.takeWhile isOpening)).map .ofBgm).or o.bgm⟩ := by
  fun_induction opening o actions with
  | case1 o path rest ih =>
    rw [ih, List.takeWhile_cons_of_pos rfl, lastSet?_cons, lastSet?_cons, Option.map_or,
      Option.or_assoc]
    simp [background?, bgm?]
  | case2 o path rest ih =>
    rw [ih, List.takeWhile_cons_of_pos rfl, lastSet?_cons, lastSet?_cons, Option.map_or,
      Option.map_or, Option.or_assoc, Option.or_assoc]
    simp [background?, bgm?]
  | case3 o rest hbackground hbgm =>
    have hempty : rest.takeWhile isOpening = [] := by
      cases rest with
      | nil => rfl
      | cons a rest =>
        cases a with
        | changeBackground path => exact absurd rfl (hbackground path rest)
        | changeBgm path => exact absurd rfl (hbgm path rest)
        | _ => rfl
    rw [hempty]
    rfl

theorem ofStory_eq (s : Story) (server : Int) :
    ofStory s server = ⟨server,
      (lastSet? background? (s.actions.takeWhile isOpening)).map .ofBackground,
      (lastSet? bgm? (s.actions.takeWhile isOpening)).map .ofBgm,
      flattenSequence .topLevel .start (s.actions.dropWhile isOpening)⟩ := by
  have hscene := opening_fst ⟨none, none⟩ s.actions
  have hrest := opening_snd ⟨none, none⟩ s.actions
  rw [Option.or_none, Option.or_none] at hscene
  rw [← hrest]
  exact congrArg (fun scene : Opening ↦
    (⟨server, scene.background, scene.bgm, _⟩ : Scenario)) hscene

/-- Behind the opening scene every recorded action has one record, in pre-order and with what the
action says, and there is no other record. The opening scene holds what is set last in it. -/
theorem ofStory_accounts (s : Story) (server : Int) :
    let scene := s.actions.takeWhile isOpening
    let rest := s.actions.dropWhile isOpening
    List.Forall₂ (fun a r ↦ Carries a r.body) ((Action.walkAll rest).filter isRecorded)
      (ofStory s server).records ∧
    (ofStory s server).records = (ofStory ⟨s.locale, rest⟩ server).records ∧
    (ofStory s server).background = (lastSet? background? scene).map .ofBackground ∧
    (ofStory s server).bgm = (lastSet? bgm? scene).map .ofBgm := by
  intro scene rest
  have hrest : rest.dropWhile isOpening = rest := List.dropWhile_idempotent _ s.actions
  rw [ofStory_eq, ofStory_eq ⟨s.locale, rest⟩, hrest]
  exact ⟨flattenSequence_carries .topLevel .start rest, rfl, rfl, rfl⟩

end Stagecraft.Scenario
