import Stagecraft.Proofs.Asset.Snippets

namespace Stagecraft

abbrev Stage := Int → Bool

namespace Stage

def empty : Stage := fun _ ↦ false

def after (stage : Stage) : Action → Stage
  | .showModel c _ _ => Function.update stage c true
  | .moveModel c _ => Function.update stage c true
  | .hideModel c => Function.update stage c false
  | _ => stage

def play (stage : Stage) (actions : List Action) : Stage := actions.foldl after stage

def isStaging : Action → Bool
  | .showModel .. => true
  | .moveModel .. => true
  | .hideModel _ => true
  | _ => false

variable {stage : Stage} {actions : List Action}

theorem play_append (stage : Stage) (actions actions' : List Action) :
    stage.play (actions ++ actions') = (stage.play actions).play actions' :=
  List.foldl_append

theorem after_eq_self {a : Action} (h : isStaging a = false) : stage.after a = stage := by
  cases a with
  | showModel _ _ _ => cases h
  | moveModel _ _ => cases h
  | hideModel _ => cases h
  | _ => rfl

theorem play_eq_self (h : ∀ a ∈ actions, isStaging a = false) : stage.play actions = stage := by
  induction actions with
  | nil => rfl
  | cons a rest ih =>
    obtain ⟨ha, hrest⟩ := List.forall_mem_cons.1 h
    rw [play, List.foldl_cons, after_eq_self ha]
    exact ih hrest

/-- A show of a model is not among actions that have nothing to do with the stage. -/
theorem ne_of_not_isStaging {before rest : List Action} {c : Int} {model : String}
    {position : Position} (h : ∀ a ∈ actions, isStaging a = false) :
    actions ≠ before ++ .showModel c model position :: rest := by
  rintro rfl
  cases h _ (List.mem_append_right _ List.mem_cons_self)

end Stage

namespace LayoutRecord

section onStage

variable {r : LayoutRecord}

theorem onStage_cons_of_some {b : Bool} (h : r.presence? = some b) (earlier : List LayoutRecord) :
    (fun c ↦ onStage c (r :: earlier)) =
      Function.update (fun c ↦ onStage c earlier) r.character b := by
  funext c
  rw [onStage, h]
  by_cases hc : r.character = c
  · rw [if_pos hc, hc, Function.update_self]
  · rw [if_neg hc, Function.update_of_ne (Ne.symm hc)]

theorem onStage_cons_of_none (h : r.presence? = none) (earlier : List LayoutRecord) :
    (fun c ↦ onStage c (r :: earlier)) = fun c ↦ onStage c earlier := by
  funext c
  rw [onStage, h]
  split <;> rfl

end onStage

end LayoutRecord

open Asset LayoutRecord

def Resolved (ds : List Diagnostic) : Prop := ∀ d ∈ ds, d.message.kind ≠ .unresolvedCostume

instance (ds : List Diagnostic) : Decidable (Resolved ds) := List.decidableBAll _ ds

/-- All that a row does, given the rows before it, if no costume is missing. -/
inductive Enacts (locale : Locale) (earlier : List LayoutRecord) (r : LayoutRecord) :
    List Action → Prop
  | stays {as : List Action} (h : r.presence? = none) (has : ∀ a ∈ as, Stage.isStaging a = false) :
      Enacts locale earlier r as
  | leaves (h : r.kind = .hide) : Enacts locale earlier r [.hideModel r.character]
  | moves (position : Position) (h : r.presence? = some true)
      (hon : r.kind = .appear → onStage r.character earlier = true) :
      Enacts locale earlier r [.moveModel r.character position]
  | enters (costume : String) (position : Position) (h : r.kind = .appear)
      (hoff : onStage r.character earlier = false)
      (hcostume : latestCostume? r.character (r :: earlier) = some costume) :
      Enacts locale earlier r [.showModel r.character (modelPath locale costume) position]

/-- An appearance that shows a model: of a character who is off stage in the rows before it, in the
costume that is named last. -/
structure Shows (locale : Locale) (earlier : List LayoutRecord) (r : LayoutRecord) (c : Int)
    (model : String) : Prop where
  kind : r.kind = .appear
  character : r.character = c
  off : onStage c earlier = false
  costume : ∃ costume, latestCostume? c (r :: earlier) = some costume ∧
    model = modelPath locale costume

section row

variable {locale : Locale} {index : ℕ} {earlier : List LayoutRecord} {r : LayoutRecord}

theorem actions_placement (index : ℕ) (side : StageSide) (offset : Int) :
    (placement index side offset).2.actions = [] := by
  rw [placement]
  cases side.anchor? <;> rfl

theorem appearance_enacts (hkind : r.kind = .appear)
    (h : Resolved (appearance locale index earlier r).diagnostics) :
    Enacts locale earlier r (appearance locale index earlier r).actions := by
  have hpresence : r.presence? = some true := by rw [presence?, hkind]
  rw [appearance, Output.diagnostics_append] at h
  rw [appearance, Output.actions_append, actions_placement, List.nil_append]
  cases hstage : onStage r.character earlier with
  | true => exact .moves _ hpresence fun _ ↦ hstage
  | false =>
    rw [hstage] at h
    cases hcostume : latestCostume? r.character (r :: earlier) with
    | some costume => exact .enters costume _ hkind hstage hcostume
    | none =>
      rw [hcostume] at h
      exact absurd rfl (h _ (List.mem_append_right _ List.mem_cons_self))

theorem staging_enacts (h : Resolved (staging locale index earlier r).diagnostics) :
    Enacts locale earlier r (staging locale index earlier r).actions := by
  cases hkind : r.kind with
  | none =>
    rw [staging, hkind]
    exact .stays (by rw [presence?, hkind]) (by simp)
  | move =>
    have hmove : (staging locale index earlier r).actions =
        [.moveModel r.character (placement index r.sideTo r.offsetTo).1] := by
      rw [staging, hkind]
      exact congrArg (· ++ _) (actions_placement index r.sideTo r.offsetTo)
    rw [hmove]
    refine .moves _ (by rw [presence?, hkind]) fun happear ↦ ?_
    rw [hkind] at happear
    cases happear
  | appear =>
    rw [staging, hkind] at h ⊢
    exact appearance_enacts hkind h
  | hide =>
    rw [staging, hkind]
    exact .leaves hkind
  | shakeX =>
    rw [staging, hkind]
    exact .stays (by rw [presence?, hkind]) (by simp [Stage.isStaging])
  | shakeY =>
    rw [staging, hkind]
    exact .stays (by rw [presence?, hkind]) (by simp [Stage.isStaging])

namespace Enacts

variable {as before rest : List Action} {c : Int} {model : String} {position : Position}

/-- Playing a row does to the stage what the row says of it, whatever rows were played before. -/
theorem play_eq (h : Enacts locale earlier r as) (rows : List LayoutRecord) :
    Stage.play (fun c ↦ onStage c rows) as = fun c ↦ onStage c (r :: rows) := by
  cases h with
  | stays h has => rw [Stage.play_eq_self has, onStage_cons_of_none h]
  | leaves h =>
    rw [onStage_cons_of_some (b := false) (by rw [presence?, h])]
    rfl
  | moves position h hon =>
    rw [onStage_cons_of_some h]
    rfl
  | enters costume position h hoff hcostume =>
    rw [onStage_cons_of_some (b := true) (by rw [presence?, h])]
    rfl

theorem eq_of_appear (h : Enacts locale earlier r as) (hkind : r.kind = .appear) :
    ∃ model position, as = [if onStage r.character earlier then .moveModel r.character position
      else .showModel r.character model position] := by
  cases h with
  | stays h has =>
    rw [presence?, hkind] at h
    cases h
  | leaves h =>
    rw [hkind] at h
    cases h
  | moves position h hon => exact ⟨"", position, by rw [hon hkind]; rfl⟩
  | enters costume position h hoff hcostume => exact ⟨_, position, by rw [hoff]; rfl⟩

theorem eq_of_singleton_eq {a b : Action} (h : [b] = before ++ a :: rest) :
    before = [] ∧ a = b := by
  cases before with
  | nil => exact ⟨rfl, (List.cons.inj h).1.symm⟩
  | cons d before => exact absurd (List.cons.inj h).2 (by simp)

theorem of_showModel (h : Enacts locale earlier r as)
    (has : as = before ++ .showModel c model position :: rest) :
    before = [] ∧ Shows locale earlier r c model := by
  cases h with
  | stays h hstays => exact absurd has (Stage.ne_of_not_isStaging hstays)
  | leaves h => cases (eq_of_singleton_eq has).2
  | moves position h hon => cases (eq_of_singleton_eq has).2
  | enters costume position h hoff hcostume =>
    obtain ⟨hbefore, heq⟩ := eq_of_singleton_eq has
    cases heq
    exact ⟨hbefore, h, rfl, hoff, costume, hcostume, rfl⟩

end Enacts

end row

namespace Asset

def isTiming : Action → Bool
  | .delay _ => true
  | .waitForAll => true
  | _ => false

def row? (asset : Asset) (s : Snippet) : Option LayoutRecord :=
  (place? s.reference).bind fun n ↦ asset.layouts[n]?

section snippet

variable (c : Setting) (index : ℕ) (earlier : List Snippet) {s : Snippet} {a : Action}

def timing (earlier : List Snippet) (s : Snippet) : List Action :=
  delayActions earlier s ++ gateActions s

theorem actions_outputAt (asset : Asset) (locale : Locale) (voiceBundle : String) (i : ℕ)
    (s : Snippet) : (outputAt asset locale voiceBundle i s).actions =
      timing (asset.snippets.take i).reverse s ++
        (recordOutput ⟨asset, locale, voiceBundle⟩ i s).actions := rfl

theorem isTiming_of_mem_timing (h : a ∈ timing earlier s) : isTiming a = true := by
  rw [timing, delayActions, gateActions, List.mem_append] at h
  rcases h with h | h <;> split at h <;> simp_all [isTiming]

theorem not_isStaging_of_isTiming (h : isTiming a = true) : Stage.isStaging a = false := by
  cases a <;> first | rfl | cases h

theorem not_isStaging_gestures {character : Int} {motion expression : String}
    (h : a ∈ gestures character motion expression) : Stage.isStaging a = false := by
  rw [gestures, List.mem_append] at h
  rcases h with h | h <;> split at h <;> simp_all [Stage.isStaging]

theorem not_isStaging_talk {voiceBundle : String} {r : TalkRecord}
    (h : a ∈ talkActions voiceBundle r) : Stage.isStaging a = false := by
  rw [talkActions, List.mem_cons, List.mem_flatMap] at h
  obtain rfl | ⟨m, -, h⟩ := h
  · rfl
  · exact not_isStaging_gestures h

theorem not_isStaging_effect {locale : Locale} {r : EffectRecord}
    (h : a ∈ effectActions locale r) : Stage.isStaging a = false := by
  rw [effectActions] at h
  repeat' split at h
  all_goals simp_all [Stage.isStaging]

theorem not_isStaging_sound {locale : Locale} {r : SoundRecord}
    (h : a ∈ soundActions locale r) : Stage.isStaging a = false := by
  rw [soundActions, List.mem_append] at h
  rcases h with h | h <;> split at h <;> simp_all [Stage.isStaging]

/-- Looking a record up either finds it or reports that its place is outside the table. -/
theorem resolve_cases {α : Type} (table : List α) (what : String) (reference : Int)
    (convert : List α → α → Output) :
    (∃ n : ℕ, ∃ r, reference = n ∧ table[n]? = some r ∧
      resolve table what index reference convert = convert (table.take n).reverse r) ∨
    (reference < 0 ∨ table.length ≤ reference) ∧ ∃ detail,
      resolve table what index reference convert =
        .ofDiagnostic (.warning (.snippet index) .unresolvedReference detail) := by
  rw [resolve]
  cases reference with
  | ofNat n =>
    cases hr : table[n]? with
    | some r => exact .inl ⟨n, r, rfl, hr, by rw [place?, Option.bind_some, hr, Option.map_some]⟩
    | none =>
      refine .inr ⟨.inr ?_, _, by rw [place?, Option.bind_some, hr, Option.map_none]⟩
      exact Int.ofNat_le.2 (List.getElem?_eq_none_iff.1 hr)
  | negSucc n => exact .inr ⟨.inl (Int.negSucc_lt_zero n), _, rfl⟩

theorem mem_resolve {α : Type} {table : List α} {what : String} {reference : Int}
    {convert : List α → α → Output} (h : a ∈ (resolve table what index reference convert).actions) :
    ∃ earlier, ∃ r ∈ table, a ∈ (convert earlier r).actions := by
  obtain ⟨n, r, -, hr, heq⟩ | ⟨-, detail, heq⟩ := resolve_cases index table what reference convert
  · rw [heq] at h
    exact ⟨_, r, List.mem_of_getElem? hr, h⟩
  · rw [heq] at h
    cases h

theorem layoutOutput_eq (locale : Locale) (kind : SnippetKind) (earlier : List LayoutRecord)
    (r : LayoutRecord) :
    ∃ gs, (∀ a ∈ gs, Stage.isStaging a = false) ∧ layoutOutput locale index kind earlier r =
      (if kind = .layout then staging locale index earlier r else .nothing) ++ .ofActions gs := by
  refine ⟨_, fun a ha ↦ ?_, rfl⟩
  split at ha
  · exact not_isStaging_gestures ha
  · cases ha

/-- Only layout snippets bear on who is on stage. -/
theorem not_isStaging_record (hkind : s.kind ≠ .layout)
    (h : a ∈ (recordOutput c index s).actions) : Stage.isStaging a = false := by
  rw [recordOutput] at h
  split at h
  · cases h
  · obtain ⟨_, r, -, h⟩ := mem_resolve _ h
    exact not_isStaging_talk h
  · next h' => exact absurd h' hkind
  · obtain ⟨_, r, -, h⟩ := mem_resolve _ h
    obtain ⟨gs, hgs, hlayout⟩ := layoutOutput_eq index c.locale .motion _ r
    rw [hlayout] at h
    exact hgs a h
  · cases h
  · cases h
  · obtain ⟨_, r, -, h⟩ := mem_resolve _ h
    exact not_isStaging_effect h
  · obtain ⟨_, r, -, h⟩ := mem_resolve _ h
    exact not_isStaging_sound h

/-- A layout snippet does what its row says; what else it does leaves the stage as it is. -/
theorem recordOutput_row {r : LayoutRecord} {n : ℕ} (hkind : s.kind = .layout)
    (hreference : s.reference = n) (hr : c.asset.layouts[n]? = some r) :
    ∃ gs, (∀ a ∈ gs, Stage.isStaging a = false) ∧ recordOutput c index s =
      staging c.locale index (c.asset.layouts.take n).reverse r ++ .ofActions gs := by
  obtain ⟨gs, hgs, hlayout⟩ :=
    layoutOutput_eq index c.locale .layout (c.asset.layouts.take n).reverse r
  rw [if_pos rfl] at hlayout
  refine ⟨gs, hgs, ?_⟩
  rw [← hlayout, recordOutput, hkind]
  simp [resolve, hreference, place?, hr]

theorem record_enacts {r : LayoutRecord} {n : ℕ} (hkind : s.kind = .layout)
    (hreference : s.reference = n) (hr : c.asset.layouts[n]? = some r)
    (hresolved : Resolved (recordOutput c index s).diagnostics) :
    ∃ as gs, (recordOutput c index s).actions = as ++ gs ∧
      Enacts c.locale (c.asset.layouts.take n).reverse r as ∧
      ∀ a ∈ gs, Stage.isStaging a = false := by
  obtain ⟨gs, hgs, hrecord⟩ := recordOutput_row c index hkind hreference hr
  rw [hrecord] at hresolved ⊢
  exact ⟨_, gs, rfl, staging_enacts fun d hd ↦ hresolved d (List.mem_append_left _ hd), hgs⟩

theorem recordOutput_dangling (hkind : s.kind = .layout) (hrow : c.asset.row? s = none) :
    (recordOutput c index s).actions = [] := by
  have hplace : ((place? s.reference).bind fun n ↦ c.asset.layouts[n]?.map fun r ↦ (n, r)) = none := by
    rw [row?, Option.bind_eq_none_iff] at hrow
    exact Option.bind_eq_none_iff.2 fun n hn ↦ Option.map_eq_none_iff.2 (hrow n hn)
  rw [recordOutput, hkind]
  dsimp only [resolve]
  rw [hplace]
  rfl

end snippet

end Asset

end Stagecraft
