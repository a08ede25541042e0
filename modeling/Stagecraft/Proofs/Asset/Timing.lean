import Stagecraft.Proofs.Asset.Origins
import Stagecraft.Proofs.Scenario.Coverage

namespace Stagecraft

open Scenario (isRecorded isOpening Memory Carries Enclosure flattenSequence)

namespace Scenario

variable {a : Action} {as : List Action} {m : Memory}

theorem Memory.delay_after (h : isRecorded a = true) (m : Memory) : (m.after a).delay = m.delay := by
  cases a <;> first | rfl | cases h

theorem Memory.after_of_isOpening (h : isOpening a = true) (m : Memory) : m.after a = m := by
  cases a <;> first | rfl | cases h

theorem flattenSequence_leaf (h : a.members? = none) (e : Enclosure) (m : Memory)
    (rest : List Action) : flattenSequence e m (a :: rest) =
      (record? e m rest.isEmpty a).toList ++ flattenSequence e (m.after a) rest := by
  rw [flattenSequence_cons, h]
  rfl

theorem exists_record (h : isRecorded a = true) (e : Enclosure) (m : Memory) (last : Bool) :
    ∃ r, record? e m last a = some r ∧ Carries a r.body ∧ r.delay = m.delay := by
  obtain ⟨b, hb, hcarries⟩ := m.exists_carries h
  exact ⟨_, by rw [record?, hb, Option.map_some], hcarries, rfl⟩

/-- Recorded actions that stand together have records with one delay, that from before them. -/
theorem flattenSequence_recorded (has : ∀ a ∈ as, isRecorded a = true) (e : Enclosure) (m : Memory)
    (rest : List Action) :
    (as.foldl Memory.after m).delay = m.delay ∧
      ∃ rs, List.Forall₂ (fun a r ↦ Carries a r.body ∧ r.delay = m.delay) as rs ∧
        flattenSequence e m (as ++ rest) = rs ++ flattenSequence e (as.foldl Memory.after m) rest := by
  induction as generalizing m with
  | nil => exact ⟨rfl, [], .nil, rfl⟩
  | cons a as ih =>
    obtain ⟨ha, has⟩ := List.forall_mem_cons.1 has
    obtain ⟨hdelay, rs, hrs, hflat⟩ := ih has (m.after a)
    obtain ⟨r, hrecord, hr⟩ := exists_record ha e m (as ++ rest).isEmpty
    rw [m.delay_after ha] at hdelay hrs
    refine ⟨hdelay, r :: rs, .cons hr hrs, ?_⟩
    rw [List.cons_append, flattenSequence_leaf (members?_of_isRecorded ha), hflat, hrecord]
    rfl

theorem foldl_after_of_isOpening (has : ∀ a ∈ as, isOpening a = true) (m : Memory) :
    as.foldl Memory.after m = m := by
  induction as with
  | nil => rfl
  | cons a as ih =>
    obtain ⟨ha, has⟩ := List.forall_mem_cons.1 has
    rw [List.foldl_cons, m.after_of_isOpening ha, ih has]

/-- The actions that go to the opening scene leave no trace in the memory, so the records behind them
are those they would have if the scene had records too. -/
theorem forall₂_behind_opening {ι : Type} {R : ι × Action → Record → Prop} {told : List (ι × Action)}
    {e : Enclosure} (h : List.Forall₂ R (told.filter (isRecorded ·.2))
      (flattenSequence e m (told.map Prod.snd))) :
    List.Forall₂ R ((told.dropWhile (isOpening ·.2)).filter (isRecorded ·.2))
      (flattenSequence e m ((told.map Prod.snd).dropWhile isOpening)) := by
  have hdrop : (told.map Prod.snd).dropWhile isOpening =
      (told.dropWhile (isOpening ·.2)).map Prod.snd := List.dropWhile_map ..
  have hscene : ∀ p ∈ told.takeWhile (isOpening ·.2), isOpening p.2 = true := by
    intro p hp
    have hall := List.all_takeWhile (p := fun p : ι × Action ↦ isOpening p.2) (l := told)
    exact List.all_eq_true.1 hall p hp
  rw [hdrop]
  rw [← List.takeWhile_append_dropWhile (p := (isOpening ·.2)) (l := told)] at h
  generalize told.takeWhile (isOpening ·.2) = scene, told.dropWhile (isOpening ·.2) = behind
    at h hscene
  have hopening : ∀ a ∈ scene.map Prod.snd, isOpening a = true := List.forall_mem_map.2 hscene
  have hfilter : scene.filter (isRecorded ·.2) = scene :=
    List.filter_eq_self.2 fun p hp ↦ isRecorded_of_isOpening (hscene p hp)
  obtain ⟨-, rs, hrs, hflat⟩ := flattenSequence_recorded
    (fun a ha ↦ isRecorded_of_isOpening (hopening a ha)) e m (behind.map Prod.snd)
  have hlength : rs.length = scene.length := by rw [← hrs.length_eq, List.length_map]
  rw [List.map_append, hflat, foldl_after_of_isOpening hopening, List.filter_append, hfilter] at h
  have hbehind := List.forall₂_drop scene.length h
  rwa [List.drop_left, List.drop_left' hlength] at hbehind

end Scenario

namespace Asset

def setsTime (s : Snippet) : Bool := s.isGating || s.delay.isPositive

/-- The delay from which the next snippet counts: that of the nearest earlier snippet that sets the
time, unless it is gating. The latest snippet comes first. -/
def countedFrom (earlier : List Snippet) : Binary64 :=
  match earlier.find? setsTime with
  | some s => if s.isGating then .zero else s.delay
  | none => .zero

/-- The whole seconds that the nearest snippet setting the time leaves behind it, if it is not
gating. The latest snippet comes first. -/
def secondsAfter (latest : List Snippet) : Int :=
  match latest.dropWhile (!setsTime ·) with
  | s :: earlier => if s.isGating then 0 else (s.delay.sub (countedFrom earlier)).toId
  | [] => 0

variable {s : Snippet} {earlier : List Snippet} {m : Memory}

theorem Made.isRecorded {asset : Asset} {a : Action} (h : Made asset a) : isRecorded a = true := by
  cases h <;> rfl

theorem not_isRecorded_of_isTiming {a : Action} (h : isTiming a = true) : isRecorded a = false := by
  cases a <;> first | rfl | cases h

theorem baseline_eq (earlier : List Snippet) : baseline earlier = countedFrom earlier := by
  induction earlier with
  | nil => rfl
  | cons s earlier ih =>
    rw [baseline, countedFrom, List.find?_cons, setsTime]
    cases hgating : s.isGating with
    | true => simp [hgating]
    | false =>
      cases hpositive : s.delay.isPositive with
      | true => simp [hgating]
      | false => simpa [countedFrom] using ih

theorem secondsAfter_cons (s : Snippet) (earlier : List Snippet) :
    secondsAfter (s :: earlier) =
      if s.isGating then 0
      else if s.delay.isPositive then (s.delay.sub (baseline earlier)).toId
      else secondsAfter earlier := by
  rw [baseline_eq, secondsAfter, List.dropWhile_cons, setsTime]
  cases hgating : s.isGating with
  | true => simp [hgating]
  | false =>
    cases hpositive : s.delay.isPositive with
    | true => simp [hgating]
    | false => simp [secondsAfter]

/-- The delay and the gate of a snippet have no records. Behind them the scenario counts what the
snippets so far leave. -/
theorem flattenSequence_timing (hm : m.delay = secondsAfter earlier) (e : Enclosure)
    (rest : List Action) : ∃ m' : Memory, m'.delay = secondsAfter (s :: earlier) ∧
      flattenSequence e m (timing earlier s ++ rest) = flattenSequence e m' rest := by
  rw [secondsAfter_cons, timing, delayActions, gateActions]
  cases s.isGating with
  | true =>
    cases s.delay.isPositive with
    | true => exact ⟨(m.after (.delay _)).after .waitForAll, rfl, rfl⟩
    | false => exact ⟨m.after .waitForAll, rfl, rfl⟩
  | false =>
    cases s.delay.isPositive with
    | true => exact ⟨m.after (.delay _), rfl, rfl⟩
    | false => exact ⟨m, hm, rfl⟩

section story

variable (asset : Asset) (locale : Locale) (voiceBundle : String)

def numberedFrom (index : ℕ) (snippets : List Snippet) : List (ℕ × Action) :=
  (snippets.zipIdx index).flatMap fun p ↦
    (outputAt asset locale voiceBundle p.2 p.1).actions.map (p.2, ·)

def numbered : List (ℕ × Action) := numberedFrom asset locale voiceBundle 0 asset.snippets

def Timed (p : ℕ × Action) (r : Scenario.Record) : Prop :=
  Carries p.2 r.body ∧ r.delay = secondsAfter (asset.snippets.take (p.1 + 1)).reverse

variable {asset} {before rest : List Snippet}

theorem take_length_succ (h : asset.snippets = before ++ s :: rest) :
    asset.snippets.take (before.length + 1) = before ++ [s] := by
  rw [h, List.append_cons, List.take_left' (by simp)]

theorem numberedFrom_cons (h : asset.snippets = before ++ s :: rest) :
    numberedFrom asset locale voiceBundle before.length (s :: rest) =
      (timing before.reverse s).map (before.length, ·) ++
        ((recordOutput ⟨asset, locale, voiceBundle⟩ before.length s).actions.map (before.length, ·) ++
          numberedFrom asset locale voiceBundle (before ++ [s]).length rest) := by
  have hbefore : asset.snippets.take before.length = before := by rw [h, List.take_left]
  rw [numberedFrom, List.zipIdx_cons, List.flatMap_cons, outputAt, hbefore, ← List.append_assoc,
    ← List.map_append, List.length_append]
  rfl

theorem isOpening_of_mem_opening {c : Setting} {a : Action} (h : a ∈ openingActions c) :
    isOpening a = true := by
  rw [openingActions, List.mem_append] at h
  rcases h with h | h
  · split at h
    · cases h
    · rw [List.mem_singleton.1 h]
      rfl
  · split at h
    · cases h
    · rw [List.mem_singleton.1 h]
      rfl

/-- A conversion goes through the actions of the snippets in their order. -/
theorem actions_snippetsOutput (h : asset.snippets = before ++ rest) :
    (snippetsOutput ⟨asset, locale, voiceBundle⟩ before.length before.reverse rest).actions =
      (numberedFrom asset locale voiceBundle before.length rest).map Prod.snd := by
  induction rest generalizing before with
  | nil => rfl
  | cons s rest ih =>
    have hrest : asset.snippets = (before ++ [s]) ++ rest := by rw [h, List.append_cons]
    have ih := ih hrest
    rw [List.length_append, List.reverse_concat] at ih
    rw [numberedFrom_cons _ _ h, snippetsOutput, Output.actions_append, List.map_append,
      List.map_append, List.map_map, List.map_map, List.length_append, ← ih, ← List.append_assoc]
    simp [snippetOutput, timing, Function.comp_def]

theorem actions_convert : (convert asset locale voiceBundle).story.actions =
    openingActions ⟨asset, locale, voiceBundle⟩ ++
      (numbered asset locale voiceBundle).map Prod.snd :=
  congrArg (_ ++ ·) (@actions_snippetsOutput asset locale voiceBundle [] _ rfl)

/-- The records of the snippets from one on, if the scenario counts what the snippets before leave. -/
theorem flattenSequence_numberedFrom (h : asset.snippets = before ++ rest)
    (hm : m.delay = secondsAfter before.reverse) (e : Enclosure) :
    List.Forall₂ (Timed asset)
      ((numberedFrom asset locale voiceBundle before.length rest).filter (isRecorded ·.2))
      (flattenSequence e m
        ((numberedFrom asset locale voiceBundle before.length rest).map Prod.snd)) := by
  induction rest generalizing before m with
  | nil => exact .nil
  | cons s rest ih =>
    have hrest : asset.snippets = (before ++ [s]) ++ rest := by rw [h, List.append_cons]
    have htiming : ((timing before.reverse s).map (before.length, ·)).filter (isRecorded ·.2) = [] := by
      refine List.filter_eq_nil_iff.2 (List.forall_mem_map.2 fun a ha ↦ ?_)
      rw [not_isRecorded_of_isTiming (isTiming_of_mem_timing _ ha)]
      exact Bool.false_ne_true
    -- Of the actions of a snippet, those of its timing set the delay, and all others are recorded.
    generalize htold : (recordOutput ⟨asset, locale, voiceBundle⟩ before.length s).actions = told
    have hrecorded : ∀ a ∈ told, isRecorded a = true :=
      fun a ha ↦ (made_of_mem_record (htold ▸ ha)).isRecorded
    have hfilter : (told.map (before.length, ·)).filter (isRecorded ·.2) =
        told.map (before.length, ·) :=
      List.filter_eq_self.2 (List.forall_mem_map.2 hrecorded)
    rw [numberedFrom_cons _ _ h, htold]
    simp only [List.filter_append, List.map_append, List.map_map, Function.comp_def, List.map_id',
      htiming, hfilter, List.nil_append]
    obtain ⟨m', hm', hflat⟩ := flattenSequence_timing (s := s) hm e
      (told ++ (numberedFrom asset locale voiceBundle (before ++ [s]).length rest).map Prod.snd)
    obtain ⟨hdelay, rs, hrs, hflat'⟩ := Scenario.flattenSequence_recorded hrecorded e m'
      ((numberedFrom asset locale voiceBundle (before ++ [s]).length rest).map Prod.snd)
    rw [hflat, hflat']
    refine List.rel_append ?_ (ih hrest ?_)
    · rw [List.forall₂_map_left_iff]
      refine hrs.imp fun a r hr ↦ ⟨hr.1, ?_⟩
      rw [hr.2, hm', take_length_succ h, List.reverse_concat]
    · rw [hdelay, hm', List.reverse_concat]

/-- A record that comes from a snippet waits for what the nearest snippet, up to this one, that sets
the time leaves: nothing if that is gating or there is none, otherwise its delay less the delay from
which it counts. -/
theorem delay_ofStory (asset : Asset) (locale : Locale) (voiceBundle : String) (server : Int) :
    let told := numbered asset locale voiceBundle
    (convert asset locale voiceBundle).story.actions =
      openingActions ⟨asset, locale, voiceBundle⟩ ++ told.map Prod.snd ∧
    List.Forall₂ (fun p r ↦ Carries p.2 r.body ∧
        r.delay = secondsAfter (asset.snippets.take (p.1 + 1)).reverse)
      ((told.dropWhile (isOpening ·.2)).filter (isRecorded ·.2))
      (Scenario.ofStory (convert asset locale voiceBundle).story server).records := by
  intro told
  have hactions := @actions_convert asset locale voiceBundle
  refine ⟨hactions, ?_⟩
  have hopening : ∀ a ∈ openingActions ⟨asset, locale, voiceBundle⟩, isOpening a = true :=
    fun a ↦ isOpening_of_mem_opening
  have htold := @flattenSequence_numberedFrom .start asset locale voiceBundle [] _ rfl rfl .topLevel
  rw [Scenario.ofStory_eq, hactions, List.dropWhile_append_of_pos hopening]
  exact Scenario.forall₂_behind_opening htold

end story

end Asset

end Stagecraft
