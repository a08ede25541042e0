import Stagecraft.Proofs.Asset.Timing
import Stagecraft.Proofs.Binary64.Exact

namespace Stagecraft

namespace Asset

open Binary64 (grains? total? total?_nil total?_concat unit)

def seconds? : Action → Option Binary64
  | .delay x => some x
  | _ => none

def seconds (as : List Action) : List Binary64 := as.filterMap seconds?

variable {s : Snippet} {earlier : List Snippet} {as : List Action}

theorem seconds_append (as as' : List Action) : seconds (as ++ as') = seconds as ++ seconds as' :=
  List.filterMap_append

theorem seconds_recorded (h : ∀ a ∈ as, Scenario.isRecorded a = true) : seconds as = [] := by
  refine List.filterMap_eq_nil_iff.2 fun a ha ↦ ?_
  have hrecorded := h a ha
  cases a <;> first | rfl | cases hrecorded

/-- The seconds by which a snippet is delayed behind the snippets before it, the latest of which
comes first. -/
def snippetSeconds (earlier : List Snippet) (s : Snippet) : List Binary64 :=
  if s.delay.isPositive then [s.delay.sub (baseline earlier)] else []

theorem seconds_timing (earlier : List Snippet) (s : Snippet) :
    seconds (timing earlier s) = snippetSeconds earlier s := by
  rw [timing, seconds_append, delayActions, gateActions, snippetSeconds]
  cases s.delay.isPositive <;> cases s.isGating <;> rfl

theorem seconds_outputAt (asset : Asset) (locale : Locale) (voiceBundle : String) (i : ℕ)
    (s : Snippet) : seconds (outputAt asset locale voiceBundle i s).actions =
      snippetSeconds (asset.snippets.take i).reverse s := by
  have hrecord : ∀ a ∈ (recordOutput ⟨asset, locale, voiceBundle⟩ i s).actions,
      Scenario.isRecorded a = true := fun a ha ↦ (made_of_mem_record ha).isRecorded
  rw [actions_outputAt, seconds_append, seconds_timing, seconds_recorded hrecord, List.append_nil]

def stretchSeconds : List Snippet → List Binary64
  | [] => []
  | s :: earlier =>
    if s.isGating then [] else stretchSeconds earlier ++ snippetSeconds earlier s

def IsWhole (x : Binary64) : Prop := ∃ n : ℕ, n < 2 ^ 53 ∧ x = .ofInt n

theorem IsWhole.grains?_eq {x : Binary64} (h : IsWhole x) :
    ∃ n : ℕ, n < 2 ^ 53 ∧ grains? x = some ((n : ℤ) * unit) := by
  obtain ⟨n, hn, rfl⟩ := h
  exact ⟨n, hn, Binary64.grains?_ofInt (by omega)⟩

theorem isWhole_ofInt {n : ℤ} (hlower : 0 ≤ n) (hupper : n < 2 ^ 53) : IsWhole (.ofInt n) :=
  ⟨n.toNat, by omega, by rw [Int.toNat_of_nonneg hlower]⟩

theorem isWhole_zero : IsWhole .zero := ⟨0, by decide, by decide +kernel⟩

theorem grains?_zero : grains? .zero = some 0 := by decide +kernel

theorem isWhole_baseline (h : ∀ s ∈ earlier, s.delay.isPositive → IsWhole s.delay) :
    IsWhole (baseline earlier) := by
  induction earlier with
  | nil => exact isWhole_zero
  | cons s earlier ih =>
    obtain ⟨hs, hearlier⟩ := List.forall_mem_cons.1 h
    rw [baseline]
    split_ifs with hgating hpositive
    · exact isWhole_zero
    · exact hs hpositive
    · exact ih hearlier

/-- With a snippet the seconds of a stretch grow from the delay before it to its own. -/
theorem total?_concat_snippet {xs : List Binary64}
    (hxs : total? xs = grains? (baseline earlier))
    (hs : s.delay.isPositive → IsWhole s.delay)
    (h : ∀ s ∈ earlier, s.delay.isPositive → IsWhole s.delay) :
    total? (xs ++ snippetSeconds earlier s) =
      if s.delay.isPositive then grains? s.delay else grains? (baseline earlier) := by
  rw [snippetSeconds]
  split_ifs with hpositive
  · obtain ⟨m, hm, hdelay⟩ := (hs hpositive).grains?_eq
    obtain ⟨n, hn, hbaseline⟩ := (isWhole_baseline h).grains?_eq
    rw [hbaseline] at hxs
    rw [total?_concat hxs (Binary64.grains?_sub_ofInt hm hn hdelay hbaseline), hdelay,
      add_sub_cancel]
  · rw [List.append_nil, hxs]

/-- The seconds of a stretch add up to the delay from which the next snippet counts. -/
theorem total?_stretchSeconds (h : ∀ s ∈ earlier, s.delay.isPositive → IsWhole s.delay) :
    total? (stretchSeconds earlier) = grains? (baseline earlier) := by
  induction earlier with
  | nil => exact total?_nil.trans grains?_zero.symm
  | cons s earlier ih =>
    obtain ⟨hs, hearlier⟩ := List.forall_mem_cons.1 h
    rw [stretchSeconds, baseline]
    split_ifs with hgating hpositive
    · exact total?_nil.trans grains?_zero.symm
    · rw [total?_concat_snippet (ih hearlier) hs hearlier, if_pos hpositive]
    · rw [total?_concat_snippet (ih hearlier) hs hearlier, if_neg hpositive]

def isUngated (snippets : List Snippet) (j : ℕ) : Bool := (snippets.drop j).all (!·.isGating)

/-- Whether a snippet is in the stretch that ends with another: it is not behind it, and from it on
there is no gate before the other. -/
def inStretch (snippets : List Snippet) (i j : ℕ) : Bool := j ≤ i && isUngated (snippets.take i) j

theorem isUngated_concat {snippets : List Snippet} {j : ℕ} (hj : j ≤ snippets.length) (s : Snippet) :
    isUngated (snippets ++ [s]) j = (isUngated snippets j && !s.isGating) := by
  rw [isUngated, List.drop_append_of_le_length hj, List.all_append, List.all_cons, List.all_nil,
    Bool.and_true, isUngated]

theorem isUngated_length (snippets : List Snippet) : isUngated snippets snippets.length = true := by
  rw [isUngated, List.drop_length, List.all_nil]

section story

variable {asset : Asset} {before rest : List Snippet} (locale : Locale) (voiceBundle : String)

theorem numberedFrom_append (index : ℕ) (xs ys : List Snippet) :
    numberedFrom asset locale voiceBundle index (xs ++ ys) =
      numberedFrom asset locale voiceBundle index xs ++
        numberedFrom asset locale voiceBundle (index + xs.length) ys := by
  rw [numberedFrom, List.zipIdx_append, List.flatMap_append]
  rfl

theorem numberedFrom_singleton (index : ℕ) (s : Snippet) :
    numberedFrom asset locale voiceBundle index [s] =
      (outputAt asset locale voiceBundle index s).actions.map (index, ·) := by
  rw [numberedFrom, List.zipIdx_singleton, List.flatMap_singleton]

theorem le_of_mem_numberedFrom {index : ℕ} {snippets : List Snippet} {p : ℕ × Action}
    (h : p ∈ numberedFrom asset locale voiceBundle index snippets) :
    index ≤ p.1 ∧ p.1 < index + snippets.length := by
  obtain ⟨⟨s, i⟩, hs, hp⟩ := List.mem_flatMap.1 h
  obtain ⟨a, -, rfl⟩ := List.mem_map.1 hp
  have hi := List.mem_zipIdx hs
  exact ⟨hi.1, by omega⟩

theorem outputAt_length (h : asset.snippets = before ++ s :: rest) :
    seconds (outputAt asset locale voiceBundle before.length s).actions =
      snippetSeconds before.reverse s := by
  rw [seconds_outputAt, h, List.take_left]

/-- Of the snippets up to a place, those behind the last gate among them delay by the seconds of the
stretch. -/
theorem seconds_ungated (h : asset.snippets = before ++ rest) :
    seconds (((numberedFrom asset locale voiceBundle 0 before).filter
      (isUngated before ·.1)).map Prod.snd) = stretchSeconds before.reverse := by
  induction before using List.reverseRecOn generalizing rest with
  | nil => rfl
  | append_singleton before s ih =>
    have hbefore : asset.snippets = before ++ s :: rest := by
      rw [h, List.append_assoc, List.singleton_append]
    have hungated : ∀ p ∈ numberedFrom asset locale voiceBundle 0 before,
        isUngated (before ++ [s]) p.1 = (isUngated before p.1 && !s.isGating) := by
      intro p hp
      have hlt := (le_of_mem_numberedFrom _ _ hp).2
      exact isUngated_concat (by omega) s
    have hlast : isUngated (before ++ [s]) before.length = !s.isGating := by
      rw [isUngated_concat le_rfl, isUngated_length, Bool.true_and]
    rw [numberedFrom_append, numberedFrom_singleton, Nat.zero_add, List.filter_append,
      List.filter_congr hungated, List.filter_map, List.map_append, seconds_append,
      List.reverse_concat, stretchSeconds]
    simp only [Function.comp_def, hlast]
    cases s.isGating with
    | true => simp [seconds]
    | false =>
      have hseconds := outputAt_length locale voiceBundle hbefore
      simp [ih hbefore, hseconds, Function.comp_def]

theorem filter_eq_nil_of_outside {q : ℕ → Bool} {index : ℕ} {snippets : List Snippet}
    (h : ∀ j, index ≤ j → j < index + snippets.length → q j = false) :
    (numberedFrom asset locale voiceBundle index snippets).filter (q ·.1) = [] := by
  refine List.filter_eq_nil_iff.2 fun p hp ↦ ?_
  obtain ⟨hlower, hupper⟩ := le_of_mem_numberedFrom _ _ hp
  rw [h p.1 hlower hupper]
  exact Bool.false_ne_true

/-- The seconds of chosen snippets, the last of which is a given one. -/
theorem seconds_numbered {q : ℕ → Bool} (h : asset.snippets = before ++ s :: rest)
    (hs : q before.length = true) (hrest : ∀ j, before.length < j → q j = false) :
    seconds (((numbered asset locale voiceBundle).filter (q ·.1)).map Prod.snd) =
      seconds (((numberedFrom asset locale voiceBundle 0 before).filter (q ·.1)).map Prod.snd) ++
        snippetSeconds before.reverse s := by
  have hbehind : (numberedFrom asset locale voiceBundle (before.length + 1) rest).filter (q ·.1) =
      [] := filter_eq_nil_of_outside _ _ fun j hj _ ↦ hrest j hj
  have hsplit : asset.snippets = before ++ ([s] ++ rest) := h
  rw [numbered, hsplit, numberedFrom_append, numberedFrom_append, numberedFrom_singleton,
    Nat.zero_add, List.length_singleton, List.filter_append, List.filter_append, hbehind,
    List.append_nil, List.filter_map, List.map_append, seconds_append]
  have hseconds := outputAt_length locale voiceBundle h
  simp [hs, hseconds, Function.comp_def]

/-- Where every positive delay is a natural below `2 ^ 53`, the delays that are told from the last
gate before a snippet with a delay up to this snippet add up to its delay. Snippets without a
positive delay tell none. -/
theorem delays_telescope (hwhole : ∀ s ∈ asset.snippets, s.delay.isPositive → IsWhole s.delay) :
    let told := numbered asset locale voiceBundle
    (convert asset locale voiceBundle).story.actions =
      openingActions ⟨asset, locale, voiceBundle⟩ ++ told.map Prod.snd ∧
    ∀ (i : ℕ) (s : Snippet), asset.snippets[i]? = some s →
      (s.delay.isPositive →
        total? (seconds ((told.filter fun p ↦ inStretch asset.snippets i p.1).map Prod.snd)) =
          grains? s.delay) ∧
      (¬s.delay.isPositive → seconds ((told.filter fun p ↦ p.1 = i).map Prod.snd) = []) := by
  intro told
  refine ⟨actions_convert locale voiceBundle, fun i s hs ↦ ?_⟩
  obtain ⟨hi, -⟩ := List.getElem?_eq_some_iff.1 hs
  have hlength : (asset.snippets.take i).length = i := List.length_take_of_le hi.le
  have hsplit : asset.snippets = asset.snippets.take i ++ s :: asset.snippets.drop (i + 1) := by
    rw [List.append_cons, ← take_succ_of_getElem? hs, List.take_append_drop]
  constructor
  · intro hpositive
    have hstretch : ∀ p ∈ numberedFrom asset locale voiceBundle 0 (asset.snippets.take i),
        inStretch asset.snippets i p.1 = isUngated (asset.snippets.take i) p.1 := by
      intro p hp
      have hle : p.1 ≤ i := by
        have hlt := (le_of_mem_numberedFrom _ _ hp).2
        omega
      rw [inStretch, decide_eq_true hle, Bool.true_and]
    have hlast : inStretch asset.snippets i (asset.snippets.take i).length = true := by
      rw [inStretch, isUngated_length, hlength, decide_eq_true le_rfl, Bool.true_and]
    have hrest : ∀ j, (asset.snippets.take i).length < j → inStretch asset.snippets i j = false := by
      intro j hj
      rw [inStretch, decide_eq_false (by omega), Bool.false_and]
    have hearlier : ∀ t ∈ (asset.snippets.take i).reverse, t.delay.isPositive → IsWhole t.delay :=
      fun t ht ↦ hwhole t (List.mem_of_mem_take (List.mem_reverse.1 ht))
    rw [seconds_numbered locale voiceBundle hsplit hlast hrest, List.filter_congr hstretch,
      seconds_ungated locale voiceBundle hsplit,
      total?_concat_snippet (total?_stretchSeconds hearlier) (hwhole s (List.mem_of_getElem? hs))
        hearlier, if_pos hpositive]
  · intro hpositive
    have hfilter : (numberedFrom asset locale voiceBundle 0 (asset.snippets.take i)).filter
        (fun p ↦ p.1 = i) = [] :=
      filter_eq_nil_of_outside (q := fun j ↦ j = i) _ _ fun j _ hj ↦ decide_eq_false (by omega)
    have hlast : decide ((asset.snippets.take i).length = i) = true := decide_eq_true hlength
    have hrest : ∀ j, (asset.snippets.take i).length < j → decide (j = i) = false :=
      fun j hj ↦ decide_eq_false (by omega)
    have hseconds := seconds_numbered (q := fun j ↦ j = i) locale voiceBundle hsplit hlast hrest
    rw [hseconds, hfilter, snippetSeconds, if_neg hpositive]
    rfl

end story

def waits : Asset where
  sceneId := ""
  firstBgm := ""
  firstBackground := ""
  firstBackgroundBundle := ""
  snippets := [⟨.sound, 0, 0, .ofInt 4⟩, ⟨.sound, 0, 0, .ofInt 2⟩, ⟨.sound, 1, 0, .ofInt 7⟩,
    ⟨.sound, 0, 0, .zero⟩, ⟨.sound, 0, 0, .ofInt 1⟩]
  talks := []
  layouts := []
  effects := []
  sounds := [⟨"", "se_door", ""⟩]

theorem isWhole_waits : ∀ s ∈ waits.snippets, s.delay.isPositive → IsWhole s.delay := by
  intro s hs _
  simp only [waits, List.mem_cons, List.not_mem_nil, or_false] at hs
  rcases hs with rfl | rfl | rfl | rfl | rfl <;> dsimp only
  · exact isWhole_ofInt (by decide) (by decide)
  · exact isWhole_ofInt (by decide) (by decide)
  · exact isWhole_ofInt (by decide) (by decide)
  · exact isWhole_zero
  · exact isWhole_ofInt (by decide) (by decide)

theorem delays_telescope_waits :
    let told := numbered waits .jp ""
    (∀ s ∈ waits.snippets, s.delay.isPositive → IsWhole s.delay) ∧
      total? (seconds ((told.filter fun p ↦ inStretch waits.snippets 2 p.1).map Prod.snd)) =
        grains? (.ofInt 7) ∧
      seconds ((told.filter fun p ↦ p.1 = 3).map Prod.snd) = [] := by
  intro told
  obtain ⟨-, hsum⟩ := delays_telescope .jp "" isWhole_waits
  have hgate := (hsum 2 ⟨.sound, 1, 0, .ofInt 7⟩ rfl).1 (by decide +kernel)
  dsimp only at hgate
  have hnone := (hsum 3 ⟨.sound, 0, 0, .zero⟩ rfl).2 (by decide +kernel)
  exact ⟨isWhole_waits, hgate, hnone⟩

end Asset

end Stagecraft
