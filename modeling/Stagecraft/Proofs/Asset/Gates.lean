import Stagecraft.Proofs.Asset.Skipping
import Stagecraft.Proofs.Asset.Telescoping

namespace Stagecraft

theorem Output.ofActions_append (as bs : List Action) :
    ofActions (as ++ bs) = ofActions as ++ ofActions bs := rfl

namespace Asset

variable {g : Snippet}

/-- Behind a gating snippet no delay is counted from before it. -/
theorem baseline_gate (hg : g.isGating = true) (later earlier : List Snippet) :
    baseline (later ++ g :: earlier) = baseline (later ++ [g]) := by
  induction later with
  | nil => rw [List.nil_append, List.nil_append, baseline, if_pos hg, baseline, if_pos hg]
  | cons s later ih => rw [List.cons_append, List.cons_append, baseline, baseline, ih]

/-- The snippets from a gating one on, at some place of a list and at its beginning. -/
theorem snippetsOutput_gate (hg : g.isGating = true) (c : Setting) (index : ℕ)
    (earlier post : List Snippet) : ∃ rest : Output,
      snippetsOutput c index earlier (g :: post) =
        .ofActions (delayActions earlier g) ++ rest.renumber (· + index) ∧
      snippetsOutput c 0 [] (g :: post) = .ofActions (delayActions [] g) ++ rest := by
  have hrecord := recordOutput_renumber (· + index) 0 c g
  have hpost : snippetsOutput c (index + 1) (g :: earlier) post =
      (snippetsOutput c 1 [g] post).renumber (· + index) :=
    snippetsOutput_renumber _ c (fun later ↦ baseline_gate hg later earlier)
      (fun k ↦ by rw [Nat.add_comm, Nat.add_assoc]) post
  rw [Nat.zero_add] at hrecord
  refine ⟨.ofActions (gateActions g) ++ recordOutput c 0 g ++ snippetsOutput c 1 [g] post, ?_, ?_⟩
  · rw [snippetsOutput, snippetOutput, hpost, hrecord, Output.renumber_append, Output.renumber_append,
      Output.renumber_ofActions, Output.ofActions_append]
    simp only [Output.append_assoc]
  · rw [snippetsOutput, snippetOutput, Output.ofActions_append]
    simp only [Output.append_assoc]

theorem convert_with (asset : Asset) (snippets : List Snippet) (locale : Locale)
    (voiceBundle : String) :
    let c : Setting := ⟨asset, locale, voiceBundle⟩
    convert { asset with snippets } locale voiceBundle =
      ⟨⟨locale, openingActions c ++ (snippetsOutput c 0 [] snippets).actions⟩,
        (snippetsOutput c 0 [] snippets).diagnostics⟩ := by
  rw [convert, snippetsOutput_with]
  rfl

variable {asset : Asset} {pre post : List Snippet}

/-- A conversion tells the scene, what the snippets before a gating one are converted to, and what those
from it on are converted to by themselves; only the delay of the gating snippet is counted from the
snippets before it. It reports what is to report about both, and the snippets of the second part have
their numbers behind those of the first. -/
theorem convert_gate (hsplit : asset.snippets = pre ++ g :: post) (hg : g.isGating = true)
    (locale : Locale) (voiceBundle : String) :
    let scene := openingActions ⟨asset, locale, voiceBundle⟩
    let before := convert { asset with snippets := pre } locale voiceBundle
    let behind := convert { asset with snippets := g :: post } locale voiceBundle
    let whole := convert asset locale voiceBundle
    (∃ told rest, before.story.actions = scene ++ told ∧
      behind.story.actions = scene ++ (delayActions [] g ++ rest) ∧
      whole.story.actions = scene ++ (told ++ (delayActions pre.reverse g ++ rest))) ∧
    whole.diagnostics =
      before.diagnostics ++ behind.diagnostics.map (.renumber (· + pre.length)) := by
  let c : Setting := ⟨asset, locale, voiceBundle⟩
  obtain ⟨rest, hplaced, halone⟩ := snippetsOutput_gate hg c pre.length pre.reverse post
  have hbefore := convert_with asset pre locale voiceBundle
  have hbehind := convert_with asset (g :: post) locale voiceBundle
  have hwhole := convert_with asset asset.snippets locale voiceBundle
  have hsnippets : snippetsOutput c 0 [] asset.snippets = snippetsOutput c 0 [] pre ++
      (.ofActions (delayActions pre.reverse g) ++ rest.renumber (· + pre.length)) := by
    rw [hsplit, snippetsOutput_append, List.append_nil, Nat.zero_add, hplaced]
  dsimp only at hbefore hbehind hwhole ⊢
  rw [hbefore, hbehind, hwhole, hsnippets, halone]
  exact ⟨⟨_, rest.actions, rfl, rfl, rfl⟩, rfl⟩

/-- The third snippet waits for those before it, and its delay is counted from the second's. -/
theorem convert_gate_waits :
    let scene := openingActions ⟨waits, .jp, ""⟩
    let before := convert { waits with snippets := waits.snippets.take 2 } .jp ""
    let behind := convert { waits with snippets := waits.snippets.drop 2 } .jp ""
    let g : Snippet := ⟨.sound, 1, 0, .ofInt 7⟩
    waits.snippets = waits.snippets.take 2 ++ g :: waits.snippets.drop 3 ∧ g.isGating = true ∧
    ∃ told rest, before.story.actions = scene ++ told ∧
      behind.story.actions = scene ++ (.delay (.ofInt 7) :: rest) ∧
      (convert waits .jp "").story.actions = scene ++ (told ++ .delay (.ofInt 5) :: rest) := by
  intro scene before behind g
  have hsplit : waits.snippets = waits.snippets.take 2 ++ g :: waits.snippets.drop 3 := rfl
  have hg : g.isGating = true := rfl
  have hpositive : g.delay.isPositive = true := by decide +kernel
  have hseven : g.delay.sub (baseline []) = .ofInt 7 := by decide +kernel
  have hfive : g.delay.sub (baseline (waits.snippets.take 2).reverse) = .ofInt 5 := by decide +kernel
  have halone : delayActions [] g = [.delay (.ofInt 7)] := by
    rw [delayActions, if_pos hpositive, hseven]
  have hplaced : delayActions (waits.snippets.take 2).reverse g = [.delay (.ofInt 5)] := by
    rw [delayActions, if_pos hpositive, hfive]
  obtain ⟨⟨told, rest, hbefore, hbehind, hwhole⟩, -⟩ := convert_gate hsplit hg .jp ""
  rw [halone] at hbehind
  rw [hplaced] at hwhole
  exact ⟨hsplit, hg, told, rest, hbefore, hbehind, hwhole⟩

end Asset

end Stagecraft
