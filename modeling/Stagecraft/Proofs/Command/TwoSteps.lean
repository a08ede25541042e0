import Stagecraft.Proofs.Asset.Envelope
import Stagecraft.Proofs.Asset.Readable
import Stagecraft.Proofs.Command.Opening

namespace Stagecraft.Command

open Files (Location)
open Outcome (bind_eq_ok)

variable {α : Type} {L : Location} {w w' v : World} {p : String}

/-- A file is saved where its directory exists. -/
theorem outcome_save (hL : w.tree.locate w.cwd p = .ok L) (hfree : w.tree.entry? L ≠ some .directory)
    (content : String) : outcome (save p content) w =
      (.ok (), { w with tree := w.tree.set L (.file content) }) := by
  have hwrite := outcome_change (fun tree cwd ↦ tree.write cwd p content) ("failed to write " ++ p) w
  rw [Files.Tree.write_eq_ok.2 ⟨L, hL, hfree, rfl⟩] at hwrite
  rw [save]
  cases hparent : Path.parent? p with
  | none => exact hwrite
  | some parent =>
    dsimp only
    split
    · next hne =>
      have hmake := outcome_change (fun tree cwd ↦ tree.makeDirectories cwd parent)
        ("failed to create " ++ parent) w
      have hdirectory := Files.Tree.isDirectory_parent hL hparent hne
      rw [Files.Tree.makeDirectories_of_isDirectory hdirectory] at hmake
      exact (outcome_bind_ok hmake).trans hwrite
    · exact hwrite

def SameFiles (w w' : World) : Prop := w'.tree = w.tree ∧ w'.cwd = w.cwd

theorem SameFiles.trans (h : SameFiles w w') (h' : SameFiles w' v) : SameFiles w v :=
  ⟨h'.1.trans h.1, h'.2.trans h.2⟩

def linesOf (say : α → String) (as : List α) : String := String.join (as.map (say · ++ "\n"))

theorem linesOf_map {β : Type} (say : β → String) (f : α → β) (as : List α) :
    linesOf say (as.map f) = linesOf (fun a ↦ say (f a)) as := by
  rw [linesOf, List.map_map]
  rfl

theorem outcome_complain (say : α → String) (as : List α) (w : World) :
    outcome (as.forM fun a ↦ complainLine (say a) : CommandM (StateM World) PUnit) w =
      (.ok (), { w with stderr := w.stderr ++ linesOf say as }) := by
  induction as generalizing w with
  | nil =>
    rw [linesOf, List.map_nil, String.join_nil, String.append_empty]
    rfl
  | cons a as ih =>
    rw [linesOf, List.map_cons, String.join_cons, ← String.append_assoc]
    exact (outcome_bind_ok rfl).trans (ih { w with stderr := w.stderr ++ (say a ++ "\n") })

theorem outcome_storyOfAsset {manifest : Manifest} {c : Conversion}
    (hconvert : outcome (convertAsset manifest) w = (.ok c, w))
    (herrors : Diagnostic.hasErrors c.diagnostics = false) :
    ∃ w', SameFiles w w' ∧ outcome (storyOfAsset manifest) w = (.ok (some c.story), w') := by
  let w' : World := { w with stderr := w.stderr ++ linesOf Diagnostic.display c.diagnostics }
  have hcomplain := outcome_complain Diagnostic.display c.diagnostics w
  refine ⟨w', ⟨rfl, rfl⟩, ?_⟩
  rw [storyOfAsset, outcome_bind_ok hconvert, outcome_bind_ok hcomplain, herrors]
  rfl

theorem outcome_convertAsset_ok {manifest : Manifest} {c : Conversion} :
    outcome (convertAsset manifest) w = (.ok c, v) ↔
      v = w ∧ manifest.format = .bandori ∧ Asset.load manifest.options manifest.locale manifest.source
        (w.tree.read w.cwd manifest.source) = .ok c := by
  have hread : outcome (ask (Host.read manifest.source)) w =
      (.ok (w.tree.read w.cwd manifest.source), w) := rfl
  rw [convertAsset]
  cases manifest.format with
  | other name => exact ⟨nofun, nofun⟩
  | bandori =>
    dsimp only
    rw [outcome_bind_ok hread]
    cases hload : Asset.load manifest.options manifest.locale manifest.source
      (w.tree.read w.cwd manifest.source) with
    | error e => exact ⟨nofun, nofun⟩
    | ok d =>
      constructor
      · intro h
        cases h
        exact ⟨rfl, rfl, rfl⟩
      · rintro ⟨rfl, -, ⟨⟩⟩
        rfl

def respond (r : Request) (w : World) : Status × World := (runRequest r : StateM World Status) w

theorem respond_eq (r : Request) (w : World) : respond r w =
    match outcome (perform r) w with
    | (.ok status, w) => (status, w)
    | (.error e, w) => (.failure, { w with stderr := w.stderr ++ e.text }) := by
  simp only [respond, runRequest, outcome, bind, StateT.bind]
  rcases (perform r : CommandM (StateM World) Status).run w with ⟨_ | _, _⟩ <;> rfl

section

variable {path ir : String} {manifest : Manifest} {c : Conversion}

/-- Converting to a file leaves the file and the rest of the tree as it was. -/
theorem convert_alike (hopen : outcome (openManifest path) w = (.ok manifest, w))
    (hconvert : outcome (convertAsset manifest) w = (.ok c, w))
    (herrors : Diagnostic.hasErrors c.diagnostics = false)
    (hir : w.tree.locate w.cwd ir = .ok L) (hfree : w.tree.entry? L ≠ some .directory) :
    ∃ w', respond (.convert path (some ir)) w = (.success, w') ∧
      w'.cwd = w.cwd ∧ w'.tree = w.tree.set L (.file c.story.toJson.pretty) := by
  obtain ⟨u, ⟨htree, hcwd⟩, hstory⟩ := outcome_storyOfAsset hconvert herrors
  have hsave := outcome_save (w := u) (htree ▸ hcwd ▸ hir) (htree ▸ hfree) c.story.toJson.pretty
  let w' : World := { u with
    tree := u.tree.set L (.file c.story.toJson.pretty)
    stdout := u.stdout ++ ("Wrote IR to " ++ ir ++ "\n") }
  have hperform : outcome (perform (.convert path (some ir))) w = (.ok .success, w') := by
    rw [perform, convert, outcome_bind_ok hopen, outcome_bind_ok hstory]
    exact outcome_bind_ok hsave
  refine ⟨w', ?_, hcwd, congrArg (Files.Tree.set · L _) htree⟩
  rw [respond_eq, hperform]

def ended : Except Report PUnit × World → Status × World
  | (.ok _, w) => (.success, w)
  | (.error e, w) => (.failure, { w with stderr := w.stderr ++ e.text })

theorem tree_ended (r : Except Report PUnit × World) : (ended r).2.tree = r.2.tree := by
  obtain ⟨_ | _, v⟩ := r <;> rfl

/-- Emitting writes the targets of the manifest. -/
theorem emit_eq {file : Option String} {s : Story} {u : World}
    (hopen : outcome (openManifest path) w = (.ok manifest, w))
    (hstory : outcome (storyToEmit manifest file) w = (.ok (some s), u)) :
    respond (.emit path file) w =
      ended (outcome (manifest.targets.forM (writeTarget manifest.name s)) u) := by
  rw [respond_eq, perform, emit, outcome_bind_ok hopen, outcome_bind_ok hstory, outcome_bind]
  generalize outcome (manifest.targets.forM (writeTarget manifest.name s)) u = r
  obtain ⟨_ | _, v⟩ := r <;> rfl

def twoSteps (path ir : String) (w : World) : Status × World :=
  respond (.emit path (some ir)) (respond (.convert path (some ir)) w).2

/-- Both ways to emit write the same targets, in worlds that agree but for the file. -/
theorem twoSteps_meets (hopen : outcome (openManifest path) w = (.ok manifest, w))
    (hconvert : outcome (convertAsset manifest) w = (.ok c, w))
    (herrors : Diagnostic.hasErrors c.diagnostics = false)
    (hback : ∀ x ∈ c.story.numbers, x.isFinite → x.ReadsBack)
    (hir : w.tree.locate w.cwd ir = .ok L) (hfree : w.tree.entry? L ≠ some .directory)
    (hmanifest : ¬FindsAt path (respond (.convert path (some ir)) w).2 L) :
    ∃ r r', Meets L r r' ∧ respond (.emit path none) w = ended r ∧ twoSteps path ir w = ended r' := by
  obtain ⟨w', hw', hcwd, htree⟩ := convert_alike hopen hconvert herrors hir hfree
  have halike : Alike L w w' := ⟨htree ▸ .of_set hfree _, hcwd⟩
  have hfile : w'.tree.entry? L = some (.file c.story.toJson.pretty) := by
    rw [htree, Files.Tree.entry?_set (Files.Tree.ne_nil_of_ne_directory hfree), if_pos rfl]
  have hread : outcome (storyToEmit manifest (some ir)) w' = (.ok (some c.story), w') := by
    have htext : w'.tree.read w'.cwd ir = .ok c.story.toJson.pretty :=
      bind_eq_ok.2 ⟨L, hcwd ▸ halike.beside.locate_eq_ok.2 hir, by rw [hfile]; rfl⟩
    obtain ⟨-, -, hload⟩ := outcome_convertAsset_ok.1 hconvert
    have hdecode := Asset.ofText_load hload hback
    exact outcome_bind_ok (outcome_readDecoded_ok.2 ⟨rfl, _, htext, hdecode⟩)
  obtain ⟨u, ⟨hutree, hucwd⟩, hstory⟩ := outcome_storyOfAsset hconvert herrors
  rw [hw'] at hmanifest
  refine ⟨_, _, (indifferent_targets L manifest c.story).meets
    ⟨hutree ▸ halike.beside, hcwd.trans hucwd.symm⟩, emit_eq hopen hstory, ?_⟩
  rw [twoSteps, hw', emit_eq (openManifest_alike halike hmanifest hopen) hread]

/-- If a conversion reports no error, then converting to a file, which is not taken for the manifest,
and emitting from there ends as emitting directly does and leaves the same files elsewhere. Only if
emitting directly makes a directory where the file lies, emitting from there fails. -/
theorem emit_convert (hopen : outcome (openManifest path) w = (.ok manifest, w))
    (hconvert : outcome (convertAsset manifest) w = (.ok c, w))
    (herrors : Diagnostic.hasErrors c.diagnostics = false)
    (hback : ∀ x ∈ c.story.numbers, x.isFinite → x.ReadsBack)
    (hir : w.tree.locate w.cwd ir = .ok L) (hfree : w.tree.entry? L ≠ some .directory)
    (hmanifest : ¬FindsAt path (respond (.convert path (some ir)) w).2 L) :
    (respond (.convert path (some ir)) w).1 = .success ∧
      if (respond (.emit path none) w).2.tree.entry? L = some .directory then
        (twoSteps path ir w).1 = .failure
      else (twoSteps path ir w).1 = (respond (.emit path none) w).1 ∧
        ∀ l ≠ L,
          (twoSteps path ir w).2.tree.entry? l = (respond (.emit path none) w).2.tree.entry? l := by
  obtain ⟨w', hw', -⟩ := convert_alike hopen hconvert herrors hir hfree
  obtain ⟨r, r', hmeets, hdirect, htwo⟩ :=
    twoSteps_meets hopen hconvert herrors hback hir hfree hmanifest
  refine ⟨by rw [hw'], ?_⟩
  rw [hdirect, htwo, tree_ended, tree_ended]
  cases hmeets with
  | both a h => exact (if_neg h.beside.free).symm ▸ ⟨rfl, h.beside.agree⟩
  | neither e e' h => exact (if_neg h.beside.free).symm ▸ ⟨rfl, h.beside.agree⟩
  | taken hL e => exact (if_pos hL).symm ▸ rfl

end

def delayed : Asset := ⟨"", "b", "", "", [⟨.none, 0, 0, .ofInt 2⟩], [], [], [], []⟩

def delayedJson : Json :=
  .object [("firstBgm", .text "b"), ("snippets", .array [.object [("delay", .integer 2)]])]

def oneTarget (output : String) : Manifest :=
  ⟨"n", .jp, .bandori, "a", .null, [⟨.bestdori, output, .null⟩]⟩

def resolved (output : String) : Manifest :=
  ⟨"n", .jp, .bandori, "/p/a", .null, [⟨.bestdori, Path.join "/p" output, .null⟩]⟩

def project (output : String) : World where
  tree := ⟨[(["p"], .directory), (["p", "zeile.json"], .file (oneTarget output).toJson.compact),
    (["p", "a"], .file delayedJson.compact)]⟩
  cwd := ["p"]
  program _ := .notStarted .notFound
  stdout := ""
  stderr := ""

theorem load_delayed : Asset.load .null .jp "/p/a" (.ok delayedJson.compact) =
    .ok (Asset.convert delayed .jp "") := by
  have hdecode : Asset.ofText delayedJson.compact = .ok delayed := by
    rw [Asset.ofText, Json.decodeText_compact]
    rfl
  have hoptions : voiceBundleOption .null = .ok "" := rfl
  exact (Asset.load_eq_ok_iff hoptions).2 ⟨delayed, hdecode, rfl⟩

section project

variable (output : String)

theorem locate_project : (project output).tree.locate (project output).cwd "i" = .ok ["p", "i"] := rfl

theorem entry?_project : (project output).tree.entry? ["p", "i"] ≠ some .directory := by
  have hnone : (project output).tree.entry? ["p", "i"] = none := rfl
  rw [hnone]
  exact nofun

theorem rebased_oneTarget : rebased "/p/zeile.json" (oneTarget output) = resolved output := by
  have hparent : Path.parent? "/p/zeile.json" = some "/p" := by decide +kernel
  have hsource : Path.join "/p" "a" = "/p/a" := by decide +kernel
  rw [rebased, hparent]
  dsimp only [Manifest.resolve, oneTarget, List.map]
  rw [hsource, resolved]

theorem openManifest_project :
    outcome (openManifest "zeile.json") (project output) = (.ok (resolved output), project output) := by
  have hdecode : Manifest.ofText (oneTarget output).toJson.compact = .ok (oneTarget output) := by
    rw [Manifest.ofText, Json.decodeText_compact]
    rfl
  exact outcome_openManifest_ok.2
    ⟨"zeile.json", rfl, _, _, "/p/zeile.json", rfl, hdecode, rfl, rebased_oneTarget output⟩

theorem convertAsset_project : outcome (convertAsset (resolved output)) (project output) =
    (.ok (Asset.convert delayed .jp ""), project output) := by
  have hread : (project output).tree.read (project output).cwd "/p/a" = .ok delayedJson.compact := rfl
  refine outcome_convertAsset_ok.2 ⟨rfl, rfl, ?_⟩
  dsimp only [resolved]
  rw [hread, load_delayed]

theorem diagnostics_delayed : (Asset.convert delayed .jp "").diagnostics = [] := rfl

theorem hasErrors_delayed : Diagnostic.hasErrors (Asset.convert delayed .jp "").diagnostics = false :=
  congrArg Diagnostic.hasErrors diagnostics_delayed

theorem readsBack_delayed :
    ∀ x ∈ (Asset.convert delayed .jp "").story.numbers, x.isFinite → x.ReadsBack := by
  decide +kernel

theorem not_findsAt_project :
    ¬FindsAt "zeile.json" (respond (.convert "zeile.json" (some "i")) (project output)).2 ["p", "i"] := by
  obtain ⟨w', hw', hcwd, htree⟩ := convert_alike (openManifest_project output)
    (convertAsset_project output) hasErrors_delayed (locate_project output) (entry?_project output)
  have hlocate : (project output).tree.locate (project output).cwd "zeile.json" =
      .ok ["p", "zeile.json"] := rfl
  rw [hw']
  refine not_findsAt ⟨htree ▸ .of_set (entry?_project output) _, hcwd⟩ rfl ?_
  rw [hlocate]
  decide

theorem emit_project : respond (.emit "zeile.json" none) (project output) =
    ended (outcome ((resolved output).targets.forM
      (writeTarget "n" (Asset.convert delayed .jp "").story)) (project output)) := by
  refine emit_eq (openManifest_project output) ?_
  rw [storyToEmit, storyOfAsset, outcome_bind_ok (convertAsset_project output), diagnostics_delayed]
  rfl

end project

theorem emit_convert_delayed :
    (respond (.convert "zeile.json" (some "i")) (project "o")).1 = .success ∧
      (twoSteps "zeile.json" "i" (project "o")).1 = (respond (.emit "zeile.json" none) (project "o")).1 ∧
      ∀ l ≠ ["p", "i"], (twoSteps "zeile.json" "i" (project "o")).2.tree.entry? l =
        (respond (.emit "zeile.json" none) (project "o")).2.tree.entry? l := by
  have h := emit_convert (openManifest_project "o") (convertAsset_project "o") hasErrors_delayed
    readsBack_delayed (locate_project "o") (entry?_project "o") (not_findsAt_project "o")
  have hfree : (respond (.emit "zeile.json" none) (project "o")).2.tree.entry? ["p", "i"] ≠
      some .directory := by
    rw [emit_project, tree_ended]
    decide +kernel
  rwa [if_neg hfree] at h

/-- Emitting in two steps may end otherwise than emitting directly, also where the file with the story
is neither manifest nor source nor target. -/
theorem not_emit_convert : ¬∀ (path ir : String) (manifest : Manifest) (c : Conversion) (w : World)
    (L : Location), outcome (openManifest path) w = (.ok manifest, w) →
    outcome (convertAsset manifest) w = (.ok c, w) → Diagnostic.hasErrors c.diagnostics = false →
    (∀ x ∈ c.story.numbers, x.isFinite → x.ReadsBack) →
    w.tree.locate w.cwd ir = .ok L → w.tree.entry? L ≠ some .directory →
    ¬FindsAt path (respond (.convert path (some ir)) w).2 L →
    w.tree.locate w.cwd manifest.source ≠ .ok L →
    (∀ t ∈ manifest.targets, w.tree.locate w.cwd t.output ≠ .ok L) →
    (twoSteps path ir w).1 = (respond (.emit path none) w).1 := by
  intro h
  have hstatus := h _ _ _ _ _ _ (openManifest_project "i/o") (convertAsset_project "i/o")
    hasErrors_delayed readsBack_delayed (locate_project "i/o") (entry?_project "i/o")
    (not_findsAt_project "i/o") (by decide +kernel) (by decide +kernel)
  obtain ⟨r, r', hmeets, hdirect, htwo⟩ := twoSteps_meets (openManifest_project "i/o")
    (convertAsset_project "i/o") hasErrors_delayed readsBack_delayed (locate_project "i/o")
    (entry?_project "i/o") (not_findsAt_project "i/o")
  have hmade : (ended r).1 = .success ∧ (ended r).2.tree.entry? ["p", "i"] = some .directory := by
    rw [← hdirect, emit_project]
    decide +kernel
  rw [hdirect, htwo, hmade.1] at hstatus
  rw [tree_ended] at hmade
  cases hmeets with
  | both a h => exact h.beside.free hmade.2
  | neither e e' h => exact h.beside.free hmade.2
  | taken hL e => cases hstatus

end Stagecraft.Command
