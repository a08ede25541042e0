import Stagecraft.Proofs.Command.Effects

namespace Stagecraft.Command

open Files (Location)
open Files.Tree (Confined ConfinedTo place leftOn)

variable {w v : World} {path : String} {manifest : Manifest} {story : Story}

def Converts (path : String) (w : World) (manifest : Manifest) (story : Story) : Prop :=
  outcome (openManifest path) w = (.ok manifest, w) ∧
    ∃ c, outcome (convertAsset manifest) w = (.ok c, w) ∧ (∀ d ∈ c.diagnostics, ¬d.isError) ∧
      c.story = story

theorem hasErrors_eq_false {ds : List Diagnostic} :
    Diagnostic.hasErrors ds = false ↔ ∀ d ∈ ds, ¬d.isError := List.any_eq_false

theorem converts_of_outcome {u : World} (hopen : outcome (openManifest path) w = (.ok manifest, v))
    (hstory : outcome (storyOfAsset manifest) v = (.ok (some story), u)) :
    Converts path w manifest story := by
  obtain ⟨found, hfound, -⟩ := outcome_openManifest_ok.1 hopen
  obtain rfl := (outcome_findManifest_ok.1 hfound).1
  obtain ⟨c, u', hconvert, hrest⟩ := outcome_bind_eq_ok.1 hstory
  obtain rfl := (outcome_convertAsset_ok.1 hconvert).1
  obtain ⟨-, u', -, hrest⟩ := outcome_bind_eq_ok.1 hrest
  split at hrest
  · obtain ⟨-, u', -, hrest⟩ := outcome_bind_eq_ok.1 hrest
    cases hrest
  · next herrors =>
    cases hrest
    exact ⟨hopen, c, hconvert, hasErrors_eq_false.1 (Bool.eq_false_iff.2 herrors), rfl⟩

theorem failure_of_quiet {r : Request} (hsame : SameFiles w (outcome (perform r) w).2)
    (hfails : (outcome (perform r) w).1 ≠ .ok .success) :
    (respond r w).1 = .failure ∧ (respond r w).2.tree = w.tree := by
  rw [respond_eq]
  generalize outcome (perform r) w = x at hsame hfails
  obtain ⟨e | status, v⟩ := x
  · exact ⟨rfl, hsame.1⟩
  · cases status with
    | success => exact absurd rfl hfails
    | failure => exact ⟨rfl, hsame.1⟩

/-- A command that needs a story fails without one and writes nothing. -/
theorem failure_of_not_converts {r : Request} {k : Manifest → Story → CommandM (StateM World) Status}
    (hr : perform r = openManifest path >>= fun manifest ↦ storyOfAsset manifest >>= fun
      | none => pure .failure
      | some story => k manifest story)
    (h : ¬∃ manifest story, Converts path w manifest story) :
    (respond r w).1 = .failure ∧ (respond r w).2.tree = w.tree := by
  suffices hquiet : SameFiles w (outcome (perform r) w).2 ∧ (outcome (perform r) w).1 ≠ .ok .success from
    failure_of_quiet hquiet.1 hquiet.2
  rw [hr]
  obtain ⟨e, v, hsame, hfails⟩ | ⟨manifest, v, hsame, hopen, hnext⟩ :=
    (Quiet.openManifest path).bind_cases _ w
  · rw [hfails]
    exact ⟨hsame, nofun⟩
  rw [hnext]
  obtain ⟨e, u, hsame', hfails⟩ | ⟨found, u, hsame', hstory, hnext⟩ :=
    (Quiet.storyOfAsset manifest).bind_cases _ v
  · rw [hfails]
    exact ⟨hsame.trans hsame', nofun⟩
  rw [hnext]
  cases found with
  | none => exact ⟨hsame.trans hsame', nofun⟩
  | some story => exact absurd ⟨manifest, story, converts_of_outcome hopen hstory⟩ h

theorem convert_of_not_converts (h : ¬∃ manifest story, Converts path w manifest story)
    (output : Option String) : (respond (.convert path output) w).1 = .failure ∧
      (respond (.convert path output) w).2.tree = w.tree :=
  failure_of_not_converts rfl h

theorem emit_of_not_converts (h : ¬∃ manifest story, Converts path w manifest story) :
    (respond (.emit path none) w).1 = .failure ∧ (respond (.emit path none) w).2.tree = w.tree :=
  failure_of_not_converts rfl h

section

variable (manifest : Manifest) (story : Story) (w : World)

/-- The world at the turn of a target: the asset is converted and the targets before it are tried. -/
def turn (i : ℕ) : World :=
  after (writeTarget manifest.name story) manifest.targets (outcome (storyOfAsset manifest) w).2 i

def fileAt (i : ℕ) : String :=
  match manifest.targets[i]? with
  | some target => fileOf manifest.name target (turn manifest story w i)
  | none => ""

def GivesAt (i : ℕ) (text : String) : Prop :=
  ∃ target, manifest.targets[i]? = some target ∧ Gives target story text

def SavesAt (i : ℕ) (text : String) : Prop :=
  (outcome (save (fileAt manifest story w i) text) (turn manifest story w i)).1 = .ok ()

structure FirstRefused (k : ℕ) : Prop where
  refuses : ∃ target, manifest.targets[k]? = some target ∧ ¬Accepts target
  accepts : ∀ i < k, ∀ target, manifest.targets[i]? = some target → Accepts target

/-- What emitting comes to when it writes the first `n` targets: each file holds its text unless a later
one is written to the same place, nothing else is changed but for directories on the way to files, and
emitting succeeds just if no target is left; otherwise the next one has invalid options or cannot be
saved. Two paths are the same if they lead to one place, as `a` and `./a` do. -/
structure Emitted (n : ℕ) (r : Status × World) : Prop where
  written : ∀ i < n, ∃ text, GivesAt manifest story i text ∧ SavesAt manifest story w i text ∧
    (r.2.tree.read w.cwd (fileAt manifest story w i) = .ok text ∨ ∃ j, i < j ∧ j < n ∧
      place w.cwd (fileAt manifest story w j) = place w.cwd (fileAt manifest story w i))
  kept : ∀ l, (∀ i < n, l ≠ place w.cwd (fileAt manifest story w i)) →
    r.2.tree.entry? l = w.tree.entry? l ∨
      w.tree.entry? l = none ∧ r.2.tree.entry? l = some .directory ∧
        ∃ i ≤ n, (∃ text, GivesAt manifest story i text) ∧ l ∈ leftOn w.cwd (fileAt manifest story w i)
  ending : n = manifest.targets.length ∧ r.1 = .success ∨
    n < manifest.targets.length ∧ r.1 = .failure ∧
      ∀ text, GivesAt manifest story n text → ¬SavesAt manifest story w n text

structure Turns (n : ℕ) : Prop where
  start : SameFiles w (turn manifest story w 0)
  step : ∀ i < n, ∃ target, manifest.targets[i]? = some target ∧
    outcome (writeTarget manifest.name story target) (turn manifest story w i) =
      (.ok (), turn manifest story w (i + 1))

variable {manifest story w}

theorem fileAt_eq {i : ℕ} {target : Target} (h : manifest.targets[i]? = some target) :
    fileAt manifest story w i = fileOf manifest.name target (turn manifest story w i) := by
  rw [fileAt, h]

namespace Turns

variable {i n : ℕ} (h : Turns manifest story w n)

include h

theorem cwd (hi : i ≤ n) : (turn manifest story w i).cwd = w.cwd := by
  induction i with
  | zero => exact h.start.2
  | succ i ih =>
    obtain ⟨target, -, hwrite⟩ := h.step i hi
    exact (written_writeTarget hwrite).1.trans (ih (Nat.le_of_succ_le hi))

theorem confined (hi : i < n) : ConfinedTo w.cwd (fileAt manifest story w i)
    (turn manifest story w i).tree (turn manifest story w (i + 1)).tree := by
  obtain ⟨target, htarget, hwrite⟩ := h.step i hi
  rw [fileAt_eq htarget, ← h.cwd hi.le]
  exact (written_writeTarget hwrite).2.1

theorem written (hi : i < n) : ∃ text, GivesAt manifest story i text ∧
    SavesAt manifest story w i text ∧
      (turn manifest story w (i + 1)).tree.read w.cwd (fileAt manifest story w i) = .ok text := by
  obtain ⟨target, htarget, hwrite⟩ := h.step i hi
  obtain ⟨-, -, text, hgives, hsaves, hread⟩ := written_writeTarget hwrite
  rw [h.cwd hi.le, ← fileAt_eq htarget] at hread
  rw [← fileAt_eq htarget] at hsaves
  exact ⟨text, ⟨target, htarget, hgives⟩, hsaves, hread⟩

/-- What the first targets leave, and what is left when at most directories are made after them. -/
theorem emitted {r : Status × World}
    (hlast : Confined (fun _ ↦ False) (fun l ↦ (∃ text, GivesAt manifest story n text) ∧
      l ∈ leftOn w.cwd (fileAt manifest story w n)) (turn manifest story w n).tree r.2.tree)
    (hend : n = manifest.targets.length ∧ r.1 = .success ∨ n < manifest.targets.length ∧ r.1 = .failure ∧
      ∀ text, GivesAt manifest story n text → ¬SavesAt manifest story w n text) :
    Emitted manifest story w n r := by
  have hsteps : ∀ i < n, ConfinedTo w.cwd (fileAt manifest story w i)
    (turn manifest story w i).tree (turn manifest story w (i + 1)).tree := fun i hi ↦ h.confined hi
  refine ⟨fun i hi ↦ ?_, fun l hl ↦ ?_, hend⟩
  · obtain ⟨text, hgives, hsaves, hread⟩ := h.written hi
    refine ⟨text, hgives, hsaves, ?_⟩
    exact (Files.Tree.read_run hi hsteps hread).imp_left (hlast.read not_false)
  · let way (l : Location) : Prop := ∃ i ≤ n, (∃ text, GivesAt manifest story i text) ∧
      l ∈ leftOn w.cwd (fileAt manifest story w i)
    have hrun : Confined _ way _ _ := (Files.Tree.confined_run hsteps).mono (fun _ ↦ id)
      fun l ⟨i, hi, hl⟩ ↦ ⟨i, hi.le, (h.written hi).imp fun _ ↦ And.left, hl⟩
    have hall := hrun.trans (hlast.mono (fun _ ↦ False.elim) fun l hl ↦ ⟨n, le_rfl, hl⟩)
    rw [← h.start.1]
    exact hall.entry? fun ⟨i, hi, hplace⟩ ↦ hl i hi hplace

end Turns

/-- With a conversion, emitting writes some first targets. -/
theorem exists_emitted (h : Converts path w manifest story) :
    ∃ n, Emitted manifest story w n (respond (.emit path none) w) := by
  obtain ⟨hopen, c, hconvert, herrors, rfl⟩ := h
  obtain ⟨u, hsame, hstory⟩ := outcome_storyOfAsset hconvert (hasErrors_eq_false.2 herrors)
  obtain ⟨n, hfirst, hstops⟩ := exists_stops (writeTarget manifest.name c.story) manifest.targets u
  have hturn (i : ℕ) : after (writeTarget manifest.name c.story) manifest.targets u i =
      turn manifest c.story w i := by rw [turn, hstory]
  simp only [hturn] at hfirst
  have hturns : Turns manifest c.story w n := ⟨hturn 0 ▸ hsame, hfirst⟩
  have hasset : outcome (storyToEmit manifest none) w = (.ok (some c.story), u) := hstory
  refine ⟨n, ?_⟩
  rw [emit_eq hopen hasset]
  generalize outcome (manifest.targets.forM (writeTarget manifest.name c.story)) u = r at hstops
  cases hstops with
  | done hn =>
    rw [hturn]
    exact hturns.emitted (.refl _) (.inl ⟨hn, rfl⟩)
  | @failed target e v htarget hfails =>
    rw [hturn] at hfails
    obtain ⟨hunsaved, hconfined⟩ := failed_writeTarget hfails
    rw [← fileAt_eq htarget] at hunsaved hconfined
    obtain ⟨hn, -⟩ := List.getElem?_eq_some_iff.1 htarget
    refine hturns.emitted (hconfined.mono (fun _ ↦ id) ?_) (.inr ⟨hn, rfl, ?_⟩)
    · rintro l ⟨haccepts, hl⟩
      rw [hturns.cwd le_rfl] at hl
      exact ⟨(exists_gives haccepts c.story).imp fun _ hgives ↦ ⟨target, htarget, hgives⟩, hl⟩
    · rintro text ⟨target', htarget', hgives⟩
      cases htarget.symm.trans htarget'
      exact hunsaved text hgives

/-- Where files can be saved, emitting stops at the first target whose options are invalid. -/
theorem Emitted.stops {k n : ℕ} {r : Status × World} (h : Emitted manifest story w n r)
    (hk : FirstRefused manifest k)
    (hsaves : ∀ i < k, ∀ text, GivesAt manifest story i text → SavesAt manifest story w i text) :
    n = k ∧ r.1 = .failure := by
  obtain ⟨target, htarget, hrefuses⟩ := hk.refuses
  obtain ⟨hlength, -⟩ := List.getElem?_eq_some_iff.1 htarget
  rcases lt_trichotomy n k with hn | rfl | hn
  · obtain ⟨rfl, -⟩ | ⟨hlt, -, hunsaved⟩ := h.ending
    · exact absurd hlength hn.not_gt
    · have hnext := List.getElem?_eq_getElem hlt
      obtain ⟨text, hgives⟩ := exists_gives (hk.accepts n hn _ hnext) story
      exact absurd (hsaves n hn text ⟨_, hnext, hgives⟩) (hunsaved text ⟨_, hnext, hgives⟩)
  · exact ⟨rfl, (h.ending.resolve_left fun hall ↦ hlength.ne hall.1).2.1⟩
  · obtain ⟨text, ⟨target', htarget', hgives⟩, -⟩ := h.written k hn
    cases htarget.symm.trans htarget'
    exact absurd hgives.accepts hrefuses

end

/-- Without a conversion, converting and emitting fail and write nothing. With one, emitting writes the
first targets in order, up to the first whose options are invalid, and nothing else. -/
theorem emit_confined (path : String) (w : World) :
    ((¬∃ manifest story, Converts path w manifest story) →
      (∀ output, (respond (.convert path output) w).1 = .failure ∧
        (respond (.convert path output) w).2.tree = w.tree) ∧
      (respond (.emit path none) w).1 = .failure ∧ (respond (.emit path none) w).2.tree = w.tree) ∧
    ∀ manifest story, Converts path w manifest story →
      ∃ n, Emitted manifest story w n (respond (.emit path none) w) ∧
        ∀ k, FirstRefused manifest k →
          (∀ i < k, ∀ text, GivesAt manifest story i text → SavesAt manifest story w i text) →
          n = k ∧ (respond (.emit path none) w).1 = .failure := by
  refine ⟨fun h ↦ ⟨convert_of_not_converts h, emit_of_not_converts h⟩, fun manifest story h ↦ ?_⟩
  obtain ⟨n, hemitted⟩ := exists_emitted h
  exact ⟨n, hemitted, fun k hk hsaves ↦ hemitted.stops hk hsaves⟩

def nowhere : World := { project "o" with tree := .empty }

def refusing : Manifest :=
  { resolved "o" with targets := [⟨.bestdori, "/p/o", .null⟩, ⟨.sirius, "/p/x", .text ""⟩] }

def refusingProject : World :=
  { project "o" with
    tree := (project "o").tree.set ["p", "zeile.json"] (.file refusing.toJson.compact) }

theorem not_converts_nowhere : ¬∃ manifest story, Converts "zeile.json" nowhere manifest story := by
  rintro ⟨manifest, story, hopen, -⟩
  have hfails : outcome (openManifest "zeile.json") nowhere =
    (.error (.ofMessage "manifest not found: zeile.json"), nowhere) := rfl
  cases hfails.symm.trans hopen

theorem openManifest_refusing :
    outcome (openManifest "zeile.json") refusingProject = (.ok refusing, refusingProject) := by
  have hdecode : Manifest.ofText refusing.toJson.compact = .ok refusing := by
    rw [Manifest.ofText, Json.decodeText_compact]
    rfl
  have hparent : Path.parent? "/p/zeile.json" = some "/p" := by decide +kernel
  have hsource : Path.join "/p" "/p/a" = "/p/a" := by decide +kernel
  have hfirst : Path.join "/p" "/p/o" = "/p/o" := by decide +kernel
  have hsecond : Path.join "/p" "/p/x" = "/p/x" := by decide +kernel
  have hrebased : rebased "/p/zeile.json" refusing = refusing := by
    rw [rebased, hparent]
    dsimp only [Manifest.resolve, refusing, resolved, List.map]
    rw [hsource, hfirst, hsecond]
  exact outcome_openManifest_ok.2
    ⟨"zeile.json", rfl, _, _, "/p/zeile.json", rfl, hdecode, rfl, hrebased⟩

theorem convertAsset_refusing : outcome (convertAsset refusing) refusingProject =
    (.ok (Asset.convert delayed .jp ""), refusingProject) := by
  have hread : refusingProject.tree.read refusingProject.cwd "/p/a" = .ok delayedJson.compact := rfl
  refine outcome_convertAsset_ok.2 ⟨rfl, rfl, ?_⟩
  dsimp only [refusing, resolved]
  rw [hread, load_delayed]

theorem converts_refusing :
    Converts "zeile.json" refusingProject refusing (Asset.convert delayed .jp "").story :=
  ⟨openManifest_refusing, _, convertAsset_refusing, hasErrors_eq_false.1 hasErrors_delayed, rfl⟩

theorem firstRefused_refusing : FirstRefused refusing 1 where
  refuses := ⟨_, rfl, by rintro ⟨writer, ⟨⟩⟩⟩
  accepts i hi target htarget := by
    obtain rfl := Nat.lt_one_iff.1 hi
    cases htarget
    exact ⟨_, rfl⟩

theorem turn_refusing :
    turn refusing (Asset.convert delayed .jp "").story refusingProject 0 = refusingProject := by
  have hstory : outcome (storyOfAsset refusing) refusingProject =
      (.ok (some (Asset.convert delayed .jp "").story), refusingProject) := by
    rw [storyOfAsset, outcome_bind_ok convertAsset_refusing, diagnostics_delayed]
    rfl
  rw [turn, hstory]
  rfl

theorem fileAt_refusing :
    fileAt refusing (Asset.convert delayed .jp "").story refusingProject 0 = "/p/o" := by
  have hfree : refusingProject.tree.isDirectory refusingProject.cwd "/p/o" = false := rfl
  have hfirst : refusing.targets[0]? = some ⟨.bestdori, "/p/o", .null⟩ := rfl
  rw [fileAt_eq hfirst, turn_refusing, fileOf, hfree]
  rfl

theorem savesAt_refusing (text : String) :
    SavesAt refusing (Asset.convert delayed .jp "").story refusingProject 0 text := by
  have hlocate : refusingProject.tree.locate refusingProject.cwd "/p/o" = .ok ["p", "o"] := rfl
  have hnone : refusingProject.tree.entry? ["p", "o"] = none := rfl
  have hsave := outcome_save hlocate (by simp [hnone]) text
  rw [SavesAt, fileAt_refusing, turn_refusing, hsave]

theorem emit_confined_refusing :
    ((respond (.emit "zeile.json" none) nowhere).1 = .failure ∧
      (respond (.emit "zeile.json" none) nowhere).2.tree = nowhere.tree) ∧
    (respond (.emit "zeile.json" none) refusingProject).1 = .failure ∧
      ∃ text, Gives ⟨.bestdori, "/p/o", .null⟩ (Asset.convert delayed .jp "").story text ∧
        (respond (.emit "zeile.json" none) refusingProject).2.tree.read ["p"] "/p/o" = .ok text := by
  refine ⟨((emit_confined "zeile.json" nowhere).1 not_converts_nowhere).2, ?_⟩
  obtain ⟨n, hemitted, hstops⟩ := (emit_confined "zeile.json" refusingProject).2 _ _ converts_refusing
  obtain ⟨rfl, hfailure⟩ := hstops 1 firstRefused_refusing fun i hi text _ ↦ by
    obtain rfl := Nat.lt_one_iff.1 hi
    exact savesAt_refusing text
  obtain ⟨text, ⟨target, htarget, hgives⟩, -, hread⟩ := hemitted.written 0 Nat.one_pos
  cases htarget
  rw [fileAt_refusing] at hread
  refine ⟨hfailure, text, hgives, hread.resolve_right ?_⟩
  rintro ⟨j, hj, hj', -⟩
  exact absurd (Nat.lt_one_iff.1 hj') hj.ne'

end Stagecraft.Command
