import Stagecraft.Proofs.Command.Alike

namespace Stagecraft.Command

open Files (Location)

variable {α : Type} {L : Location} {w w' v : World} {p : String}

theorem outcome_readDecoded_ok {what : String} {decode : String → Except Json.DecodeError α} {a : α} :
    outcome (readDecoded what p decode) w = (.ok a, v) ↔
      v = w ∧ ∃ text, w.tree.read w.cwd p = .ok text ∧ decode text = .ok a := by
  have hread : outcome (ask (Host.read p)) w = (.ok (w.tree.read w.cwd p), w) := rfl
  rw [readDecoded, outcome_bind_ok hread]
  cases w.tree.read w.cwd p with
  | error e =>
    constructor
    · intro h
      cases e <;> cases h
    · rintro ⟨-, text, htext, -⟩
      cases htext
  | ok text =>
    dsimp only
    cases hd : decode text with
    | error e =>
      constructor
      · intro h
        cases h
      · rintro ⟨-, _, ⟨⟩, hdecode⟩
        cases hd.symm.trans hdecode
    | ok b =>
      constructor
      · intro h
        cases h
        exact ⟨rfl, text, rfl, hd⟩
      · rintro ⟨rfl, _, ⟨⟩, hdecode⟩
        cases hd.symm.trans hdecode
        rfl

def FindsAt (p : String) (w : World) (l : Location) : Prop :=
  ∃ found v, outcome (findManifest p) w = (.ok found, v) ∧ w.tree.locate w.cwd found = .ok l

def nearest (fuel : ℕ) (directory : String) (w : World) : Option String :=
  ((searchUp fuel directory : StateM World (Option String)) w).1

def searched (w : World) : Option String :=
  nearest ((Files.Tree.absolutePath w.cwd).length + 1) (Files.Tree.absolutePath w.cwd) w

theorem searchUp_succ (fuel : ℕ) (directory : String) (w : World) :
    (searchUp (fuel + 1) directory : StateM World (Option String)) w =
      if w.tree.doesExist w.cwd (Path.join directory Manifest.fileName) then
        (some (Path.join directory Manifest.fileName), w)
      else match Path.parent? directory with
        | none => (none, w)
        | some above => (searchUp fuel above : StateM World (Option String)) w := by
  rw [searchUp]
  have hexists : (Host.doesExist (Path.join directory Manifest.fileName) : StateM World Bool) w =
    (w.tree.doesExist w.cwd (Path.join directory Manifest.fileName), w) := rfl
  simp only [bind, StateT.bind, hexists]
  split
  · rfl
  · cases Path.parent? directory <;> rfl

theorem nearest_succ (fuel : ℕ) (directory : String) (w : World) :
    nearest (fuel + 1) directory w =
      if w.tree.doesExist w.cwd (Path.join directory Manifest.fileName) then
        some (Path.join directory Manifest.fileName)
      else (Path.parent? directory).bind (nearest fuel · w) := by
  rw [nearest, searchUp_succ]
  split
  · rfl
  · cases Path.parent? directory <;> rfl

/-- A search leaves the world as it is. -/
theorem searchUp_eq (fuel : ℕ) (directory : String) (w : World) :
    (searchUp fuel directory : StateM World (Option String)) w = (nearest fuel directory w, w) := by
  refine Prod.ext rfl ?_
  induction fuel generalizing directory with
  | zero => rfl
  | succ fuel ih =>
    rw [searchUp_succ]
    split
    · rfl
    · cases Path.parent? directory with
      | none => rfl
      | some above => exact ih above

/-- In a world that agrees but for a place, a search finds that place or the same manifest. -/
theorem nearest_alike (h : Alike L w w') (fuel : ℕ) (directory : String) :
    (∃ q ∈ nearest fuel directory w', w'.tree.locate w'.cwd q = .ok L) ∨
      nearest fuel directory w' = nearest fuel directory w ∧
        ∀ q ∈ nearest fuel directory w, w.tree.locate w.cwd q ≠ .ok L := by
  induction fuel generalizing directory with
  | zero => exact .inr ⟨rfl, nofun⟩
  | succ fuel ih =>
    rw [nearest_succ, nearest_succ, h.cwd]
    by_cases hL : w.tree.locate w.cwd (Path.join directory Manifest.fileName) = .ok L
    · rw [if_pos (h.beside.doesExist_of_locate hL)]
      exact .inl ⟨_, rfl, h.beside.locate_eq_ok.2 hL⟩
    · rw [h.beside.doesExist hL]
      split
      · exact .inr ⟨rfl, fun q hq ↦ Option.some.inj hq ▸ hL⟩
      · cases Path.parent? directory with
        | none => exact .inr ⟨rfl, nofun⟩
        | some above => exact h.cwd ▸ ih above

/-- A path means itself, or if there is nothing, what is searched for. -/
theorem outcome_findManifest_ok {found : String} :
    outcome (findManifest p) w = (.ok found, v) ↔ v = w ∧
      if w.tree.doesExist w.cwd p then found = p
      else Path.fileName? p = some Manifest.fileName ∧ searched w = some found := by
  have hask : outcome (ask (Host.doesExist p)) w = (.ok (w.tree.doesExist w.cwd p), w) := rfl
  have hdirectory : outcome (ask Host.workingDirectory) w =
      (.ok (Files.Tree.absolutePath w.cwd), w) := rfl
  rw [findManifest, outcome_bind_ok hask]
  cases w.tree.doesExist w.cwd p with
  | true =>
    constructor
    · intro h
      cases h
      exact ⟨rfl, rfl⟩
    · rintro ⟨rfl, rfl⟩
      rfl
  | false =>
    by_cases hname : Path.fileName? p = some Manifest.fileName
    · have hsearch := outcome_ask
        (searchUp ((Files.Tree.absolutePath w.cwd).length + 1) (Files.Tree.absolutePath w.cwd)) w
      rw [searchUp_eq] at hsearch
      simp only [Bool.false_eq_true, if_false, hname, if_true, true_and]
      rw [outcome_bind_ok hdirectory, outcome_bind_ok hsearch, searched]
      cases nearest ((Files.Tree.absolutePath w.cwd).length + 1) (Files.Tree.absolutePath w.cwd) w with
      | none => exact ⟨nofun, nofun⟩
      | some q =>
        constructor
        · intro h
          cases h
          exact ⟨rfl, rfl⟩
        · rintro ⟨rfl, ⟨⟩⟩
          rfl
    · simp only [Bool.false_eq_true, if_false, hname, false_and, and_false, iff_false]
      exact nofun

/-- A manifest that is found is found in a world that agrees but for another place, too. -/
theorem findManifest_alike {found : String} (h : Alike L w w') (hL : ¬FindsAt p w' L)
    (hfound : outcome (findManifest p) w = (.ok found, v)) :
    v = w ∧ outcome (findManifest p) w' = (.ok found, w') ∧ w.tree.locate w.cwd found ≠ .ok L := by
  obtain ⟨rfl, hfound⟩ := outcome_findManifest_ok.1 hfound
  have hp : v.tree.locate v.cwd p ≠ .ok L := by
    intro hp
    refine hL ⟨p, w', outcome_findManifest_ok.2 ⟨rfl, ?_⟩, h.cwd ▸ h.beside.locate_eq_ok.2 hp⟩
    rw [h.cwd, if_pos (h.beside.doesExist_of_locate hp)]
  have hexists : w'.tree.doesExist w'.cwd p = v.tree.doesExist v.cwd p := by
    rw [h.cwd, h.beside.doesExist hp]
  split at hfound
  · next hthere =>
    subst hfound
    exact ⟨rfl, outcome_findManifest_ok.2 ⟨rfl, by rw [hexists, if_pos hthere]⟩, hp⟩
  · next hthere =>
    obtain ⟨hname, hsearched⟩ := hfound
    have hfinds (q : String) (hq : searched w' = some q) :
        outcome (findManifest p) w' = (.ok q, w') := by
      refine outcome_findManifest_ok.2 ⟨rfl, ?_⟩
      rw [hexists, if_neg hthere]
      exact ⟨hname, hq⟩
    rw [searched] at hsearched hfinds
    rw [h.cwd] at hfinds
    obtain ⟨q, hq, hqL⟩ | ⟨hsame, hother⟩ := nearest_alike h _ _
    · exact absurd ⟨q, w', hfinds q hq, hqL⟩ hL
    · exact ⟨rfl, hfinds found (hsame.trans hsearched), hother found hsearched⟩

def rebased (full : String) (manifest : Manifest) : Manifest :=
  match Path.parent? full with
  | some base => manifest.resolve base
  | none => manifest

theorem outcome_openManifest_ok {manifest : Manifest} :
    outcome (openManifest p) w = (.ok manifest, v) ↔
      ∃ found, outcome (findManifest p) w = (.ok found, v) ∧
        ∃ text decoded full, v.tree.read v.cwd found = .ok text ∧ Manifest.ofText text = .ok decoded ∧
          v.tree.canonical v.cwd found = .ok full ∧ rebased full decoded = manifest := by
  have hask (u : World) (found : String) : outcome (ask (Host.canonical found)) u =
      (.ok (u.tree.canonical u.cwd found), u) := rfl
  have hrebase (u : World) (full : String) (decoded : Manifest) :
      outcome (match Path.parent? full with
        | some base => pure (decoded.resolve base)
        | none => pure decoded : CommandM (StateM World) Manifest) u = (.ok (rebased full decoded), u) := by
    rw [rebased]
    cases Path.parent? full <;> rfl
  rw [openManifest]
  constructor
  · intro hopen
    obtain ⟨found, u, hfind, hdecode⟩ := outcome_bind_eq_ok.1 hopen
    obtain ⟨decoded, u, hread, hresolve⟩ := outcome_bind_eq_ok.1 hdecode
    obtain ⟨rfl, text, htext, hdecoded⟩ := outcome_readDecoded_ok.1 hread
    rw [outcome_bind_ok (hask u found)] at hresolve
    cases hfull : u.tree.canonical u.cwd found with
    | error e =>
      rw [hfull] at hresolve
      cases hresolve
    | ok full =>
      rw [hfull] at hresolve
      cases (hrebase u full decoded).symm.trans hresolve
      exact ⟨found, hfind, text, decoded, full, htext, hdecoded, hfull, rfl⟩
  · rintro ⟨found, hfind, text, decoded, full, htext, hdecoded, hfull, rfl⟩
    have hread : outcome (readDecoded "manifest" found Manifest.ofText) v = (.ok decoded, v) :=
      outcome_readDecoded_ok.2 ⟨rfl, text, htext, hdecoded⟩
    rw [outcome_bind_ok hfind, outcome_bind_ok hread, outcome_bind_ok (hask v found), hfull]
    exact hrebase v full decoded

/-- A manifest is opened alike in a world that agrees but for a place that is not the manifest's. -/
theorem openManifest_alike {manifest : Manifest} (h : Alike L w w') (hL : ¬FindsAt p w' L)
    (hopen : outcome (openManifest p) w = (.ok manifest, v)) :
    outcome (openManifest p) w' = (.ok manifest, w') := by
  obtain ⟨found, hfind, text, decoded, full, hread, hdecode, hfull, hmanifest⟩ :=
    outcome_openManifest_ok.1 hopen
  obtain ⟨rfl, hfind', hfound⟩ := findManifest_alike h hL hfind
  exact outcome_openManifest_ok.2 ⟨found, hfind', text, decoded, full,
    h.cwd ▸ h.beside.read hfound hread, hdecode, h.cwd ▸ h.beside.canonical hfound hfull, hmanifest⟩

/-- A file beside the manifest is not taken for it. -/
theorem not_findsAt (h : Alike L w w') (hp : w.tree.doesExist w.cwd p = true)
    (hL : w.tree.locate w.cwd p ≠ .ok L) : ¬FindsAt p w' L := by
  rintro ⟨found, v, hfound, hlocate⟩
  obtain ⟨-, hfound⟩ := outcome_findManifest_ok.1 hfound
  rw [h.cwd, h.beside.doesExist hL, if_pos hp] at hfound
  exact hL (h.beside.locate_eq_ok.1 (h.cwd ▸ hfound ▸ hlocate))

end Stagecraft.Command
