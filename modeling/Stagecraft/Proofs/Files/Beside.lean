import Stagecraft.Proofs.Files.Tree
import Stagecraft.Proofs.Outcome

namespace Stagecraft.Files.Tree

open Stagecraft.Path
open Outcome (bind_eq_ok ok_bind)

variable {L l cwd here : Location} {t t' s s' : Tree} {p : String} {ps : List String}

def Grows (t s : Tree) : Prop := ∀ l, t.entry? l = some .directory → s.entry? l = some .directory

theorem Grows.refl (t : Tree) : t.Grows t := fun _ h ↦ h

theorem Grows.trans {u : Tree} (h : t.Grows s) (h' : s.Grows u) : t.Grows u := fun l hl ↦ h' l (h l hl)

theorem grows_set {e : Entry} (h : t.entry? here ≠ some .directory) : t.Grows (t.set here e) := by
  intro l hl
  rw [entry?_set (ne_nil_of_ne_directory h), if_neg]
  · exact hl
  · rintro rfl
    exact h hl

theorem makeDirectory_eq_ok : t.makeDirectory cwd p = .ok s ↔
    ∃ l, t.locate cwd (trimmed p) = .ok l ∧ t.entry? l = none ∧ t.set l .directory = s := by
  refine bind_eq_ok.trans (exists_congr fun l ↦ and_congr_right fun _ ↦ ?_)
  cases h : t.entry? l with
  | none => simp [pure, Except.pure]
  | some e => simp [throw, throwThe, MonadExceptOf.throw]

theorem write_eq_ok {content : String} : t.write cwd p content = .ok s ↔
    ∃ l, t.locate cwd p = .ok l ∧ t.entry? l ≠ some .directory ∧ t.set l (.file content) = s := by
  rw [write]
  cases h : t.locate cwd p with
  | ok l => by_cases hl : t.entry? l = some .directory <;> simp [hl]
  | error e =>
    dsimp only
    split <;> simp

theorem grows_makeDirectory (h : t.makeDirectory cwd p = .ok s) : t.Grows s := by
  obtain ⟨l, -, hl, rfl⟩ := makeDirectory_eq_ok.1 h
  exact grows_set (by simp [hl])

theorem grows_write {content : String} (h : t.write cwd p content = .ok s) : t.Grows s := by
  obtain ⟨l, -, hl, rfl⟩ := write_eq_ok.1 h
  exact grows_set hl

def makeLast (cwd : Location) (t : Tree) (p : String) : Except FileError Tree :=
  match t.makeDirectory cwd p with
  | .ok t => .ok t
  | .error e => if t.isDirectory cwd p then .ok t else .error e

theorem makeLast_ok (h : makeLast cwd t p = .ok s) : t.Grows s ∧ (t.makeDirectory cwd p = .ok s ∨
    t = s ∧ t.isDirectory cwd p) := by
  rw [makeLast] at h
  split at h
  · next hmake =>
    cases h
    exact ⟨grows_makeDirectory hmake, .inl hmake⟩
  · split at h
    · next hdir =>
      cases h
      exact ⟨.refl t, .inr ⟨rfl, hdir⟩⟩
    · cases h

theorem entry?_of_isDirectory (hl : l ∈ leftOn cwd p) (h : t.isDirectory cwd p) :
    t.entry? l = some .directory := by
  obtain ⟨k, hk, -⟩ := isDirectory_iff.1 h
  exact (locate_eq_ok.1 hk).2.1 l hl

/-- When the last step has succeeded, the places on the way are directories. -/
theorem entry?_of_makeLast (hp : p ≠ "") (hl : l ∈ leftOn cwd (trimmed p))
    (h : makeLast cwd t p = .ok s) : s.entry? l = some .directory := by
  obtain ⟨hgrows, hmake | ⟨rfl, hdir⟩⟩ := makeLast_ok h
  · obtain ⟨k, hk, -, -⟩ := makeDirectory_eq_ok.1 hmake
    exact hgrows l ((locate_eq_ok.1 hk).2.1 l hl)
  · exact entry?_of_isDirectory (leftOn_trimmed hp l hl) hdir

/-- Making directories is its last step, unless what is above the path has to be made first. -/
theorem makeWithin_succ (hp : p ≠ "") (cwd : Location) (fuel : ℕ) (t : Tree) :
    makeWithin cwd (fuel + 1) t p =
      match t.makeDirectory cwd p with
      | .error .notFound =>
        match parent? p with
        | none => .error .notFound
        | some above => makeWithin cwd fuel t above >>= (makeLast cwd · p)
      | _ => makeLast cwd t p := by
  rw [makeWithin, if_neg hp, makeLast]
  cases t.makeDirectory cwd p with
  | ok s => rfl
  | error e =>
    cases e with
    | notFound =>
      dsimp only
      cases parent? p with
      | none => rfl
      | some above => rfl
    | _ => rfl

theorem makeWithin_ok {fuel : ℕ} (h : makeWithin cwd fuel t p = .ok s) : t.Grows s := by
  induction fuel generalizing t s p with
  | zero => cases h
  | succ fuel ih =>
    by_cases hp : p = ""
    · rw [makeWithin, if_pos hp] at h
      cases h
      exact .refl t
    · rw [makeWithin_succ hp] at h
      split at h
      · split at h
        · cases h
        · obtain ⟨u, hu, hs⟩ := bind_eq_ok.1 h
          exact (ih hu).trans (makeLast_ok hs).1
      · exact (makeLast_ok h).1

theorem makeDirectories_of_isDirectory (h : t.isDirectory cwd p) : t.makeDirectories cwd p = .ok t := by
  obtain ⟨l, hl, hentry⟩ := isDirectory_iff.1 h
  have hmake : t.makeDirectory cwd p = .error .alreadyExists := by
    rw [Tree.makeDirectory, locate_trimmed hl, ok_bind, hentry]
    rfl
  rw [makeDirectories, makeWithin_succ (locate_eq_ok.1 hl).1, hmake, makeLast, hmake]
  exact if_pos h

/-- Two trees that agree but for one place, where the first has no directory and the second has a
file. -/
structure Beside (L : Location) (t t' : Tree) : Prop where
  agree : ∀ l, l ≠ L → t'.entry? l = t.entry? l
  free : t.entry? L ≠ some .directory
  file : ∃ content, t'.entry? L = some (.file content)

/-- How an operation ends in two trees: it succeeds in both, it fails in both, or only in the second,
when it has made a directory of the place in the first. -/
inductive Paired (L : Location) : Except FileError Tree → Except FileError Tree → Prop
  | both {s s' : Tree} (h : Beside L s s') : Paired L (.ok s) (.ok s')
  | neither (e e' : FileError) : Paired L (.error e) (.error e')
  | taken {s : Tree} (h : s.entry? L = some .directory) (e : FileError) : Paired L (.ok s) (.error e)

namespace Beside

theorem notDirectory (h : Beside L t t') : t'.entry? L ≠ some .directory := by
  obtain ⟨content, hfile⟩ := h.file
  simp [hfile]

/-- Writing a file where no directory is leaves the rest of the tree as it was. -/
theorem of_set (hL : t.entry? L ≠ some .directory) (content : String) :
    Beside L t (t.set L (.file content)) where
  agree l hl := by rw [entry?_set (ne_nil_of_ne_directory hL), if_neg hl]
  free := hL
  file := ⟨content, by rw [entry?_set (ne_nil_of_ne_directory hL), if_pos rfl]⟩

theorem set (h : Beside L t t') (hl : l ≠ []) {e : Entry} (he : l = L → ∃ content, e = .file content) :
    Beside L (t.set l e) (t'.set l e) where
  agree k hk := by rw [entry?_set hl, entry?_set hl, h.agree k hk]
  free := by
    rw [entry?_set hl]
    split
    · next hL =>
      obtain ⟨content, rfl⟩ := he hL.symm
      simp
    · exact h.free
  file := by
    rw [entry?_set hl]
    split
    · next hL =>
      obtain ⟨content, rfl⟩ := he hL.symm
      exact ⟨content, rfl⟩
    · exact h.file

/-- A walk goes the same way in both trees, or it breaks off at the place in both. -/
theorem walk (h : Beside L t t') (here : Location) (ps : List String) :
    t'.walk here ps = t.walk here ps ∨
      L ∈ lefts here ps ∧ t.walk here ps = .error .notFound ∧
        t'.walk here ps = .error .notDirectory := by
  induction ps generalizing here with
  | nil => exact .inl rfl
  | cons p ps ih =>
    rw [Tree.walk, Tree.walk]
    by_cases hL : here = L
    · subst hL
      obtain ⟨content, hfile⟩ := h.file
      rw [hfile]
      cases hentry : t.entry? here with
      | none => exact .inr ⟨List.mem_cons_self, rfl, rfl⟩
      | some e =>
        cases e with
        | file _ => exact .inl rfl
        | directory => exact absurd hentry h.free
    · rw [h.agree here hL]
      cases t.entry? here with
      | none => exact .inl rfl
      | some e =>
        cases e with
        | file _ => exact .inl rfl
        | directory =>
          exact (ih (step here p)).imp_right (And.imp_left (List.mem_cons_of_mem _))

theorem locate (h : Beside L t t') (cwd : Location) (p : String) :
    t'.locate cwd p = t.locate cwd p ∨
      L ∈ leftOn cwd p ∧ t.locate cwd p = .error .notFound ∧
        t'.locate cwd p = .error .notDirectory := by
  by_cases hp : p = ""
  · exact .inl (by rw [hp]; rfl)
  · rw [locate_eq_walk hp, locate_eq_walk hp]
    exact h.walk (start cwd p) (pieces p)

theorem locate_eq_ok (h : Beside L t t') : t'.locate cwd p = .ok l ↔ t.locate cwd p = .ok l := by
  rcases h.locate cwd p with hlocate | ⟨-, hlocate, hlocate'⟩
  · rw [hlocate]
  · rw [hlocate, hlocate']
    exact ⟨nofun, nofun⟩

theorem entry?_eq_directory (h : Beside L t t') (l : Location) :
    t'.entry? l = some .directory ↔ t.entry? l = some .directory := by
  by_cases hL : l = L
  · subst hL
    exact ⟨fun hl ↦ absurd hl h.notDirectory, fun hl ↦ absurd hl h.free⟩
  · rw [h.agree l hL]

theorem doesExist (h : Beside L t t') (hp : t.locate cwd p ≠ .ok L) :
    t'.doesExist cwd p = t.doesExist cwd p := by
  rw [Tree.doesExist, Tree.doesExist, find?, find?]
  rcases h.locate cwd p with hlocate | ⟨-, hlocate, hlocate'⟩
  · rw [hlocate]
    cases hl : t.locate cwd p with
    | error e => rfl
    | ok l =>
      have hL : l ≠ L := fun hL ↦ hp (hL ▸ hl)
      simp only [h.agree l hL]
  · rw [hlocate, hlocate']

theorem doesExist_of_locate (h : Beside L t t') (hp : t.locate cwd p = .ok L) :
    t'.doesExist cwd p = true := by
  obtain ⟨content, hfile⟩ := h.file
  rw [Tree.doesExist, find?, h.locate_eq_ok.2 hp]
  exact Option.isSome_of_eq_some hfile

theorem read (h : Beside L t t') {content : String} (hp : t.locate cwd p ≠ .ok L)
    (hread : t.read cwd p = .ok content) : t'.read cwd p = .ok content := by
  obtain ⟨l, hl, hcontent⟩ := bind_eq_ok.1 hread
  have hL : l ≠ L := fun hL ↦ hp (hL ▸ hl)
  exact bind_eq_ok.2 ⟨l, h.locate_eq_ok.2 hl, by rw [h.agree l hL]; exact hcontent⟩

theorem canonical (h : Beside L t t') {full : String} (hp : t.locate cwd p ≠ .ok L)
    (hfull : t.canonical cwd p = .ok full) : t'.canonical cwd p = .ok full := by
  obtain ⟨l, hl, hfull⟩ := bind_eq_ok.1 hfull
  have hL : l ≠ L := fun hL ↦ hp (hL ▸ hl)
  exact bind_eq_ok.2 ⟨l, h.locate_eq_ok.2 hl, by rw [h.agree l hL]; exact hfull⟩

theorem isDirectory (h : Beside L t t') (cwd : Location) (p : String) :
    t'.isDirectory cwd p = t.isDirectory cwd p := by
  rw [Bool.eq_iff_iff, isDirectory_iff, isDirectory_iff]
  simp only [h.locate_eq_ok, h.entry?_eq_directory]

theorem write (h : Beside L t t') (cwd : Location) (p content : String) :
    Paired L (t.write cwd p content) (t'.write cwd p content) := by
  cases hw : t.write cwd p content with
  | ok s =>
    obtain ⟨l, hl, hentry, rfl⟩ := write_eq_ok.1 hw
    rw [write_eq_ok.2 ⟨l, h.locate_eq_ok.2 hl, (h.entry?_eq_directory l).not.2 hentry, rfl⟩]
    exact .both (h.set (ne_nil_of_ne_directory hentry) fun _ ↦ ⟨content, rfl⟩)
  | error e =>
    cases hw' : t'.write cwd p content with
    | error e' => exact .neither e e'
    | ok s' =>
      obtain ⟨l, hl, hentry, -⟩ := write_eq_ok.1 hw'
      cases hw.symm.trans (write_eq_ok.2
        ⟨l, h.locate_eq_ok.1 hl, (h.entry?_eq_directory l).not.1 hentry, rfl⟩)

inductive MadeIn (L : Location) (cwd : Location) (t' : Tree) (p : String) :
    Except FileError Tree → Except FileError Tree → Prop
  | both {s s' : Tree} (h : Beside L s s') : MadeIn L cwd t' p (.ok s) (.ok s')
  | neither (e : FileError) : MadeIn L cwd t' p (.error e) (.error e)
  | taken {s : Tree} (h : s.entry? L = some .directory) (hp : ¬t'.isDirectory cwd p) :
    MadeIn L cwd t' p (.ok s) (.error .alreadyExists)
  | behind (hL : L ∈ leftOn cwd (trimmed p)) :
    MadeIn L cwd t' p (.error .notFound) (.error .notDirectory)

theorem makeDirectory (h : Beside L t t') (cwd : Location) (p : String) :
    MadeIn L cwd t' p (t.makeDirectory cwd p) (t'.makeDirectory cwd p) := by
  rw [Tree.makeDirectory, Tree.makeDirectory]
  rcases h.locate cwd (trimmed p) with hlocate | ⟨hL, hlocate, hlocate'⟩
  · rw [hlocate]
    cases hl : t.locate cwd (trimmed p) with
    | error e => exact .neither e
    | ok l =>
      have hplace : l = L → ¬t'.isDirectory cwd p := by
        rintro rfl hdir
        obtain ⟨k, hk, hentry⟩ := isDirectory_iff.1 hdir
        cases (hlocate.trans hl).symm.trans (locate_trimmed hk)
        exact h.notDirectory hentry
      simp only [ok_bind]
      by_cases hL : l = L
      · subst hL
        obtain ⟨content, hfile⟩ := h.file
        rw [hfile]
        cases hentry : t.entry? l with
        | none =>
          have hne : l ≠ [] := ne_nil_of_ne_directory h.free
          exact .taken (by rw [entry?_set hne, if_pos rfl]) (hplace rfl)
        | some e => exact .neither .alreadyExists
      · rw [h.agree l hL]
        cases hentry : t.entry? l with
        | none =>
          have hne : l ≠ [] := ne_nil_of_ne_directory (t := t) (by simp [hentry])
          exact .both (h.set hne fun hl ↦ absurd hl hL)
        | some e => exact .neither .alreadyExists
  · rw [hlocate, hlocate']
    exact .behind hL

theorem makeLast (h : Beside L t t') (cwd : Location) (p : String) :
    Paired L (Tree.makeLast cwd t p) (Tree.makeLast cwd t' p) := by
  have hdir := h.isDirectory cwd p
  have hboth (e e' : FileError) : Paired L (if t.isDirectory cwd p then .ok t else .error e)
      (if t'.isDirectory cwd p then .ok t' else .error e') := by
    rw [hdir]
    split
    · exact .both h
    · exact .neither e e'
  have hmade := h.makeDirectory cwd p
  rw [Tree.makeLast, Tree.makeLast]
  generalize t.makeDirectory cwd p = r, t'.makeDirectory cwd p = r' at hmade
  cases hmade with
  | both h => exact .both h
  | neither e => exact hboth e e
  | taken hs hp =>
    dsimp only
    rw [if_neg hp]
    exact .taken hs _
  | behind hL => exact hboth _ _

end Beside

/-- What is paired stays so under the last step: a directory that was made of the place is not lost. -/
theorem Paired.bind_makeLast {r r' : Except FileError Tree} (h : Paired L r r') (cwd : Location)
    (p : String) : Paired L (r >>= (makeLast cwd · p)) (r' >>= (makeLast cwd · p)) := by
  cases h with
  | both h => exact h.makeLast cwd p
  | neither e e' => exact .neither e e'
  | @taken s hs e =>
    change Paired L (makeLast cwd s p) (.error e)
    cases hmake : makeLast cwd s p with
    | ok u => exact .taken ((makeLast_ok hmake).1 L hs) e
    | error e' => exact .neither e' e

/-- If the place is on the way to a path, the last step makes a directory of it or fails. -/
theorem paired_of_leftOn (hp : p ≠ "") (hL : L ∈ leftOn cwd (trimmed p)) (r : Except FileError Tree)
    (e : FileError) : Paired L (r >>= (makeLast cwd · p)) (.error e) := by
  cases hmake : r >>= (makeLast cwd · p) with
  | error e' => exact .neither e' e
  | ok s =>
    obtain ⟨u, -, hs⟩ := bind_eq_ok.1 hmake
    exact .taken (entry?_of_makeLast hp hL hs) e

namespace Beside

theorem makeLast_of_leftOn (h : Beside L t t') (hp : p ≠ "") (hL : L ∈ leftOn cwd (trimmed p))
    {e : FileError} (hmake : t'.makeDirectory cwd p = .error e) :
    Tree.makeLast cwd t' p = .error e := by
  have hdir : ¬t'.isDirectory cwd p :=
    fun hdir ↦ h.notDirectory (entry?_of_isDirectory (leftOn_trimmed hp L hL) hdir)
  rw [Tree.makeLast, hmake]
  exact if_neg hdir

theorem makeWithin (h : Beside L t t') (cwd : Location) (fuel : ℕ) (p : String) :
    Paired L (Tree.makeWithin cwd fuel t p) (Tree.makeWithin cwd fuel t' p) := by
  induction fuel generalizing p with
  | zero => exact .neither _ _
  | succ fuel ih =>
    by_cases hp : p = ""
    · rw [Tree.makeWithin, Tree.makeWithin, if_pos hp, if_pos hp]
      exact .both h
    · have hlast := h.makeLast cwd p
      have hmade := h.makeDirectory cwd p
      rw [makeWithin_succ hp, makeWithin_succ hp]
      generalize t.makeDirectory cwd p = r, hr' : t'.makeDirectory cwd p = r' at hmade
      -- What is above the path is made first if it is missing. With the place on the way, it is
      -- missing in the first tree only.
      cases hmade with
      | both _ => exact hlast
      | taken _ _ => exact hlast
      | neither e =>
        cases e with
        | notFound =>
          dsimp only
          cases parent? p with
          | none => exact .neither _ _
          | some above => exact (ih above).bind_makeLast cwd p
        | _ => exact hlast
      | behind hL =>
        dsimp only
        rw [h.makeLast_of_leftOn hp hL hr']
        cases parent? p with
        | none => exact .neither _ _
        | some above => exact paired_of_leftOn hp hL _ _

theorem makeDirectories (h : Beside L t t') (cwd : Location) (p : String) :
    Paired L (t.makeDirectories cwd p) (t'.makeDirectories cwd p) :=
  h.makeWithin cwd _ p

end Beside

end Stagecraft.Files.Tree
