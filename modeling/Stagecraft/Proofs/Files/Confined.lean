import Stagecraft.Proofs.Files.Beside

namespace Stagecraft.Files.Tree

open Stagecraft.Path
open Outcome (bind_eq_ok)

variable {l cwd : Location} {t s u : Tree} {p content : String} {here way here' way' : Location → Prop}

/-- A path leads where it led before if no directory is gone. -/
theorem Grows.locate (h : t.Grows s) (hl : t.locate cwd p = .ok l) : s.locate cwd p = .ok l := by
  obtain ⟨hne, hleft, hplace⟩ := locate_eq_ok.1 hl
  exact locate_eq_ok.2 ⟨hne, fun x hx ↦ h x (hleft x hx), hplace⟩

inductive Becomes (here way : Prop) : Option Entry → Option Entry → Prop
  | same (e : Option Entry) : Becomes here way e e
  | made (h : way) : Becomes here way none (some .directory)
  | filled (h : here) {e : Option Entry} (he : e ≠ some .directory) (content : String) :
    Becomes here way e (some (.file content))

/-- A tree that comes from another one by files at some places and directories at others. -/
def Confined (here way : Location → Prop) (t s : Tree) : Prop :=
  ∀ l, Becomes (here l) (way l) (t.entry? l) (s.entry? l)

namespace Confined

theorem refl (t : Tree) : Confined here way t t := fun _ ↦ .same _

theorem mono (h : Confined here way t s) (hhere : ∀ l, here l → here' l) (hway : ∀ l, way l → way' l) :
    Confined here' way' t s := by
  intro l
  have hl := h l
  generalize t.entry? l = e, s.entry? l = e' at hl
  cases hl with
  | same => exact .same e
  | made hl => exact .made (hway l hl)
  | filled hl he content => exact .filled (hhere l hl) he content

theorem trans (h : Confined here way t s) (h' : Confined here way s u) : Confined here way t u := by
  intro l
  have hl := h l
  have hl' := h' l
  generalize t.entry? l = e, s.entry? l = e', u.entry? l = e'' at hl hl'
  cases hl with
  | same => exact hl'
  | made hway =>
    cases hl' with
    | same => exact .made hway
    | filled _ he _ => exact absurd rfl he
  | filled hhere he content =>
    cases hl' with
    | same => exact .filled hhere he content
    | filled _ _ content => exact .filled hhere he content

theorem grows (h : Confined here way t s) : t.Grows s := by
  intro l hdirectory
  have hl := h l
  rw [hdirectory] at hl
  generalize s.entry? l = e at hl
  cases hl with
  | same => rfl
  | filled _ he _ => exact absurd rfl he

/-- Where no file is written, what was there stays, and only directories are new. -/
theorem entry? (h : Confined here way t s) (hl : ¬here l) :
    s.entry? l = t.entry? l ∨ t.entry? l = none ∧ s.entry? l = some .directory ∧ way l := by
  have hbecomes := h l
  generalize t.entry? l = e, s.entry? l = e' at hbecomes
  cases hbecomes with
  | same => exact .inl rfl
  | made hway => exact .inr ⟨rfl, rfl, hway⟩
  | filled hhere _ _ => exact absurd hhere hl

/-- A file that is not written over can be read as before. -/
theorem read (h : Confined here way t s) (hp : ¬here (place cwd p))
    (hread : t.read cwd p = .ok content) : s.read cwd p = .ok content := by
  obtain ⟨l, hlocate, hcontent⟩ := bind_eq_ok.1 hread
  obtain ⟨-, -, rfl⟩ := locate_eq_ok.1 hlocate
  refine bind_eq_ok.2 ⟨_, h.grows.locate hlocate, ?_⟩
  obtain hsame | ⟨hnone, -⟩ := h.entry? hp
  · rw [hsame]
    exact hcontent
  · rw [hnone] at hcontent
    cases hcontent

end Confined

theorem confined_set {e : Entry} (hl : t.entry? l ≠ some .directory)
    (h : Becomes (here l) (way l) (t.entry? l) (some e)) : Confined here way t (t.set l e) := by
  intro k
  rw [entry?_set (ne_nil_of_ne_directory hl)]
  split
  · next hk => exact hk ▸ h
  · exact .same _

theorem confined_makeDirectory (hp : p ≠ "") (h : t.makeDirectory cwd p = .ok s) :
    Confined (fun _ ↦ False) (· = place cwd p) t s := by
  obtain ⟨l, hlocate, hnone, rfl⟩ := makeDirectory_eq_ok.1 h
  obtain ⟨-, -, rfl⟩ := locate_eq_ok.1 hlocate
  refine confined_set (by simp [hnone]) ?_
  rw [hnone]
  exact .made (place_trimmed hp cwd)

theorem confined_makeLast (hp : p ≠ "") (h : makeLast cwd t p = .ok s) :
    Confined (fun _ ↦ False) (· ∈ place cwd p :: leftOn cwd p) t s := by
  obtain ⟨-, hmake | ⟨rfl, -⟩⟩ := makeLast_ok h
  · exact (confined_makeDirectory hp hmake).mono (fun _ ↦ id) fun _ hl ↦ hl ▸ List.mem_cons_self
  · exact .refl t

/-- What making directories changes on the way to a parent lies on the way. -/
theorem Confined.of_parent {q : String} (hq : parent? p = some q) (hne : q ≠ "")
    (h : Confined here (· ∈ place cwd q :: leftOn cwd q) t s) :
    Confined here (· ∈ leftOn cwd p) t s := by
  obtain ⟨hplace, hway⟩ := leftOn_parent hq hne
  exact h.mono (fun _ ↦ id) (List.forall_mem_cons.2 ⟨hplace, hway⟩)

theorem makeWithin_empty {fuel : ℕ} (h : makeWithin cwd fuel t "" = .ok s) : t = s := by
  cases fuel with
  | zero => cases h
  | succ fuel => exact Except.ok.inj h

/-- Making directories makes them at the path and on the way to it. -/
theorem confined_makeWithin {fuel : ℕ} (hp : p ≠ "") (h : makeWithin cwd fuel t p = .ok s) :
    Confined (fun _ ↦ False) (· ∈ place cwd p :: leftOn cwd p) t s := by
  induction fuel generalizing t s p with
  | zero => cases h
  | succ fuel ih =>
    rw [makeWithin_succ hp] at h
    split at h
    · split at h
      · cases h
      · next above habove =>
        obtain ⟨u, hu, hs⟩ := bind_eq_ok.1 h
        refine .trans ?_ (confined_makeLast hp hs)
        by_cases hne : above = ""
        · subst hne
          obtain rfl := makeWithin_empty hu
          exact .refl t
        · exact ((ih hne hu).of_parent habove hne).mono (fun _ ↦ id) fun _ ↦ List.mem_cons_of_mem _
    · exact confined_makeLast hp h

theorem confined_makeDirectories (hp : p ≠ "") (h : t.makeDirectories cwd p = .ok s) :
    Confined (fun _ ↦ False) (· ∈ place cwd p :: leftOn cwd p) t s :=
  confined_makeWithin hp h

def ConfinedTo (cwd : Location) (p : String) (t s : Tree) : Prop :=
  Confined (· = place cwd p) (· ∈ leftOn cwd p) t s

theorem confined_write (h : t.write cwd p content = .ok s) : ConfinedTo cwd p t s := by
  obtain ⟨l, hlocate, hfree, rfl⟩ := write_eq_ok.1 h
  obtain ⟨-, -, rfl⟩ := locate_eq_ok.1 hlocate
  exact confined_set hfree (.filled rfl hfree content)

/-- What is written can be read. -/
theorem read_of_write (h : t.write cwd p content = .ok s) : s.read cwd p = .ok content := by
  have hgrows := grows_write h
  obtain ⟨l, hlocate, hfree, rfl⟩ := write_eq_ok.1 h
  refine bind_eq_ok.2 ⟨l, hgrows.locate hlocate, ?_⟩
  rw [entry?_set (ne_nil_of_ne_directory hfree), if_pos rfl]
  rfl

/-- The trees of a run, one file in each step, differ at the files and on the way to them only. -/
theorem confined_run {trees : ℕ → Tree} {files : ℕ → String} {n : ℕ}
    (h : ∀ i < n, ConfinedTo cwd (files i) (trees i) (trees (i + 1))) :
    Confined (fun l ↦ ∃ i < n, l = place cwd (files i)) (fun l ↦ ∃ i < n, l ∈ leftOn cwd (files i))
      (trees 0) (trees n) := by
  induction n with
  | zero => exact .refl _
  | succ n ih =>
    have hbefore := ih fun i hi ↦ h i (Nat.lt_succ_of_lt hi)
    have hlast : Confined _ _ (trees n) (trees (n + 1)) := h n n.lt_succ_self
    refine (hbefore.mono ?_ ?_).trans (hlast.mono ?_ ?_)
    · exact fun l ⟨i, hi, hl⟩ ↦ ⟨i, Nat.lt_succ_of_lt hi, hl⟩
    · exact fun l ⟨i, hi, hl⟩ ↦ ⟨i, Nat.lt_succ_of_lt hi, hl⟩
    · exact fun l hl ↦ ⟨n, n.lt_succ_self, hl⟩
    · exact fun l hl ↦ ⟨n, n.lt_succ_self, hl⟩

/-- A file of a run can be read at its end, unless a later one is written over it. -/
theorem read_run {trees : ℕ → Tree} {files : ℕ → String} {i n : ℕ} (hi : i < n)
    (h : ∀ j < n, ConfinedTo cwd (files j) (trees j) (trees (j + 1)))
    (hread : (trees (i + 1)).read cwd (files i) = .ok content) :
    (trees n).read cwd (files i) = .ok content ∨
      ∃ j, i < j ∧ j < n ∧ place cwd (files j) = place cwd (files i) := by
  induction n, hi using Nat.le_induction with
  | base => exact .inl hread
  | succ n hi ih =>
    rcases ih fun j hj ↦ h j (Nat.lt_succ_of_lt hj) with hbefore | ⟨j, hij, hj, hplace⟩
    · by_cases hplace : place cwd (files n) = place cwd (files i)
      · exact .inr ⟨n, hi, n.lt_succ_self, hplace⟩
      · have hlast : Confined _ _ (trees n) (trees (n + 1)) := h n n.lt_succ_self
        exact .inl (hlast.read (Ne.symm hplace) hbefore)
    · exact .inr ⟨j, hij, Nat.lt_succ_of_lt hj, hplace⟩

end Stagecraft.Files.Tree
