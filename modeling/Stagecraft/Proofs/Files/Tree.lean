import Stagecraft.Files.Tree
import Stagecraft.Proofs.Files.Path

namespace Stagecraft.Files.Tree

open Stagecraft.Path

variable {t : Tree} {cwd here l : Location} {p q : String} {ps qs : List String}

theorem lookup_setIn (here : Location) (e : Entry) (entries : List (Location × Entry)) (l : Location) :
    (setIn here e entries).lookup l = if l = here then some e else entries.lookup l := by
  induction entries with
  | nil =>
    rw [setIn, List.lookup_cons]
    split
    · next h => rw [if_pos (eq_of_beq h)]
    · next h => rw [if_neg (ne_of_beq_false h)]
  | cons entry entries ih =>
    obtain ⟨k, old⟩ := entry
    rw [setIn]
    split
    · next hk =>
      subst hk
      rw [List.lookup_cons, List.lookup_cons]
      split
      · next h => rw [if_pos (eq_of_beq h)]
      · next h => rw [if_neg (ne_of_beq_false h)]
    · next hk =>
      rw [List.lookup_cons, List.lookup_cons, ih]
      split
      · next h => rw [if_neg (eq_of_beq h ▸ hk)]
      · rfl

theorem entry?_set (hne : here ≠ []) (e : Entry) (l : Location) :
    Tree.entry? (t.set here e) l = if l = here then some e else t.entry? l := by
  rw [Tree.entry?, Tree.entry?, set, lookup_setIn]
  by_cases hl : l = []
  · simp [hl, Ne.symm hne]
  · simp [hl]

theorem ne_nil_of_ne_directory (h : t.entry? here ≠ some .directory) : here ≠ [] :=
  fun hnil ↦ h (if_pos hnil)

/-- The places that are left on the way along some pieces. -/
def lefts (here : Location) : List String → List Location
  | [] => []
  | piece :: rest => here :: lefts (step here piece) rest

def start (cwd : Location) (p : String) : Location := if Path.isAbsolute p then [] else cwd

def leftOn (cwd : Location) (p : String) : List Location := lefts (start cwd p) (pieces p)

def place (cwd : Location) (p : String) : Location := (pieces p).foldl step (start cwd p)

theorem lefts_append (here : Location) (ps qs : List String) :
    lefts here (ps ++ qs) = lefts here ps ++ lefts (ps.foldl step here) qs := by
  induction ps generalizing here with
  | nil => rfl
  | cons p ps ih => rw [List.cons_append, lefts, ih, lefts, List.foldl_cons, List.cons_append]

theorem foldl_step_idle (h : ∀ piece ∈ ps, isIdle piece) (here : Location) :
    ps.foldl step here = here := by
  induction ps with
  | nil => rfl
  | cons p ps ih =>
    obtain ⟨hp, hps⟩ := List.forall_mem_cons.1 h
    rw [List.foldl_cons, step, if_pos hp, ih hps]

theorem walk_eq_ok : t.walk here ps = .ok l ↔
    (∀ x ∈ lefts here ps, t.entry? x = some .directory) ∧ ps.foldl step here = l := by
  induction ps generalizing here with
  | nil => simp [walk, lefts]
  | cons p ps ih =>
    rw [walk, lefts, List.forall_mem_cons, List.foldl_cons]
    cases h : t.entry? here with
    | none => simp
    | some e =>
      cases e with
      | file c => simp
      | directory => simp [ih]

theorem locate_eq_walk (hp : p ≠ "") (t : Tree) (cwd : Location) :
    t.locate cwd p = t.walk (start cwd p) (pieces p) := by
  rw [locate, if_neg hp, start]
  split <;> rfl

theorem locate_eq_ok : t.locate cwd p = .ok l ↔
    p ≠ "" ∧ (∀ x ∈ leftOn cwd p, t.entry? x = some .directory) ∧ place cwd p = l := by
  by_cases hp : p = ""
  · simp [locate, hp]
  · rw [locate_eq_walk hp, walk_eq_ok]
    simp [hp, leftOn, place]

theorem isDirectory_iff : t.isDirectory cwd p ↔
    ∃ l, t.locate cwd p = .ok l ∧ t.entry? l = some .directory := by
  rw [isDirectory, find?]
  cases t.locate cwd p <;> simp

theorem arePieces_of_append (hp : pieces p = qs ++ ps) (hqs : qs ≠ []) : ArePieces qs where
  ne_nil := hqs
  slash piece hpiece :=
    (arePieces_pieces p).slash piece (hp ▸ List.mem_append_left _ hpiece)

/-- Some first pieces of a path, other than the root alone, make a path that starts where the whole
path starts. -/
theorem start_ofPieces (hp : pieces p = qs ++ ps) (hqs : qs ≠ []) (hroot : qs ≠ [""]) :
    start cwd (ofPieces qs) = start cwd p := by
  have habsolute : isAbsolute (ofPieces qs) ↔ isAbsolute p := by
    rw [isAbsolute_iff, isAbsolute_iff, pieces_ofPieces (arePieces_of_append hp hqs), hp]
    obtain ⟨q, qs, rfl⟩ := List.exists_cons_of_ne_nil hqs
    constructor
    · rintro ⟨rest, h, hrest⟩
      obtain ⟨rfl, rfl⟩ := List.cons.inj h
      exact ⟨qs ++ ps, rfl, List.append_ne_nil_of_left_ne_nil hrest ps⟩
    · rintro ⟨rest, h, -⟩
      obtain rfl : q = "" := (List.cons.inj h).1
      exact ⟨qs, rfl, fun h ↦ hroot (h ▸ rfl)⟩
  rw [start, start]
  simp only [habsolute]

theorem leftOn_ofPieces (hp : pieces p = qs ++ ps) (hqs : qs ≠ []) (hroot : qs ≠ [""]) :
    leftOn cwd p = leftOn cwd (ofPieces qs) ++ lefts (place cwd (ofPieces qs)) ps := by
  rw [leftOn, hp, lefts_append, leftOn, place, start_ofPieces hp hqs hroot,
    pieces_ofPieces (arePieces_of_append hp hqs)]

theorem place_ofPieces (hp : pieces p = qs ++ ps) (hqs : qs ≠ []) (hroot : qs ≠ [""]) :
    place cwd p = ps.foldl step (place cwd (ofPieces qs)) := by
  rw [place, hp, List.foldl_append, place, start_ofPieces hp hqs hroot,
    pieces_ofPieces (arePieces_of_append hp hqs)]

theorem start_root (hp : pieces p = "" :: ps) (hps : ps ≠ []) : start cwd p = [] :=
  if_pos (isAbsolute_iff.2 ⟨ps, hp, hps⟩)

theorem root_mem_leftOn (hp : pieces p = "" :: ps) (hps : ps ≠ []) : [] ∈ leftOn cwd p := by
  rw [leftOn, start_root hp hps, hp]
  exact List.mem_cons_self

theorem place_root (cwd : Location) : place cwd "/" = [] := rfl

theorem leftOn_root (cwd : Location) : leftOn cwd "/" = [[], []] := rfl

theorem ofPieces_ne_empty (h : ArePieces qs) (hroot : qs ≠ [""]) : ofPieces qs ≠ "" := by
  intro hempty
  have hpieces := pieces_ofPieces h
  rw [hempty] at hpieces
  exact hroot hpieces.symm

theorem leftOn_trimmed (hp : p ≠ "") : ∀ x ∈ leftOn cwd (trimmed p), x ∈ leftOn cwd p := by
  rcases trimmed_cases hp with ⟨idle, hpieces, hne, -, htrim⟩ | ⟨qs, idle, hpieces, hqs, hroot, -, htrim⟩
  · have hmem : [] ∈ leftOn cwd p := root_mem_leftOn hpieces hne
    rw [htrim, leftOn_root]
    simpa using hmem
  · rw [htrim, leftOn_ofPieces hpieces hqs hroot]
    exact fun x ↦ List.mem_append_left _

theorem trimmed_ne_empty (hp : p ≠ "") : trimmed p ≠ "" := by
  rcases trimmed_cases hp with ⟨-, -, -, -, htrim⟩ | ⟨qs, idle, hpieces, hqs, hroot, -, htrim⟩
  · rw [htrim]
    decide
  · exact htrim ▸ ofPieces_ne_empty (arePieces_of_append hpieces hqs) hroot

/-- Pieces that mean nothing at the end of a path can be left out. -/
theorem place_trimmed (hp : p ≠ "") (cwd : Location) : place cwd (trimmed p) = place cwd p := by
  rcases trimmed_cases hp with ⟨idle, hpieces, hne, hidle, htrim⟩ |
    ⟨qs, idle, hpieces, hqs, hroot, hidle, htrim⟩
  · rw [htrim, place_root, place, start_root hpieces hne, hpieces, List.foldl_cons,
      foldl_step_idle hidle]
    rfl
  · rw [htrim, place_ofPieces hpieces hqs hroot, foldl_step_idle hidle]

theorem locate_trimmed (h : t.locate cwd p = .ok l) : t.locate cwd (trimmed p) = .ok l := by
  obtain ⟨hp, hleft, hplace⟩ := locate_eq_ok.1 h
  exact locate_eq_ok.2 ⟨trimmed_ne_empty hp, fun x hx ↦ hleft x (leftOn_trimmed hp x hx),
    (place_trimmed hp cwd).trans hplace⟩

/-- A path leaves its parent on its way, and all that its parent leaves. -/
theorem leftOn_parent (hq : parent? p = some q) (hne : q ≠ "") :
    place cwd q ∈ leftOn cwd p ∧ ∀ x ∈ leftOn cwd q, x ∈ leftOn cwd p := by
  rcases parent?_cases hq hne with ⟨rest, hpieces, hrest, rfl⟩ |
    ⟨qs, rest, hpieces, hrest, hqs, hroot, rfl⟩
  · have hmem : [] ∈ leftOn cwd p := root_mem_leftOn hpieces hrest
    rw [place_root, leftOn_root]
    exact ⟨hmem, by simpa using hmem⟩
  · obtain ⟨piece, rest, rfl⟩ := List.exists_cons_of_ne_nil hrest
    rw [leftOn_ofPieces hpieces hqs hroot]
    exact ⟨List.mem_append_right _ List.mem_cons_self, fun x ↦ List.mem_append_left _⟩

/-- Where a path leads, its parent is a directory. -/
theorem isDirectory_parent (h : t.locate cwd p = .ok l) (hq : parent? p = some q) (hne : q ≠ "") :
    t.isDirectory cwd q := by
  obtain ⟨-, hleft, -⟩ := locate_eq_ok.1 h
  obtain ⟨hplace, hway⟩ := leftOn_parent hq hne
  exact isDirectory_iff.2
    ⟨_, locate_eq_ok.2 ⟨hne, fun x hx ↦ hleft x (hway x hx), rfl⟩, hleft _ hplace⟩

end Stagecraft.Files.Tree
