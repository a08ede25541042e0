import Stagecraft.Command.Run
import Stagecraft.Proofs.Files.Beside

namespace Stagecraft.Command

open Files (Location)
open Files.Tree (Beside Paired Grows)

variable {α β : Type} {L : Location} {w w' : World}

def outcome (m : CommandM (StateM World) α) (w : World) : Except Report α × World := m.run w

theorem outcome_bind (m : CommandM (StateM World) α) (k : α → CommandM (StateM World) β) (w : World) :
    outcome (m >>= k) w =
      match outcome m w with
      | (.ok a, w) => outcome (k a) w
      | (.error e, w) => (.error e, w) := by
  simp only [outcome, bind, ExceptT.bind, ExceptT.run, ExceptT.mk, StateT.bind]
  rcases m w with ⟨_ | _, _⟩ <;> rfl

theorem outcome_bind_eq_ok {m : CommandM (StateM World) α} {k : α → CommandM (StateM World) β} {b : β} :
    outcome (m >>= k) w = (.ok b, w') ↔
      ∃ a v, outcome m w = (.ok a, v) ∧ outcome (k a) v = (.ok b, w') := by
  rw [outcome_bind]
  rcases outcome m w with ⟨_ | a, v⟩
  · simp
  · exact ⟨fun h ↦ ⟨a, v, rfl, h⟩, fun ⟨_, _, h, h'⟩ ↦ by cases h; exact h'⟩

theorem outcome_bind_ok {m : CommandM (StateM World) α} {k : α → CommandM (StateM World) β} {a : α}
    (h : outcome m w = (.ok a, w')) : outcome (m >>= k) w = outcome (k a) w' := by
  rw [outcome_bind, h]

theorem outcome_bind_error {m : CommandM (StateM World) α} {k : α → CommandM (StateM World) β}
    {e : Report} (h : outcome m w = (.error e, w')) : outcome (m >>= k) w = (.error e, w') := by
  rw [outcome_bind, h]

theorem outcome_ask (x : StateM World α) (w : World) : outcome (ask x) w = (.ok (x w).1, (x w).2) := rfl

theorem outcome_change (f : Files.Tree → Location → Except FileError Files.Tree) (context : String)
    (w : World) :
    outcome (do orReport context (← ask (World.change f)) : CommandM (StateM World) Unit) w =
      match f w.tree w.cwd with
      | .ok tree => (.ok (), { w with tree := tree })
      | .error e => (.error ((Report.ofMessage e.message).within context), w) := by
  rw [outcome_bind, outcome_ask, World.change]
  cases f w.tree w.cwd <;> rfl

/-- Two worlds with one working directory, whose trees agree but for one place. -/
structure Alike (L : Location) (w w' : World) : Prop where
  beside : Beside L w.tree w'.tree
  cwd : w'.cwd = w.cwd

/-- How a command ends in two worlds: with the same result, in failure, or with a directory at the
place in the first and in failure in the second. -/
inductive Meets (L : Location) : Except Report α × World → Except Report α × World → Prop
  | both (a : α) {v v' : World} (h : Alike L v v') : Meets L (.ok a, v) (.ok a, v')
  | neither (e e' : Report) {v v' : World} (h : Alike L v v') : Meets L (.error e, v) (.error e', v')
  | taken {r : Except Report α × World} (h : r.2.tree.entry? L = some .directory) (e : Report)
    {v' : World} : Meets L r (.error e, v')

structure Indifferent (L : Location) (m : CommandM (StateM World) α) : Prop where
  meets : ∀ {w w'}, Alike L w w' → Meets L (outcome m w) (outcome m w')
  grows : ∀ w : World, w.tree.Grows (outcome m w).2.tree

namespace Indifferent

theorem pure (a : α) : Indifferent L (pure a : CommandM (StateM World) α) where
  meets h := .both a h
  grows w := .refl w.tree

/-- A report ends the command. -/
theorem report_bind (e : Report) (k : α → CommandM (StateM World) β) :
    Indifferent L (report e >>= k) where
  meets h := .neither e e h
  grows w := .refl w.tree

theorem bind {m : CommandM (StateM World) α} {k : α → CommandM (StateM World) β}
    (hm : Indifferent L m) (hk : ∀ a, Indifferent L (k a)) : Indifferent L (m >>= k) where
  meets {w w'} h := by
    have hmeets := hm.meets h
    rw [outcome_bind, outcome_bind]
    generalize outcome m w = r, outcome m w' = r' at hmeets
    cases hmeets with
    | both a h => exact (hk a).meets h
    | neither e e' h => exact .neither e e' h
    | taken hL e =>
      refine .taken ?_ e
      obtain ⟨_ | a, v⟩ := r
      · exact hL
      · exact (hk a).grows v L hL
  grows w := by
    have hgrows := hm.grows w
    rw [outcome_bind]
    generalize outcome m w = r at hgrows
    obtain ⟨e | a, v⟩ := r
    · exact hgrows
    · exact hgrows.trans ((hk a).grows v)

theorem forM {m : α → CommandM (StateM World) Unit} (h : ∀ a, Indifferent L (m a)) (as : List α) :
    Indifferent L (as.forM m) := by
  induction as with
  | nil => exact .pure ()
  | cons a as ih => exact (h a).bind fun _ ↦ ih

theorem isDirectory (p : String) :
    Indifferent L (ask (Host.isDirectory p) : CommandM (StateM World) Bool) where
  meets {w w'} h := by
    have hdir : w'.tree.isDirectory w'.cwd p = w.tree.isDirectory w.cwd p :=
      h.cwd ▸ h.beside.isDirectory w.cwd p
    change Meets L (.ok (w.tree.isDirectory w.cwd p), w) (.ok (w'.tree.isDirectory w'.cwd p), w')
    rw [hdir]
    exact .both _ h
  grows w := .refl w.tree

theorem printLine (s : String) :
    Indifferent L (printLine s : CommandM (StateM World) Unit) where
  meets h := .both () ⟨h.beside, h.cwd⟩
  grows w := .refl w.tree

theorem complainLine (s : String) :
    Indifferent L (complainLine s : CommandM (StateM World) Unit) where
  meets h := .both () ⟨h.beside, h.cwd⟩
  grows w := .refl w.tree

/-- A change of the tree that ends in the same way in trees that agree but for the place. -/
theorem change {f : Files.Tree → Location → Except FileError Files.Tree} (context : String)
    (hf : ∀ t t' cwd, Beside L t t' → Paired L (f t cwd) (f t' cwd))
    (hgrows : ∀ t s cwd, f t cwd = .ok s → t.Grows s) :
    Indifferent L (do orReport context (← ask (World.change f)) : CommandM (StateM World) Unit) := by
  refine ⟨fun {w w'} h ↦ ?_, fun w ↦ ?_⟩
  · have hpaired := hf w.tree w'.tree w.cwd h.beside
    rw [outcome_change, outcome_change, h.cwd]
    generalize f w.tree w.cwd = r, f w'.tree w.cwd = r' at hpaired
    cases hpaired with
    | both hs => exact .both () ⟨hs, rfl⟩
    | neither e e' => exact .neither _ _ h
    | taken hL e => exact .taken hL _
  · have hg := hgrows w.tree
    rw [outcome_change]
    cases hr : f w.tree w.cwd with
    | ok s => exact hg s w.cwd hr
    | error e => exact .refl w.tree

theorem save (p content : String) : Indifferent L (save p content : CommandM (StateM World) Unit) := by
  have hwrite := change (L := L) ("failed to write " ++ p)
    (fun t t' cwd h ↦ h.write cwd p content) fun _ _ _ ↦ Files.Tree.grows_write
  have hmake (parent : String) := change (L := L) ("failed to create " ++ parent)
    (fun t t' cwd h ↦ h.makeDirectories cwd parent) fun _ _ _ ↦ Files.Tree.makeWithin_ok
  rw [Command.save]
  cases Path.parent? p with
  | none => exact hwrite
  | some parent =>
    dsimp only
    split
    · exact (hmake parent).bind fun _ ↦ hwrite
    · exact hwrite

theorem destination (target : Target) (project : String) :
    Indifferent L (destination target project : CommandM (StateM World) String) := by
  refine bind (isDirectory target.output) fun isDirectory ↦ ?_
  cases isDirectory <;> exact .pure _

theorem writeTarget (project : String) (story : Story) (target : Target) :
    Indifferent L (writeTarget project story target : CommandM (StateM World) Unit) := by
  rw [Command.writeTarget]
  cases Writer.ofOptions target.format target.options with
  | error e => exact report_bind _ _
  | ok writer =>
    refine (pure writer).bind fun writer ↦ ?_
    dsimp only
    cases writer.write story with
    | error e => exact report_bind _ _
    | ok text =>
      exact (pure text).bind fun text ↦ (destination target project).bind fun path ↦
        (save path text).bind fun _ ↦ printLine _

end Indifferent

/-- The targets of a manifest are written alike in worlds that agree but for a place, unless a
directory is made of it. -/
theorem indifferent_targets (L : Location) (manifest : Manifest) (story : Story) :
    Indifferent L (manifest.targets.forM (writeTarget manifest.name story) :
      CommandM (StateM World) PUnit) :=
  .forM (.writeTarget manifest.name story) manifest.targets

end Stagecraft.Command
