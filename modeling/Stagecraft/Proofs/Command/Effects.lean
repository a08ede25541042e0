import Stagecraft.Proofs.Command.TwoSteps
import Stagecraft.Proofs.Files.Confined
import Stagecraft.Proofs.Trace.RoundTrip

namespace Stagecraft.Command

open Files (Tree)
open Files.Tree (Confined ConfinedTo leftOn)

variable {α β : Type} {w v : World} {p : String} {story : Story}

def Quiet (m : CommandM (StateM World) α) : Prop := ∀ w, SameFiles w (outcome m w).2

namespace Quiet

theorem pure (a : α) : Quiet (pure a : CommandM (StateM World) α) := fun _ ↦ ⟨rfl, rfl⟩

theorem report (e : Report) : Quiet (report e : CommandM (StateM World) α) := fun _ ↦ ⟨rfl, rfl⟩

/-- A quiet command before another one ends both, or the other one goes on with the same files. -/
theorem bind_cases {m : CommandM (StateM World) α} (hm : Quiet m)
    (k : α → CommandM (StateM World) β) (w : World) :
    (∃ e v, SameFiles w v ∧ outcome (m >>= k) w = (.error e, v)) ∨
      ∃ a v, SameFiles w v ∧ outcome m w = (.ok a, v) ∧ outcome (m >>= k) w = outcome (k a) v := by
  have hsame := hm w
  cases h : outcome m w with
  | mk x v =>
    rw [h] at hsame
    cases x with
    | error e => exact .inl ⟨e, v, hsame, outcome_bind_error h⟩
    | ok a => exact .inr ⟨a, v, hsame, rfl, outcome_bind_ok h⟩

theorem bind {m : CommandM (StateM World) α} {k : α → CommandM (StateM World) β} (hm : Quiet m)
    (hk : ∀ a, Quiet (k a)) : Quiet (m >>= k) := by
  intro w
  obtain ⟨e, v, hsame, hfails⟩ | ⟨a, v, hsame, -, hnext⟩ := hm.bind_cases k w
  · rw [hfails]
    exact hsame
  · rw [hnext]
    exact hsame.trans (hk a v)

theorem forM {m : α → CommandM (StateM World) Unit} (h : ∀ a, Quiet (m a)) (as : List α) :
    Quiet (as.forM m) := by
  induction as with
  | nil => exact .pure ()
  | cons a as ih => exact (h a).bind fun _ ↦ ih

theorem findManifest (p : String) : Quiet (findManifest p) := by
  rw [Command.findManifest]
  refine .bind (fun _ ↦ ⟨rfl, rfl⟩) fun found ↦ ?_
  split
  · exact .pure p
  · split
    · refine .bind (fun _ ↦ ⟨rfl, rfl⟩) fun directory ↦ .bind (fun w ↦ ?_) fun found ↦ ?_
      · rw [outcome_ask, searchUp_eq]
        exact ⟨rfl, rfl⟩
      · cases found with
        | none => exact .bind (.pure ()) fun _ ↦ .report _
        | some found => exact .pure found
    · exact .report _

theorem readDecoded (what p : String) (decode : String → Except Json.DecodeError α) :
    Quiet (readDecoded what p decode) := by
  rw [Command.readDecoded]
  refine .bind (fun _ ↦ ⟨rfl, rfl⟩) fun text ↦ ?_
  cases text with
  | error e => cases e <;> exact .report _
  | ok text =>
    dsimp only
    cases decode text with
    | error e => exact .report _
    | ok a => exact .pure a

theorem openManifest (p : String) : Quiet (openManifest p) := by
  refine (findManifest p).bind fun found ↦ (readDecoded _ _ _).bind fun manifest ↦
    .bind (fun _ ↦ ⟨rfl, rfl⟩) fun full ↦ ?_
  cases full with
  | error e => exact .report _
  | ok full =>
    dsimp only
    cases Path.parent? full <;> exact .pure _

theorem convertAsset (manifest : Manifest) : Quiet (convertAsset manifest) := by
  rw [Command.convertAsset]
  cases manifest.format with
  | other name => exact .report _
  | bandori =>
    refine .bind (fun _ ↦ ⟨rfl, rfl⟩) fun file ↦ ?_
    cases Asset.load manifest.options manifest.locale manifest.source file with
    | error e => exact .report _
    | ok c => exact .pure c

theorem storyOfAsset (manifest : Manifest) : Quiet (storyOfAsset manifest) := by
  refine (convertAsset manifest).bind fun c ↦ (forM (fun d _ ↦ ⟨rfl, rfl⟩) _).bind fun _ ↦ ?_
  split
  · exact .bind (fun _ ↦ ⟨rfl, rfl⟩) fun _ ↦ .pure none
  · exact .pure _

end Quiet

/-- How saving a file ends: it is there and only directories on the way to it are new, or at most those
are. -/
inductive Saved (p content : String) (w : World) : Except Report Unit × World → Prop
  | done {t : Tree} (h : ConfinedTo w.cwd p w.tree t) (hread : t.read w.cwd p = .ok content) :
    Saved p content w (.ok (), { w with tree := t })
  | failed (e : Report) {t : Tree} (h : Confined (fun _ ↦ False) (· ∈ leftOn w.cwd p) w.tree t) :
    Saved p content w (.error e, { w with tree := t })

/-- Writing the file, when directories on the way to it have been made. -/
theorem saved_of_made {t : Tree} (content : String)
    (h : Confined (fun _ ↦ False) (· ∈ leftOn w.cwd p) w.tree t) :
    Saved p content w (outcome (do orReport ("failed to write " ++ p) (← ask (Host.write p content)))
      { w with tree := t }) := by
  have hwrite := outcome_change (fun tree cwd ↦ tree.write cwd p content) ("failed to write " ++ p)
    { w with tree := t }
  dsimp only at hwrite
  refine hwrite ▸ ?_
  cases ht : t.write w.cwd p content with
  | error e => exact .failed _ h
  | ok s =>
    exact .done ((h.mono (fun _ ↦ False.elim) fun _ ↦ id).trans (Files.Tree.confined_write ht))
      (Files.Tree.read_of_write ht)

theorem saved_save (p content : String) (w : World) : Saved p content w (outcome (save p content) w) := by
  rw [save]
  cases hparent : Path.parent? p with
  | none => exact saved_of_made content (.refl w.tree)
  | some parent =>
    dsimp only
    split
    · next hne =>
      have hmake : outcome (do
          orReport ("failed to create " ++ parent) (← ask (Host.makeDirectories parent))) w = _ :=
        outcome_change (fun tree cwd ↦ tree.makeDirectories cwd parent) _ w
      change Saved p content w (outcome ((do
          orReport ("failed to create " ++ parent) (← ask (Host.makeDirectories parent))) >>=
        fun _ ↦ do orReport ("failed to write " ++ p) (← ask (Host.write p content))) w)
      cases ht : w.tree.makeDirectories w.cwd parent with
      | error e =>
        rw [ht] at hmake
        rw [outcome_bind_error hmake]
        exact .failed _ (.refl w.tree)
      | ok t =>
        rw [ht] at hmake
        rw [outcome_bind_ok hmake]
        exact saved_of_made content ((Files.Tree.confined_makeDirectories hne ht).of_parent hparent hne)
    · exact saved_of_made content (.refl w.tree)

/-- The path of a target's file in a world: the output, or if that is a directory, a file in it that is
named for the project. -/
def fileOf (project : String) (target : Target) (w : World) : String :=
  if w.tree.isDirectory w.cwd target.output then
    Path.join target.output (project ++ "." ++ target.format.fileExtension)
  else target.output

def Accepts (target : Target) : Prop :=
  ∃ writer, Writer.ofOptions target.format target.options = .ok writer

def Gives (target : Target) (story : Story) (text : String) : Prop :=
  ∃ writer, Writer.ofOptions target.format target.options = .ok writer ∧ writer.write story = .ok text

theorem exists_write (writer : Writer) (story : Story) : ∃ text, writer.write story = .ok text := by
  cases writer with
  | trace =>
    obtain ⟨code, -, hwrite⟩ := Trace.exists_code story
    exact ⟨_, by rw [Writer.write, hwrite]⟩
  | outline closures => exact ⟨_, rfl⟩
  | scenario server => exact ⟨_, rfl⟩

theorem exists_gives {target : Target} (h : Accepts target) (story : Story) :
    ∃ text, Gives target story text := by
  obtain ⟨writer, hwriter⟩ := h
  obtain ⟨text, htext⟩ := exists_write writer story
  exact ⟨text, writer, hwriter, htext⟩

namespace Gives

variable {target : Target} {text text' : String}

theorem accepts (h : Gives target story text) : Accepts target := h.imp fun _ ↦ And.left

theorem unique (h : Gives target story text) (h' : Gives target story text') : text = text' := by
  obtain ⟨writer, hwriter, htext⟩ := h
  obtain ⟨writer', hwriter', htext'⟩ := h'
  cases hwriter.symm.trans hwriter'
  exact Except.ok.inj (htext.symm.trans htext')

end Gives

inductive Tried (project : String) (story : Story) (target : Target) (w : World) :
    Except Report Unit × World → Prop
  | refused (e : Report) (h : ¬Accepts target) : Tried project story target w (.error e, w)
  | unsaved {text : String} {e : Report} {v : World} (h : Gives target story text)
    (hsave : outcome (save (fileOf project target w) text) w = (.error e, v)) :
    Tried project story target w (.error e, v)
  | written {text : String} {v : World} (h : Gives target story text)
    (hsave : outcome (save (fileOf project target w) text) w = (.ok (), v)) (stdout : String) :
    Tried project story target w (.ok (), { v with stdout := stdout })

theorem outcome_destination (project : String) (target : Target) (w : World) :
    outcome (destination target project) w = (.ok (fileOf project target w), w) := by
  have hask : outcome (ask (Host.isDirectory target.output)) w =
    (.ok (w.tree.isDirectory w.cwd target.output), w) := rfl
  rw [destination, outcome_bind_ok hask, fileOf]
  split <;> rfl

theorem tried_writeTarget (project : String) (story : Story) (target : Target) (w : World) :
    Tried project story target w (outcome (writeTarget project story target) w) := by
  rw [writeTarget]
  cases hoptions : Writer.ofOptions target.format target.options with
  | error e =>
    refine .refused _ ?_
    rintro ⟨writer, haccepts⟩
    cases hoptions.symm.trans haccepts
  | ok writer =>
    obtain ⟨text, htext⟩ := exists_write writer story
    dsimp only
    rw [pure_bind, htext]
    dsimp only
    rw [pure_bind, outcome_bind_ok (outcome_destination project target w)]
    cases hsave : outcome (save (fileOf project target w) text) w with
    | mk x v =>
      cases x with
      | error e =>
        rw [outcome_bind_error hsave]
        exact .unsaved ⟨writer, hoptions, htext⟩ hsave
      | ok _ =>
        rw [outcome_bind_ok hsave]
        exact .written ⟨writer, hoptions, htext⟩ hsave _

theorem written_writeTarget {project : String} {target : Target}
    (h : outcome (writeTarget project story target) w = (.ok (), v)) : v.cwd = w.cwd ∧
      ConfinedTo w.cwd (fileOf project target w) w.tree v.tree ∧
      ∃ text, Gives target story text ∧ (outcome (save (fileOf project target w) text) w).1 = .ok () ∧
        v.tree.read w.cwd (fileOf project target w) = .ok text := by
  have htried := tried_writeTarget project story target w
  rw [h] at htried
  cases htried with
  | @written text u hgives hsave stdout =>
    have hsaved := saved_save (fileOf project target w) text w
    rw [hsave] at hsaved
    cases hsaved with
    | done hconfined hread => exact ⟨rfl, hconfined, text, hgives, by rw [hsave], hread⟩

theorem failed_writeTarget {project : String} {target : Target} {e : Report}
    (h : outcome (writeTarget project story target) w = (.error e, v)) :
    (∀ text, Gives target story text → (outcome (save (fileOf project target w) text) w).1 ≠ .ok ()) ∧
      Confined (fun _ ↦ False) (fun l ↦ Accepts target ∧ l ∈ leftOn w.cwd (fileOf project target w))
        w.tree v.tree := by
  have htried := tried_writeTarget project story target w
  rw [h] at htried
  cases htried with
  | refused _ hrefused =>
    exact ⟨fun text hgives ↦ absurd hgives.accepts hrefused, .refl w.tree⟩
  | @unsaved text _ _ hgives hsave =>
    have hsaved := saved_save (fileOf project target w) text w
    rw [hsave] at hsaved
    cases hsaved with
    | failed _ hconfined =>
      refine ⟨fun text' hgives' ↦ ?_, hconfined.mono (fun _ ↦ id) fun l hl ↦ ⟨hgives.accepts, hl⟩⟩
      obtain rfl := hgives.unique hgives'
      rw [hsave]
      exact nofun

theorem outcome_forM_cons (m : α → CommandM (StateM World) Unit) (a : α) (as : List α) (w : World) :
    outcome ((a :: as).forM m) w = outcome (m a >>= fun _ ↦ as.forM m) w := rfl

def after (m : α → CommandM (StateM World) Unit) (as : List α) (w : World) (i : ℕ) : World :=
  (outcome ((as.take i).forM m) w).2

theorem after_succ {m : α → CommandM (StateM World) Unit} {a : α} {as : List α} {i : ℕ}
    (h : outcome (m a) w = (.ok (), v)) : after m (a :: as) w (i + 1) = after m as v i := by
  rw [after, List.take_succ_cons, outcome_forM_cons, outcome_bind_ok h, after]

inductive Stops (m : α → CommandM (StateM World) Unit) (as : List α) (w : World) (n : ℕ) :
    Except Report PUnit × World → Prop
  | done (h : n = as.length) : Stops m as w n (.ok (), after m as w n)
  | failed {a : α} {e : Report} {v : World} (ha : as[n]? = some a)
    (h : outcome (m a) (after m as w n) = (.error e, v)) : Stops m as w n (.error e, v)

/-- A command for each element succeeds for some first elements and stops there. -/
theorem exists_stops (m : α → CommandM (StateM World) Unit) (as : List α) (w : World) :
    ∃ n, (∀ i < n, ∃ a, as[i]? = some a ∧
      outcome (m a) (after m as w i) = (.ok (), after m as w (i + 1))) ∧
        Stops m as w n (outcome (as.forM m) w) := by
  induction as generalizing w with
  | nil => exact ⟨0, nofun, .done rfl⟩
  | cons a as ih =>
    cases h : outcome (m a) w with
    | mk x v =>
      cases x with
      | error e =>
        refine ⟨0, nofun, ?_⟩
        rw [outcome_forM_cons, outcome_bind_error h]
        exact .failed rfl h
      | ok _ =>
        obtain ⟨n, hfirst, hstops⟩ := ih v
        refine ⟨n + 1, fun i hi ↦ ?_, ?_⟩
        · cases i with
          | zero => exact ⟨a, rfl, h.trans (by rw [after_succ h]; rfl)⟩
          | succ i =>
            rw [after_succ h, after_succ h]
            exact hfirst i (Nat.lt_of_succ_lt_succ hi)
        · rw [outcome_forM_cons, outcome_bind_ok h]
          generalize outcome (as.forM m) v = r at hstops
          cases hstops with
          | done hn => exact after_succ h ▸ .done (congrArg (· + 1) hn)
          | failed ha hfails => exact .failed ha (after_succ h ▸ hfails)

end Stagecraft.Command
