import Stagecraft.Proofs.Script.Runs

namespace Stagecraft.Script

namespace ProgramRun

def diagnostics : ProgramRun → List ScriptDiagnostic
  | notStarted _ => []
  | ended _ stdout _ _ => readOutput stdout

def result? : ProgramRun → Option String
  | notStarted _ => none
  | ended _ _ _ result => result.toOption

inductive IsClean : ProgramRun → Prop
  | intro {status : ExitStatus} {stdout : String} (stderr code : String)
      (hstatus : status.isSuccess = true) (hsilent : readOutput stdout = []) :
      IsClean (.ended status stdout stderr (.ok code))

/-- The program gave neither a usable result nor a reason for having none. -/
inductive IsUseless : ProgramRun → Prop
  | notStarted (error : FileError) : IsUseless (.notStarted error)
  | failed {status : ExitStatus} {stdout : String} (stderr : String)
      (result : Except FileError String) (hstatus : status.isSuccess = false)
      (hsilent : readOutput stdout = []) : IsUseless (.ended status stdout stderr result)
  | noResult {status : ExitStatus} {stdout : String} (stderr : String) (error : FileError)
      (hstatus : status.isSuccess = true) (hsilent : readOutput stdout = []) :
      IsUseless (.ended status stdout stderr (.error error))

inductive Means : ProgramRun → Except CompilerFailure Compiled → Prop
  | clean {r : ProgramRun} (code : String) (h : r.IsClean) (hresult : r.result? = some code) :
      Means r (.ok ⟨code, []⟩)
  | useless {r : ProgramRun} (problem : CompilerFailure) (h : r.IsUseless) : Means r (.error problem)
  | reported {r : ProgramRun} (h : r.diagnostics ≠ []) :
      Means r (.ok ⟨r.result?.getD "", r.diagnostics⟩)

variable {r : ProgramRun}

theorem IsClean.diagnostics_eq (h : r.IsClean) : r.diagnostics = [] := by
  cases h with
  | intro stderr code hstatus hsilent => exact hsilent

theorem IsUseless.diagnostics_eq (h : r.IsUseless) : r.diagnostics = [] := by
  cases h with
  | notStarted error => rfl
  | failed stderr result hstatus hsilent => exact hsilent
  | noResult stderr error hstatus hsilent => exact hsilent

theorem IsClean.not_isUseless (h : r.IsClean) : ¬r.IsUseless := by
  intro huseless
  cases h with
  | intro stderr code hstatus hsilent =>
    cases huseless with
    | failed _ _ hfailed _ =>
      rw [hstatus] at hfailed
      cases hfailed

theorem compiledBy_means (program : String) (r : ProgramRun) : Means r (compiledBy program r) := by
  cases r with
  | notStarted error => exact .useless _ (.notStarted error)
  | ended status stdout stderr result =>
    dsimp only [compiledBy]
    by_cases hsilent : readOutput stdout = []
    · cases hstatus : status.isSuccess with
      | false =>
        rw [if_pos ⟨Bool.false_ne_true, hsilent⟩]
        exact .useless _ (.failed stderr result hstatus hsilent)
      | true =>
        rw [if_neg fun h ↦ h.1 rfl]
        cases result with
        | ok code =>
          rw [hsilent]
          exact .clean code (.intro stderr code hstatus hsilent) rfl
        | error error =>
          dsimp only
          rw [if_pos hsilent]
          exact .useless _ (.noResult stderr error hstatus hsilent)
    · rw [if_neg fun h ↦ hsilent h.2]
      cases result with
      | ok code => exact .reported (r := .ended status stdout stderr (.ok code)) hsilent
      | error error =>
        dsimp only
        rw [if_neg hsilent]
        exact .reported (r := .ended status stdout stderr (.error error)) hsilent

end ProgramRun

namespace Evaluator

variable {e : Evaluator} {name : String}

theorem compile_of_not_contains (h : e.contains name = false) (compiler : ScriptCompiler)
    (source : String) (origin : TextPosition) :
    e.compile compiler name source origin =
      match compiler source e.library with
      | .error problem => ⟨e, [unavailable problem origin], true⟩
      | .ok t => ⟨e.insert name t.code, t.diagnostics.map (·.located origin), true⟩ := by
  dsimp only [compile]
  rw [compileM_of_not_contains _ _ _ h]
  cases compiler source e.library <;> rfl

theorem get?_insert (h : e.contains name = false) (code other : String) :
    (e.insert name code).get? other = if other = name then some code else e.get? other := by
  rw [get?, insert, List.lookup_append, ← get?]
  by_cases hname : other = name
  · subst hname
    rw [contains, Option.isSome_eq_false_iff, Option.isNone_iff_eq_none] at h
    simp [h]
  · simp [hname, List.lookup_cons, beq_false_of_ne hname]

end Evaluator

open ProgramRun

/-- Compiling a name that has no code yet. Nothing is reported just if the program ran, succeeded, had
nothing to say and left a result, which then is the code of the name. A useless run stores nothing and
is one error, and any other run is reported in the program's own words, one diagnostic for each of
them, and stores what result there is. The other names keep what they have. -/
theorem compile_program (c : CompilerConfig) (run : Invocation → ProgramRun) (e : Evaluator)
    (name source : String) (origin : TextPosition) (hname : e.contains name = false) :
    let outcome := run (c.invocation source e.library)
    let compilation := e.compile (c.compile run) name source origin
    (compilation.diagnostics = [] ↔ outcome.IsClean) ∧
    (outcome.IsClean → ∃ code, outcome.result? = some code ∧
      compilation.evaluator.get? name = some code) ∧
    (outcome.IsUseless → compilation.evaluator = e ∧ ∃ detail, compilation.diagnostics =
      [.error (.literal origin .unknown) .compilerUnavailable detail]) ∧
    (¬outcome.IsClean → ¬outcome.IsUseless →
      compilation.diagnostics = outcome.diagnostics.map (·.located origin) ∧
      compilation.evaluator.get? name = some (outcome.result?.getD "")) ∧
    ∀ other, other ≠ name → compilation.evaluator.get? other = e.get? other := by
  intro outcome compilation
  have hcompilation : compilation = _ :=
    Evaluator.compile_of_not_contains hname (c.compile run) source origin
  have hmeans : Means outcome (c.compile run source e.library) := compiledBy_means c.program outcome
  generalize c.compile run source e.library = answer at hcompilation hmeans
  clear_value compilation outcome
  subst hcompilation
  -- Only what the run means is left of it, so there is one case for each meaning.
  cases hmeans with
  | clean code hclean hresult =>
    refine ⟨iff_of_true rfl hclean, fun _ ↦ ⟨code, hresult, ?_⟩, fun h ↦ absurd h hclean.not_isUseless,
      fun h ↦ absurd hclean h, fun other hother ↦ ?_⟩
    · exact (Evaluator.get?_insert hname code name).trans (if_pos rfl)
    · exact (Evaluator.get?_insert hname code other).trans (if_neg hother)
  | useless problem huseless =>
    have hnot : ¬outcome.IsClean := fun h ↦ h.not_isUseless huseless
    exact ⟨iff_of_false (List.cons_ne_nil _ _) hnot, fun h ↦ absurd h hnot, fun _ ↦ ⟨rfl, _, rfl⟩,
      fun _ h ↦ absurd huseless h, fun other _ ↦ rfl⟩
  | reported hreported =>
    have hclean : ¬outcome.IsClean := fun h ↦ hreported h.diagnostics_eq
    have huseless : ¬outcome.IsUseless := fun h ↦ hreported h.diagnostics_eq
    refine ⟨iff_of_false (fun h ↦ hreported (List.map_eq_nil_iff.1 h)) hclean, fun h ↦ absurd h hclean,
      fun h ↦ absurd h huseless, fun _ _ ↦ ⟨rfl, ?_⟩, fun other hother ↦ ?_⟩
    · exact (Evaluator.get?_insert hname _ name).trans (if_pos rfl)
    · exact (Evaluator.get?_insert hname _ other).trans (if_neg hother)

def complaint : ProgramRun :=
  .ended ⟨2⟩ "source.ts(1,1): error TS2304: Cannot find name 'x'.\n" "" (.error .notFound)

theorem diagnostics_complaint : complaint.diagnostics ≠ [] := by decide +kernel

theorem compile_program_complaint :
    (Evaluator.ofLibrary "").contains "f" = false ∧
      ((Evaluator.ofLibrary "").compile (CompilerConfig.standard.compile fun _ ↦ complaint)
        "f" "x" ⟨1, 1⟩).evaluator.get? "f" = some "" := by
  have hname : (Evaluator.ofLibrary "").contains "f" = false := rfl
  have hrun := compile_program .standard (fun _ ↦ complaint) (.ofLibrary "") "f" "x" ⟨1, 1⟩ hname
  exact ⟨hname, (hrun.2.2.2.1 (fun h ↦ diagnostics_complaint h.diagnostics_eq)
    fun h ↦ diagnostics_complaint h.diagnostics_eq).2⟩

end Stagecraft.Script
