import Stagecraft.Proofs.Command.TwoSteps
import Stagecraft.Proofs.Script.Compilation

namespace Stagecraft

namespace Script

namespace ProgramRun

inductive Leaves (code : String) : ProgramRun → Prop
  | intro {status : ExitStatus} (stdout stderr : String) (hstatus : status.isSuccess = true) :
      Leaves code (.ended status stdout stderr (.ok code))

/-- The program failed or left no result, but printed diagnostics, which pass for the reason. -/
inductive IsExcused : ProgramRun → Prop
  | failed {status : ExitStatus} {stdout : String} (stderr : String)
      (result : Except FileError String) (hstatus : status.isSuccess = false)
      (hsaid : readOutput stdout ≠ []) : IsExcused (.ended status stdout stderr result)
  | noResult {stdout : String} (status : ExitStatus) (stderr : String) (error : FileError)
      (hsaid : readOutput stdout ≠ []) : IsExcused (.ended status stdout stderr (.error error))

variable {r : ProgramRun} {code program : String} {t : Compiled}

theorem IsExcused.not_leaves (h : r.IsExcused) (code : String) : ¬r.Leaves code := by
  intro hleaves
  cases hleaves with
  | intro stdout stderr hstatus =>
    cases h with
    | failed _ _ hfailed _ => exact absurd hstatus (hfailed ▸ Bool.false_ne_true)

theorem IsExcused.not_isUseless (h : r.IsExcused) : ¬r.IsUseless := by
  intro huseless
  have hsilent := huseless.diagnostics_eq
  cases h with
  | failed _ _ _ hsaid => exact hsaid hsilent
  | noResult _ _ _ hsaid => exact hsaid hsilent

theorem Leaves.not_isUseless (h : r.Leaves code) : ¬r.IsUseless := by
  intro huseless
  cases h with
  | intro stdout stderr hstatus =>
    cases huseless with
    | failed _ _ hfailed _ => exact absurd hstatus (hfailed ▸ Bool.false_ne_true)

def IsAccepted (r : ProgramRun) : Prop := r.Leaves (r.result?.getD "") ∨ r.IsExcused

theorem isAccepted_iff : r.IsAccepted ↔ (r.Leaves (r.result?.getD "") ↔ ¬r.IsExcused) := by
  constructor
  · rintro (h | h)
    · exact iff_of_true h fun hexcused ↦ hexcused.not_leaves _ h
    · exact iff_of_false (h.not_leaves _) (not_not_intro h)
  · intro h
    by_cases hexcused : r.IsExcused
    · exact .inr hexcused
    · exact .inl (h.2 hexcused)

theorem IsAccepted.not_isUseless (h : r.IsAccepted) : ¬r.IsUseless :=
  h.elim Leaves.not_isUseless IsExcused.not_isUseless

theorem IsClean.isAccepted (h : r.IsClean) : r.IsAccepted := by
  cases h with
  | intro stderr code hstatus hsilent => exact .inl (.intro _ stderr hstatus)

theorem isAccepted_of_diagnostics (h : r.diagnostics ≠ []) : r.IsAccepted := by
  cases r with
  | notStarted error => exact absurd rfl h
  | ended status stdout stderr result =>
    cases hstatus : status.isSuccess with
    | false => exact .inr (.failed stderr result hstatus h)
    | true =>
      cases result with
      | ok code => exact .inl (.intro stdout stderr hstatus)
      | error error => exact .inr (.noResult status stderr error h)

theorem compiledBy_eq_ok : compiledBy program r = .ok t ↔
    t = ⟨r.result?.getD "", r.diagnostics⟩ ∧ r.IsAccepted := by
  have hmeans := compiledBy_means program r
  generalize compiledBy program r = answer at hmeans
  cases hmeans with
  | clean code hclean hresult =>
    rw [hresult, hclean.diagnostics_eq, Except.ok.injEq, eq_comm]
    exact (and_iff_left hclean.isAccepted).symm
  | useless problem huseless => exact ⟨nofun, fun h ↦ absurd huseless h.2.not_isUseless⟩
  | reported hreported =>
    rw [Except.ok.injEq, eq_comm]
    exact (and_iff_left (isAccepted_of_diagnostics hreported)).symm

end ProgramRun

end Script

namespace Command

open Script (CompilerConfig Evaluator ProgramRun)

variable {α : Type} {w v : World}

theorem respond_eq_success {r : Request} :
    respond r w = (.success, v) ↔ outcome (perform r) w = (.ok .success, v) := by
  rw [respond_eq]
  rcases outcome (perform r) w with ⟨_ | _, u⟩ <;> simp

theorem outcome_pure_ok {a b : α} :
    outcome (pure a : CommandM (StateM World) α) w = (.ok b, v) ↔ b = a ∧ v = w := by
  constructor
  · intro h
    cases h
    exact ⟨rfl, rfl⟩
  · rintro ⟨rfl, rfl⟩
    rfl

theorem outcome_orReport_ok {context : String} {x : Except FileError α} {a : α} :
    outcome (orReport context x) w = (.ok a, v) ↔ x = .ok a ∧ v = w := by
  cases x with
  | error e => exact ⟨nofun, nofun⟩
  | ok b => rw [orReport, outcome_pure_ok, Except.ok.injEq, eq_comm]

def IsLibrary (w : World) (text : String) : Option String → Prop
  | none => text = Script.standardLibrary
  | some path => w.tree.read w.cwd path = .ok text

theorem outcome_libraryText_ok {library : Option String} {text : String} :
    outcome (libraryText library) w = (.ok text, v) ↔ IsLibrary w text library ∧ v = w := by
  cases library with
  | none => exact outcome_pure_ok
  | some path => exact outcome_orReport_ok

def runOf (w : World) (compiler source text : String) : ProgramRun :=
  w.program (CompilerConfig.invocation ⟨compiler, []⟩ source text)

def compilationOf (w : World) (compiler name source text : String) : Script.Compilation :=
  (Evaluator.ofLibrary text).compile (CompilerConfig.compile ⟨compiler, []⟩ w.program) name source
    ⟨1, 1⟩

variable {script name compiler source text : String} {library : Option String}

/-- The diagnostics and the code of a compilation are printed, and the diagnostics make the status. -/
theorem outcome_show (c : Script.Compilation) (w : World) :
    outcome (do
      c.diagnostics.forM fun d ↦ complainLine (script ++ ":" ++ d.display)
      match c.evaluator.get? name with
      | some code => ask (Host.print code)
      | none => pure ()
      return if Diagnostic.hasErrors c.diagnostics then .failure else .success) w =
      (.ok (if Diagnostic.hasErrors c.diagnostics then Status.failure else .success), { w with
        stdout := w.stdout ++ (c.evaluator.get? name).getD ""
        stderr := w.stderr ++ linesOf (fun d ↦ script ++ ":" ++ d.display) c.diagnostics }) := by
  refine (outcome_bind_ok (outcome_complain _ c.diagnostics w)).trans ?_
  cases c.evaluator.get? name with
  | none =>
    rw [Option.getD_none, String.append_empty]
    rfl
  | some code => rfl

/-- A script is compiled against a library if both can be read. -/
theorem outcome_compile (hsource : w.tree.read w.cwd script = .ok source)
    (htext : IsLibrary w text library) : outcome (compile script name library compiler) w =
      let c := compilationOf w compiler name source text
      (.ok (if Diagnostic.hasErrors c.diagnostics then .failure else .success), { w with
        stdout := w.stdout ++ (c.evaluator.get? name).getD ""
        stderr := w.stderr ++ linesOf (fun d ↦ script ++ ":" ++ d.display) c.diagnostics }) := by
  have hread : outcome (ask (Host.read script)) w = (.ok (w.tree.read w.cwd script), w) := rfl
  have hrun : outcome (ask (Host.run (CompilerConfig.invocation ⟨compiler, []⟩ source text))) w =
    (.ok (runOf w compiler source text), w) := rfl
  have hnew : (Evaluator.ofLibrary text).contains name = false := rfl
  have hcompilation : (Evaluator.ofLibrary text).compile
      (fun _ _ ↦ Script.compiledBy compiler (runOf w compiler source text)) name source ⟨1, 1⟩ =
      compilationOf w compiler name source text := by
    rw [compilationOf, Evaluator.compile_of_not_contains hnew, Evaluator.compile_of_not_contains hnew]
    rfl
  rw [compile, outcome_bind_ok hread, outcome_bind_ok (outcome_orReport_ok.2 ⟨hsource, rfl⟩),
    outcome_bind_ok (outcome_libraryText_ok.2 ⟨htext, rfl⟩)]
  refine (outcome_bind_ok hrun).trans ?_
  dsimp only
  rw [hcompilation]
  exact outcome_show (compilationOf w compiler name source text) w

theorem read_of_outcome_compile {status : Status}
    (h : outcome (compile script name library compiler) w = (.ok status, v)) :
    ∃ source text, w.tree.read w.cwd script = .ok source ∧ IsLibrary w text library := by
  have hread : outcome (ask (Host.read script)) w = (.ok (w.tree.read w.cwd script), w) := rfl
  rw [compile, outcome_bind_ok hread] at h
  obtain ⟨source, u, hsource, hrest⟩ := outcome_bind_eq_ok.1 h
  obtain ⟨text, u', htext, -⟩ := outcome_bind_eq_ok.1 hrest
  obtain ⟨hsource, rfl⟩ := outcome_orReport_ok.1 hsource
  exact ⟨source, text, hsource, (outcome_libraryText_ok.1 htext).1⟩

theorem hasErrors_located {ds : List Script.ScriptDiagnostic} {origin : TextPosition} :
    Diagnostic.hasErrors (ds.map (·.located origin)) = false ↔ ∀ d ∈ ds, d.severity ≠ .error := by
  rw [Diagnostic.hasErrors, List.any_eq_false, List.forall_mem_map]
  refine forall₂_congr fun d _ ↦ ?_
  rw [Diagnostic.isError, decide_eq_true_eq]
  rfl

theorem compilationOf_of_isAccepted (h : (runOf w compiler source text).IsAccepted) :
    compilationOf w compiler name source text =
      ⟨(Evaluator.ofLibrary text).insert name ((runOf w compiler source text).result?.getD ""),
        (runOf w compiler source text).diagnostics.map (·.located ⟨1, 1⟩), true⟩ := by
  have hanswer : CompilerConfig.compile ⟨compiler, []⟩ w.program source
      (Evaluator.ofLibrary text).library = .ok _ :=
    ProgramRun.compiledBy_eq_ok.2 ⟨rfl, h⟩
  rw [compilationOf, Evaluator.compile_of_not_contains rfl, hanswer]
  rfl

theorem isAccepted_of_hasErrors
    (h : Diagnostic.hasErrors (compilationOf w compiler name source text).diagnostics = false) :
    (runOf w compiler source text).IsAccepted := by
  have hanswer : CompilerConfig.compile ⟨compiler, []⟩ w.program source
      (Evaluator.ofLibrary text).library =
      Script.compiledBy compiler (runOf w compiler source text) := rfl
  rw [compilationOf, Evaluator.compile_of_not_contains rfl, hanswer] at h
  cases hrun : Script.compiledBy compiler (runOf w compiler source text) with
  | error problem =>
    rw [hrun] at h
    cases h
  | ok t => exact (ProgramRun.compiledBy_eq_ok.1 hrun).2

theorem get?_insert_ofLibrary (text name code : String) :
    ((Evaluator.ofLibrary text).insert name code).get? name = some code :=
  (Evaluator.get?_insert rfl code name).trans (if_pos rfl)

/-- An accepted run that printed no error makes a success. -/
theorem respond_compile (name : String) (hsource : w.tree.read w.cwd script = .ok source)
    (htext : IsLibrary w text library) (haccepted : (runOf w compiler source text).IsAccepted)
    (herrors : ∀ d ∈ (runOf w compiler source text).diagnostics, d.severity ≠ .error) :
    respond (.compile script name library compiler) w = (.success, { w with
      stdout := w.stdout ++ (runOf w compiler source text).result?.getD ""
      stderr := w.stderr ++ linesOf (fun d ↦ script ++ ":" ++ (d.located ⟨1, 1⟩).display)
        (runOf w compiler source text).diagnostics }) := by
  rw [respond_eq_success, perform, outcome_compile hsource htext,
    compilationOf_of_isAccepted haccepted]
  dsimp only
  rw [hasErrors_located.2 herrors, get?_insert_ofLibrary, Option.getD_some, linesOf_map]
  rfl

/-- A compilation ends in success just if the script and the library can be read, no error is
reported, and the run of the compiler succeeded and left the code that is printed and stored, unless
it is excused: then the run failed or left nothing, and what it left, if anything, is printed and
stored all the same. -/
theorem compile_success_iff (script name : String) (library : Option String) (compiler : String)
    (w v : World) :
    respond (.compile script name library compiler) w = (.success, v) ↔
      ∃ source text code, w.tree.read w.cwd script = .ok source ∧ IsLibrary w text library ∧
        (compilationOf w compiler name source text).evaluator.get? name = some code ∧
        v = { w with
          stdout := w.stdout ++ code
          stderr := w.stderr ++ linesOf (fun d ↦ script ++ ":" ++ (d.located ⟨1, 1⟩).display)
            (runOf w compiler source text).diagnostics } ∧
        (∀ d ∈ (runOf w compiler source text).diagnostics, d.severity ≠ .error) ∧
        code = (runOf w compiler source text).result?.getD "" ∧
        ((runOf w compiler source text).Leaves code ↔ ¬(runOf w compiler source text).IsExcused) := by
  constructor
  · intro h
    have hcompile := respond_eq_success.1 h
    obtain ⟨source, text, hsource, htext⟩ := read_of_outcome_compile hcompile
    rw [perform, outcome_compile hsource htext] at hcompile
    dsimp only at hcompile
    have herrors :
        Diagnostic.hasErrors (compilationOf w compiler name source text).diagnostics = false := by
      refine Bool.eq_false_iff.2 fun herrors ↦ ?_
      rw [if_pos herrors] at hcompile
      cases (Prod.mk.inj hcompile).1
    have haccepted := isAccepted_of_hasErrors herrors
    rw [compilationOf_of_isAccepted haccepted, hasErrors_located] at herrors
    rw [respond_compile name hsource htext haccepted herrors] at h
    refine ⟨source, text, _, hsource, htext, ?_, (Prod.mk.inj h).2.symm, herrors, rfl,
      ProgramRun.isAccepted_iff.1 haccepted⟩
    rw [compilationOf_of_isAccepted haccepted, get?_insert_ofLibrary]
  · rintro ⟨source, text, code, hsource, htext, -, rfl, herrors, rfl, haccepted⟩
    exact respond_compile name hsource htext (ProgramRun.isAccepted_iff.2 haccepted) herrors

def grumbling : ProgramRun :=
  .ended ⟨2⟩ "source.ts(1,5): warning TS6133: 'x' is declared but its value is never read.\n" ""
    (.error .notFound)

theorem diagnostics_grumbling : grumbling.diagnostics ≠ [] := by decide +kernel

theorem severity_grumbling : ∀ d ∈ grumbling.diagnostics, d.severity ≠ .error := by decide +kernel

def grumblingWorld : World where
  tree := ⟨[(["s.ts"], .file "let x = 1;")]⟩
  cwd := []
  program _ := grumbling
  stdout := ""
  stderr := ""

/-- Not every success has the result of a compiler that succeeded. -/
theorem not_leaves_of_success :
    ¬∀ (script name : String) (library : Option String) (compiler : String) (w v : World),
      respond (.compile script name library compiler) w = (.success, v) →
      ∃ source text code, w.tree.read w.cwd script = .ok source ∧ IsLibrary w text library ∧
        (compilationOf w compiler name source text).evaluator.get? name = some code ∧
        v.stdout = w.stdout ++ code ∧ (runOf w compiler source text).Leaves code := by
  intro h
  have hread : grumblingWorld.tree.read grumblingWorld.cwd "s.ts" = .ok "let x = 1;" := by
    decide +kernel
  have htext : IsLibrary grumblingWorld Script.standardLibrary none := Eq.refl Script.standardLibrary
  have haccepted : (runOf grumblingWorld "tsc" "let x = 1;" Script.standardLibrary).IsAccepted :=
    ProgramRun.isAccepted_of_diagnostics diagnostics_grumbling
  have hsuccess := respond_compile "$zf1frV" hread htext haccepted severity_grumbling
  obtain ⟨source, text, code, -, -, -, -, hleaves⟩ := h _ _ _ _ _ _ hsuccess
  change grumbling.Leaves code at hleaves
  cases hleaves

end Command

end Stagecraft
