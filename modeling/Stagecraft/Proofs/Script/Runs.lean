import Mathlib.Tactic
import Stagecraft.Script.Evaluator

namespace Stagecraft.Script

/-- A compiler with a memory of its own: what it answers may depend on all that went before. -/
abbrev Oracle (σ : Type) := String → String → StateM σ (Except CompilerFailure Compiled)

structure Call where
  name : String
  source : String
  origin : TextPosition

structure Exchange where
  source : String
  library : String
  answer : Except CompilerFailure Compiled

structure Step where
  call : Call
  before : Evaluator
  exchanges : List Exchange
  diagnostics : List Diagnostic
  after : Evaluator

section Runs

variable {σ : Type} (ask : Oracle σ)

def recorded : Oracle (σ × List Exchange) := fun source library (state, log) ↦
  let (answer, state) := ask source library state
  (answer, state, log ++ [⟨source, library, answer⟩])

def step (state : σ) (e : Evaluator) (c : Call) : Step × σ :=
  let ((after, diagnostics), state, exchanges) :=
    (e.compileM (recorded ask) c.name c.source c.origin).run (state, [])
  (⟨c, e, exchanges, diagnostics, after⟩, state)

def run (state : σ) (e : Evaluator) : List Call → List Step
  | [] => []
  | c :: rest =>
    let (s, state) := step ask state e c
    s :: run state s.after rest

end Runs

def ending (e : Evaluator) (steps : List Step) : Evaluator := steps.foldl (fun _ s ↦ s.after) e

namespace Step

def code? (s : Step) : Option String :=
  s.exchanges.findSome? fun x ↦ x.answer.toOption.map Compiled.code

inductive Lawful : Step → Prop
  | stored {c : Call} {e : Evaluator} (h : e.contains c.name = true) : Lawful ⟨c, e, [], [], e⟩
  | failed {c : Call} {e : Evaluator} (h : e.contains c.name = false) (problem : CompilerFailure) :
      Lawful ⟨c, e, [⟨c.source, e.library, .error problem⟩], [unavailable problem c.origin], e⟩
  | compiled {c : Call} {e : Evaluator} (h : e.contains c.name = false) (t : Compiled) :
      Lawful ⟨c, e, [⟨c.source, e.library, .ok t⟩], t.diagnostics.map (·.located c.origin),
        e.insert c.name t.code⟩

end Step

def firstCode? (name : String) (steps : List Step) : Option String :=
  steps.findSome? fun s ↦ if s.call.name = name then s.code? else none

theorem firstCode?_cons (name : String) (s : Step) (rest : List Step) :
    firstCode? name (s :: rest) =
      (if s.call.name = name then s.code? else none).or (firstCode? name rest) := by
  rw [firstCode?, List.findSome?_cons, firstCode?]
  cases if s.call.name = name then s.code? else none <;> rfl

inductive Leads : Evaluator → List Step → Evaluator → Prop
  | nil (e : Evaluator) : Leads e [] e
  | cons {s : Step} {rest : List Step} {e : Evaluator} :
      s.Lawful → Leads s.after rest e → Leads s.before (s :: rest) e

section compileM

variable {m : Type → Type} [Monad m] {e : Evaluator} {name : String}
  (ask : String → String → m (Except CompilerFailure Compiled)) (source : String)
  (origin : TextPosition)

theorem compileM_of_contains (h : e.contains name = true) :
    e.compileM ask name source origin = pure (e, []) := by
  rw [Evaluator.compileM, if_pos h]

theorem compileM_of_not_contains (h : e.contains name = false) :
    e.compileM ask name source origin = (do
      match ← ask source e.library with
      | .error problem => return (e, [unavailable problem origin])
      | .ok t => return (e.insert name t.code, t.diagnostics.map (·.located origin))) := by
  rw [Evaluator.compileM, h]
  rfl

end compileM

section run

variable {σ : Type} (ask : Oracle σ) (state : σ) (e : Evaluator)

theorem step_lawful (c : Call) : (step ask state e c).1.Lawful := by
  cases h : e.contains c.name with
  | true =>
    rw [step, compileM_of_contains _ _ _ h]
    exact .stored h
  | false =>
    rw [step, compileM_of_not_contains _ _ _ h, StateT.run_bind]
    cases hask : ask c.source e.library state with
    | mk answer state' =>
      have hrecorded : (recorded ask c.source e.library).run (state, []) =
          (answer, state', [⟨c.source, e.library, answer⟩]) := by
        change recorded ask c.source e.library (state, []) = _
        rw [recorded, hask]
        rfl
      rw [hrecorded]
      cases answer with
      | error problem => exact .failed h problem
      | ok t => exact .compiled h t

theorem run_leads (calls : List Call) :
    Leads e (run ask state e calls) (ending e (run ask state e calls)) := by
  induction calls generalizing state e with
  | nil => exact .nil e
  | cons c rest ih => exact .cons (step_lawful ask state e c) (ih _ _)

end run

theorem contains_eq_false {e : Evaluator} {name : String} :
    e.contains name = false ↔ name ∉ e.compiled.map Prod.fst := by
  rw [Evaluator.contains, Evaluator.get?, Option.isSome_eq_false_iff, Option.isNone_iff_eq_none,
    List.lookup_eq_none_iff, List.mem_map, not_exists]
  refine forall_congr' fun p ↦ ?_
  rw [bne_iff_ne, not_and, ne_comm]

namespace Step.Lawful

variable {s : Step}

theorem library_after (h : s.Lawful) : s.after.library = s.before.library := by
  cases h with
  | stored h => rfl
  | failed h problem => rfl
  | compiled h t => rfl

theorem get?_after (h : s.Lawful) (name : String) :
    s.after.get? name =
      (s.before.get? name).or (if s.call.name = name then s.code? else none) := by
  cases h with
  | stored h => simp [code?]
  | failed h problem => simp [code?, Except.toOption]
  | @compiled c e h t =>
    rw [Evaluator.get?, Evaluator.insert, List.lookup_append, List.lookup_cons, ← Evaluator.get?]
    by_cases hname : c.name = name
    · simp [code?, Except.toOption, hname]
    · simp [hname, beq_false_of_ne (Ne.symm hname)]

theorem names_after (h : s.Lawful) :
    s.after.compiled.map Prod.fst =
      s.before.compiled.map Prod.fst ++ if s.code?.isSome then [s.call.name] else [] := by
  cases h with
  | stored h => simp [code?]
  | failed h problem => simp [code?, Except.toOption]
  | compiled h t => simp [code?, Except.toOption, Evaluator.insert]

theorem nodup_after (h : s.Lawful) (hbefore : (s.before.compiled.map Prod.fst).Nodup) :
    (s.after.compiled.map Prod.fst).Nodup := by
  cases h with
  | stored h => exact hbefore
  | failed h problem => exact hbefore
  | @compiled c e h t =>
    rw [Evaluator.insert, List.map_append, List.map_singleton, ← List.concat_eq_append,
      List.nodup_concat]
    exact ⟨contains_eq_false.1 h, hbefore⟩

/-- A call for a name with code does nothing; any other call asks once, and a failure changes
nothing but is reported. -/
theorem exchanges_eq (h : s.Lawful) :
    match s.before.get? s.call.name with
    | some _ => s.exchanges = [] ∧ s.diagnostics = [] ∧ s.after = s.before
    | none => ∃ answer, s.exchanges = [⟨s.call.source, s.before.library, answer⟩] ∧
        ∀ problem, answer = .error problem → s.after = s.before ∧
          ∃ d, s.diagnostics = [d] ∧ d.severity = .error ∧
            d.message.kind = .compilerUnavailable := by
  cases h with
  | stored h =>
    obtain ⟨code, hcode⟩ := Option.isSome_iff_exists.1 h
    rw [hcode]
    exact ⟨rfl, rfl, rfl⟩
  | failed h problem =>
    rw [Option.isNone_iff_eq_none.1 (Option.isSome_eq_false_iff.1 h)]
    exact ⟨_, rfl, fun _ _ ↦ ⟨rfl, _, rfl, rfl, rfl⟩⟩
  | compiled h t =>
    rw [Option.isNone_iff_eq_none.1 (Option.isSome_eq_false_iff.1 h)]
    exact ⟨_, rfl, nofun⟩

end Step.Lawful

namespace Leads

variable {e last : Evaluator} {steps earlier later : List Step} {s : Step}

theorem split (h : Leads e (earlier ++ s :: later) last) :
    Leads e earlier s.before ∧ s.Lawful ∧ Leads s.after later last := by
  induction earlier generalizing e with
  | nil =>
    cases h with
    | cons hs hlater => exact ⟨.nil s.before, hs, hlater⟩
  | cons t earlier ih =>
    cases h with
    | cons ht hrest =>
      obtain ⟨hearlier, hs, hlater⟩ := ih hrest
      exact ⟨.cons ht hearlier, hs, hlater⟩

theorem library_eq (h : Leads e steps last) : last.library = e.library := by
  induction h with
  | nil e => rfl
  | cons hs _ ih => exact ih.trans hs.library_after

theorem get?_eq (h : Leads e steps last) (name : String) :
    last.get? name = (e.get? name).or (firstCode? name steps) := by
  induction h with
  | nil e => rw [firstCode?, List.findSome?_nil, Option.or_none]
  | @cons s rest last hs _ ih => rw [ih, hs.get?_after, Option.or_assoc, firstCode?_cons]

theorem names_eq (h : Leads e steps last) :
    last.compiled.map Prod.fst = e.compiled.map Prod.fst ++
      (steps.filter fun s ↦ s.code?.isSome).map fun s ↦ s.call.name := by
  induction h with
  | nil e => rw [List.filter_nil, List.map_nil, List.append_nil]
  | @cons s rest last hs _ ih =>
    rw [ih, hs.names_after, List.append_assoc, List.filter_cons]
    cases s.code?.isSome <;> rfl

theorem nodup (h : Leads e steps last) (he : (e.compiled.map Prod.fst).Nodup) :
    (last.compiled.map Prod.fst).Nodup := by
  induction h with
  | nil e => exact he
  | cons hs _ ih => exact ih (hs.nodup_after he)

end Leads

theorem map_call_run {σ : Type} (ask : Oracle σ) (state : σ) (e : Evaluator) (calls : List Call) :
    (run ask state e calls).map Step.call = calls := by
  induction calls generalizing state e with
  | nil => rfl
  | cons c rest ih => exact congrArg (c :: ·) (ih _ _)

/-- Of a run from a fresh evaluator: the evaluator holds, at every moment, the first code that the
compiler gave for each name, and keeps it. A call for a name with code does nothing; any other call
asks the compiler once, and reports its failure and changes nothing if it fails. -/
theorem run_ofLibrary {σ : Type} (ask : Oracle σ) (state : σ) (library : String)
    (calls : List Call) :
    let steps := run ask state (.ofLibrary library) calls
    let last := ending (.ofLibrary library) steps
    steps.map Step.call = calls ∧
    (∀ name, last.get? name = firstCode? name steps) ∧
    last.size = ((steps.filter fun s ↦ s.code?.isSome).map fun s ↦ s.call.name).toFinset.card ∧
    ∀ earlier s later, steps = earlier ++ s :: later →
      (∀ name, s.before.get? name = firstCode? name earlier) ∧
      (∀ name code, s.after.get? name = some code → last.get? name = some code) ∧
      match firstCode? s.call.name earlier with
      | some _ => s.exchanges = [] ∧ s.diagnostics = [] ∧ s.after = s.before
      | none => ∃ answer, s.exchanges = [⟨s.call.source, library, answer⟩] ∧
          ∀ problem, answer = .error problem → s.after = s.before ∧
            ∃ d, s.diagnostics = [d] ∧ d.severity = .error ∧
              d.message.kind = .compilerUnavailable := by
  intro steps last
  have hleads : Leads (.ofLibrary library) steps last := run_leads ask state _ calls
  refine ⟨map_call_run ask state _ calls, hleads.get?_eq, ?_, fun earlier s later hsteps ↦ ?_⟩
  · have hnames := hleads.names_eq
    have hnodup := hleads.nodup List.nodup_nil
    rw [Evaluator.ofLibrary, List.map_nil, List.nil_append] at hnames
    rw [← hnames, List.toFinset_card_of_nodup hnodup, List.length_map, Evaluator.size]
  · rw [hsteps] at hleads
    obtain ⟨hearlier, hs, hlater⟩ := hleads.split
    have hcall := hs.exchanges_eq
    rw [hearlier.library_eq, hearlier.get?_eq] at hcall
    refine ⟨hearlier.get?_eq, fun name code hcode ↦ ?_, hcall⟩
    rw [hlater.get?_eq, hcode, Option.some_or]

end Stagecraft.Script
