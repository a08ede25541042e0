import Mathlib.Data.List.DropRight
import Stagecraft.Proofs.Outcome
import Stagecraft.Proofs.Script.Compilation
import Stagecraft.Proofs.Text.Lines

namespace Stagecraft

namespace TextPosition

/-- The position behind some characters of a text, whose first line and column are one. A column counts
the units that the characters before it on its line take: one each, or those of an encoding. -/
def behind (units : Char → ℕ) (before : List Char) : TextPosition :=
  ⟨before.count '\n' + 1, ((before.rtakeWhile (· ≠ '\n')).map units).sum + 1⟩

def ofOffset (units : Char → ℕ) (text : String) (offset : ℕ) : TextPosition :=
  behind units (text.toList.take offset)

def advance (units : Char → ℕ) (p : TextPosition) (c : Char) : TextPosition :=
  if c = '\n' then ⟨p.line + 1, 1⟩ else ⟨p.line, p.column + units c⟩

theorem isKnown_iff {p : TextPosition} : p.isKnown = true ↔ 0 < p.line := decide_eq_true_iff

theorem behind_concat (units : Char → ℕ) (before : List Char) (c : Char) :
    behind units (before ++ [c]) = (behind units before).advance units c := by
  rw [behind, advance, List.count_append, List.rtakeWhile_concat]
  by_cases hc : c = '\n'
  · simp [hc, behind]
  · simp [hc, behind, Nat.add_right_comm]

end TextPosition

namespace SourceLocation

open TextPosition

variable {node offset p : TextPosition}

theorem absolute_eq (hnode : 0 < node.line) (hoffset : 0 < offset.line) :
    (literal node offset).absolute = some
      (if offset.line = 1 then ⟨node.line, node.column + (offset.column - 1)⟩
      else ⟨node.line + offset.line - 1, offset.column⟩) := by
  rw [absolute, if_pos (isKnown_iff.2 hnode), if_neg (not_not.2 (isKnown_iff.2 hoffset)),
    apply_ite some]

theorem absolute_unknown (hnode : 0 < node.line) : (literal node .unknown).absolute = some node := by
  rw [absolute, if_pos (isKnown_iff.2 hnode)]
  exact if_pos Bool.false_ne_true

/-- One more character of the script is one more character of the text around it. -/
theorem absolute_advance (units : Char → ℕ) (hnode : 0 < node.line) (hline : 0 < offset.line)
    (hcolumn : 0 < offset.column) (h : (literal node offset).absolute = some p) (c : Char) :
    (literal node (offset.advance units c)).absolute = some (p.advance units c) := by
  have hadvanced : 0 < (offset.advance units c).line := by
    rw [advance]
    split
    · exact Nat.succ_pos _
    · exact hline
  rw [absolute_eq hnode hline, Option.some_inj] at h
  rw [absolute_eq hnode hadvanced, Option.some_inj, ← h]
  by_cases hc : c = '\n'
  · -- Behind a line feed both are at the beginning of a line, and neither is on its first one.
    by_cases hfirst : offset.line = 1
    · simp [advance, hc, hfirst]
    · simp [advance, hc, hfirst, hline.ne']
      omega
  · by_cases hfirst : offset.line = 1
    · simp [advance, hc, hfirst]
      omega
    · simp [advance, hc, hfirst]

/-- The position behind some characters of the script is the position behind them in the text. -/
theorem absolute_behind (units : Char → ℕ) (before cs : List Char) :
    (literal (behind units before) (behind units cs)).absolute = some (behind units (before ++ cs)) := by
  induction cs using List.reverseRecOn with
  | nil =>
    rw [absolute_eq (Nat.succ_pos _) (Nat.succ_pos _), List.append_nil]
    rfl
  | append_singleton cs c ih =>
    rw [behind_concat, ← List.append_assoc, behind_concat]
    exact absolute_advance units (Nat.succ_pos _) (Nat.succ_pos _) (Nat.succ_pos _) ih c

end SourceLocation

namespace Script

def ScriptDiagnostic.IsInScript (d : ScriptDiagnostic) : Prop :=
  ∃ file, d.file = some file ∧ scriptName.toList <:+ file.toList

/-- Whatever a diagnostic says, only its file and its position decide where it is reported. -/
theorem exists_located (d : ScriptDiagnostic) (origin : TextPosition) :
    ∃ offset detail, d.located origin =
        ⟨.literal origin offset, d.severity, ⟨.typeScriptError, detail⟩⟩ ∧
      (d.IsInScript → offset = d.position) ∧ (¬d.IsInScript → offset = .unknown) := by
  rw [ScriptDiagnostic.located, ScriptDiagnostic.IsInScript]
  cases d.file with
  | none => exact ⟨_, _, rfl, fun ⟨_, h, _⟩ ↦ (nomatch h), fun _ ↦ rfl⟩
  | some file =>
    have hends : (Text.after? scriptName.toList.reverse file.toList.reverse).isSome = true ↔
        ∃ file', some file = some file' ∧ scriptName.toList <:+ file'.toList := by
      rw [Text.isSome_after?, List.reverse_prefix]
      exact ⟨fun h ↦ ⟨file, rfl, h⟩, fun ⟨_, hfile, h⟩ ↦ Option.some.inj hfile ▸ h⟩
    rw [← hends]
    by_cases h : (Text.after? scriptName.toList.reverse file.toList.reverse).isSome = true
    · exact ⟨_, _, rfl, fun _ ↦ congrArg Prod.fst (if_pos h), fun hn ↦ absurd h hn⟩
    · exact ⟨_, _, rfl, fun hp ↦ absurd hp h, fun _ ↦ congrArg Prod.fst (if_neg h)⟩

open TextPosition

/-- A script stands in a text between `before` and `after`. Each of the compiler's diagnostics is
reported as severe as it was. If it is at an offset of the script, it is reported at that character in
the text; if it is not in the script, it is reported where the script begins. -/
theorem absolute_compile (units : Char → ℕ) (e : Evaluator) (compiler : ScriptCompiler)
    (name before script after : String) (t : Compiled) (hname : e.contains name = false)
    (hanswer : compiler script e.library = .ok t) :
    let text := before ++ script ++ after
    let origin := ofOffset units text before.length
    List.Forall₂ (fun (d : ScriptDiagnostic) (r : Diagnostic) ↦ r.severity = d.severity ∧
        (d.IsInScript → ∀ k ≤ script.length, d.position = ofOffset units script k →
          r.location.absolute = some (ofOffset units text (before.length + k))) ∧
        (¬d.IsInScript → r.location.absolute = some origin))
      t.diagnostics (e.compile compiler name script origin).diagnostics := by
  intro text origin
  have htext : text.toList = before.toList ++ (script.toList ++ after.toList) := by
    simp [text]
  have hat : ∀ k ≤ script.length,
      text.toList.take (before.length + k) = before.toList ++ script.toList.take k := by
    intro k hk
    rw [htext, ← String.length_toList, List.take_length_add_append, List.take_append_of_le_length]
    rwa [String.length_toList]
  have horigin : origin = behind units before.toList := by
    have h := hat 0 (Nat.zero_le _)
    rw [Nat.add_zero, List.take_zero, List.append_nil] at h
    exact congrArg (behind units) h
  rw [Evaluator.compile_of_not_contains hname, hanswer, List.forall₂_map_right_iff]
  refine List.forall₂_same.2 fun d _ ↦ ?_
  obtain ⟨offset, detail, hlocated, hinside, houtside⟩ := exists_located d origin
  rw [hlocated]
  refine ⟨rfl, fun hd k hk hposition ↦ ?_, fun hd ↦ ?_⟩
  · rw [hinside hd, hposition, horigin, ofOffset, ofOffset, hat k hk]
    exact SourceLocation.absolute_behind units _ _
  · rw [houtside hd, horigin]
    exact SourceLocation.absolute_unknown (Nat.succ_pos _)

def laterLine : ScriptDiagnostic :=
  ⟨some "source.ts", ⟨2, 5⟩, "TS2304", .error, "Cannot find name 'x'."⟩

theorem absolute_compile_laterLine :
    (Evaluator.ofLibrary "").contains "f" = false ∧
      ∀ r ∈ ((Evaluator.ofLibrary "").compile (fun _ _ ↦ .ok ⟨"", [laterLine]⟩) "f"
        "say(1);\nsay(x);" ⟨2, 8⟩).diagnostics, r.location.absolute = some ⟨3, 5⟩ := by
  have hname : (Evaluator.ofLibrary "").contains "f" = false := rfl
  have horigin : ofOffset (fun _ ↦ 1) ("scene\n  run('" ++ "say(1);\nsay(x);" ++ "')")
      "scene\n  run('".length = ⟨2, 8⟩ := by decide +kernel
  have hplaced := absolute_compile (fun _ ↦ 1) (.ofLibrary "") (fun _ _ ↦ .ok ⟨"", [laterLine]⟩) "f"
    "scene\n  run('" "say(1);\nsay(x);" "')" ⟨"", [laterLine]⟩ hname rfl
  dsimp only at hplaced
  rw [horigin] at hplaced
  refine ⟨hname, fun r hr ↦ ?_⟩
  obtain ⟨d, hd, -, hinside, -⟩ := Outcome.exists_left hplaced hr
  obtain rfl := List.mem_singleton.1 hd
  exact hinside ⟨_, rfl, List.suffix_rfl⟩ 12 (by decide) (by decide +kernel)

end Script

end Stagecraft
