import Mathlib.Tactic
import Stagecraft.Asset.Conversion

namespace Stagecraft

namespace Output

variable (x y z : Output) (as : List Action)

@[simp] theorem actions_append : (x ++ y).actions = x.actions ++ y.actions := rfl

@[simp] theorem diagnostics_append : (x ++ y).diagnostics = x.diagnostics ++ y.diagnostics := rfl

@[simp] theorem actions_ofActions : (ofActions as).actions = as := rfl

@[simp] theorem actions_nothing : nothing.actions = [] := rfl

@[simp] theorem actions_ofDiagnostic (d : Diagnostic) : (ofDiagnostic d).actions = [] := rfl

theorem append_assoc : x ++ y ++ z = x ++ (y ++ z) := by
  have hactions : (x ++ y ++ z).actions = (x ++ (y ++ z)).actions := by simp
  have hdiagnostics : (x ++ y ++ z).diagnostics = (x ++ (y ++ z)).diagnostics := by simp
  exact congrArg₂ Output.mk hactions hdiagnostics

end Output

namespace Asset

/-- The asset without its snippets from a place on. -/
def upTo (asset : Asset) (i : ℕ) : Asset := { asset with snippets := asset.snippets.take i }

theorem snippetsOutput_append (c : Setting) (index : ℕ) (earlier xs ys : List Snippet) :
    snippetsOutput c index earlier (xs ++ ys) = snippetsOutput c index earlier xs ++
      snippetsOutput c (index + xs.length) (xs.reverse ++ earlier) ys := by
  induction xs generalizing index earlier with
  | nil => rfl
  | cons s xs ih =>
    rw [List.cons_append, snippetsOutput, snippetsOutput, ih, Output.append_assoc,
      List.length_cons, List.reverse_cons, List.append_assoc, Nat.add_right_comm, Nat.add_assoc]
    rfl

section setting

variable (asset : Asset) (snippets : List Snippet) (locale : Locale) (voiceBundle : String)

/-- Of an asset, the snippets are not looked at again when one of them is converted. -/
theorem snippetOutput_with : snippetOutput ⟨{ asset with snippets }, locale, voiceBundle⟩ =
    snippetOutput ⟨asset, locale, voiceBundle⟩ := by
  funext index earlier s
  rw [snippetOutput, snippetOutput, recordOutput, recordOutput]

theorem snippetsOutput_with (index : ℕ) (earlier xs : List Snippet) :
    snippetsOutput ⟨{ asset with snippets }, locale, voiceBundle⟩ index earlier xs =
      snippetsOutput ⟨asset, locale, voiceBundle⟩ index earlier xs := by
  induction xs generalizing index earlier with
  | nil => rfl
  | cons s xs ih => rw [snippetsOutput, snippetsOutput, snippetOutput_with, ih]

end setting

section told

variable (asset : Asset) (locale : Locale) (voiceBundle : String)

def told (i : ℕ) : List Action := (convert (asset.upTo i) locale voiceBundle).story.actions

def outputTo (i : ℕ) : Output :=
  snippetsOutput ⟨asset, locale, voiceBundle⟩ 0 [] (asset.snippets.take i)

def outputAt (i : ℕ) (s : Snippet) : Output :=
  snippetOutput ⟨asset, locale, voiceBundle⟩ i (asset.snippets.take i).reverse s

theorem told_eq (i : ℕ) :
    told asset locale voiceBundle i =
      openingActions ⟨asset, locale, voiceBundle⟩ ++ (outputTo asset locale voiceBundle i).actions := by
  rw [told, convert, outputTo, ← snippetsOutput_with asset (asset.snippets.take i)]
  rfl

theorem told_length : told asset locale voiceBundle asset.snippets.length =
    (convert asset locale voiceBundle).story.actions := by
  rw [told, upTo, List.take_length]

variable {asset} {i : ℕ} {s : Snippet}

theorem take_succ_of_getElem? (hs : asset.snippets[i]? = some s) :
    asset.snippets.take (i + 1) = asset.snippets.take i ++ [s] := by
  rw [List.take_add_one, hs, Option.toList_some]

theorem outputTo_succ (hs : asset.snippets[i]? = some s) :
    outputTo asset locale voiceBundle (i + 1) =
      outputTo asset locale voiceBundle i ++ outputAt asset locale voiceBundle i s := by
  have hlength : (asset.snippets.take i).length = i :=
    List.length_take_of_le (List.getElem?_eq_some_iff.1 hs).1.le
  rw [outputTo, take_succ_of_getElem? hs, snippetsOutput_append, hlength, Nat.zero_add,
    List.append_nil]
  exact congrArg (_ ++ ·) (congrArg₂ Output.mk (List.append_nil _) (List.append_nil _))

theorem told_succ (hs : asset.snippets[i]? = some s) :
    told asset locale voiceBundle (i + 1) =
      told asset locale voiceBundle i ++ (outputAt asset locale voiceBundle i s).actions := by
  rw [told_eq, told_eq, outputTo_succ _ _ hs, Output.actions_append, List.append_assoc]

/-- A conversion is what comes before a snippet, what the snippet is converted to, and the rest. -/
theorem convert_eq (hs : asset.snippets[i]? = some s) :
    ∃ rest : Output, (convert asset locale voiceBundle).story.actions =
        told asset locale voiceBundle i ++
          ((outputAt asset locale voiceBundle i s).actions ++ rest.actions) ∧
      (convert asset locale voiceBundle).diagnostics =
        (outputTo asset locale voiceBundle i).diagnostics ++
          ((outputAt asset locale voiceBundle i s).diagnostics ++ rest.diagnostics) := by
  have hwhole := snippetsOutput_append ⟨asset, locale, voiceBundle⟩ 0 []
    (asset.snippets.take (i + 1)) (asset.snippets.drop (i + 1))
  rw [List.take_append_drop] at hwhole
  generalize snippetsOutput _ _ _ (asset.snippets.drop (i + 1)) = rest at hwhole
  rw [← outputTo, outputTo_succ _ _ hs, Output.append_assoc] at hwhole
  refine ⟨rest, ?_, ?_⟩
  · rw [told_eq, convert, hwhole, List.append_assoc]
    rfl
  · rw [convert, hwhole]
    rfl

end told

end Asset

end Stagecraft
