import Stagecraft.Proofs.Outcome
import Stagecraft.Proofs.Story.Sequence
import Stagecraft.Proofs.Trace.Argument
import Stagecraft.Trace.Write

namespace Stagecraft

namespace Trace

/-- What one operand of an action stands for. The sequence of a group is no value. -/
inductive Value where
  | integer (n : ℤ)
  | number (x : Binary64)
  | text (s : String)
  | path (s : String)
  | position (p : Position)
  | integers (ns : List ℤ)
  | texts (ss : List String)

namespace Value

def textLiterals : Value → List String
  | text s => [s]
  | texts ss => ss
  | _ => []

def pathLiterals : Value → List String
  | path s => [s]
  | _ => []

def ids : Value → List ℤ
  | integer n => [n]
  | integers ns => ns
  | _ => []

end Value

def values : Action → List Value
  | .talk text characters names voice =>
    .text text :: .integers characters :: .texts names :: voice.toList.map .path
  | .telop text => [.text text]
  | .showModel c model p => [.integer c, .path model, .position p]
  | .hideModel c => [.integer c]
  | .moveModel c p => [.integer c, .position p]
  | .act c motion => [.integer c, .text motion]
  | .express c expression => [.integer c, .text expression]
  | .horizontalShake c => [.integer c]
  | .verticalShake c => [.integer c]
  | .showBlackCover d => [.number d]
  | .hideBlackCover d => [.number d]
  | .showWhiteCover d => [.number d]
  | .hideWhiteCover d => [.number d]
  | .shakeScreen d => [.number d]
  | .shakeDialogBox d => [.number d]
  | .changeBackground path => [.path path]
  | .changeBgm path => [.path path]
  | .changeSe path => [.path path]
  | .blocking _ => []
  | .delay s => [.number s]
  | .forkTask _ => []
  | .waitForTap => []
  | .waitForAll => []

end Trace

def Action.characters (a : Action) : List ℤ := (Trace.values a).flatMap Trace.Value.ids

namespace Trace

open Outcome (bind_eq_ok map_eq_ok mapM_eq_ok)

variable {a : Action} {t : Tables}

theorem texts_eq (a : Action) : a.texts = (values a).flatMap Value.textLiterals := by
  cases a with
  | talk text characters names voice => cases voice <;> simp [Action.texts, values, Value.textLiterals]
  | _ => rfl

theorem paths_eq (a : Action) : a.paths = (values a).flatMap Value.pathLiterals := by
  cases a with
  | talk text characters names voice => cases voice <;> simp [Action.paths, values, Value.pathLiterals]
  | _ => rfl

theorem values_group {members : List Action} (h : a.members? = some members) : values a = [] := by
  cases a <;> cases h <;> rfl

inductive Writes (t : Tables) : Value → Operand → Prop
  | integer (n : ℤ) : Writes t (.integer n) (.integer n)
  | number (x : Binary64) : Writes t (.number x) (.number x)
  | text {s : String} {i : ℕ} (h : t.texts.index? s = some i) : Writes t (.text s) (.text i)
  | path {s : String} {i : ℕ} (h : t.paths.index? s = some i) : Writes t (.path s) (.path i)
  | position (p : Position) : Writes t (.position p) (.ofPosition p)
  | integers (ns : List ℤ) : Writes t (.integers ns) (.list (ns.map .integer))
  | texts {ss : List String} {is : List ℕ}
    (h : List.Forall₂ (fun s i ↦ t.texts.index? s = some i) ss is) :
    Writes t (.texts ss) (.list (is.map .text))

def operand (t : Tables) : Value → Except WriteError Operand
  | .integer n => .ok (.integer n)
  | .number x => .ok (.number x)
  | .text s => t.text s
  | .path s => t.path s
  | .position p => .ok (.ofPosition p)
  | .integers ns => .ok (.list (ns.map .integer))
  | .texts ss => (ss.mapM t.text).map .list

theorem exists_index {ss : Table} {s : String} (h : s ∈ ss) : ∃ i, ss.index? s = some i :=
  Option.isSome_iff_exists.1 (List.isSome_idxOf?.2 h)

theorem text_ok {s : String} (h : s ∈ t.texts) :
    ∃ i, t.text s = .ok (.text i) ∧ t.texts.index? s = some i := by
  obtain ⟨i, hi⟩ := exists_index h
  exact ⟨i, by rw [Tables.text, hi], hi⟩

theorem path_ok {s : String} (h : s ∈ t.paths) :
    ∃ i, t.path s = .ok (.path i) ∧ t.paths.index? s = some i := by
  obtain ⟨i, hi⟩ := exists_index h
  exact ⟨i, by rw [Tables.path, hi], hi⟩

theorem texts_ok {ss : List String} (h : ∀ s ∈ ss, s ∈ t.texts) :
    ∃ is : List ℕ, ss.mapM t.text = .ok (is.map .text) ∧
      List.Forall₂ (fun s i ↦ t.texts.index? s = some i) ss is := by
  induction ss with
  | nil => exact ⟨[], rfl, .nil⟩
  | cons s ss ih =>
    obtain ⟨hs, hss⟩ := List.forall_mem_cons.1 h
    obtain ⟨i, htext, hi⟩ := text_ok hs
    obtain ⟨is, htexts, his⟩ := ih hss
    exact ⟨i :: is, by rw [List.mapM_cons, htext, htexts]; rfl, .cons hi his⟩

theorem operand_ok {v : Value} (ht : ∀ s ∈ v.textLiterals, s ∈ t.texts)
    (hp : ∀ s ∈ v.pathLiterals, s ∈ t.paths) : ∃ op, operand t v = .ok op ∧ Writes t v op := by
  cases v with
  | integer n => exact ⟨_, rfl, .integer n⟩
  | number x => exact ⟨_, rfl, .number x⟩
  | text s =>
    obtain ⟨i, htext, hi⟩ := text_ok (ht s (List.mem_singleton_self s))
    exact ⟨_, htext, .text hi⟩
  | path s =>
    obtain ⟨i, hpath, hi⟩ := path_ok (hp s (List.mem_singleton_self s))
    exact ⟨_, hpath, .path hi⟩
  | position p => exact ⟨_, rfl, .position p⟩
  | integers ns => exact ⟨_, rfl, .integers ns⟩
  | texts ss =>
    obtain ⟨is, htexts, his⟩ := texts_ok ht
    exact ⟨_, congrArg (Except.map Operand.list) htexts, .texts his⟩

/-- The names of a line of dialogue are looked up before its text. Once all literals are in the
tables the order does not matter. -/
theorem operands_eq {ops : List Operand} (h : (values a).mapM (operand t) = .ok ops) :
    operands t a = .ok ops := by
  cases a with
  | talk text characters names voice =>
    have hvoice : (voice.toList.map Value.path).mapM (operand t) = voice.toList.mapM t.path := by
      cases voice <;> rfl
    rw [values, mapM_eq_ok] at h
    rcases h with _ | ⟨htext, _ | ⟨hcharacters, _ | ⟨hnames, hpaths⟩⟩⟩
    obtain ⟨namesOps, htexts, rfl⟩ := map_eq_ok.1 hnames
    have htext : t.text text = .ok _ := htext
    have hpaths := mapM_eq_ok.2 hpaths
    rw [hvoice] at hpaths
    cases hcharacters
    rw [operands, htexts, htext, hpaths]
    rfl
  | _ => exact h

theorem operands_writes (ht : ∀ s ∈ a.texts, s ∈ t.texts) (hp : ∀ s ∈ a.paths, s ∈ t.paths) :
    ∃ ops, operands t a = .ok ops ∧ List.Forall₂ (Writes t) (values a) ops := by
  have hvalue : ∀ v ∈ values a, ∃ op, operand t v = .ok op ∧ Writes t v op := by
    intro v hv
    refine operand_ok (fun s hs ↦ ht s ?_) fun s hs ↦ hp s ?_
    · rw [texts_eq]
      exact List.mem_flatMap_of_mem hv hs
    · rw [paths_eq]
      exact List.mem_flatMap_of_mem hv hs
  obtain ⟨ops, hops⟩ := Outcome.exists_forall₂ hvalue
  exact ⟨ops, operands_eq (mapM_eq_ok.2 (hops.imp fun _ _ h ↦ h.1)), hops.imp fun _ _ h ↦ h.2⟩

end Trace

end Stagecraft
