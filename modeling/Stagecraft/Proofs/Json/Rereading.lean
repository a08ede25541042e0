import Stagecraft.Proofs.Json.Scanning
import Stagecraft.Proofs.Outcome

namespace Stagecraft

open Json

/-- The digits a number is written with in JSON are read as the number. -/
def Binary64.ReadsBack (x : Binary64) : Prop :=
  decodeText Decoder.number (Json.decimal x).compact = .ok x

namespace Json

open Outcome (bind_eq_ok)

mutual

def nesting : Json → ℕ
  | .array js => nestingItems js + 1
  | .object fs => nestingFields fs + 1
  | _ => 0

def nestingItems : List Json → ℕ
  | [] => 0
  | j :: js => max (nesting j) (nestingItems js)

def nestingFields : List (String × Json) → ℕ
  | [] => 0
  | (_, j) :: fs => max (nesting j) (nestingFields fs)

end

mutual

/-- All integers of the value have 64 bits and all its decimals are read back. -/
def Readable : Json → Prop
  | .integer n => Binary64.minId ≤ n ∧ n ≤ Binary64.maxId
  | .decimal x => x.ReadsBack
  | .array js => ReadableItems js
  | .object fs => ReadableFields fs
  | _ => True

def ReadableItems : List Json → Prop
  | [] => True
  | j :: js => Readable j ∧ ReadableItems js

def ReadableFields : List (String × Json) → Prop
  | [] => True
  | (_, j) :: fs => Readable j ∧ ReadableFields fs

end

variable {depth : ℕ} {j j' : Json} {js : List Json} {fs : List (String × Json)} {x : Binary64}

def Draft.decimal? : Draft → Option Binary64
  | .decimal x => some x
  | _ => none

/-- A compact text is decoded as what its value is read as. -/
theorem decodeText_compact {α : Type} (dec : Decoder α) (j : Json) :
    decodeText dec j.compact = dec .text (Draft.written 0 j) := by
  have hdoc : Document.ofText j.compact = ⟨Draft.written 0 j, false⟩ := by
    have h := Document.ofText_written (written_write j) Blank.nil
    rwa [List.append_nil] at h
  rw [decodeText, hdoc]
  cases dec .text (Draft.written 0 j) <;> rfl

theorem readsBack_iff : x.ReadsBack ↔ x.isFinite ∧ (Draft.ofNumber x).decimal? = some x := by
  have hread : x.ReadsBack ↔ Decoder.number .text (Draft.written 0 (.decimal x)) = .ok x := by
    rw [Binary64.ReadsBack, decodeText_compact]
  rw [hread, Draft.written]
  cases hx : x.isFinite with
  | false => exact ⟨nofun, nofun⟩
  | true =>
    rcases Draft.ofNumber_cases hx with ⟨y, hdraft⟩ | hdraft
    · simp [hdraft, Decoder.number, Draft.decimal?]
    · simp [hdraft, Decoder.number, Draft.decimal?, reject]

instance : Decidable x.ReadsBack := decidable_of_iff _ readsBack_iff.symm

theorem written_of_readsBack (h : x.ReadsBack) : Draft.written depth (.decimal x) = .decimal x := by
  obtain ⟨hx, hdraft⟩ := readsBack_iff.1 h
  rw [Draft.written, if_pos hx]
  rcases Draft.ofNumber_cases hx with ⟨y, hy⟩ | hy
  · rw [hy] at hdraft ⊢
    exact congrArg _ (Option.some.inj hdraft)
  · rw [hy] at hdraft
    cases hdraft

theorem limitDepth_of_lt {d : Draft} (h : depth < maxDepth) : limitDepth depth d = d := if_pos h

mutual

theorem written_eq_ofJson : ∀ {depth : ℕ} (j : Json), depth + j.nesting ≤ maxDepth → j.Readable →
    Draft.written depth j = Draft.ofJson j
  | _, .null, _, _ => rfl
  | _, .boolean _, _, _ => rfl
  | _, .integer n, _, hj => draft_ofInt hj.1 hj.2
  | _, .decimal x, _, hj => written_of_readsBack hj
  | _, .text _, _, _ => rfl
  | depth, .array js, hdepth, hj => by
    rw [nesting] at hdepth
    rw [Draft.written, limitDepth_of_lt (by omega), writtenItems_eq_ofItems js (by omega) hj]
    rfl
  | depth, .object fs, hdepth, hj => by
    rw [nesting] at hdepth
    rw [Draft.written, limitDepth_of_lt (by omega), writtenFields_eq_ofFields fs (by omega) hj]
    rfl

theorem writtenItems_eq_ofItems : ∀ {depth : ℕ} (js : List Json),
    depth + nestingItems js ≤ maxDepth → ReadableItems js →
    Draft.writtenItems depth js = Draft.ofItems js
  | _, [], _, _ => rfl
  | depth, j :: js, hdepth, hj => by
    rw [nestingItems] at hdepth
    rw [Draft.writtenItems, written_eq_ofJson j (by omega) hj.1,
      writtenItems_eq_ofItems js (by omega) hj.2]
    rfl

theorem writtenFields_eq_ofFields : ∀ {depth : ℕ} (fs : List (String × Json)),
    depth + nestingFields fs ≤ maxDepth → ReadableFields fs →
    Draft.writtenFields depth fs = Draft.ofFields fs
  | _, [], _, _ => rfl
  | depth, (k, j) :: fs, hdepth, hj => by
    rw [nestingFields] at hdepth
    rw [Draft.writtenFields, written_eq_ofJson j (by omega) hj.1,
      writtenFields_eq_ofFields fs (by omega) hj.2]
    rfl

end

/-- What a written value may be read as. -/
def Rereads (j j' : Json) : Prop := ∃ depth, (Draft.written depth j).read = .ok j'

def FieldReread (f g : String × Json) : Prop := f.1 = g.1 ∧ Rereads f.2 g.2

theorem read_limitDepth {d : Draft} (h : (limitDepth depth d).read = .ok j) : d.read = .ok j := by
  rw [limitDepth] at h
  split at h
  · exact h
  · cases h

theorem readItems_written {js' : List Json}
    (h : Draft.readItems (Draft.writtenItems depth js) = .ok js') : List.Forall₂ Rereads js js' := by
  induction js generalizing js' with
  | nil =>
    cases h
    exact .nil
  | cons j js ih =>
    obtain ⟨k, hk, h⟩ := bind_eq_ok.1 h
    obtain ⟨ks, hks, h⟩ := bind_eq_ok.1 h
    cases h
    exact .cons ⟨depth, hk⟩ (ih hks)

theorem readFields_written {fs' : List (String × Json)}
    (h : Draft.readFields (Draft.writtenFields depth fs) = .ok fs') :
    List.Forall₂ FieldReread fs fs' := by
  induction fs generalizing fs' with
  | nil =>
    cases h
    exact .nil
  | cons f fs ih =>
    obtain ⟨k, j⟩ := f
    obtain ⟨key, hkey, h⟩ := bind_eq_ok.1 h
    obtain ⟨i, hi, h⟩ := bind_eq_ok.1 h
    obtain ⟨gs, hgs, h⟩ := bind_eq_ok.1 h
    cases hkey
    cases h
    exact .cons ⟨rfl, depth, hi⟩ (ih hgs)

theorem Rereads.text {s : String} (h : Rereads (.text s) j') : j' = .text s := by
  obtain ⟨depth, h⟩ := h
  exact (Except.ok.inj h).symm

/-- A number that is not finite leaves a null. -/
theorem Rereads.not_finite (hx : x.isFinite = false) (h : Rereads (.decimal x) j') : j' = .null := by
  obtain ⟨depth, h⟩ := h
  rw [Draft.written, hx] at h
  exact (Except.ok.inj h).symm

theorem Rereads.array (h : Rereads (.array js) j') :
    ∃ js', j' = .array js' ∧ List.Forall₂ Rereads js js' := by
  obtain ⟨depth, h⟩ := h
  obtain ⟨js', hjs', h⟩ := bind_eq_ok.1 (read_limitDepth h)
  cases h
  exact ⟨js', rfl, readItems_written hjs'⟩

theorem Rereads.object (h : Rereads (.object fs) j') :
    ∃ fs', j' = .object fs' ∧ List.Forall₂ FieldReread fs fs' := by
  obtain ⟨depth, h⟩ := h
  obtain ⟨fs', hfs', h⟩ := bind_eq_ok.1 (read_limitDepth h)
  cases h
  exact ⟨fs', rfl, readFields_written hfs'⟩

theorem names_reread {fs' : List (String × Json)} (h : List.Forall₂ FieldReread fs fs') :
    fs'.map Prod.fst = fs.map Prod.fst := by
  induction h with
  | nil => rfl
  | cons hfg _ ih => rw [List.map_cons, List.map_cons, hfg.1, ih]

theorem lookup_reread {fs' : List (String × Json)} (h : List.Forall₂ FieldReread fs fs')
    (name : String) (hj : fs.lookup name = some j) : ∃ j', fs'.lookup name = some j' ∧ Rereads j j' := by
  induction h with
  | nil => cases hj
  | @cons f g fs fs' hfg _ ih =>
    obtain ⟨k, i⟩ := f
    obtain ⟨k', i'⟩ := g
    obtain ⟨rfl, hi⟩ : k = k' ∧ Rereads i i' := hfg
    rw [List.lookup_cons] at hj ⊢
    split at hj
    · next hk =>
      cases hj
      exact ⟨i', rfl, hi⟩
    · next hk => exact ih hj

end Json

end Stagecraft
