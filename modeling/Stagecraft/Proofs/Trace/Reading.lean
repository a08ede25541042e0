import Stagecraft.Proofs.Binary64.RoundedId
import Stagecraft.Proofs.Trace.Action
import Stagecraft.Proofs.Trace.Ids
import Stagecraft.Proofs.Trace.Instruction

namespace Stagecraft.Trace

open Binary64 (KeepsId ofInt roundedId)
open Outcome (exists_left exists_right)
open Text (Line)

variable {c : LineContext} {t : Tables} {v w : Value} {arg : Argument} {op : Operand}

theorem asInteger_eq_ok {n : ℤ} :
    c.asInteger arg = .ok n ↔ ∃ x, arg = .number x ∧ x.isIntegral ∧ x.toId = n := by
  cases arg with
  | number x => by_cases hx : x.isIntegral <;> simp [LineContext.asInteger, LineContext.wrong,
      LineContext.fail, hx]
  | _ => simp [LineContext.asInteger, LineContext.wrong, LineContext.fail]

theorem keepsId_of_asInteger {n : ℤ} (h : c.asInteger arg = .ok n) : KeepsId n := by
  obtain ⟨x, -, hx, rfl⟩ := asInteger_eq_ok.1 h
  exact Binary64.keepsId_toId hx

theorem Reads.keepsId (h : Reads c v arg) : ∀ n ∈ v.ids, KeepsId n := by
  cases h with
  | integer h => exact List.forall_mem_singleton.2 (keepsId_of_asInteger h)
  | integers h =>
    intro n hn
    obtain ⟨a, -, ha⟩ := exists_left h hn
    exact keepsId_of_asInteger ha
  | _ => simp [Value.ids]

theorem getElem?_of_index? {ss : Table} {s : String} {i : ℕ} (h : ss.index? s = some i) :
    ss[i]? = some s := by
  obtain ⟨hi, hs, -⟩ := List.idxOf?_eq_some_iff.1 h
  rw [List.getElem?_eq_getElem hi, hs]

theorem map_getElem?_of_index? {ss : Table} {xs : List String} {is : List ℕ}
    (h : List.Forall₂ (fun x i ↦ ss.index? x = some i) xs is) :
    is.map (ss[·]?) = xs.map some := by
  induction h with
  | nil => rfl
  | cons hi _ ih => rw [List.map_cons, List.map_cons, getElem?_of_index? hi, ih]

theorem asInteger_ofInt {n : ℤ} (h : (ofInt n).isIntegral) :
    c.asInteger (.number (ofInt n)) = .ok (roundedId n) :=
  asInteger_eq_ok.2 ⟨_, rfl, h, rfl⟩

theorem anchor?_number (a : Anchor) : LineContext.anchor? (ofInt a.number) = some a := by
  cases a <;> decide +kernel

theorem asPosition_ofPosition (p : Position) :
    c.asPosition (Operand.ofPosition p).argument = .ok p := by
  have h : (Operand.ofPosition p).argument =
      .position [.number (ofInt p.anchor.number), .number p.offset] := rfl
  rw [h, LineContext.asPosition, anchor?_number]

/-- A written value is read back, with its ids rounded, by the tables it was written with. -/
theorem Writes.reads (h : Writes t v op) (ht : c.sections.texts = t.texts)
    (hp : c.sections.paths = t.paths) (hid : ∀ n ∈ v.ids, (ofInt n).isIntegral) :
    Reads c (v.mapIds roundedId) op.argument := by
  cases h with
  | integer n => exact .integer (asInteger_ofInt (hid n (List.mem_singleton_self n)))
  | number x => exact .number x
  | text h => exact .text (ht ▸ getElem?_of_index? h)
  | path h => exact .path (hp ▸ getElem?_of_index? h)
  | position p => exact .position (asPosition_ofPosition p)
  | integers ns =>
    rw [Operand.argument, Operand.arguments_eq_map, List.map_map]
    refine .integers (List.forall₂_map_left_iff.2 (List.forall₂_map_right_iff.2 ?_))
    exact List.forall₂_same.2 fun n hn ↦ asInteger_ofInt (hid n hn)
  | texts h =>
    rename_i ss is
    have hargs : (Operand.list (is.map .text)).argument = .list (is.map .text) := by
      rw [Operand.argument, Operand.arguments_eq_map, List.map_map]
      rfl
    rw [hargs]
    exact .texts (h.flip.imp fun i s hi ↦ ht ▸ getElem?_of_index? hi)

/-- Whatever a written value is read as, its texts were found in the table. -/
theorem Writes.text_lt (h : Writes t v op) (hr : Reads c w op.argument) :
    ∀ s ∈ v.textLiterals, ∃ i, t.texts.index? s = some i ∧ i < c.sections.texts.length := by
  cases h with
  | text h =>
    refine List.forall_mem_singleton.2 ⟨_, h, ?_⟩
    cases hr with
    | text hi => exact (List.getElem?_eq_some_iff.1 hi).1
    | integer hi => cases hi
    | position hi => cases hi
  | texts h =>
    rename_i ss is
    intro s hs
    obtain ⟨i, hi, hindex⟩ := exists_right h hs
    refine ⟨i, hindex, ?_⟩
    rw [Operand.argument, Operand.arguments_eq_map, List.map_map] at hr
    have hmem : Argument.text i ∈ is.map (Operand.argument ∘ Operand.text) :=
      List.mem_map.2 ⟨i, hi, rfl⟩
    generalize is.map (Operand.argument ∘ Operand.text) = items at hr hmem
    cases hr with
    | integers hints =>
      obtain ⟨n, -, hn⟩ := exists_right hints hmem
      cases hn
    | texts htexts =>
      obtain ⟨j, hj, hij⟩ := List.mem_map.1 hmem
      cases hij
      obtain ⟨s', -, hs'⟩ := exists_right htexts hj
      exact (List.getElem?_eq_some_iff.1 hs').1
    | integer hi => cases hi
    | position hi => cases hi
  | _ => simp [Value.textLiterals]

theorem Writes.path_lt (h : Writes t v op) (hr : Reads c w op.argument) :
    ∀ s ∈ v.pathLiterals, ∃ i, t.paths.index? s = some i ∧ i < c.sections.paths.length := by
  cases h with
  | path h =>
    refine List.forall_mem_singleton.2 ⟨_, h, ?_⟩
    cases hr with
    | path hi => exact (List.getElem?_eq_some_iff.1 hi).1
    | integer hi => cases hi
    | position hi => cases hi
  | _ => simp [Value.pathLiterals]

variable {s : Sections} {groups : ℕ → Except ReadError (List Action)} {l : Line} {a : Action}

/-- A line is read as an action if its arguments can be read and stand for that action. -/
theorem readAction_eq_ok : readAction s groups l = .ok a ↔
    ∃ args, readArguments (splitOpcode l.text).2 = .ok args ∧
      String.ofList (splitOpcode l.text).1 = opcode a ∧
      ReadsFrom ⟨s, l.number, (splitOpcode l.text).1⟩ groups a args := by
  simp only [readAction]
  cases readArguments (splitOpcode l.text).2 with
  | error e => exact ⟨nofun, fun ⟨_, h, _⟩ ↦ nomatch h⟩
  | ok args =>
    simp only [Except.ok.injEq, exists_eq_left']
    refine Iff.trans ?_ (action_eq_ok (c := ⟨s, l.number, (splitOpcode l.text).1⟩))
    cases h : LineContext.action ⟨s, l.number, (splitOpcode l.text).1⟩ groups args with
    | error e => exact ⟨nofun, nofun⟩
    | ok r =>
      obtain ⟨b, left⟩ := r
      cases left with
      | nil => simp
      | cons d left => simp [LineContext.fail]

theorem readGroup_eq {limit n : ℕ} (h : n < limit) :
    readGroup s limit n = (s.subs.getD n []).mapM (readAction s (readGroup s n)) := by
  induction limit with
  | zero => omega
  | succ limit ih =>
    rw [readGroup]
    split
    · next hn => rw [hn]
    · next hn => exact ih (by omega)

end Stagecraft.Trace
