import Stagecraft.Proofs.Trace.Code

namespace Stagecraft

namespace Trace

namespace Operand

variable {a b : Operand} {ops ops' : List Operand}

/-- Operands that are written alike together are written alike one by one. -/
theorem map_write_of_writeAll (h : writeAll ops = writeAll ops') :
    ops.map write = ops'.map write := by
  by_cases hops : ops = []
  · have hops' : ops' = [] := by
      by_contra hne
      exact writeAll_ne_nil hne (by rw [← h, hops, writeAll])
    rw [hops, hops']
  · have hops' : ops' ≠ [] := by
      rintro rfl
      exact writeAll_ne_nil hops (by rw [h, writeAll])
    have hsplit := splitArguments_writeAll hops
    rw [h, splitArguments_writeAll hops'] at hsplit
    exact (Except.ok.inj hsplit).symm

theorem write_integer_injective : Function.Injective fun n ↦ write (.integer n) :=
  fun _ _ h ↦ Numeral.integer_injective (List.tail_eq_of_cons_eq h)

theorem write_text_injective : Function.Injective fun i ↦ write (.text i) :=
  fun _ _ h ↦ Numeral.digits_injective (List.tail_eq_of_cons_eq h)

theorem write_path_injective : Function.Injective fun i ↦ write (.path i) :=
  fun _ _ h ↦ Numeral.digits_injective (List.tail_eq_of_cons_eq h)

theorem write_sub_injective : Function.Injective fun i ↦ write (.sub i) :=
  fun _ _ h ↦ Numeral.digits_injective (List.append_cancel_left h)

theorem write_number_injective : Function.Injective fun x ↦ write (.number x) := by
  intro x y h
  have hread := congrArg Numeral.read? (List.tail_eq_of_cons_eq h)
  rw [Numeral.read?_write, Numeral.read?_write] at hread
  exact Option.some.inj hread

theorem map_write_list (h : write (.list ops) = write (.list ops')) :
    ops.map write = ops'.map write :=
  map_write_of_writeAll (List.append_cancel_right (List.tail_eq_of_cons_eq h))

theorem map_write_position (h : write (.position ops) = write (.position ops')) :
    ops.map write = ops'.map write :=
  map_write_of_writeAll (List.append_cancel_right (List.tail_eq_of_cons_eq h))

theorem write_ofPosition_injective : Function.Injective fun p ↦ write (.ofPosition p) := by
  intro p q h
  obtain ⟨hanchor, hoffset⟩ := List.cons.inj (map_write_position h)
  have hnumber := Int.natCast_inj.1 (write_integer_injective hanchor)
  have hside : p.anchor = q.anchor := by
    have hread := congrArg Anchor.ofNumber? hnumber
    rw [Anchor.ofNumber?_number, Anchor.ofNumber?_number] at hread
    exact Option.some.inj hread
  have hfar : p.offset = q.offset := write_number_injective (List.head_eq_of_cons_eq hoffset)
  cases p
  cases q
  cases hside
  cases hfar
  rfl

end Operand

inductive Value.Kind where
  | integer
  | number
  | text
  | path
  | position
  | integers
  | texts

def Value.kind : Value → Kind
  | integer _ => .integer
  | number _ => .number
  | text _ => .text
  | path _ => .path
  | position _ => .position
  | integers _ => .integers
  | texts _ => .texts

def kinds : String → List Value.Kind
  | "tlk" => [.text, .integers, .texts, .path]
  | "tlp" => [.text]
  | "mds" => [.integer, .path, .position]
  | "mdh" => [.integer]
  | "mdm" => [.integer, .position]
  | "act" => [.integer, .text]
  | "exp" => [.integer, .text]
  | "hsk" => [.integer]
  | "vsk" => [.integer]
  | "bcs" => [.number]
  | "bch" => [.number]
  | "wcs" => [.number]
  | "wch" => [.number]
  | "ssc" => [.number]
  | "sdb" => [.number]
  | "cbg" => [.path]
  | "cbm" => [.path]
  | "cse" => [.path]
  | "slp" => [.number]
  | _ => []

def Value.path? : Value → Option String
  | path s => some s
  | _ => none

def ofValues : String → List Value → Option Action
  | "tlk", .text text :: .integers characters :: .texts names :: voice =>
    some (.talk text characters names (voice.head?.bind Value.path?))
  | "tlp", [.text text] => some (.telop text)
  | "mds", [.integer c, .path model, .position p] => some (.showModel c model p)
  | "mdh", [.integer c] => some (.hideModel c)
  | "mdm", [.integer c, .position p] => some (.moveModel c p)
  | "act", [.integer c, .text motion] => some (.act c motion)
  | "exp", [.integer c, .text expression] => some (.express c expression)
  | "hsk", [.integer c] => some (.horizontalShake c)
  | "vsk", [.integer c] => some (.verticalShake c)
  | "bcs", [.number d] => some (.showBlackCover d)
  | "bch", [.number d] => some (.hideBlackCover d)
  | "wcs", [.number d] => some (.showWhiteCover d)
  | "wch", [.number d] => some (.hideWhiteCover d)
  | "ssc", [.number d] => some (.shakeScreen d)
  | "sdb", [.number d] => some (.shakeDialogBox d)
  | "cbg", [.path path] => some (.changeBackground path)
  | "cbm", [.path path] => some (.changeBgm path)
  | "cse", [.path path] => some (.changeSe path)
  | "slp", [.number s] => some (.delay s)
  | "wft", [] => some .waitForTap
  | "wfa", [] => some .waitForAll
  | _, _ => none

variable {t : Tables} {a b : Action} {v w : Value} {ops ops' : List Operand} {op op' : Operand}

theorem kind_values (a : Action) : (values a).map Value.kind <+: kinds (opcode a) := by
  cases a with
  | talk text characters names voice =>
    cases voice with
    | none => exact ⟨[.path], rfl⟩
    | some path => exact ⟨[], rfl⟩
  | _ => exact ⟨[], rfl⟩

theorem ofValues_values (ha : a.members? = none) : ofValues (opcode a) (values a) = some a := by
  cases a with
  | talk text characters names voice => cases voice <;> rfl
  | blocking _ => cases ha
  | forkTask _ => cases ha
  | _ => rfl

/-- A value of a known kind is told by its text. -/
theorem Writes.value_eq (hv : Writes t v op) (hw : Writes t w op') (hkind : v.kind = w.kind)
    (h : op.write = op'.write) : v = w := by
  cases hv with
  | integer n =>
    cases hw <;> cases hkind
    exact congrArg Value.integer (Operand.write_integer_injective h)
  | number x =>
    cases hw <;> cases hkind
    exact congrArg Value.number (Operand.write_number_injective h)
  | text hi =>
    cases hw <;> cases hkind
    next hj =>
    have hs := getElem?_of_index? hi
    rw [Operand.write_text_injective h, getElem?_of_index? hj] at hs
    exact congrArg Value.text (Option.some.inj hs).symm
  | path hi =>
    cases hw <;> cases hkind
    next hj =>
    have hs := getElem?_of_index? hi
    rw [Operand.write_path_injective h, getElem?_of_index? hj] at hs
    exact congrArg Value.path (Option.some.inj hs).symm
  | position p =>
    cases hw <;> cases hkind
    exact congrArg Value.position (Operand.write_ofPosition_injective h)
  | integers ns =>
    cases hw <;> cases hkind
    have hmap := Operand.map_write_list h
    rw [List.map_map, List.map_map] at hmap
    exact congrArg Value.integers (List.map_injective_iff.2 Operand.write_integer_injective hmap)
  | texts his =>
    cases hw <;> cases hkind
    next hjs =>
    have hmap := Operand.map_write_list h
    rw [List.map_map, List.map_map] at hmap
    have hss := map_getElem?_of_index? his
    rw [List.map_injective_iff.2 Operand.write_text_injective hmap, map_getElem?_of_index? hjs] at hss
    exact congrArg Value.texts (List.map_injective_iff.2 (Option.some_injective _) hss).symm

theorem values_eq {vs ws : List Value} (hvs : List.Forall₂ (Writes t) vs ops)
    (hws : List.Forall₂ (Writes t) ws ops') (hkinds : vs.map Value.kind = ws.map Value.kind)
    (h : ops.map Operand.write = ops'.map Operand.write) : vs = ws := by
  induction hvs generalizing ws ops' with
  | nil => exact (List.map_eq_nil_iff.1 hkinds.symm).symm
  | cons hv _ ih =>
    cases hws with
    | nil => cases h
    | cons hw hws =>
      obtain ⟨hop, hops⟩ := List.cons.inj h
      obtain ⟨hkind, hkinds⟩ := List.cons.inj hkinds
      rw [hv.value_eq hw hkind hop, ih hws hkinds hops]

/-- An action that is no group is told by its opcode and the texts of its operands. -/
theorem action_eq_of_write (ha : a.members? = none) (hb : b.members? = none)
    (hopcode : opcode a = opcode b) (hops : List.Forall₂ (Writes t) (values a) ops)
    (hops' : List.Forall₂ (Writes t) (values b) ops')
    (h : ops.map Operand.write = ops'.map Operand.write) : a = b := by
  have hlength : (values a).length = (values b).length := by
    rw [hops.length_eq, hops'.length_eq]
    simpa using congrArg List.length h
  have hkinds : (values a).map Value.kind = (values b).map Value.kind := by
    have hprefix := kind_values b
    rw [← hopcode] at hprefix
    refine List.IsPrefix.eq_of_length ?_ (by simpa using hlength)
    exact List.prefix_of_prefix_length_le (kind_values a) hprefix (by simp [hlength])
  have hvalues := values_eq hops hops' hkinds h
  have hread := ofValues_values ha
  rw [hopcode, hvalues, ofValues_values hb] at hread
  exact (Option.some.inj hread).symm

/-- A group is told by its opcode and its members. -/
theorem group_eq {members : List Action} (ha : a.members? = some members)
    (hb : b.members? = some members) (hopcode : opcode a = opcode b) : a = b := by
  have hne : "blk" ≠ "tsk" := by decide
  cases a with
  | blocking _ =>
    cases ha
    cases b with
    | blocking _ => exact congrArg Action.blocking (Option.some.inj hb).symm
    | forkTask _ => exact absurd hopcode hne
    | _ => cases hb
  | forkTask _ =>
    cases ha
    cases b with
    | blocking _ => exact absurd hopcode hne.symm
    | forkTask _ => exact congrArg Action.forkTask (Option.some.inj hb).symm
    | _ => cases hb
  | _ => cases ha

end Trace

end Stagecraft
