import Stagecraft.Proofs.Trace.Spacing

namespace Stagecraft.Trace

open Text (Snug)

namespace Operand

mutual

/-- What an operand is read as. Whole numbers become the numbers nearest to them. -/
def argument : Operand → Argument
  | integer n => .number (.ofInt n)
  | number x => .number x
  | text i => .text i
  | path i => .path i
  | sub i => .sub i
  | list items => .list (arguments items)
  | position parts => .position (arguments parts)

def arguments : List Operand → List Argument
  | [] => []
  | a :: rest => argument a :: arguments rest

end

mutual

def Bounded : Operand → Prop
  | integer _ => True
  | number _ => True
  | text i => i < referenceBound
  | path i => i < referenceBound
  | sub i => i < referenceBound
  | list items => BoundedAll items
  | position parts => BoundedAll parts

def BoundedAll : List Operand → Prop
  | [] => True
  | a :: rest => Bounded a ∧ BoundedAll rest

end

theorem arguments_eq_map (ops : List Operand) : arguments ops = ops.map argument := by
  induction ops with
  | nil => rfl
  | cons a rest ih => rw [arguments, ih, List.map_cons]

theorem writeAll_cons_cons (a b : Operand) (rest : List Operand) :
    writeAll (a :: b :: rest) = write a ++ [','] ++ [' '] ++ writeAll (b :: rest) := by
  rw [writeAll]
  · simp
  · simp

theorem inline_atom (first : List Char) {ds : List Char}
    (hf : first.all fun c ↦ decide (Ordinary c)) (hd : ∀ c ∈ ds, Ordinary c) :
    ∀ c ∈ first ++ ds, c ≠ ';' ∧ c ≠ '\n' :=
  fun c hc ↦ (ordinary_atom first hf hd c hc).inline

theorem inline_bracket {opening closing : Char} {cs : List Char}
    (ho : opening ≠ ';' ∧ opening ≠ '\n') (hc : closing ≠ ';' ∧ closing ≠ '\n')
    (hcs : ∀ c ∈ cs, c ≠ ';' ∧ c ≠ '\n') :
    ∀ c ∈ opening :: cs ++ [closing], c ≠ ';' ∧ c ≠ '\n' :=
  List.forall_mem_append.2 ⟨List.forall_mem_cons.2 ⟨ho, hcs⟩, List.forall_mem_singleton.2 hc⟩

mutual

theorem write_inline : ∀ a : Operand, ∀ c ∈ write a, c ≠ ';' ∧ c ≠ '\n'
  | integer n => inline_atom ['#'] (by decide) (ordinary_integer n)
  | number x => inline_atom ['#'] (by decide) (ordinary_number _ x)
  | text i => inline_atom ['t'] (by decide) (ordinary_digits i)
  | path i => inline_atom ['p'] (by decide) (ordinary_digits i)
  | sub i => inline_atom "$sub_".toList (by decide) (ordinary_digits i)
  | list items => inline_bracket (by decide) (by decide) (writeAll_inline items)
  | position parts => inline_bracket (by decide) (by decide) (writeAll_inline parts)

theorem writeAll_inline : ∀ ops : List Operand, ∀ c ∈ writeAll ops, c ≠ ';' ∧ c ≠ '\n'
  | [] => by simp [writeAll]
  | [a] => write_inline a
  | a :: b :: rest => by
    rw [writeAll_cons_cons]
    simp only [List.forall_mem_append]
    exact ⟨⟨⟨write_inline a, by simp⟩, by simp⟩, writeAll_inline (b :: rest)⟩

end

theorem separated_writeAll (ops : List Operand) : Separated (ops.map write) (writeAll ops) := by
  induction ops with
  | nil => exact .none
  | cons a rest ih =>
    cases rest with
    | nil => exact .one (write a)
    | cons b rest =>
      have h := Separated.cons (p := write a) (b := []) (d := [' ']) rfl rfl ih
      simpa [writeAll_cons_cons] using h

mutual

theorem spaced_write : ∀ a : Operand, Argument.Spaced a.argument (write a)
  | integer n => .integer n
  | number x => .number x
  | text i => .text i
  | path i => .path i
  | sub i => .sub i
  | list items => by
    have h := Argument.Spaced.list (b := []) (d := []) rfl rfl (spacedAll_write items)
      (separated_writeAll items)
    rwa [List.nil_append, List.append_nil] at h
  | position parts => by
    have h := Argument.Spaced.position (b := []) (d := []) rfl rfl (spacedAll_write parts)
      (separated_writeAll parts)
    rwa [List.nil_append, List.append_nil] at h

theorem spacedAll_write : ∀ ops : List Operand, Argument.SpacedAll (arguments ops) (ops.map write)
  | [] => .nil
  | a :: rest => .cons (spaced_write a) (spacedAll_write rest)

end

mutual

theorem bounded_argument : ∀ a : Operand, a.Bounded → a.argument.Bounded
  | integer _, _ => trivial
  | number _, _ => trivial
  | text _, h => h
  | path _, h => h
  | sub _, h => h
  | list items, h => bounded_arguments items h
  | position parts, h => bounded_arguments parts h

theorem bounded_arguments : ∀ ops : List Operand, BoundedAll ops →
    Argument.BoundedAll (arguments ops)
  | [], _ => trivial
  | a :: rest, h => ⟨bounded_argument a h.1, bounded_arguments rest h.2⟩

end

theorem snug_writeAll (ops : List Operand) : Snug (writeAll ops) :=
  ((separated_writeAll ops).snug (spacedAll_write ops).whole).1

theorem writeAll_ne_nil {ops : List Operand} (h : ops ≠ []) : writeAll ops ≠ [] :=
  ((separated_writeAll ops).snug (spacedAll_write ops).whole).2 (by simpa using h)

theorem splitArguments_writeAll {ops : List Operand} (h : ops ≠ []) :
    splitArguments (writeAll ops) = .ok (ops.map write) :=
  (separated_writeAll ops).splitArguments (by simpa using h) (spacedAll_write ops).whole

/-- Written operands are read back, whatever lists and positions are nested in them. -/
theorem readArguments_writeAll {ops : List Operand} (h : BoundedAll ops) :
    readArguments (writeAll ops) = .ok (arguments ops) :=
  readWithin_spaced (spacedAll_write ops) (separated_writeAll ops) (bounded_arguments ops h)
    (Nat.le_succ _)

end Operand

end Stagecraft.Trace
