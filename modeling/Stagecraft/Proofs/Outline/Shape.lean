import Stagecraft.Proofs.Numeral.ReadWrite
import Stagecraft.Proofs.Outline.Lines

namespace Stagecraft.Outline

variable {a b : Action}

/-- Sequences with as many actions, of the same kinds at the same places and nested alike. -/
inductive SameShape : List Action → List Action → Prop
  | nil : SameShape [] []
  | cons {a b : Action} {as bs : List Action} (kind : a.ctorIdx = b.ctorIdx)
      (members : SameShape (a.members?.getD []) (b.members?.getD [])) (rest : SameShape as bs) :
      SameShape (a :: as) (b :: bs)

theorem ctorIdx_of_heading (h : heading a = heading b) : a.ctorIdx = b.ctorIdx := by
  have hnodup : headings.Nodup := by decide
  have hlt : a.ctorIdx < headings.length :=
    (List.getElem?_eq_some_iff.1 (getElem?_headings a)).1
  rw [← List.getElem?_inj hlt hnodup, getElem?_headings, getElem?_headings, h]

def arguments (ps : List Parameter) : List Char :=
  if ps.isEmpty then [] else '(' :: commaJoined (ps.map Parameter.write) ++ [')']

theorem call_eq (name : String) (ps : List Parameter) :
    call name ps = name.toList ++ arguments ps := by
  rw [call, arguments]
  split <;> simp

theorem head?_arguments (ps : List Parameter) : ∀ c ∈ (arguments ps).head?, c = '(' := by
  rw [arguments]
  split <;> simp

def ending (a : Action) : List Char :=
  match a.members? with
  | none => arguments (parameters a)
  | some [] => [' ', '\x7b', '\x7d']
  | some (_ :: _) => [' ', '\x7b']

theorem opening_eq (a : Action) : opening a = (heading a).toList ++ ending a := by
  rw [opening, ending]
  cases a.members? with
  | none => exact call_eq (heading a) (parameters a)
  | some members => cases members <;> rfl

theorem head?_ending (a : Action) : ∀ c ∈ (ending a).head?, c.isAlpha = false := by
  rw [ending]
  split
  · intro c hc
    rw [head?_arguments (parameters a) c hc]
    decide
  · simp
  · simp

/-- Only a group with members shows an open brace and nothing behind it. -/
theorem closing_eq (depth : ℕ) (a : Action) :
    closing depth a = if ending a = [' ', '\x7b'] then [⟨depth, ['\x7d']⟩] else [] := by
  rw [closing, ending]
  cases a.members? with
  | none =>
    have hne : arguments (parameters a) ≠ [' ', '\x7b'] := by
      intro h
      have hspace := head?_arguments (parameters a) ' ' (by rw [h]; rfl)
      exact absurd hspace (by decide)
    exact (if_neg hne).symm
  | some members => cases members <;> rfl

theorem heading_of_opening (h : opening a = opening b) :
    heading a = heading b ∧ ending a = ending b := by
  rw [opening_eq, opening_eq] at h
  constructor
  · apply String.toList_injective
    rw [← Text.takeWhile_append_of_stop (isAlpha_of_mem_heading a) (head?_ending a), h,
      Text.takeWhile_append_of_stop (isAlpha_of_mem_heading b) (head?_ending b)]
  · rw [← Text.dropWhile_append_of_stop (isAlpha_of_mem_heading a) (head?_ending a), h,
      Text.dropWhile_append_of_stop (isAlpha_of_mem_heading b) (head?_ending b)]

theorem closing_of_opening (h : opening a = opening b) (depth : ℕ) :
    closing depth a = closing depth b := by
  rw [closing_eq, closing_eq, (heading_of_opening h).2]

def Row.ofLine (cs : List Char) : Row :=
  ⟨(cs.takeWhile (· = ' ')).length / 2, cs.dropWhile (· = ' ')⟩

theorem Row.ofLine_line {r : Row} (h : ∀ c ∈ r.text.head?, c ≠ ' ') :
    Row.ofLine r.line = r := by
  have hspaces : ∀ c ∈ List.replicate (2 * r.depth) ' ', decide (c = ' ') := by simp
  have hstop : ∀ c ∈ r.text.head?, decide (c = ' ') = false := by simpa using h
  rw [Row.ofLine, Row.line, Text.takeWhile_append_of_stop hspaces hstop,
    Text.dropWhile_append_of_stop hspaces hstop, List.length_replicate, Nat.mul_div_cancel_left]
  exact Nat.two_pos

theorem head?_rowsFrom (depth index : ℕ) (actions : List Action) :
    ∀ r ∈ rowsFrom depth index actions, ∀ c ∈ r.text.head?, c ≠ ' ' := by
  induction actions using Action.members_induction generalizing depth index with
  | nil => exact nofun
  | cons a rest ihm ih =>
    have hfirst : ∀ c ∈ (indexed index (opening a)).head?, c ≠ ' ' := by
      intro c hc
      rw [indexed, List.head?_append_of_ne_nil _ (Numeral.digits_ne_nil index)] at hc
      have hdigit := Numeral.isDigit_of_mem_digits (List.mem_of_mem_head? hc)
      exact Numeral.ne_of_isDigit hdigit (by decide)
    have hlast : ∀ r ∈ closing depth a, ∀ c ∈ r.text.head?, c ≠ ' ' := by
      rw [closing]
      split <;> simp
    simp only [rowsFrom, rows_eq, List.forall_mem_append, List.forall_mem_cons]
    exact ⟨⟨⟨hfirst, ihm (depth + 1) 0⟩, hlast⟩, ih depth (index + 1)⟩

def Outside (depth : ℕ) (rs : List Row) : Prop := ∀ r ∈ rs.head?, r.depth < depth

variable {depth index : ℕ} {as bs : List Action} {xs ys : List Row}

theorem not_outside_rowsFrom : ¬Outside depth (rowsFrom depth index (a :: as) ++ xs) := by
  intro h
  rw [rowsFrom, rows_eq] at h
  exact lt_irrefl depth (h _ rfl)

theorem Outside.behind (h : Outside depth xs) :
    Outside (depth + 1) (closing depth a ++ (rowsFrom depth index as ++ xs)) := by
  rw [closing]
  split
  · rintro r ⟨⟩
    exact Nat.lt_succ_self depth
  · cases as with
    | nil => exact fun r hr ↦ Nat.lt_succ_of_lt (h r hr)
    | cons b bs =>
      rw [rowsFrom, rows_eq]
      rintro r ⟨⟩
      exact Nat.lt_succ_self depth

/-- The rows of two sequences with rows outside of them behind. -/
theorem sameShape_of_rowsFrom (h : rowsFrom depth index as ++ xs = rowsFrom depth index bs ++ ys)
    (hxs : Outside depth xs) (hys : Outside depth ys) : SameShape as bs ∧ xs = ys := by
  induction as using Action.members_induction generalizing depth index bs xs ys with
  | nil =>
    cases bs with
    | nil => exact ⟨.nil, h⟩
    | cons b bs =>
      rw [rowsFrom, List.nil_append] at h
      exact absurd (h ▸ hxs) not_outside_rowsFrom
  | cons a as ihm ih =>
    cases bs with
    | nil =>
      rw [rowsFrom.eq_1, List.nil_append] at h
      exact absurd (h ▸ hys) not_outside_rowsFrom
    | cons b bs =>
      simp only [rowsFrom, rows_eq, List.cons_append, List.append_assoc, List.cons.injEq,
        Row.mk.injEq, true_and, indexed, List.append_cancel_left_eq] at h
      obtain ⟨hopening, hrows⟩ := h
      -- What follows the members lies outside of them, whether or not it closes the group.
      obtain ⟨hmembers, hbehind⟩ := ihm hrows hxs.behind hys.behind
      rw [closing_of_opening hopening] at hbehind
      obtain ⟨hrest, hend⟩ := ih (List.append_cancel_left hbehind) hxs hys
      have hkind := ctorIdx_of_heading (heading_of_opening hopening).1
      exact ⟨.cons hkind hmembers hrest, hend⟩

theorem body_eq_map {s : Story} (h : Unbroken s) (closures : Bool) :
    body s closures = (bodyRows s closures).map Row.line := by
  have hzero : ∀ r ∈ bodyRows s closures, r.text.count '\n' = 0 := by
    have hsum := sum_bodyRows s closures
    rw [(sum_feeds_eq_zero s).2 h, List.sum_eq_zero_iff] at hsum
    simpa using hsum
  have hpieces : ∀ r ∈ bodyRows s closures, Text.pieces r.line = [r.line] := by
    intro r hr
    apply Text.pieces_of_not_mem
    rw [← List.count_eq_zero, Row.count_line, hzero r hr]
  rw [body, List.flatMap_congr hpieces, ← List.map_eq_flatMap]

theorem map_ofLine_line (s : Story) :
    ((bodyRows s true).map Row.line).map Row.ofLine = bodyRows s true := by
  have hofLine : ∀ r ∈ bodyRows s true, Row.ofLine r.line = r := fun r hr ↦
    Row.ofLine_line (head?_rowsFrom 0 0 s.actions r hr)
  rw [List.map_map]
  exact (List.map_congr_left hofLine).trans (List.map_id (bodyRows s true))

theorem locale_of_capitals {l m : Locale} (h : l.capitals = m.capitals) : l = m := by
  replace h := congrArg String.toList h
  rw [capitals_toList, capitals_toList] at h
  revert h
  cases l <;> cases m <;> decide

/-- Stories with the same outline have the same locale and the same shape. -/
theorem sameShape_of_render {s t : Story} (hs : Unbroken s) (ht : Unbroken t)
    (h : render s true = render t true) : s.locale = t.locale ∧ SameShape s.actions t.actions := by
  have htext := congrArg Text.pieces (String.ofList_injective h)
  rw [pieces_text, pieces_text, List.append_left_inj, body_eq_map hs, body_eq_map ht] at htext
  simp only [List.cons_append, List.nil_append, List.cons.injEq, true_and] at htext
  obtain ⟨hheader, hlines⟩ := htext
  constructor
  · have hcapitals := List.append_cancel_left hheader
    exact locale_of_capitals (String.toList_injective hcapitals)
  · have hrows : bodyRows s true = bodyRows t true := by
      rw [← map_ofLine_line s, hlines, map_ofLine_line t]
    apply And.left
    exact sameShape_of_rowsFrom (congrArg (· ++ []) hrows) nofun nofun

def lookalike (text : String) : Story :=
  ⟨.kr, [.blocking [.talk text [1] ["A\nB"] none, .forkTask []],
    .telop ")\x7d 1 Blocking \x7b 0 WaitForTap \x7d"]⟩

theorem sameShape_of_render_lookalike :
    Unbroken (lookalike "a\nb") ∧ Unbroken (lookalike "a\\nb") ∧
      render (lookalike "a\nb") true = render (lookalike "a\\nb") true ∧
      (lookalike "a\nb").locale = (lookalike "a\\nb").locale ∧
      SameShape (lookalike "a\nb").actions (lookalike "a\\nb").actions := by
  have hs : Unbroken (lookalike "a\nb") := by decide
  have ht : Unbroken (lookalike "a\\nb") := by decide
  have hrender : render (lookalike "a\nb") true = render (lookalike "a\\nb") true := by
    decide +kernel
  exact ⟨hs, ht, hrender, sameShape_of_render hs ht hrender⟩

end Stagecraft.Outline
