import Stagecraft.Proofs.Json.Number

namespace Stagecraft.Json

theorem quad?_escape {n : ℕ} (hn : n < 0x20) :
    quad? '0' '0' (Nat.digitChar (n / 16)) (Nat.digitChar (n % 16)) = some n := by
  have h : ∀ m < 0x20, quad? '0' '0' (Nat.digitChar (m / 16)) (Nat.digitChar (m % 16)) = some m := by
    decide
  exact h n hn

theorem scanQuoted_escape (c : Char) (cs : List Char) :
    scanQuoted (escape c ++ cs) = (scanQuoted cs).map fun (s, tail) ↦ (c :: s, tail) := by
  rw [escape]
  split
  · next h => subst h; rfl
  split
  · next h => subst h; rfl
  split
  · next h => subst h; rfl
  split
  · next h => subst h; rfl
  split
  · next h => subst h; rfl
  split
  · next h => subst h; rfl
  split
  · next h => subst h; rfl
  next hslash _ _ _ _ _ =>
  split
  · next h =>
    have hlow : isLowSurrogate c.toNat = false := by
      simp only [isLowSurrogate, Bool.and_eq_false_iff, decide_eq_false_iff_not]
      omega
    have hhigh : isHighSurrogate c.toNat = false := by
      simp only [isHighSurrogate, Bool.and_eq_false_iff, decide_eq_false_iff_not]
      omega
    simp [scanQuoted, quad?_escape h, hlow, hhigh]
  · next h =>
    simp [scanQuoted, hslash, h]

theorem scanQuoted_writeText (cs rest : List Char) :
    scanQuoted (cs.flatMap escape ++ '"' :: rest) = .ok (cs, rest) := by
  induction cs with
  | nil => rw [List.flatMap_nil, List.nil_append, scanQuoted]
  | cons c cs ih => rw [List.flatMap_cons, List.append_assoc, scanQuoted_escape, ih]; rfl

theorem draftQuoted_writeText (s : String) (rest : List Char) :
    draftQuoted (s.toList.flatMap escape ++ '"' :: rest) = (.text s, some rest) := by
  rw [draftQuoted, scanQuoted_writeText]
  simp

def Blank (cs : List Char) : Prop := ∀ c ∈ cs, isSpace c

def separator (first : Bool) : List Char := if first then [] else [',']

mutual

inductive Written : Json → List Char → Prop
  | null : Written .null ['n', 'u', 'l', 'l']
  | boolean (b : Bool) : Written (.boolean b) (writeScalar (.boolean b))
  | integer (n : ℤ) : Written (.integer n) (Numeral.integer n)
  | decimal (x : Binary64) : Written (.decimal x) (writeDecimal x)
  | text (s : String) : Written (.text s) (writeText s)
  | array {js cs} (h : WrittenItems true js cs) : Written (.array js) ('[' :: cs)
  | object {fs cs} (h : WrittenFields true fs cs) : Written (.object fs) ('\x7b' :: cs)

inductive WrittenItems : Bool → List Json → List Char → Prop
  | close {first b} (hb : Blank b) : WrittenItems first [] (b ++ [']'])
  | item {first b j js cs more} (hb : Blank b) (hj : Written j cs) (hjs : WrittenItems false js more) :
    WrittenItems first (j :: js) (separator first ++ (b ++ (cs ++ more)))

inductive WrittenFields : Bool → List (String × Json) → List Char → Prop
  | close {first b} (hb : Blank b) : WrittenFields first [] (b ++ ['\x7d'])
  | field {first b k b' j fs cs more} (hb : Blank b) (hb' : Blank b') (hj : Written j cs)
    (hfs : WrittenFields false fs more) :
    WrittenFields first ((k, j) :: fs)
      (separator first ++ (b ++ (writeText k ++ ':' :: (b' ++ (cs ++ more)))))

end

mutual

def Draft.written (depth : ℕ) : Json → Draft
  | .null => .null
  | .boolean b => .boolean b
  | .integer n => (NumberText.ofInt n).draft
  | .decimal x => if x.isFinite then .ofNumber x else .null
  | .text s => .text s
  | .array js => limitDepth depth (.array (writtenItems (depth + 1) js) none)
  | .object fs => limitDepth depth (.object (writtenFields (depth + 1) fs) none)

def Draft.writtenItems (depth : ℕ) : List Json → List Draft
  | [] => []
  | j :: js => written depth j :: writtenItems depth js

def Draft.writtenFields (depth : ℕ) : List (String × Json) → List (Draft × Draft)
  | [] => []
  | (k, j) :: fs => (.text k, written depth j) :: writtenFields depth fs

end

variable {fuel depth : ℕ} {j : Json} {js : List Json} {fs : List (String × Json)} {first : Bool}
  {b cs rest : List Char}

theorem skipSpace_append (hb : Blank b) : skipSpace (b ++ cs) = skipSpace cs :=
  List.dropWhile_append_of_pos hb

theorem scanValue_skip (hb : Blank b) : scanValue fuel depth (b ++ cs) = scanValue fuel depth cs := by
  cases fuel with
  | zero => rw [scanValue, scanValue]
  | succ fuel => rw [scanValue, scanValue, skipSpace_append hb]

theorem Written.head (h : Written j cs) :
    ∃ c more, cs = c :: more ∧ isSpace c = false ∧ c ≠ ']' ∧ c ≠ '\x7d' := by
  have hnumber : ∀ t : NumberText, t.Proper →
      ∃ c more, t.spelling = c :: more ∧ isSpace c = false ∧ c ≠ ']' ∧ c ≠ '\x7d' := by
    intro t ht
    obtain ⟨c, more, hcs, hc⟩ := ht.head_spelling
    refine ⟨c, more, hcs, ?_⟩
    rcases hc with rfl | hc
    · decide
    · simp [isSpace, Numeral.ne_of_isDigit hc]
  cases h with
  | null => exact ⟨_, _, rfl, by decide⟩
  | boolean b => cases b <;> exact ⟨_, _, rfl, by decide⟩
  | integer n => exact spelling_ofInt n ▸ hnumber _ (proper_ofInt n)
  | decimal x =>
    rw [writeDecimal]
    split
    · next hx =>
      obtain ⟨t, ht, -, hcs⟩ := exists_spelling hx
      exact hcs ▸ hnumber t ht
    · exact ⟨_, _, rfl, by decide⟩
  | text s => exact ⟨_, _, rfl, by decide⟩
  | array h => exact ⟨_, _, rfl, by decide⟩
  | object h => exact ⟨_, _, rfl, by decide⟩

theorem scanValue_number {t : NumberText} (ht : t.Proper) (rest : List Char) :
    scanValue (fuel + 1) depth (t.spelling ++ rest) = draftNumber (t.spelling ++ rest) := by
  obtain ⟨c, more, hcs, hc⟩ := ht.head_spelling
  rw [hcs, List.cons_append]
  have hspace : skipSpace (c :: (more ++ rest)) = c :: (more ++ rest) := by
    rcases hc with rfl | hc
    · rfl
    · simp [skipSpace, isSpace, Numeral.ne_of_isDigit hc]
  rw [scanValue, hspace]
  rcases hc with rfl | hc
  · rfl
  · simp [Numeral.ne_of_isDigit hc, hc]

theorem ends_blank (hb : Blank b) {c : Char} (hc : c = ',' ∨ c = ']' ∨ c = '\x7d') (rest : List Char) :
    Ends (b ++ c :: rest) := by
  intro d hd
  cases b with
  | nil =>
    cases hd
    rcases hc with rfl | rfl | rfl <;> decide
  | cons e b =>
    cases hd
    have hspace : ((d = ' ' ∨ d = '\n') ∨ d = '\t') ∨ d = '\r' := by
      simpa [isSpace] using hb d List.mem_cons_self
    rcases hspace with ((rfl | rfl) | rfl) | rfl <;> decide

theorem Blank.nil : Blank [] := nofun

theorem WrittenItems.ends (h : WrittenItems false js cs) (rest : List Char) : Ends (cs ++ rest) := by
  cases h with
  | close hb =>
    rw [List.append_assoc]
    exact ends_blank hb (.inr (.inl rfl)) rest
  | item hb hj hjs => exact ends_blank .nil (.inl rfl) _

theorem WrittenFields.ends (h : WrittenFields false fs cs) (rest : List Char) :
    Ends (cs ++ rest) := by
  cases h with
  | close hb =>
    rw [List.append_assoc]
    exact ends_blank hb (.inr (.inr rfl)) rest
  | field hb hb' hj hfs => exact ends_blank .nil (.inl rfl) _

mutual

theorem scanValue_written : ∀ {fuel depth j cs rest}, Written j cs → 2 * cs.length ≤ fuel + 1 →
    Ends rest → scanValue fuel depth (cs ++ rest) = (Draft.written depth j, some rest)
  | 0, _, _, _, _, h, hfuel, _ => by
    obtain ⟨c, more, rfl, -⟩ := h.head
    simp only [List.length_cons] at hfuel
    omega
  | fuel + 1, depth, _, _, rest, .null, _, _ => rfl
  | fuel + 1, depth, _, _, rest, .boolean b, _, _ => by cases b <;> rfl
  | fuel + 1, depth, _, _, rest, .integer n, _, hrest => by
    rw [← spelling_ofInt, scanValue_number (proper_ofInt n), spelling_ofInt,
      draftNumber_integer n hrest, Draft.written]
  | fuel + 1, depth, _, _, rest, .decimal x, _, hrest => by
    rw [writeDecimal, Draft.written]
    split
    · next hx =>
      obtain ⟨t, ht, -, hcs⟩ := exists_spelling hx
      rw [← hcs, scanValue_number ht, hcs, draftNumber_write hx hrest]
    · rfl
  | fuel + 1, depth, _, _, rest, .text s, _, _ => by
    have h := draftQuoted_writeText s rest
    simpa [writeText, scanValue, skipSpace, isSpace, Draft.written] using h
  | fuel + 1, depth, _, _, rest, @Written.array js cs h, hfuel, _ => by
    have hitems : scanItems fuel (depth + 1) true (cs ++ rest) =
        (Draft.writtenItems (depth + 1) js, none, some rest) :=
      scanItems_written h (by simp only [List.length_cons] at hfuel; omega)
    have hspace : skipSpace ('[' :: cs ++ rest) = '[' :: (cs ++ rest) := rfl
    rw [scanValue, hspace]
    simp only [hitems, Draft.written]
  | fuel + 1, depth, _, _, rest, @Written.object fs cs h, hfuel, _ => by
    have hfields : scanFields fuel (depth + 1) true (cs ++ rest) =
        (Draft.writtenFields (depth + 1) fs, none, some rest) :=
      scanFields_written h (by simp only [List.length_cons] at hfuel; omega)
    have hspace : skipSpace ('\x7b' :: cs ++ rest) = '\x7b' :: (cs ++ rest) := rfl
    rw [scanValue, hspace]
    simp only [hfields, Draft.written]
termination_by fuel => fuel

theorem scanItems_written : ∀ {fuel depth first js cs rest}, WrittenItems first js cs →
    2 * cs.length ≤ fuel →
    scanItems fuel depth first (cs ++ rest) = (Draft.writtenItems depth js, none, some rest)
  | fuel, depth, first, _, _, rest, @WrittenItems.close _ b hb, hfuel => by
    obtain ⟨fuel, rfl⟩ : ∃ n, fuel = n + 1 := ⟨fuel - 1, by simp at hfuel; omega⟩
    have hspace : skipSpace (b ++ [']'] ++ rest) = ']' :: rest := by
      rw [List.append_assoc, skipSpace_append hb]
      rfl
    rw [scanItems, hspace]
    rfl
  | fuel, depth, first, _, _, rest, @WrittenItems.item _ b j js cs more hb hj hjs, hfuel => by
    obtain ⟨c, tail, rfl, hspace, hclose, -⟩ := hj.head
    obtain ⟨fuel, rfl⟩ : ∃ n, fuel = n + 1 := ⟨fuel - 1, by simp at hfuel; omega⟩
    have hlen : 2 * (c :: tail).length ≤ fuel + 1 ∧ 2 * more.length ≤ fuel := by
      simp only [List.length_append, List.length_cons] at hfuel ⊢
      omega
    have hvalue := @scanValue_written fuel depth _ _ _ hj hlen.1 (hjs.ends rest)
    have hmore := @scanItems_written fuel depth _ _ _ rest hjs hlen.2
    have hskip : skipSpace (b ++ (c :: (tail ++ (more ++ rest)))) = c :: (tail ++ (more ++ rest)) := by
      rw [skipSpace_append hb]
      simp [skipSpace, hspace]
    cases first with
    | true =>
      simp only [separator, if_true, List.nil_append, List.append_assoc, List.cons_append] at hvalue ⊢
      rw [scanItems, hskip]
      simp only [hclose, if_false, if_true, hvalue, hmore, Draft.writtenItems]
    | false =>
      have hcomma : skipSpace (',' :: (b ++ (c :: (tail ++ (more ++ rest))))) =
          ',' :: (b ++ (c :: (tail ++ (more ++ rest)))) := rfl
      simp only [separator, Bool.false_eq_true, if_false, List.cons_append, List.nil_append,
        List.append_assoc] at hvalue ⊢
      rw [scanItems, hcomma]
      simp only [Char.reduceEq, if_false, if_true, Bool.false_eq_true, scanValue_skip hb, hvalue, hmore,
        Draft.writtenItems]
termination_by fuel => fuel

theorem scanFields_written : ∀ {fuel depth first fs cs rest}, WrittenFields first fs cs →
    2 * cs.length ≤ fuel →
    scanFields fuel depth first (cs ++ rest) = (Draft.writtenFields depth fs, none, some rest)
  | fuel, depth, first, _, _, rest, @WrittenFields.close _ b hb, hfuel => by
    obtain ⟨fuel, rfl⟩ : ∃ n, fuel = n + 1 := ⟨fuel - 1, by simp at hfuel; omega⟩
    have hspace : skipSpace (b ++ ['\x7d'] ++ rest) = '\x7d' :: rest := by
      rw [List.append_assoc, skipSpace_append hb]
      rfl
    rw [scanFields, hspace]
    rfl
  | fuel, depth, first, _, _, rest, @WrittenFields.field _ b k b' j fs cs more hb hb' hj hfs,
      hfuel => by
    obtain ⟨fuel, rfl⟩ : ∃ n, fuel = n + 1 := ⟨fuel - 1, by simp at hfuel; omega⟩
    have hlen : 2 * (writeText k).length ≤ fuel + 1 ∧ 2 * cs.length ≤ fuel + 1 ∧
        2 * more.length ≤ fuel := by
      simp only [List.length_append, List.length_cons] at hfuel
      omega
    have hcolon : Ends (':' :: (b' ++ (cs ++ (more ++ rest)))) := by
      rintro c ⟨⟩
      decide
    have hkey := @scanValue_written fuel depth _ _ _ (.text k) hlen.1 hcolon
    have hskip : skipSpace (':' :: (b' ++ (cs ++ (more ++ rest)))) =
        ':' :: (b' ++ (cs ++ (more ++ rest))) := rfl
    have hvalue := @scanValue_written fuel depth _ _ _ hj hlen.2.1 (hfs.ends rest)
    have hmore := @scanFields_written fuel depth _ _ _ rest hfs hlen.2.2
    have hquote : ∃ cs, writeText k = '"' :: cs := ⟨_, rfl⟩
    obtain ⟨name, hname⟩ := hquote
    rw [hname] at hkey ⊢
    rw [Draft.written] at hkey
    cases first with
    | true =>
      have hfirst : skipSpace (b ++ '"' :: (name ++ ':' :: (b' ++ (cs ++ (more ++ rest))))) =
          '"' :: (name ++ ':' :: (b' ++ (cs ++ (more ++ rest)))) := by
        rw [skipSpace_append hb]
        rfl
      simp only [separator, if_true, List.nil_append, List.append_assoc, List.cons_append] at hkey ⊢
      rw [scanFields, hfirst]
      simp only [Char.reduceEq, if_false, if_true, hkey, hskip, scanValue_skip hb', hvalue, hmore,
        Draft.writtenFields]
    | false =>
      have hcomma : skipSpace (',' :: (b ++ '"' :: (name ++ ':' :: (b' ++ (cs ++ (more ++ rest)))))) =
          ',' :: (b ++ '"' :: (name ++ ':' :: (b' ++ (cs ++ (more ++ rest))))) := rfl
      simp only [separator, Bool.false_eq_true, if_false, List.cons_append, List.nil_append,
        List.append_assoc] at hkey ⊢
      rw [scanFields, hcomma]
      simp only [Char.reduceEq, if_false, if_true, Bool.false_eq_true, scanValue_skip hb, hkey, hskip,
        scanValue_skip hb', hvalue, hmore, Draft.writtenFields]
termination_by fuel => fuel

end

/-- What a written value is read as when blanks follow it. -/
theorem Document.ofText_written (h : Written j cs) (hb : Blank b) :
    Document.ofText (String.ofList (cs ++ b)) = ⟨Draft.written 0 j, false⟩ := by
  have hrest : Ends b := by
    intro c hc
    have hspace : ((c = ' ' ∨ c = '\n') ∨ c = '\t') ∨ c = '\r' := by
      simpa [isSpace] using hb c (List.mem_of_mem_head? hc)
    rcases hspace with ((rfl | rfl) | rfl) | rfl <;> decide
  have hfuel : 2 * cs.length ≤ scanFuel (cs ++ b) + 1 := by
    rw [scanFuel, List.length_append]
    omega
  have htail : skipSpace b = [] := by
    rw [← List.append_nil b, skipSpace_append hb]
    rfl
  rw [Document.ofText, String.toList_ofList]
  simp only [scanValue_written h hfuel hrest, htail, ne_eq, not_true, decide_false]

theorem Written.firstItem {more : List Char} (h : Written j cs) (hb : Blank b)
    (hmore : WrittenItems false js more) : WrittenItems true (j :: js) (b ++ (cs ++ more)) :=
  .item hb h hmore

theorem Written.firstField {b' more : List Char} (h : Written j cs) (k : String) (hb : Blank b)
    (hb' : Blank b') (hmore : WrittenFields false fs more) :
    WrittenFields true ((k, j) :: fs) (b ++ (writeText k ++ ':' :: (b' ++ (cs ++ more)))) :=
  .field hb hb' h hmore

theorem WrittenItems.behind (h : WrittenItems true (j :: js) cs) :
    WrittenItems false (j :: js) (',' :: cs) := by
  cases h with
  | item hb hj hjs => exact .item hb hj hjs

theorem WrittenFields.behind {f : String × Json} (h : WrittenFields true (f :: fs) cs) :
    WrittenFields false (f :: fs) (',' :: cs) := by
  cases h with
  | field hb hb' hj hfs => exact .field hb hb' hj hfs

mutual

theorem written_write : ∀ j : Json, Written j j.write
  | .null => .null
  | .boolean b => .boolean b
  | .integer n => .integer n
  | .decimal x => .decimal x
  | .text s => .text s
  | .array js => .array (writtenItems_write js)
  | .object fs => .object (writtenFields_write fs)

theorem writtenItems_write : ∀ js : List Json, WrittenItems true js (writeItems js ++ [']'])
  | [] => .close .nil
  | [j] => by
    have h := (written_write j).firstItem .nil (.close .nil)
    simpa [writeItems] using h
  | j :: k :: js => by
    have h := (written_write j).firstItem .nil (writtenItems_write (k :: js)).behind
    simpa [writeItems] using h

theorem writtenFields_write :
    ∀ fs : List (String × Json), WrittenFields true fs (writeFields fs ++ ['\x7d'])
  | [] => .close .nil
  | [(k, j)] => by
    have h := (written_write j).firstField k .nil .nil (.close .nil)
    simpa [writeFields] using h
  | (k, j) :: f :: fs => by
    have h := (written_write j).firstField k .nil .nil (writtenFields_write (f :: fs)).behind
    simpa [writeFields] using h

end

theorem blank_newline (depth : ℕ) : Blank (newline depth) := by
  intro c hc
  rcases List.mem_cons.1 hc with rfl | hc
  · rfl
  · rw [List.eq_of_mem_replicate hc]
    rfl

theorem blank_space : Blank [' '] := by
  rintro c hc
  rw [List.mem_singleton.1 hc]
  rfl

mutual

theorem written_indented : ∀ (depth : ℕ) (j : Json), Written j (j.writeIndented depth)
  | _, .null => .null
  | _, .boolean b => .boolean b
  | _, .integer n => .integer n
  | _, .decimal x => .decimal x
  | _, .text s => .text s
  | _, .array [] => .array (.close .nil)
  | depth, .array (j :: js) => by
    rw [writeIndented]
    exact .array (writtenItems_indented (depth + 1) (j :: js) (blank_newline depth))
    exact nofun
  | _, .object [] => .object (.close .nil)
  | depth, .object (f :: fs) => by
    rw [writeIndented]
    exact .object (writtenFields_indented (depth + 1) (f :: fs) (blank_newline depth))
    exact nofun

theorem writtenItems_indented : ∀ (depth : ℕ) (js : List Json) {b : List Char}, Blank b →
    WrittenItems true js (indentedItems depth js ++ b ++ [']'])
  | _, [], _, hb => .close hb
  | depth, [j], b, hb => by
    have h := (written_indented depth j).firstItem (blank_newline depth) (.close hb)
    simpa [indentedItems] using h
  | depth, j :: k :: js, b, hb => by
    have h := (written_indented depth j).firstItem (blank_newline depth)
      (writtenItems_indented depth (k :: js) hb).behind
    simpa [indentedItems] using h

theorem writtenFields_indented : ∀ (depth : ℕ) (fs : List (String × Json)) {b : List Char}, Blank b →
    WrittenFields true fs (indentedFields depth fs ++ b ++ ['\x7d'])
  | _, [], _, hb => .close hb
  | depth, [(k, j)], b, hb => by
    have h := (written_indented depth j).firstField k (blank_newline depth) blank_space (.close hb)
    simpa [indentedFields] using h
  | depth, (k, j) :: f :: fs, b, hb => by
    have h := (written_indented depth j).firstField k (blank_newline depth) blank_space
      (writtenFields_indented depth (f :: fs) hb).behind
    simpa [indentedFields] using h

end

end Stagecraft.Json
