import Stagecraft.Proofs.Outcome
import Stagecraft.Proofs.Text.Bytes
import Stagecraft.Proofs.Trace.Splitting
import Stagecraft.Trace.Read

namespace Stagecraft.Trace

open String (utf8Len)
open Text (Line)

inductive Fault where
  | badCut (start stop : ℕ)
  | negativeDepth
  | noSemicolon
  | noSub (index : ℕ)
  | tooDeep

inductive Stop (ε : Type) where
  | fault (f : Fault)
  | error (e : ε)

abbrev Checked (ε α : Type) := Except (Stop ε) α

namespace Checked

variable {ε α β : Type}

def sound : Except ε α → Checked ε α
  | .ok a => .ok a
  | .error e => .error (.error e)

def fault (f : Fault) : Checked ε α := .error (.fault f)

def mapError {δ : Type} (f : ε → δ) : Checked ε α → Checked δ α
  | .ok a => .ok a
  | .error (.fault f) => .error (.fault f)
  | .error (.error e) => .error (.error (f e))

theorem sound_ok (a : α) : sound (.ok a : Except ε α) = .ok a := rfl

theorem mapError_sound {δ : Type} (f : ε → δ) (a : α) :
    mapError f (sound (.ok a : Except ε α)) = .ok a := rfl

theorem sound_map (f : α → β) (x : Except ε α) : sound (x.map f) = (sound x).map f := by
  cases x <;> rfl

theorem sound_bind (x : Except ε α) (f : α → Except ε β) :
    sound (x >>= f) = sound x >>= fun a ↦ sound (f a) := by
  cases x <;> rfl

theorem sound_mapM (f : α → Except ε β) (xs : List α) :
    sound (xs.mapM f) = xs.mapM fun x ↦ sound (f x) := by
  induction xs with
  | nil => rfl
  | cons x xs ih =>
    rw [List.mapM_cons, List.mapM_cons, sound_bind, ← ih]
    simp only [sound_bind]
    rfl

theorem mapM_congr {f g : α → Checked ε β} {xs : List α} (h : ∀ x ∈ xs, f x = g x) :
    xs.mapM f = xs.mapM g := by
  induction xs with
  | nil => rfl
  | cons x xs ih =>
    obtain ⟨hx, hxs⟩ := List.forall_mem_cons.1 h
    rw [List.mapM_cons, List.mapM_cons, hx, ih hxs]

end Checked

namespace Checked

def slice (start stop : ℕ) (cs : List Char) : Checked ArgumentError (List Char) :=
  match Text.slice? start stop cs with
  | some part => .ok part
  | none => fault (.badCut start stop)

def turn (c : Char) : ℤ :=
  if c = '[' ∨ c = '\x7b' then 1 else if c = ']' ∨ c = '\x7d' then -1 else 0

/-- The trimmed parts of a text between its outer commas, cut out by their offsets. The part being read
begins at `start`, the rest of the text at `here`. -/
def splitFrom (whole : List Char) (depth : ℤ) (start here : ℕ) :
    List Char → Checked ArgumentError (List (List Char))
  | [] =>
    if depth < 0 then fault .negativeDepth
    else if depth ≠ 0 then .error (.error (.unclosed whole))
    else do return [Text.trim (← slice start (utf8Len whole) whole)]
  | c :: cs =>
    if depth < 0 then fault .negativeDepth
    else if c = ',' ∧ depth = 0 then do
      let part ← slice start here whole
      let parts ← splitFrom whole depth (here + 1) (here + c.utf8Size) cs
      return Text.trim part :: parts
    else if depth + turn c < 0 then .error (.error (.unbalanced c whole))
    else splitFrom whole (depth + turn c) start (here + c.utf8Size) cs

mutual

def readArgument : ℕ → List Char → Checked ArgumentError Argument
  | 0, _ => fault .tooDeep
  | depth + 1, cs =>
    match inside? '[' ']' cs with
    | some inner => (readWithin depth (Text.trim inner)).map .list
    | none =>
      match inside? '\x7b' '\x7d' cs with
      | some inner => (readWithin depth (Text.trim inner)).map .position
      | none => sound (readSimple cs)

def readWithin : ℕ → List Char → Checked ArgumentError (List Argument)
  | depth, cs =>
    if cs = [] then .ok []
    else do (← splitFrom cs 0 0 0 cs).mapM (readArgument depth)

end

end Checked

section arguments

variable {whole cs : List Char} {depth : ℕ}

theorem slice_eq {before part behind : List Char} (h : whole = before ++ part ++ behind) :
    Checked.slice (utf8Len before) (utf8Len (before ++ part)) whole = .ok part := by
  have hslice := Text.slice?_eq_some.2 ⟨before, behind, h, rfl, rfl⟩
  rw [Checked.slice, hslice]

theorem depthAfter_eq (depth : ℕ) (c : Char) : depthAfter depth c =
    if (depth : ℤ) + Checked.turn c < 0 then none else some ((depth : ℤ) + Checked.turn c).toNat := by
  rw [depthAfter, Checked.turn]
  split_ifs with hopen hclose hzero
  all_goals first | omega | rfl | (congr 1; omega)

/-- Splitting by offsets never cuts a character, and never counts below zero. `before` is what has been
split off and `current` the part being read. -/
theorem splitFrom_eq (before current : List Char) (depth : ℕ)
    (hwhole : whole = before ++ current ++ cs) :
    Checked.splitFrom whole depth (utf8Len before) (utf8Len (before ++ current)) cs =
      Checked.sound (match splitOutside depth cs with
        | .ok parts => .ok ((prependFirst current parts).map Text.trim)
        | .error (some c) => .error (.unbalanced c whole)
        | .error none => .error (.unclosed whole)) := by
  have hpos : ¬(depth : ℤ) < 0 := by omega
  induction cs generalizing before current depth with
  | nil =>
    rw [Checked.splitFrom, if_neg hpos, splitOutside]
    by_cases hdepth : depth = 0
    · have hslice := slice_eq hwhole
      rw [List.append_nil] at hwhole
      rw [← hwhole] at hslice
      rw [if_neg (by omega), if_pos hdepth, hslice]
      simp only [prependFirst_parts, List.append_nil, List.map_singleton]
      rfl
    · rw [if_pos (by omega), if_neg hdepth]
      rfl
  | cons c cs ih =>
    have hnext : utf8Len (before ++ current) + c.utf8Size = utf8Len (before ++ (current ++ [c])) := by
      simp [Nat.add_assoc]
    rw [Checked.splitFrom, if_neg hpos, splitOutside]
    by_cases hcomma : c = ',' ∧ depth = 0
    · obtain ⟨rfl, rfl⟩ := hcomma
      have hsize : ','.utf8Size = 1 := rfl
      have hstart : utf8Len (before ++ current) + 1 = utf8Len (before ++ current ++ [',']) := by
        simp [hsize, Nat.add_assoc]
      have hrest := ih (before ++ current ++ [',']) [] 0 (by simp [hwhole]) hpos
      rw [List.append_nil, ← hstart] at hrest
      rw [if_pos ⟨rfl, rfl⟩, if_pos ⟨rfl, rfl⟩, slice_eq hwhole, Outcome.ok_bind, hsize, hrest]
      cases splitOutside 0 cs with
      | ok parts =>
        have hnone : prependFirst [] parts = parts := rfl
        simp [Except.map, Checked.sound, hnone]
      | error e => cases e <;> rfl
    · have hcomma' : ¬(c = ',' ∧ (depth : ℤ) = 0) := by
        rwa [Nat.cast_eq_zero]
      rw [if_neg hcomma', if_neg hcomma, depthAfter_eq]
      split_ifs with hclose
      · rfl
      · have hrest := ih before (current ++ [c]) ((depth : ℤ) + Checked.turn c).toNat
          (by simp [hwhole]) (by omega)
        rw [Int.toNat_of_nonneg (by omega)] at hrest
        rw [hnext, hrest]
        dsimp only
        cases splitOutside ((depth : ℤ) + Checked.turn c).toNat cs with
        | ok parts => simp [Except.map, prependFirst]
        | error e => cases e <;> rfl

theorem splitFrom_checked (cs : List Char) :
    Checked.splitFrom cs 0 0 0 cs = Checked.sound (splitArguments cs) := by
  have hcs : cs = [] ++ [] ++ cs := rfl
  have h := splitFrom_eq [] [] 0 hcs
  rw [splitArguments]
  exact h

theorem length_trim_le (cs : List Char) : (Text.trim cs).length ≤ cs.length := by
  have hdrop (ds : List Char) : (ds.dropWhile Text.isBlank).length ≤ ds.length :=
    (List.dropWhile_suffix _).length_le
  rw [Text.trim, Text.trimEnd, List.length_reverse]
  refine (hdrop _).trans ?_
  rw [List.length_reverse]
  exact hdrop cs

theorem length_le_of_consFirst {c : Char} {n : ℕ} {parts : List (List Char)}
    (h : ∀ part ∈ parts, part.length ≤ n) : ∀ part ∈ consFirst c parts, part.length ≤ n + 1 := by
  cases parts with
  | nil => simp [consFirst]
  | cons p ps =>
    obtain ⟨hp, hps⟩ := List.forall_mem_cons.1 h
    refine List.forall_mem_cons.2 ⟨Nat.succ_le_succ hp, fun part hpart ↦ ?_⟩
    exact (hps part hpart).trans (Nat.le_succ n)

theorem length_le_of_splitOutside {parts : List (List Char)}
    (h : splitOutside depth cs = .ok parts) : ∀ part ∈ parts, part.length ≤ cs.length := by
  induction cs generalizing depth parts with
  | nil =>
    rw [splitOutside] at h
    split at h
    · cases h
      simp
    · cases h
  | cons c cs ih =>
    rw [splitOutside] at h
    split at h
    · obtain ⟨rest, hrest, rfl⟩ := Outcome.map_eq_ok.1 h
      refine List.forall_mem_cons.2 ⟨Nat.zero_le _, fun part hpart ↦ ?_⟩
      exact (ih hrest part hpart).trans (Nat.le_succ _)
    · split at h
      · cases h
      · obtain ⟨rest, hrest, rfl⟩ := Outcome.map_eq_ok.1 h
        exact length_le_of_consFirst (ih hrest)

theorem length_lt_of_inside? {opening closing : Char} {inner : List Char}
    (h : inside? opening closing cs = some inner) : inner.length < cs.length := by
  cases cs with
  | nil => cases h
  | cons c cs =>
    rw [inside?] at h
    split at h
    · rw [Text.before?] at h
      split at h
      · cases h
        rw [List.length_dropLast, List.length_cons]
        omega
      · cases h
    · cases h

theorem readWithin_checked {depth' : ℕ}
    (h : ∀ part, part.length ≤ cs.length →
      Checked.readArgument depth part = Checked.sound (readArgument depth' part)) :
    Checked.readWithin depth cs = Checked.sound (readWithin depth' cs) := by
  rw [Checked.readWithin, readWithin, splitFrom_checked]
  split_ifs with hnil
  · rfl
  · cases hparts : splitArguments cs with
    | error e => rfl
    | ok parts =>
      have hlength : ∀ part ∈ parts, part.length ≤ cs.length := by
        rw [splitArguments] at hparts
        split at hparts
        · next raw hraw =>
          cases hparts
          rw [List.forall_mem_map]
          intro part hpart
          exact (length_trim_le part).trans (length_le_of_splitOutside hraw part hpart)
        · cases hparts
        · cases hparts
      rw [Checked.sound, Outcome.ok_bind, Checked.sound_mapM]
      exact Checked.mapM_congr fun part hpart ↦ h part (hlength part hpart)

/-- Brackets are never nested deeper than the text is long, so that it does not matter how much deeper
they might be. -/
theorem readArgument_checked {depth' : ℕ} (hdepth : cs.length < depth)
    (hdepth' : cs.length < depth') :
    Checked.readArgument depth cs = Checked.sound (readArgument depth' cs) := by
  induction depth generalizing depth' cs with
  | zero => omega
  | succ depth ih =>
    cases depth' with
    | zero => omega
    | succ depth' =>
      have hwithin {opening closing : Char} {inner : List Char}
          (h : inside? opening closing cs = some inner) :
          Checked.readWithin depth (Text.trim inner) =
            Checked.sound (readWithin depth' (Text.trim inner)) := by
        have hinner := length_lt_of_inside? h
        have htrim := length_trim_le inner
        apply readWithin_checked
        intro part hpart
        exact ih (by omega) (by omega)
      rw [Checked.readArgument, readArgument]
      cases hlist : inside? '[' ']' cs with
      | some inner => simp only [hwithin hlist, Checked.sound_map]
      | none =>
        cases hposition : inside? '\x7b' '\x7d' cs with
        | some inner => simp only [hwithin hposition, Checked.sound_map]
        | none => rfl

theorem readArguments_checked (hdepth : cs.length < depth) :
    Checked.readWithin depth cs = Checked.sound (readArguments cs) := by
  apply readWithin_checked
  intro part hpart
  exact readArgument_checked (by omega) (by omega)

end arguments

end Stagecraft.Trace
