import Stagecraft.Proofs.Binary64.Bounds
import Stagecraft.Proofs.Json.Rereading
import Stagecraft.Proofs.Json.Records

namespace Stagecraft.Json

open Outcome Draft

section numbers

open Binary64

variable {x : Binary64} {k n : ℕ}

theorem gather_lt (ds : List Char) (h : n < significandBound) : (gather n ds).1 < significandBound := by
  induction ds generalizing n with
  | nil => exact h
  | cons d ds ih =>
    rw [gather]
    split
    · next hm => exact ih hm
    · exact h

theorem significandBound_le : significandBound ≤ 10 ^ 20 := by decide

theorem isFinite_ofInt_of_lt (h : n < significandBound) : (ofInt n).isFinite :=
  isFinite_ofInt (by decide) (h.le.trans significandBound_le)

/-- A power of ten that is in the range is no less than one. -/
theorem tenTo_eq (hk : k ≤ 308) : ∃ r : Fin rankBound, tenTo k = .finite false r ∧ unit ≤ grainsOfRank r := by
  have hone : grainsOfRank (1023 * 2 ^ 52) = unit := by decide +kernel
  obtain ⟨r, hr⟩ := exists_rank_ge
  have hle : 10 ^ k * unit ≤ grainsOfRank r * 1 := by
    rw [Nat.mul_one]
    exact hr k hk _ le_rfl
  obtain ⟨r', hrank, hround⟩ := round_of_le false one_pos hle
  refine ⟨r', ?_, ?_⟩
  · rw [tenTo, ofDecimal_eq_round, ← hround]
    simp
  · rw [← hone]
    refine grainsOfRank_mono (hrank ▸ le_nearestRank one_pos ?_)
    rw [hone, Nat.mul_one]
    exact Nat.le_mul_of_pos_left unit (by positivity)

theorem isFinite_dividedBy (hx : x.isFinite) (hk : k ≤ 308) : (dividedBy x (tenTo k)).isFinite := by
  obtain ⟨r, hr, hunit⟩ := tenTo_eq hk
  cases x with
  | finite s a =>
    rw [hr]
    exact isFinite_round _ (unit_pos.trans_le hunit) (r := a) (Nat.mul_le_mul_left _ hunit)
  | _ => cases hx

theorem isFinite_scaleBy {fuel : ℕ} {e : ℤ} {y : Binary64} (hx : x.isFinite)
    (h : scaleBy fuel x e = some y) : y.isFinite := by
  induction fuel generalizing x e with
  | zero =>
    cases h
    exact hx
  | succ fuel ih =>
    rw [scaleBy] at h
    split at h
    · next he =>
      split at h
      · dsimp only at h
        split at h
        · next hy =>
          cases h
          exact hy
        · cases h
      · cases h
        exact isFinite_dividedBy hx he
    · split at h
      · cases h
        exact hx
      · split at h
        · cases h
        · exact ih (isFinite_dividedBy hx le_rfl) h

end numbers

inductive Finite : Json → Prop
  | null : Finite .null
  | boolean (b : Bool) : Finite (.boolean b)
  | integer {n : ℤ} (h : (Binary64.ofInt n).isFinite) : Finite (.integer n)
  | decimal {x : Binary64} (h : x.isFinite) : Finite (.decimal x)
  | text (s : String) : Finite (.text s)
  | array {js : List Json} (h : ∀ j ∈ js, Finite j) : Finite (.array js)
  | object {fs : List (String × Json)} (h : ∀ f ∈ fs, Finite f.2) : Finite (.object fs)

variable {j : Json} {js : List Json} {fs : List (String × Json)} {cs : List Char}

theorem finite_of_value? {t : NumberText} (h : t.value? = some j) : Finite j := by
  have hwhole := gather_lt t.whole (n := 0) (by decide)
  rw [NumberText.value?] at h
  generalize gather 0 t.whole = whole at h hwhole
  obtain ⟨n, left⟩ := whole
  dsimp only at h hwhole
  split at h
  · split at h
    · cases h
      exact .integer (isFinite_ofInt_of_lt hwhole)
    · split at h
      · cases h
        refine .integer (Binary64.isFinite_ofInt (k := 20) (by decide) ?_)
        rw [Int.natAbs_neg, Int.natAbs_natCast]
        exact hwhole.le.trans significandBound_le
      · cases h
        exact .decimal (Binary64.isFinite_neg (isFinite_ofInt_of_lt hwhole))
  · have hfraction := gather_lt t.fraction hwhole
    obtain ⟨x, hx, rfl⟩ := Option.map_eq_some_iff.1 h
    have hfinite := isFinite_scaleBy (isFinite_ofInt_of_lt hfraction) hx
    refine .decimal ?_
    split
    · exact Binary64.isFinite_neg hfinite
    · exact hfinite

theorem finite_of_draftNumber (h : (draftNumber cs).1.read = .ok j) : Finite j := by
  rw [draftNumber] at h
  split at h
  · cases h
  · split at h
    · next n hvalue =>
      cases h
      exact finite_of_value? hvalue
    · next x hvalue =>
      cases h
      exact finite_of_value? hvalue
    · cases h

theorem finite_of_draftQuoted (h : (draftQuoted cs).1.read = .ok j) : Finite j := by
  rw [draftQuoted] at h
  split at h
  · cases h
    exact .text _
  · cases h
  · cases h

theorem finite_of_draftWord {d : Draft} {word : List Char} (hd : ∀ i, d.read = .ok i → Finite i)
    (h : (draftWord d word cs).1.read = .ok j) : Finite j := by
  induction word generalizing cs with
  | nil => exact hd j h
  | cons w word ih =>
    cases cs with
    | nil => cases h
    | cons c cs =>
      rw [draftWord] at h
      split at h
      · exact ih h
      · cases h

/-- The items behind an opening bracket or a comma. -/
theorem finite_of_item {s : Scanned} {more : List Char → List Draft × Option Fault × Option (List Char)}
    (hs : ∀ j, s.1.read = .ok j → Finite j)
    (hmore : ∀ rest js, readItems (more rest).1 = .ok js → ∀ j ∈ js, Finite j)
    (h : readItems (match s with
      | (d, none) => ([d], none, none)
      | (d, some rest) =>
        let (ds, ending, rest) := more rest
        (d :: ds, ending, rest)).1 = .ok js) : ∀ j ∈ js, Finite j := by
  obtain ⟨d, rest⟩ := s
  cases rest with
  | none =>
    obtain ⟨j, hj, h⟩ := bind_eq_ok.1 h
    cases h
    exact List.forall_mem_singleton.2 (hs j hj)
  | some rest =>
    obtain ⟨j, hj, h⟩ := bind_eq_ok.1 h
    obtain ⟨js, hjs, h⟩ := bind_eq_ok.1 h
    cases h
    exact List.forall_mem_cons.2 ⟨hs j hj, hmore rest js hjs⟩

/-- The fields behind an opening brace or a comma. -/
theorem finite_of_field {key : Scanned} {value : List Char → Scanned}
    {more : List Char → List (Draft × Draft) × Option Fault × Option (List Char)}
    (hvalue : ∀ rest j, (value rest).1.read = .ok j → Finite j)
    (hmore : ∀ rest fs, readFields (more rest).1 = .ok fs → ∀ f ∈ fs, Finite f.2)
    (h : readFields (match key with
      | (key, none) => ([(key, Draft.broken (.absent .malformed))], none, none)
      | (key, some rest) =>
        match skipSpace rest with
        | [] => ([(key, Draft.broken (.absent .truncated))], none, none)
        | c :: rest =>
          if c = ':' then
            match value rest with
            | (d, none) => ([(key, d)], none, none)
            | (d, some rest) =>
              let (fs, ending, rest) := more rest
              ((key, d) :: fs, ending, rest)
          else ([(key, .broken (.absent .malformed))], none, none)).1 = .ok fs) :
    ∀ f ∈ fs, Finite f.2 := by
  -- A name without a value cannot be read.
  have hbroken {k : Draft} {failure : Failure} :
      readFields [(k, .broken failure)] = .ok fs → ∀ f ∈ fs, Finite f.2 := by
    intro h
    obtain ⟨name, -, h⟩ := bind_eq_ok.1 h
    obtain ⟨j, ⟨⟩, -⟩ := bind_eq_ok.1 h
  obtain ⟨key, rest⟩ := key
  cases rest with
  | none => exact hbroken h
  | some rest =>
    dsimp only at h
    split at h
    · exact hbroken h
    · next c rest _ =>
      split at h
      · have hvalue := hvalue rest
        generalize value rest = v at h hvalue
        obtain ⟨d, left⟩ := v
        cases left with
        | none =>
          obtain ⟨name, -, h⟩ := bind_eq_ok.1 h
          obtain ⟨j, hj, h⟩ := bind_eq_ok.1 h
          cases h
          exact List.forall_mem_singleton.2 (hvalue j hj)
        | some rest =>
          obtain ⟨name, -, h⟩ := bind_eq_ok.1 h
          obtain ⟨j, hj, h⟩ := bind_eq_ok.1 h
          obtain ⟨fs, hfs, h⟩ := bind_eq_ok.1 h
          cases h
          exact List.forall_mem_cons.2 ⟨hvalue j hj, hmore rest fs hfs⟩
      · exact hbroken h

mutual

/-- Whatever is read from a text has finite numbers only. -/
theorem finite_of_scanValue : ∀ {fuel depth cs j}, (scanValue fuel depth cs).1.read = .ok j → Finite j
  | 0, _, _, _, h => nomatch h
  | fuel + 1, depth, cs, j, h => by
    rw [scanValue] at h
    split at h
    · cases h
    · exact finite_of_draftQuoted h
    · obtain ⟨js, hjs, h⟩ := bind_eq_ok.1 (read_limitDepth h)
      obtain ⟨-, -, h⟩ := bind_eq_ok.1 h
      cases h
      exact .array (finite_of_scanItems hjs)
    · obtain ⟨fs, hfs, h⟩ := bind_eq_ok.1 (read_limitDepth h)
      obtain ⟨-, -, h⟩ := bind_eq_ok.1 h
      cases h
      exact .object (finite_of_scanFields hfs)
    · exact finite_of_draftWord (by rintro _ ⟨⟩; exact .null) h
    · exact finite_of_draftWord (by rintro _ ⟨⟩; exact .boolean true) h
    · exact finite_of_draftWord (by rintro _ ⟨⟩; exact .boolean false) h
    · split at h
      · exact finite_of_draftNumber h
      · cases h
termination_by fuel => fuel

theorem finite_of_scanItems : ∀ {fuel depth first cs js},
    readItems (scanItems fuel depth first cs).1 = .ok js → ∀ j ∈ js, Finite j
  | 0, _, _, _, _, h => by
    cases h
    exact nofun
  | fuel + 1, depth, first, cs, js, h => by
    have hvalue (rest j) : (scanValue fuel depth rest).1.read = .ok j → Finite j := finite_of_scanValue
    have hmore (rest js) :
        readItems (scanItems fuel depth false rest).1 = .ok js → ∀ j ∈ js, Finite j :=
      finite_of_scanItems
    rw [scanItems] at h
    dsimp only at h
    split at h
    · cases h
      exact nofun
    · split at h
      · cases h
        exact nofun
      · split at h
        · exact finite_of_item (hvalue _) hmore h
        · split at h
          · exact finite_of_item (hvalue _) hmore h
          · cases h
            exact nofun
termination_by fuel => fuel

theorem finite_of_scanFields : ∀ {fuel depth first cs fs},
    readFields (scanFields fuel depth first cs).1 = .ok fs → ∀ f ∈ fs, Finite f.2
  | 0, _, _, _, _, h => by
    cases h
    exact nofun
  | fuel + 1, depth, first, cs, fs, h => by
    have hvalue (rest j) : (scanValue fuel depth rest).1.read = .ok j → Finite j := finite_of_scanValue
    have hmore (rest fs) :
        readFields (scanFields fuel depth false rest).1 = .ok fs → ∀ f ∈ fs, Finite f.2 :=
      finite_of_scanFields
    rw [scanFields] at h
    dsimp only at h
    split at h
    · cases h
      exact nofun
    · split at h
      · cases h
        exact nofun
      · split at h
        · exact finite_of_field hvalue hmore h
        · split at h
          · exact finite_of_field hvalue hmore h
          · cases h
            exact nofun
termination_by fuel => fuel

end

theorem finite_of_ofText {s : String} (h : (Document.ofText s).root.read = .ok j) : Finite j := by
  rw [Document.ofText] at h
  generalize hscan : scanValue _ _ _ = scanned at h
  have hroot : scanned.1.read = .ok j := by
    obtain ⟨d, _ | rest⟩ := scanned
    · exact h
    · exact h
  exact finite_of_scanValue (hscan ▸ hroot)

variable {α β : Type}

def Decoder.Ensures (dec : Decoder α) (P : α → Prop) : Prop :=
  ∀ o j a, Finite j → dec o (ofJson j) = .ok a → P a

structure Fields.Ensures (x : Fields α) (P : α → Prop) : Prop where
  ofObject : ∀ o fs a, (∀ f ∈ fs, Finite f.2) → x.ofObject o (ofFields fs) = .ok a → P a
  ofArray : ∀ o wanted n js a left, (∀ j ∈ js, Finite j) →
    x.ofArray o wanted ⟨n, ofItems js, none⟩ = .ok (a, left) →
    P a ∧ ∃ m js', (∀ j ∈ js', Finite j) ∧ left = ⟨m, ofItems js', none⟩

section Ensures

variable {dec : Decoder α} {P : α → Prop} {Q : β → Prop} {o : Origin}

theorem Decoder.Ensures.integer :
    Decoder.integer.Ensures fun n ↦ Binary64.minId ≤ n ∧ n ≤ Binary64.maxId := by
  intro o j n _ h
  cases j with
  | integer m =>
    rw [Decoder.integer, ofJson, Decoder.integerIn] at h
    split at h
    · next hm =>
      cases h
      exact hm
    · cases h
  | _ => cases h

theorem Decoder.Ensures.number : Decoder.number.Ensures fun x ↦ x.isFinite := by
  intro o j x hj h
  cases hj with
  | integer hn =>
    cases h
    exact hn
  | decimal hx =>
    cases h
    exact hx
  | _ => cases h

theorem Decoder.Ensures.list (hdec : dec.Ensures P) : dec.list.Ensures fun as ↦ ∀ a ∈ as, P a := by
  intro o j as hj h
  cases hj with
  | array hjs =>
    intro a ha
    obtain ⟨j, hj, hdecoded⟩ := exists_left (Decoder.list_eq_ok.1 h) ha
    exact hdec o j a (hjs j hj) hdecoded
  | _ => cases h

theorem Fields.Ensures.field (hdec : dec.Ensures P) (name : String) {absent : Option α}
    (habsent : ∀ a ∈ absent, P a) : (Fields.field name dec absent).Ensures P where
  ofObject o fs a hfs h := by
    rw [field_ofObject_eq_ok] at h
    split at h
    · next j hj =>
      obtain ⟨before, behind, rfl, -⟩ := List.lookup_eq_some_iff.1 hj
      exact hdec o j a (hfs (name, j) (by simp)) h
    · exact habsent a h
  ofArray o wanted n js a left hjs h := by
    cases js with
    | nil =>
      cases absent with
      | none => cases h
      | some b =>
        cases h
        exact ⟨habsent a rfl, n, [], nofun, rfl⟩
    | cons j js =>
      obtain ⟨hj, hjs⟩ := List.forall_mem_cons.1 hjs
      obtain ⟨b, hb, h⟩ := bind_eq_ok.1 h
      cases h
      exact ⟨hdec o j a hj hb, n + 1, js, hjs, rfl⟩

theorem Fields.Ensures.map {x : Fields α} (hx : x.Ensures P) {f : α → β} (hf : ∀ a, P a → Q (f a)) :
    (f <$> x).Ensures Q where
  ofObject o fs b hfs h := by
    obtain ⟨a, ha, rfl⟩ := map_eq_ok.1 h
    exact hf a (hx.ofObject o fs a hfs ha)
  ofArray o wanted n js b left hjs h := by
    obtain ⟨⟨a, _⟩, ha, h⟩ := map_eq_ok.1 h
    cases h
    obtain ⟨ha, hleft⟩ := hx.ofArray o wanted n js a left hjs ha
    exact ⟨hf a ha, hleft⟩

theorem Fields.Ensures.seq {f : Fields (α → β)} {x : Fields α}
    (hf : f.Ensures fun g ↦ ∀ a, P a → Q (g a)) (hx : x.Ensures P) : (f <*> x).Ensures Q where
  ofObject o fs b hfs h := by
    obtain ⟨g, a, hg, ha, rfl⟩ := Placed.both_eq_ok.1 h
    exact hf.ofObject o fs g hfs hg a (hx.ofObject o fs a hfs ha)
  ofArray o wanted n js b left hjs h := by
    obtain ⟨⟨g, left'⟩, hg, h⟩ := bind_eq_ok.1 h
    obtain ⟨hgives, m, js', hjs', rfl⟩ := hf.ofArray o wanted n js g left' hjs hg
    obtain ⟨⟨a, left''⟩, ha, h⟩ := bind_eq_ok.1 h
    obtain ⟨hpa, hleft⟩ := hx.ofArray o wanted m js' a left'' hjs' ha
    cases h
    exact ⟨hgives a hpa, hleft⟩

theorem Decoder.Ensures.record {x : Fields α} (hx : x.Ensures P) (wanted : String) :
    (Decoder.record wanted x).Ensures P := by
  intro o j a hj h
  cases hj with
  | object hfs => exact hx.ofObject o _ a hfs (Decoder.ofObject_eq_ok.1 h).2
  | array hjs =>
    obtain ⟨⟨b, left⟩, hb, h⟩ := bind_eq_ok.1 h
    obtain ⟨-, -, h⟩ := bind_eq_ok.1 h
    cases h
    exact (hx.ofArray o _ 0 _ _ left hjs hb).1
  | _ => cases h

end Ensures

end Stagecraft.Json
