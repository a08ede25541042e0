import Mathlib.Tactic
import Stagecraft.Json.Decode
import Stagecraft.Proofs.Outcome

namespace Stagecraft.Json

open Outcome Draft

variable {α β : Type}

mutual

@[simp] theorem Draft.fault?_ofJson (j : Json) : (ofJson j).fault? = none := by
  cases j with
  | array js => rw [ofJson, fault?, itemsFault?_ofItems js]; rfl
  | object fs => rw [ofJson, fault?, fieldsFault?_ofFields fs]; rfl
  | _ => rfl

theorem Draft.itemsFault?_ofItems (js : List Json) : itemsFault? (ofItems js) = none := by
  cases js with
  | nil => rfl
  | cons j js => rw [ofItems, itemsFault?, fault?_ofJson j, itemsFault?_ofItems js]; rfl

theorem Draft.fieldsFault?_ofFields (fs : List (String × Json)) :
    fieldsFault? (ofFields fs) = none := by
  cases fs with
  | nil => rfl
  | cons f fs =>
    rw [ofFields, fieldsFault?, fault?_ofJson f.2, fieldsFault?_ofFields fs]
    rfl

end

def knownNames (names : List String) (fs : List (String × Json)) : List String :=
  (fs.map Prod.fst).filter (· ∈ names)

section knownNames

variable {names seen : List String} {fs : List (String × Json)} {p : String → Bool}

theorem knownNames_cons (k : String) (j : Json) : knownNames names ((k, j) :: fs) =
    if k ∈ names then k :: knownNames names fs else knownNames names fs := by
  simp only [knownNames, List.map_cons, List.filter_cons, decide_eq_true_eq]

theorem knownNames_filter (hp : ∀ n ∈ names, p n) :
    knownNames names (fs.filter (p ·.1)) = knownNames names fs := by
  induction fs with
  | nil => rfl
  | cons f fs ih =>
    obtain ⟨k, j⟩ := f
    rw [List.filter_cons]
    split
    · rw [knownNames_cons, knownNames_cons, ih]
    · next hk =>
      rw [knownNames_cons, if_neg (fun h ↦ hk (hp k h)), ih]

theorem lookup_filter {n : String} (hn : p n) : (fs.filter (p ·.1)).lookup n = fs.lookup n := by
  induction fs with
  | nil => rfl
  | cons f fs ih =>
    obtain ⟨k, j⟩ := f
    rw [List.filter_cons]
    split
    · rw [List.lookup_cons, List.lookup_cons, ih]
    · next hk =>
      have hne : (n == k) = false := beq_false_of_ne fun h ↦ hk (h ▸ hn)
      rw [List.lookup_cons, hne, ih]

/-- An object is refused for its names only if it has one of the fields twice. -/
theorem namesProblem_eq_ok {i : ℕ} {u : Unit} :
    Fields.namesProblem names i seen (ofFields fs) none = .ok u ↔
      (knownNames names fs).Nodup ∧ (knownNames names fs).Disjoint seen := by
  induction fs generalizing i seen with
  | nil => exact ⟨fun _ ↦ ⟨List.nodup_nil, List.disjoint_nil_left seen⟩, fun _ ↦ rfl⟩
  | cons f fs ih =>
    obtain ⟨k, j⟩ := f
    rw [ofFields, Fields.namesProblem, key?, knownNames_cons]
    by_cases hk : k ∈ names
    · simp only [hk, if_true]
      by_cases hs : k ∈ seen
      · simp only [hs, if_true, List.disjoint_cons_left, not_true, false_and, and_false]
        exact ⟨nofun, False.elim⟩
      · simp only [hs, if_false, ih, List.nodup_cons, List.disjoint_cons_left,
          List.disjoint_cons_right, not_false_eq_true, true_and]
        tauto
    · simp only [hk, if_false, fault?_ofJson, ih]

end knownNames

theorem Placed.both_eq_ok {f : Placed (α → β)} {x : Placed α} {b : β} :
    Placed.both f x = .ok b ↔ ∃ g a, f = .ok g ∧ x = .ok a ∧ g a = b := by
  cases f <;> cases x <;> simp [Placed.both]

theorem Placed.at_eq_ok {i : ℕ} {x : Except DecodeError α} {a : α} :
    Placed.at i x = .ok a ↔ x = .ok a := by
  cases x <;> simp [Placed.at]

theorem Decoder.ofObject_eq_ok {x : Fields α} {o : Origin} {fs : List (String × Json)} {a : α} :
    Decoder.ofObject x o (ofFields fs) none = .ok a ↔
      (knownNames x.names fs).Nodup ∧ x.ofObject o (ofFields fs) = .ok a := by
  have hfold : Decoder.ofObject x o (ofFields fs) none = .ok a ↔
      Placed.both ((Fields.namesProblem x.names 0 [] (ofFields fs) none).map fun _ a ↦ a)
        (x.ofObject o (ofFields fs)) = .ok a := by
    rw [Decoder.ofObject]
    split
    · next h => simp [h]
    · next h => simp [h]
  have hnames : (∃ u, Fields.namesProblem x.names 0 [] (ofFields fs) none = .ok u) ↔
      (knownNames x.names fs).Nodup := by
    simp only [namesProblem_eq_ok, List.disjoint_nil_right, and_true, exists_const]
  rw [hfold, Placed.both_eq_ok]
  constructor
  · rintro ⟨g, b, hg, hb, rfl⟩
    obtain ⟨u, hu, rfl⟩ := map_eq_ok.1 hg
    exact ⟨hnames.1 ⟨u, hu⟩, hb⟩
  · rintro ⟨h, ha⟩
    obtain ⟨u, hu⟩ := hnames.2 h
    exact ⟨fun a ↦ a, a, map_eq_ok.2 ⟨u, hu, rfl⟩, ha, rfl⟩

theorem Fields.findIdx?_isKey (name : String) (fs : List (String × Json)) :
    match fs.lookup name with
    | some j => ∃ i, (ofFields fs).findIdx? (isKey name) = some i ∧
        ((ofFields fs).getD i (.null, .null)).2 = ofJson j
    | none => (ofFields fs).findIdx? (isKey name) = none := by
  induction fs with
  | nil => rfl
  | cons f fs ih =>
    obtain ⟨k, j⟩ := f
    rw [List.lookup_cons, ofFields, List.findIdx?_cons, isKey]
    by_cases hk : k = name
    · subst hk
      simp only [beq_self_eq_true, decide_true, if_true]
      exact ⟨0, rfl, rfl⟩
    · have hne : (name == k) = false := beq_false_of_ne (Ne.symm hk)
      simp only [hne, hk, decide_false, Bool.false_eq_true, if_false]
      split at ih
      · next hj =>
        obtain ⟨i, hi, hv⟩ := ih
        rw [hj, hi]
        exact ⟨i + 1, rfl, hv⟩
      · next hj =>
        rw [hj, ih]
        rfl

/-- A field has the value under its name, and the default where there is none. -/
theorem Fields.field_ofObject_eq_ok {name : String} {dec : Decoder α} {absent : Option α}
    {o : Origin} {fs : List (String × Json)} {a : α} :
    (field name dec absent).ofObject o (ofFields fs) = .ok a ↔
      match fs.lookup name with
      | some j => dec o (ofJson j) = .ok a
      | none => absent = some a := by
  have h := findIdx?_isKey name fs
  rw [field]
  split at h
  · next hj =>
    obtain ⟨i, hi, hv⟩ := h
    simp only [hi, hv, Placed.at_eq_ok]
  · next hj =>
    simp only [h]
    cases absent <;> simp

/-- The decoder accepts the same values with the same results wherever they come from. -/
def Decoder.Uniform (dec : Decoder α) : Prop :=
  ∀ (o o' : Origin) (j : Json) (a : α), dec o (ofJson j) = .ok a → dec o' (ofJson j) = .ok a

structure Fields.Uniform (x : Fields α) : Prop where
  ofObject : ∀ (o o' : Origin) (fs gs : List (String × Json)) (a : α),
    (∀ n ∈ x.names, fs.lookup n = gs.lookup n) →
    x.ofObject o (ofFields fs) = .ok a → x.ofObject o' (ofFields gs) = .ok a
  ofArray : ∀ (o o' : Origin) (wanted : String) (n : ℕ) (js : List Json) (a : α) (left : Leftover),
    x.ofArray o wanted ⟨n, ofItems js, none⟩ = .ok (a, left) →
    x.ofArray o' wanted ⟨n, ofItems js, none⟩ = .ok (a, left) ∧
      ∃ m js', left = ⟨m, ofItems js', none⟩

section Uniform

variable {dec : Decoder α}

theorem Decoder.Uniform.eq_ok_iff (h : dec.Uniform) (o o' : Origin) {j : Json} {a : α} :
    dec o (ofJson j) = .ok a ↔ dec o' (ofJson j) = .ok a :=
  ⟨h o o' j a, h o' o j a⟩

theorem Decoder.Uniform.of_const (h : ∀ o o' d, dec o d = dec o' d) : dec.Uniform :=
  fun o o' j _ ha ↦ h o o' (ofJson j) ▸ ha

theorem Decoder.Uniform.string : Decoder.string.Uniform :=
  of_const fun _ _ d ↦ by cases d <;> rfl

theorem Decoder.Uniform.integer : Decoder.integer.Uniform :=
  of_const fun _ _ d ↦ by cases d <;> rfl

theorem Decoder.Uniform.number : Decoder.number.Uniform :=
  of_const fun _ _ d ↦ by cases d <;> rfl

theorem Decoder.Uniform.map (h : dec.Uniform) (f : α → β) : (dec.map f).Uniform := by
  intro o o' j b hb
  obtain ⟨a, ha, rfl⟩ := map_eq_ok.1 hb
  exact map_eq_ok.2 ⟨a, h o o' j a ha, rfl⟩

theorem Decoder.Uniform.items (h : dec.Uniform) {o o' : Origin} {js : List Json} {as : List α}
    (ha : dec.items o (ofItems js) = .ok as) : dec.items o' (ofItems js) = .ok as := by
  induction js generalizing as with
  | nil => exact ha
  | cons j js ih =>
    obtain ⟨b, hb, ha⟩ := bind_eq_ok.1 ha
    obtain ⟨bs, hbs, ha⟩ := bind_eq_ok.1 ha
    exact bind_eq_ok.2 ⟨b, h o o' j b hb, bind_eq_ok.2 ⟨bs, ih hbs, ha⟩⟩

theorem Decoder.Uniform.list (h : dec.Uniform) : dec.list.Uniform := by
  intro o o' j as ha
  cases j with
  | array js =>
    obtain ⟨bs, hbs, ha⟩ := bind_eq_ok.1 ha
    exact bind_eq_ok.2 ⟨bs, h.items hbs, ha⟩
  | _ => exact ha

theorem Fields.Uniform.field (h : dec.Uniform) (name : String) (absent : Option α) :
    (Fields.field name dec absent).Uniform where
  ofObject o o' fs gs a hl ha := by
    rw [field_ofObject_eq_ok] at ha ⊢
    rw [← hl name (List.mem_singleton_self name)]
    split at ha
    · next j hj => simpa only [hj] using h o o' j a ha
    · next hj => simpa only [hj] using ha
  ofArray o o' wanted n js a left ha := by
    cases js with
    | nil =>
      cases absent with
      | none => cases ha
      | some b =>
        cases ha
        exact ⟨rfl, n, [], rfl⟩
    | cons j js =>
      obtain ⟨b, hb, ha⟩ := bind_eq_ok.1 ha
      cases ha
      exact ⟨bind_eq_ok.2 ⟨a, h o o' j a hb, rfl⟩, n + 1, js, rfl⟩

theorem Fields.Uniform.map {x : Fields α} (h : x.Uniform) (f : α → β) : (f <$> x).Uniform where
  ofObject o o' fs gs b hl hb := by
    obtain ⟨a, ha, rfl⟩ := map_eq_ok.1 hb
    exact map_eq_ok.2 ⟨a, h.ofObject o o' fs gs a hl ha, rfl⟩
  ofArray o o' wanted n js b left hb := by
    obtain ⟨⟨a, _⟩, ha, hab⟩ := map_eq_ok.1 hb
    cases hab
    obtain ⟨ha, hl⟩ := h.ofArray o o' wanted n js a left ha
    exact ⟨map_eq_ok.2 ⟨(a, left), ha, rfl⟩, hl⟩

theorem Fields.Uniform.seq {f : Fields (α → β)} {x : Fields α} (hf : f.Uniform)
    (hx : x.Uniform) : (f <*> x).Uniform where
  ofObject o o' fs gs b hl hb := by
    obtain ⟨g, a, hg, ha, rfl⟩ := Placed.both_eq_ok.1 hb
    refine Placed.both_eq_ok.2 ⟨g, a, hf.ofObject o o' fs gs g ?_ hg,
      hx.ofObject o o' fs gs a ?_ ha, rfl⟩
    · exact fun n hn ↦ hl n (List.mem_append_left _ hn)
    · exact fun n hn ↦ hl n (List.mem_append_right _ hn)
  ofArray o o' wanted n js b left hb := by
    obtain ⟨⟨g, left'⟩, hg, hb⟩ := bind_eq_ok.1 hb
    obtain ⟨hg, m, js', rfl⟩ := hf.ofArray o o' wanted n js g left' hg
    obtain ⟨⟨a, left''⟩, ha, hb⟩ := bind_eq_ok.1 hb
    obtain ⟨ha, hl⟩ := hx.ofArray o o' wanted m js' a left'' ha
    cases hb
    exact ⟨bind_eq_ok.2 ⟨_, hg, bind_eq_ok.2 ⟨_, ha, rfl⟩⟩, hl⟩

theorem Fields.finish_eq_ok {o : Origin} {m : ℕ} {js : List Json} {u : Unit} :
    finish ⟨m, ofItems js, none⟩ o = .ok u ↔ js = [] := by
  cases js with
  | nil => cases o <;> exact ⟨fun _ ↦ rfl, fun _ ↦ rfl⟩
  | cons => cases o <;> exact ⟨nofun, nofun⟩

theorem Decoder.Uniform.record {x : Fields α} (h : x.Uniform) (wanted : String) :
    (Decoder.record wanted x).Uniform := by
  intro o o' j a ha
  cases j with
  | object fs =>
    obtain ⟨hn, ha⟩ := Decoder.ofObject_eq_ok.1 ha
    exact Decoder.ofObject_eq_ok.2 ⟨hn, h.ofObject o o' fs fs a (fun _ _ ↦ rfl) ha⟩
  | array js =>
    obtain ⟨⟨b, left⟩, hb, ha⟩ := bind_eq_ok.1 ha
    obtain ⟨u, hu, hab⟩ := bind_eq_ok.1 ha
    obtain ⟨hb, m, js', rfl⟩ := h.ofArray o o' _ 0 js b left hb
    have hjs' : js' = [] := Fields.finish_eq_ok.1 hu
    exact bind_eq_ok.2 ⟨_, hb, bind_eq_ok.2 ⟨u, Fields.finish_eq_ok.2 hjs', hab⟩⟩
  | _ => exact ha

/-- Fields with unknown names may be taken from an object or added to it without changing the record
it decodes to. -/
theorem Decoder.record_filter {x : Fields α} (h : x.Uniform) {wanted : String} {o : Origin}
    {p : String → Bool} (hp : ∀ n ∈ x.names, p n) {fs : List (String × Json)} {a : α} :
    Decoder.record wanted x o (ofJson (.object (fs.filter (p ·.1)))) = .ok a ↔
      Decoder.record wanted x o (ofJson (.object fs)) = .ok a := by
  have hl : ∀ n ∈ x.names, (fs.filter (p ·.1)).lookup n = fs.lookup n :=
    fun n hn ↦ lookup_filter (hp n hn)
  refine Decoder.ofObject_eq_ok.trans (.trans ?_ Decoder.ofObject_eq_ok.symm)
  rw [knownNames_filter hp]
  constructor
  · exact fun ⟨hn, ha⟩ ↦ ⟨hn, h.ofObject o o _ _ a hl ha⟩
  · exact fun ⟨hn, ha⟩ ↦ ⟨hn, h.ofObject o o _ _ a (fun n hn ↦ (hl n hn).symm) ha⟩

end Uniform

end Stagecraft.Json
