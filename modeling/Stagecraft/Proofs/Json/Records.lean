import Stagecraft.Proofs.Json.Decoding

namespace Stagecraft.Json

open Outcome Draft

variable {α β : Type} {fs : List (String × Json)} {o : Origin} {name wanted : String}

theorem Decoder.items_eq_ok {dec : Decoder α} {js : List Json} {as : List α} :
    dec.items o (ofItems js) = .ok as ↔ List.Forall₂ (fun j a ↦ dec o (ofJson j) = .ok a) js as := by
  induction js generalizing as with
  | nil =>
    rw [List.forall₂_nil_left_iff]
    exact ⟨fun h ↦ (Except.ok.inj h).symm, fun h ↦ congrArg _ h.symm⟩
  | cons j js ih =>
    rw [List.forall₂_cons_left_iff]
    constructor
    · intro h
      obtain ⟨a, ha, h⟩ := bind_eq_ok.1 h
      obtain ⟨as', has, h⟩ := bind_eq_ok.1 h
      exact ⟨a, as', ha, ih.1 has, (Except.ok.inj h).symm⟩
    · rintro ⟨a, as', ha, has, rfl⟩
      exact bind_eq_ok.2 ⟨a, ha, bind_eq_ok.2 ⟨as', ih.2 has, rfl⟩⟩

theorem Decoder.list_eq_ok {dec : Decoder α} {js : List Json} {as : List α} :
    dec.list o (ofJson (.array js)) = .ok as ↔
      List.Forall₂ (fun j a ↦ dec o (ofJson j) = .ok a) js as := by
  rw [← items_eq_ok]
  constructor
  · intro h
    obtain ⟨bs, hbs, h⟩ := bind_eq_ok.1 h
    cases h
    exact hbs
  · exact fun h ↦ bind_eq_ok.2 ⟨as, h, rfl⟩

mutual

theorem Draft.read_ofJson : ∀ j : Json, (ofJson j).read = .ok j
  | .null => rfl
  | .boolean _ => rfl
  | .integer _ => rfl
  | .decimal _ => rfl
  | .text _ => rfl
  | .array js => by rw [ofJson, read, readItems_ofItems js]; rfl
  | .object fs => by rw [ofJson, read, readFields_ofFields fs]; rfl

theorem Draft.readItems_ofItems : ∀ js : List Json, readItems (ofItems js) = .ok js
  | [] => rfl
  | j :: js => by rw [ofItems, readItems, read_ofJson j, readItems_ofItems js]; rfl

theorem Draft.readFields_ofFields :
    ∀ fs : List (String × Json), readFields (ofFields fs) = .ok fs
  | [] => rfl
  | (k, j) :: fs => by
    rw [ofFields, readFields, read_ofJson j, readFields_ofFields fs]
    rfl

end

def Fields.Takes (x : Fields α) (fs : List (String × Json)) (a : α) : Prop :=
  ∀ o, x.ofObject o (ofFields fs) = .ok a

def Fields.Reads (x : Fields α) (name : String) (dec : Decoder β) : Prop :=
  ∀ o fs a j, x.ofObject o (ofFields fs) = .ok a → fs.lookup name = some j →
    ∃ b, dec o (ofJson j) = .ok b

section Takes

variable {dec : Decoder α} {a : α} {g : α → β} {x : Fields α} {f : Fields (α → β)}

theorem Fields.Takes.field {absent : Option α} {j : Json} (hj : fs.lookup name = some j)
    (h : ∀ o, dec o (ofJson j) = .ok a) : (Fields.field name dec absent).Takes fs a := by
  intro o
  rw [field_ofObject_eq_ok, hj]
  exact h o

theorem Fields.Takes.absent (hj : fs.lookup name = none) : (defaulted name dec a).Takes fs a := by
  intro o
  rw [defaulted, field_ofObject_eq_ok, hj]

theorem Fields.Takes.map (h : x.Takes fs a) : (g <$> x).Takes fs (g a) :=
  fun o ↦ map_eq_ok.2 ⟨a, h o, rfl⟩

theorem Fields.Takes.seq (hf : f.Takes fs g) (hx : x.Takes fs a) : (f <*> x).Takes fs (g a) :=
  fun o ↦ Placed.both_eq_ok.2 ⟨g, a, hf o, hx o, rfl⟩

theorem Fields.Takes.record (h : x.Takes fs a) (hfs : (fs.map Prod.fst).Nodup) :
    Decoder.record wanted x o (ofJson (.object fs)) = .ok a :=
  Decoder.ofObject_eq_ok.2 ⟨hfs.filter _, h o⟩

end Takes

section Reads

variable {γ : Type} {dec : Decoder γ} {x : Fields α} {f : Fields (α → β)}

theorem Fields.Reads.field {dec : Decoder α} {absent : Option α} :
    (Fields.field name dec absent).Reads name dec := by
  intro o fs a j h hj
  rw [field_ofObject_eq_ok, hj] at h
  exact ⟨a, h⟩

theorem Fields.Reads.map {g : α → β} (h : x.Reads name dec) : (g <$> x).Reads name dec := by
  intro o fs b j hb hj
  obtain ⟨a, ha, -⟩ := map_eq_ok.1 hb
  exact h o fs a j ha hj

theorem Fields.Reads.left (h : f.Reads name dec) : (f <*> x).Reads name dec := by
  intro o fs b j hb hj
  obtain ⟨g, a, hg, -, -⟩ := Placed.both_eq_ok.1 hb
  exact h o fs g j hg hj

theorem Fields.Reads.right (h : x.Reads name dec) : (f <*> x).Reads name dec := by
  intro o fs b j hb hj
  obtain ⟨g, a, -, ha, -⟩ := Placed.both_eq_ok.1 hb
  exact h o fs a j ha hj

theorem Fields.Reads.record {a : α} {j : Json} (h : x.Reads name dec)
    (ha : Decoder.record wanted x o (ofJson (.object fs)) = .ok a) (hj : fs.lookup name = some j) :
    ∃ c, dec o (ofJson j) = .ok c :=
  h o fs a j (Decoder.ofObject_eq_ok.1 ha).2 hj

end Reads

theorem Decoder.ofObject_of_ok {x : Fields α} {ds : List (Draft × Draft)} {ending : Option Fault} {a : α}
    (h : Decoder.ofObject x o ds ending = .ok a) : x.ofObject o ds = .ok a := by
  rw [Decoder.ofObject] at h
  split at h
  · next b hb =>
    obtain ⟨g, c, hg, hc, rfl⟩ := Placed.both_eq_ok.1 hb
    obtain ⟨-, -, rfl⟩ := map_eq_ok.1 hg
    cases h
    exact hc
  · cases h

def Beside (tagName : String) (ds : List (Draft × Draft)) : Prop :=
  ∀ d ∈ ds, ∃ k, d.1 = .text k ∧ k ≠ tagName

variable {tagName : String}

theorem Decoder.findTag_beside {table : List (String × α)} {ds : List (Draft × Draft)}
    (h : Beside tagName ds) (dec : α) (others : List (String × Json)) :
    findTag tagName table o (some dec) others ds none =
      (ofFault (readFields ds)).map fun fs ↦ (dec, others.reverse ++ fs) := by
  induction ds generalizing others with
  | nil => simp [findTag, Draft.closed, ofFault, readFields, Except.map, pure, Except.pure, bind, Except.bind]
  | cons d ds ih =>
    obtain ⟨⟨k, hk, hne⟩, hds⟩ := List.forall_mem_cons.1 h
    obtain ⟨key, d⟩ := d
    obtain rfl : key = .text k := hk
    rw [findTag, readFields]
    cases hread : d.read with
    | error e => simp [key?, ofFault, hne, bind, Except.bind, Except.map]
    | ok j =>
      simp only [key?, ofFault, hne, if_false, bind, Except.bind, ih hds]
      cases readFields ds with
      | error e => rfl
      | ok fs => simp [Except.map, pure, Except.pure]

/-- A tagged object is decoded by what its tag names, from the fields that can be read beside it. -/
theorem Decoder.tagged_eq {table : List (String × Decoder α)} {ds : List (Draft × Draft)}
    (h : Beside tagName ds) : Decoder.tagged wanted tagName table o
      (.object ((.text tagName, .text name) :: ds) none) = (do
        let dec ← Decoder.named table name
        let fs ← ofFault (readFields ds)
        dec .setAside (ofJson (.object fs))) := by
  have htag : Decoder.tag table o (.text name) = Decoder.named table name := by cases o <;> rfl
  rw [tagged, findTag]
  simp only [key?, ofFault, if_true, Option.isSome_none, Bool.false_eq_true, if_false, htag, bind,
    Except.bind]
  cases Decoder.named table name with
  | error e => rfl
  | ok dec =>
    simp only [findTag_beside h]
    cases readFields ds <;> rfl

end Stagecraft.Json
