import Stagecraft.Proofs.Json.Records
import Stagecraft.Proofs.Json.Rereading
import Stagecraft.Proofs.Trace.Value
import Stagecraft.Story.Codec

namespace Stagecraft

open Json Json.Draft
open Outcome (bind_eq_ok)
open Trace (Value values)

def Trace.Value.numbers : Value → List Binary64
  | number x => [x]
  | position p => [p.offset]
  | _ => []

def Action.numbers (a : Action) : List Binary64 := (values a).flatMap Value.numbers

def Story.numbers (s : Story) : List Binary64 := s.walk.flatMap Action.numbers

namespace Json

variable {fs : List (String × Json)} {name : String}

theorem takes_text {s : String} (h : fs.lookup name = some (.text s)) :
    (Fields.required name .string).Takes fs s :=
  .field h fun _ ↦ rfl

theorem takes_integer {n : ℤ} (h : fs.lookup name = some (.integer n))
    (hn : Binary64.minId ≤ n ∧ n ≤ Binary64.maxId) : (Fields.required name .integer).Takes fs n :=
  .field h fun _ ↦ if_pos hn

theorem takes_number {x : Binary64} (h : fs.lookup name = some (.decimal x)) :
    (Fields.required name .number).Takes fs x :=
  .field h fun _ ↦ rfl

end Json

theorem Anchor.decoder_name (a : Anchor) (o : Origin) :
    Decoder.name table o (.text a.name) = .ok a := by
  cases a <;> cases o <;> rfl

theorem Locale.decoder_name (l : Locale) (o : Origin) :
    Decoder.name table o (.text l.name) = .ok l := by
  cases l <;> cases o <;> rfl

theorem Position.decoder_toJson (p : Position) (o : Origin) :
    Position.decoder o (ofJson p.toJson) = .ok p := by
  have hnames : ["base", "offsetX"].Nodup := by decide
  exact Fields.Takes.record (.seq (.map (.field rfl p.anchor.decoder_name)) (takes_number rfl)) hnames

namespace Action

variable {a : Action} {members : List Action} {nested : Decoder Action} {o : Origin}

def fields (a : Action) : List (String × Json) :=
  match a.toJson with
  | .object (_ :: fs) => fs
  | _ => []

theorem toJson_eq (a : Action) : a.toJson = .object (("action", .text a.name) :: a.fields) := by
  cases a <;> rfl

theorem nodup_fields (a : Action) : (a.fields.map Prod.fst).Nodup := by
  cases a with
  | talk text characters names voice => cases voice <;> simp [fields, toJson, tagged]
  | _ => simp [fields, toJson, tagged]

theorem action_notMem_fields (a : Action) : "action" ∉ a.fields.map Prod.fst := by
  cases a with
  | talk text characters names voice => cases voice <;> simp [fields, toJson, tagged]
  | _ => simp [fields, toJson, tagged]

theorem list_integer {ns : List ℤ} (h : ∀ n ∈ ns, Binary64.minId ≤ n ∧ n ≤ Binary64.maxId) :
    Decoder.integer.list o (ofJson (.array (ns.map .integer))) = .ok ns := by
  rw [Decoder.list_eq_ok, List.forall₂_map_left_iff, List.forall₂_same]
  exact fun n hn ↦ if_pos (h n hn)

theorem list_string (ss : List String) :
    Decoder.string.list o (ofJson (.array (ss.map .text))) = .ok ss := by
  rw [Decoder.list_eq_ok, List.forall₂_map_left_iff, List.forall₂_same]
  exact fun _ _ ↦ rfl

/-- The decoder that an action's name stands for takes the action from its fields. -/
theorem kind_fields (hids : ∀ c ∈ a.characters, Binary64.minId ≤ c ∧ c ≤ Binary64.maxId)
    (hmembers : ∀ as, a.members? = some as →
      ∀ o, nested.list o (ofJson (.array (toJsonAll as))) = .ok as) :
    ∃ dec, Decoder.named (kinds nested) a.name = .ok dec ∧
      dec o (ofJson (.object a.fields)) = .ok a := by
  have hnames := a.nodup_fields
  have hchar : ∀ {c : ℤ}, c ∈ a.characters → a.fields.lookup "characterId" = some (.integer c) →
      character.Takes a.fields c := fun hc hj ↦ takes_integer hj (hids _ hc)
  have hdur : ∀ {x : Binary64}, a.fields.lookup "duration" = some (.decimal x) →
      duration.Takes a.fields x := takes_number
  have hpath : ∀ {s : String}, a.fields.lookup "path" = some (.text s) →
      path.Takes a.fields s := takes_text
  cases a with
  | talk text characters names voice =>
    have hcs : ∀ o, Decoder.integer.list o (ofJson (.array (characters.map .integer))) = .ok characters :=
      fun o ↦ list_integer fun c hc ↦
        hids c (List.mem_flatMap_of_mem (List.mem_cons_of_mem _ List.mem_cons_self) hc)
    have hns : ∀ o, Decoder.string.list o (ofJson (.array (names.map .text))) = .ok names :=
      fun o ↦ list_string names
    have hvoice : (Fields.defaulted "voicePath" (.optional .string) none).Takes
        (talk text characters names voice).fields voice := by
      cases voice with
      | none => exact .absent rfl
      | some path => exact .field rfl fun _ ↦ rfl
    exact ⟨_, rfl, Fields.Takes.record
      (.seq (.seq (.seq (.map (takes_text rfl)) (.field rfl hcs)) (.field rfl hns)) hvoice) hnames⟩
  | telop text => exact ⟨_, rfl, Fields.Takes.record (.map (takes_text rfl)) hnames⟩
  | showModel c model p =>
    exact ⟨_, rfl, Fields.Takes.record (.seq (.seq (.map (hchar List.mem_cons_self rfl)) (takes_text rfl))
      (.field rfl p.decoder_toJson)) hnames⟩
  | hideModel c | horizontalShake c | verticalShake c =>
    exact ⟨_, rfl, Fields.Takes.record (.map (hchar List.mem_cons_self rfl)) hnames⟩
  | moveModel c p =>
    exact ⟨_, rfl, Fields.Takes.record (.seq (.map (hchar List.mem_cons_self rfl))
      (.field rfl p.decoder_toJson)) hnames⟩
  | act c motion =>
    exact ⟨_, rfl, Fields.Takes.record
      (.seq (.map (hchar List.mem_cons_self rfl)) (takes_text rfl)) hnames⟩
  | express c expression =>
    exact ⟨_, rfl, Fields.Takes.record
      (.seq (.map (hchar List.mem_cons_self rfl)) (takes_text rfl)) hnames⟩
  | showBlackCover d | hideBlackCover d | showWhiteCover d | hideWhiteCover d | shakeScreen d
  | shakeDialogBox d => exact ⟨_, rfl, Fields.Takes.record (.map (hdur rfl)) hnames⟩
  | changeBackground p | changeBgm p | changeSe p =>
    exact ⟨_, rfl, Fields.Takes.record (.map (hpath rfl)) hnames⟩
  | delay s => exact ⟨_, rfl, Fields.Takes.record (.map (takes_number rfl)) hnames⟩
  | blocking as | forkTask as =>
    exact ⟨_, rfl, Fields.Takes.record (.map (.field rfl (hmembers as rfl))) hnames⟩
  | waitForTap => exact ⟨_, rfl, rfl⟩
  | waitForAll => exact ⟨_, rfl, rfl⟩

theorem beside_ofFields {fs : List (String × Json)} (h : "action" ∉ fs.map Prod.fst) :
    Beside "action" (ofFields fs) := by
  induction fs with
  | nil => exact nofun
  | cons f fs ih =>
    obtain ⟨hf, hfs⟩ := not_or.1 (List.mem_cons.not.1 h)
    exact List.forall_mem_cons.2 ⟨⟨f.1, rfl, Ne.symm hf⟩, ih hfs⟩

theorem nesting_members (h : a.members? = some members) :
    nestingItems (toJsonAll members) + 2 ≤ a.toJson.nesting := by
  cases a <;> cases h <;> simp [toJson, tagged, nesting, nestingFields]

theorem toJson_decodes {n : ℕ} (h : ∃ dec, Decoder.named (kinds (decoderWithin n)) a.name = .ok dec ∧
    dec .setAside (ofJson (.object a.fields)) = .ok a) :
    decoderWithin (n + 1) o (ofJson a.toJson) = .ok a := by
  obtain ⟨dec, hname, hdec⟩ := h
  have hread : readFields (ofFields a.fields) = .ok a.fields := readFields_ofFields _
  rw [decoderWithin, toJson_eq]
  refine (Decoder.tagged_eq (beside_ofFields a.action_notMem_fields)).trans ?_
  rw [hname, hread]
  exact hdec

/-- A sequence of actions is decoded from its JSON form by a decoder that goes as deep as the form is
nested. -/
theorem list_toJsonAll (as : List Action) : ∀ n, nestingItems (toJsonAll as) ≤ n →
    (∀ b ∈ walkAll as, ∀ c ∈ b.characters, Binary64.minId ≤ c ∧ c ≤ Binary64.maxId) →
    ∀ o, (decoderWithin n).list o (ofJson (.array (toJsonAll as))) = .ok as := by
  simp only [Decoder.list_eq_ok]
  induction as using members_induction with
  | nil => exact fun _ _ _ _ ↦ .nil
  | cons a rest ihmembers ihrest =>
    intro n hn hids o
    rw [walkAll_cons, List.forall_mem_cons, List.forall_mem_append] at hids
    obtain ⟨ha, hinner, hrest⟩ := hids
    rw [toJsonAll, nestingItems, max_le_iff] at hn
    obtain ⟨m, rfl⟩ : ∃ m, n = m + 1 := by
      refine ⟨n - 1, ?_⟩
      have h := hn.1
      rw [toJson_eq, nesting] at h
      omega
    refine .cons (toJson_decodes (kind_fields ha ?_)) (ihrest _ hn.2 hrest o)
    intro as has o
    rw [has, Option.getD_some] at ihmembers hinner
    have hnesting := nesting_members has
    exact Decoder.list_eq_ok.2 (ihmembers m (by omega) hinner o)

end Action

theorem Story.decoder_toJson {s : Story} (hnesting : s.toJson.nesting ≤ maxDepth)
    (hids : ∀ a ∈ s.walk, ∀ c ∈ a.characters, Binary64.minId ≤ c ∧ c ≤ Binary64.maxId) (o : Origin) :
    decoder o (ofJson s.toJson) = .ok s := by
  have hnames : ["locale", "actions"].Nodup := by decide
  have hdepth : nestingItems (Action.toJsonAll s.actions) ≤ maxDepth + 1 := by
    simp only [toJson, nesting, nestingFields] at hnesting
    omega
  exact Fields.Takes.record (.seq (.map (.field rfl s.locale.decoder_name))
    (.field rfl (Action.list_toJsonAll s.actions _ hdepth hids))) hnames

theorem Json.readableItems_iff {js : List Json} : ReadableItems js ↔ ∀ j ∈ js, j.Readable := by
  induction js with
  | nil => exact iff_of_true trivial (List.forall_mem_nil _)
  | cons j js ih => rw [ReadableItems, List.forall_mem_cons, ih]

namespace Action

variable {a : Action}

theorem readable_toJson (hids : ∀ c ∈ a.characters, Binary64.minId ≤ c ∧ c ≤ Binary64.maxId)
    (hnumbers : ∀ x ∈ a.numbers, x.ReadsBack)
    (hmembers : ReadableItems (toJsonAll (a.members?.getD []))) : a.toJson.Readable := by
  cases a with
  | talk text characters names voice =>
    cases voice <;>
      simpa [toJson, tagged, Readable, ReadableFields, readableItems_iff, Action.characters, values,
        Value.ids] using hids
  | showModel c model p =>
    simpa [toJson, tagged, Position.toJson, Readable, ReadableFields] using
      ⟨hids c List.mem_cons_self, hnumbers p.offset List.mem_cons_self⟩
  | moveModel c p =>
    simpa [toJson, tagged, Position.toJson, Readable, ReadableFields] using
      ⟨hids c List.mem_cons_self, hnumbers p.offset List.mem_cons_self⟩
  | blocking as => exact ⟨trivial, hmembers, trivial⟩
  | forkTask as => exact ⟨trivial, hmembers, trivial⟩
  | _ =>
    simp_all [toJson, tagged, Readable, ReadableFields, Action.characters, Action.numbers, values,
      Value.ids, Value.numbers]

theorem readable_toJsonAll (as : List Action)
    (hids : ∀ a ∈ walkAll as, ∀ c ∈ a.characters, Binary64.minId ≤ c ∧ c ≤ Binary64.maxId)
    (hnumbers : ∀ a ∈ walkAll as, ∀ x ∈ a.numbers, x.ReadsBack) :
    ReadableItems (toJsonAll as) := by
  induction as using members_induction with
  | nil => trivial
  | cons a rest ihmembers ihrest =>
    rw [walkAll_cons, List.forall_mem_cons, List.forall_mem_append] at hids hnumbers
    exact ⟨readable_toJson hids.1 hnumbers.1 (ihmembers hids.2.1 hnumbers.2.1),
      ihrest hids.2.2 hnumbers.2.2⟩

end Action

theorem Story.readable_toJson {s : Story}
    (hids : ∀ a ∈ s.walk, ∀ c ∈ a.characters, Binary64.minId ≤ c ∧ c ≤ Binary64.maxId)
    (hnumbers : ∀ x ∈ s.numbers, x.ReadsBack) : s.toJson.Readable :=
  ⟨trivial, Action.readable_toJsonAll s.actions hids
    fun _ ha _ hx ↦ hnumbers _ (List.mem_flatMap_of_mem ha hx), trivial⟩

end Stagecraft
