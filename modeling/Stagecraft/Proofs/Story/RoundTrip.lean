import Stagecraft.Proofs.Story.Codec

namespace Stagecraft

open Json Json.Draft
open Outcome (bind_eq_ok)

theorem Json.number_reread {x : Binary64} {j : Json} {o : Origin} {y : Binary64}
    (hj : Rereads (.decimal x) j) (hy : Decoder.number o (ofJson j) = .ok y) : x.isFinite := by
  by_contra hx
  rw [hj.not_finite (Bool.eq_false_iff.2 hx)] at hy
  cases hy

/-- A record is taken from the fields that were read again only if what stands under a name is accepted. -/
theorem Json.field_reread {α β : Type} {x : Fields α} {dec : Decoder β} {wanted : String} {o : Origin}
    {fs fs' : List (String × Json)} {i : Json} {a : α} (name : String)
    (hfs : List.Forall₂ FieldReread fs fs') (hi : fs.lookup name = some i) (hx : x.Reads name dec)
    (ha : Decoder.record wanted x o (ofJson (.object fs')) = .ok a) :
    ∃ j b, Rereads i j ∧ dec o (ofJson j) = .ok b := by
  obtain ⟨j, hj, hreread⟩ := lookup_reread hfs name hi
  obtain ⟨b, hb⟩ := hx.record ha hj
  exact ⟨j, b, hreread, hb⟩

theorem Json.position_reread {p q : Position} {j : Json} {o : Origin} (hj : Rereads p.toJson j)
    (hq : Position.decoder o (ofJson j) = .ok q) : p.offset.isFinite := by
  obtain ⟨fs, rfl, hfs⟩ := hj.object
  obtain ⟨i, y, hi, hy⟩ := field_reread "offsetX" hfs rfl (.right .field) hq
  exact number_reread hi hy

namespace Action

variable {a b : Action} {nested : Decoder Action} {dec : Decoder Action} {o : Origin}
  {fs : List (String × Json)}

section fields

variable {x : Fields Action} {kind : String}

theorem number_field_reread {y : Binary64} (name : String) (hfs : List.Forall₂ FieldReread a.fields fs)
    (hy : a.fields.lookup name = some (.decimal y)) (hx : x.Reads name Decoder.number)
    (hb : fieldsOf kind x o (ofJson (.object fs)) = .ok b) : y.isFinite := by
  obtain ⟨j, z, hj, hz⟩ := field_reread name hfs hy hx hb
  exact number_reread hj hz

theorem position_field_reread {p : Position} (name : String)
    (hfs : List.Forall₂ FieldReread a.fields fs) (hp : a.fields.lookup name = some p.toJson)
    (hx : x.Reads name Position.decoder) (hb : fieldsOf kind x o (ofJson (.object fs)) = .ok b) :
    p.offset.isFinite := by
  obtain ⟨j, q, hj, hq⟩ := field_reread name hfs hp hx hb
  exact position_reread hj hq

theorem members_field_reread {as : List Action} (name : String)
    (hfs : List.Forall₂ FieldReread a.fields fs)
    (has : a.fields.lookup name = some (.array (toJsonAll as))) (hx : x.Reads name nested.list)
    (hb : fieldsOf kind x o (ofJson (.object fs)) = .ok b) :
    ∃ js bs, List.Forall₂ Rereads (toJsonAll as) js ∧ nested.list o (ofJson (.array js)) = .ok bs := by
  obtain ⟨j, bs, hj, hbs⟩ := field_reread name hfs has hx hb
  obtain ⟨js, rfl, hjs⟩ := hj.array
  exact ⟨js, bs, hjs, hbs⟩

end fields

/-- An action is refused if one of its numbers was not finite, and so is a group with a member that
is refused. -/
theorem kind_reread (hname : Decoder.named (kinds nested) a.name = .ok dec)
    (hfs : List.Forall₂ FieldReread a.fields fs) (hb : dec o (ofJson (.object fs)) = .ok b) :
    (∀ x ∈ a.numbers, x.isFinite) ∧ ∀ as, a.members? = some as →
      ∃ js bs, List.Forall₂ Rereads (toJsonAll as) js ∧ nested.list o (ofJson (.array js)) = .ok bs := by
  cases a with
  | showModel c model p =>
    cases hname
    have hoffset : p.offset.isFinite := position_field_reread "position" hfs rfl (.right .field) hb
    exact ⟨List.forall_mem_singleton.2 hoffset, nofun⟩
  | moveModel c p =>
    cases hname
    have hoffset : p.offset.isFinite := position_field_reread "position" hfs rfl (.right .field) hb
    exact ⟨List.forall_mem_singleton.2 hoffset, nofun⟩
  | showBlackCover d | hideBlackCover d | showWhiteCover d | hideWhiteCover d | shakeScreen d
  | shakeDialogBox d =>
    cases hname
    have hduration : d.isFinite := number_field_reread "duration" hfs rfl (.map .field) hb
    exact ⟨List.forall_mem_singleton.2 hduration, nofun⟩
  | delay d =>
    cases hname
    have hseconds : d.isFinite := number_field_reread "seconds" hfs rfl (.map .field) hb
    exact ⟨List.forall_mem_singleton.2 hseconds, nofun⟩
  | blocking as | forkTask as =>
    cases hname
    refine ⟨nofun, ?_⟩
    rintro _ ⟨⟩
    exact members_field_reread "actions" hfs rfl (.map .field) hb
  | talk text characters names voice =>
    refine ⟨?_, nofun⟩
    cases voice <;> exact nofun
  | _ => exact ⟨nofun, nofun⟩

theorem tagged_reread {n : ℕ} {ds : List (Draft × Draft)} (hds : Beside "action" ds)
    (hread : ∀ fs, readFields ds = .ok fs → List.Forall₂ FieldReread a.fields fs)
    (hb : decoderWithin (n + 1) o (.object ((.text "action", .text a.name) :: ds) none) = .ok b) :
    ∃ dec fs, Decoder.named (kinds (decoderWithin n)) a.name = .ok dec ∧
      List.Forall₂ FieldReread a.fields fs ∧ dec .setAside (ofJson (.object fs)) = .ok b := by
  rw [decoderWithin, Decoder.tagged_eq hds] at hb
  obtain ⟨dec, hname, hb⟩ := bind_eq_ok.1 hb
  obtain ⟨fs, hfs, hb⟩ := bind_eq_ok.1 hb
  refine ⟨dec, fs, hname, hread fs ?_, hb⟩
  cases h : readFields ds with
  | error e =>
    rw [h] at hfs
    cases hfs
  | ok gs =>
    rw [h] at hfs
    exact congrArg _ (Except.ok.inj hfs)

theorem beside_writtenFields (depth : ℕ) {fs : List (String × Json)}
    (h : "action" ∉ fs.map Prod.fst) : Beside "action" (writtenFields depth fs) := by
  induction fs with
  | nil => exact nofun
  | cons f fs ih =>
    obtain ⟨hf, hfs⟩ := not_or.1 (List.mem_cons.not.1 h)
    exact List.forall_mem_cons.2 ⟨⟨f.1, rfl, Ne.symm hf⟩, ih hfs⟩

theorem value_reread {n : ℕ} {j : Json} (hj : Rereads a.toJson j)
    (hb : decoderWithin (n + 1) o (ofJson j) = .ok b) :
    ∃ dec fs, Decoder.named (kinds (decoderWithin n)) a.name = .ok dec ∧
      List.Forall₂ FieldReread a.fields fs ∧ dec .setAside (ofJson (.object fs)) = .ok b := by
  rw [toJson_eq] at hj
  obtain ⟨fs, rfl, hfs⟩ := hj.object
  obtain ⟨g, fs, htag, hfields, rfl⟩ := List.forall₂_cons_left_iff.1 hfs
  obtain ⟨k, i⟩ := g
  obtain ⟨rfl, hi⟩ : "action" = k ∧ Rereads (.text a.name) i := htag
  obtain rfl := hi.text
  have hnotMem : "action" ∉ fs.map Prod.fst := names_reread hfields ▸ a.action_notMem_fields
  refine tagged_reread (beside_ofFields hnotMem) ?_ hb
  intro gs hgs
  rw [readFields_ofFields] at hgs
  cases hgs
  exact hfields

theorem written_reread {n depth : ℕ} (hb : decoderWithin (n + 1) o (written depth a.toJson) = .ok b) :
    ∃ dec fs, Decoder.named (kinds (decoderWithin n)) a.name = .ok dec ∧
      List.Forall₂ FieldReread a.fields fs ∧ dec .setAside (ofJson (.object fs)) = .ok b := by
  rw [toJson_eq, written, limitDepth] at hb
  split at hb
  · exact tagged_reread (beside_writtenFields _ a.action_notMem_fields) (fun _ ↦ readFields_written) hb
  · cases hb

theorem finite_of_list (as : List Action) : ∀ n o js bs, List.Forall₂ Rereads (toJsonAll as) js →
    (decoderWithin n).list o (ofJson (.array js)) = .ok bs →
    ∀ b ∈ walkAll as, ∀ x ∈ b.numbers, x.isFinite := by
  simp only [Decoder.list_eq_ok]
  induction as using members_induction with
  | nil => exact fun _ _ _ _ _ _ ↦ nofun
  | cons a rest ihmembers ihrest =>
    intro n o js bs hjs hbs
    obtain ⟨j, js', hj, hjs', rfl⟩ := List.forall₂_cons_left_iff.1 hjs
    obtain ⟨b, bs', hb, hbs', rfl⟩ := List.forall₂_cons_left_iff.1 hbs
    rw [walkAll_cons, List.forall_mem_cons, List.forall_mem_append]
    cases n with
    | zero => cases hb
    | succ n =>
      obtain ⟨dec, fs, hname, hfs, hdec⟩ := value_reread hj hb
      obtain ⟨hnumbers, hmembers⟩ := kind_reread hname hfs hdec
      refine ⟨hnumbers, ?_, ihrest _ _ _ _ hjs' hbs'⟩
      cases has : a.members? with
      | none => exact nofun
      | some as =>
        obtain ⟨is, cs, his, hcs⟩ := hmembers as has
        rw [has] at ihmembers
        exact ihmembers n _ is cs his (Decoder.list_eq_ok.1 hcs)

theorem finite_of_written {depth : ℕ} (hb : decoder o (written depth a.toJson) = .ok b) :
    ∀ b ∈ walk a, ∀ x ∈ b.numbers, x.isFinite := by
  obtain ⟨dec, fs, hname, hfs, hdec⟩ := written_reread hb
  obtain ⟨hnumbers, hmembers⟩ := kind_reread hname hfs hdec
  rw [walk_eq, List.forall_mem_cons]
  refine ⟨hnumbers, ?_⟩
  cases has : a.members? with
  | none => exact nofun
  | some as =>
    obtain ⟨js, bs, hjs, hbs⟩ := hmembers as has
    exact finite_of_list as _ _ js bs hjs hbs

theorem finite_of_items {depth : ℕ} {as bs : List Action}
    (h : decoder.items o (writtenItems depth (toJsonAll as)) = .ok bs) :
    ∀ b ∈ walkAll as, ∀ x ∈ b.numbers, x.isFinite := by
  induction as generalizing bs with
  | nil => exact nofun
  | cons a rest ih =>
    obtain ⟨b, hb, h⟩ := bind_eq_ok.1 h
    obtain ⟨cs, hcs, -⟩ := bind_eq_ok.1 h
    rw [walkAll, List.forall_mem_append]
    exact ⟨finite_of_written hb, ih hcs⟩

end Action

namespace Story

variable {s t : Story} {cs b : List Char}

/-- A story is decoded from a text only if its numbers are finite. -/
theorem finite_of_decoder {o : Origin} (h : decoder o (written 0 s.toJson) = .ok t) :
    ∀ x ∈ s.numbers, x.isFinite := by
  have hfields := Decoder.ofObject_of_ok h
  obtain ⟨g, as, -, has, -⟩ := Placed.both_eq_ok.1 hfields
  have hlist : (Action.decoder.list) o (written 1 (.array (Action.toJsonAll s.actions))) = .ok as :=
    Placed.at_eq_ok.1 has
  obtain ⟨bs, hbs, -⟩ := bind_eq_ok.1 hlist
  intro x hx
  obtain ⟨a, ha, hx⟩ := List.mem_flatMap.1 hx
  exact Action.finite_of_items hbs a ha x hx

/-- A story whose numbers are read back is read from every text of its JSON form. -/
theorem ofText_written (hcs : Written s.toJson cs) (hb : Blank b)
    (hids : ∀ a ∈ s.walk, ∀ c ∈ a.characters, Binary64.minId ≤ c ∧ c ≤ Binary64.maxId)
    (hnesting : s.toJson.nesting ≤ maxDepth) (hnumbers : ∀ x ∈ s.numbers, x.ReadsBack) :
    ofText (String.ofList (cs ++ b)) = .ok s := by
  have hdraft : written 0 s.toJson = ofJson s.toJson :=
    written_eq_ofJson s.toJson (by omega) (readable_toJson hids hnumbers)
  rw [ofText, decodeText, Document.ofText_written hcs hb, hdraft]
  exact bind_eq_ok.2 ⟨s, decoder_toJson hnesting hids .text, rfl⟩

theorem finite_of_ofText (hcs : Written s.toJson cs) (hb : Blank b)
    (h : ofText (String.ofList (cs ++ b)) = .ok t) : ∀ x ∈ s.numbers, x.isFinite := by
  rw [ofText, decodeText, Document.ofText_written hcs hb] at h
  obtain ⟨t, ht, -⟩ := bind_eq_ok.1 h
  exact finite_of_decoder ht

/-- A story is read back from its compact and from its indented form, and no story is read from a form
in which a number that is not finite had no place. -/
theorem ofText_toJson (s : Story) {text : String}
    (htext : text = s.toJson.compact ∨ text = s.toJson.pretty) :
    ((∀ a ∈ s.walk, ∀ c ∈ a.characters, Binary64.minId ≤ c ∧ c ≤ Binary64.maxId) →
      s.toJson.nesting ≤ maxDepth → (∀ x ∈ s.numbers, x.isFinite) →
      (∀ x ∈ s.numbers, x.isFinite → x.ReadsBack) → ofText text = .ok s) ∧
    ((∃ x ∈ s.numbers, x.isFinite = false) → ∃ e, ofText text = .error e) := by
  obtain ⟨cs, hcs, rfl⟩ : ∃ cs, Written s.toJson cs ∧ text = String.ofList (cs ++ []) := by
    rcases htext with rfl | rfl
    · exact ⟨_, written_write _, by rw [List.append_nil]; rfl⟩
    · exact ⟨_, written_indented 0 _, by rw [List.append_nil]; rfl⟩
  refine ⟨fun hids hnesting hfinite hback ↦ ?_, fun ⟨x, hx, hinf⟩ ↦ ?_⟩
  · exact ofText_written hcs .nil hids hnesting fun x hx ↦ hback x hx (hfinite x hx)
  · cases h : ofText (String.ofList (cs ++ [])) with
    | error e => exact ⟨e, rfl⟩
    | ok t =>
      have hfinite := finite_of_ofText hcs .nil h x hx
      rw [hinf] at hfinite
      cases hfinite

def nested : Story := ⟨.kr, [
  .talk "\"\\\n\x01" [-9223372036854775808, 9223372036854775807] ["", "a"] (some "v/1"),
  .forkTask [.blocking [.showModel 7 "m" ⟨.leftInside, .ofInt (-120)⟩, .waitForTap], .delay (.ofInt 2)]]⟩

theorem ofText_nested : ofText nested.toJson.compact = .ok nested ∧
    ofText nested.toJson.pretty = .ok nested ∧
    ∃ e, ofText (push nested (.delay .nan)).toJson.compact = .error e := by
  have hids : ∀ a ∈ nested.walk, ∀ c ∈ a.characters, Binary64.minId ≤ c ∧ c ≤ Binary64.maxId := by
    decide
  have hfinite : ∀ x ∈ nested.numbers, x.isFinite := by decide +kernel
  have hback : ∀ x ∈ nested.numbers, x.isFinite → x.ReadsBack := by decide +kernel
  refine ⟨(ofText_toJson nested (.inl rfl)).1 hids (by decide) hfinite hback,
    (ofText_toJson nested (.inr rfl)).1 hids (by decide) hfinite hback,
    (ofText_toJson _ (.inl rfl)).2 ⟨.nan, ?_, rfl⟩⟩
  decide +kernel

end Story

end Stagecraft
