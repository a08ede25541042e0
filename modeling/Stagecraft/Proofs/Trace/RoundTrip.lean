import Stagecraft.Proofs.Trace.Code
import Stagecraft.Proofs.Trace.Literals

namespace Stagecraft.Trace

open Stagecraft.Action (walkAll mapIdsAll)
open Binary64 (KeepsId IsExactId ofInt roundedId)
open Outcome (bind_eq_ok)

variable {s : Story}

/-- Every story has a trace: its tables hold all its literals. -/
theorem exists_code (s : Story) : ∃ code : Code,
    Compiles (Tables.ofStory s) [] s.actions code.main code.subs ∧
    write s = .ok (String.ofList (writeTrace (Tables.ofStory s) code)) := by
  have hliterals : ∀ a ∈ walkAll s.actions, (∀ x ∈ a.texts, x ∈ (Tables.ofStory s).texts) ∧
      ∀ x ∈ a.paths, x ∈ (Tables.ofStory s).paths := fun a ha ↦ Story.literals_mem_tables ha
  obtain ⟨main, subs, hblock, hcompiles⟩ := block_compiles hliterals []
  refine ⟨⟨main, subs⟩, hcompiles, ?_⟩
  simp only [write, Code.ofStory, hblock, bind, Except.bind, pure, Except.pure]

theorem regular_of_addressable {code : Code} (h : s.Addressable)
    (hcompiles : Compiles (Tables.ofStory s) [] s.actions code.main code.subs) : code.Regular := by
  have hn : code.subs.length ≤ referenceBound := by
    rw [hcompiles.length_subs, List.length_nil, Nat.zero_add]
    exact h.groups
  obtain ⟨hmain, hsubs⟩ := hcompiles.regular h.texts h.paths hn nofun
  exact ⟨hmain, hsubs, hn⟩

theorem read_eq_ok {cs : List Char} {l : Locale} : read (String.ofList cs) l = .ok s ↔
    ∃ sections actions, readSections (Text.numberedLines cs) = .ok sections ∧
      readCode sections = .ok actions ∧ s = ⟨l, actions⟩ := by
  rw [read, bind_eq_ok, String.toList_ofList]
  constructor
  · rintro ⟨sections, hs, h⟩
    obtain ⟨actions, ha, h⟩ := bind_eq_ok.1 h
    exact ⟨sections, actions, hs, ha, (Except.ok.inj h).symm⟩
  · rintro ⟨sections, actions, hs, ha, rfl⟩
    exact ⟨sections, hs, bind_eq_ok.2 ⟨actions, ha, rfl⟩⟩

theorem text_numberedLines {t : Tables} {code : Code} (h : code.Spelled) :
    (Text.numberedLines (writeTrace t code)).map Text.Line.text = traceLines t code := by
  rw [Text.numberedLines, Text.map_text_numberedFrom, lines_writeTrace h]

theorem Sections.Carries.length_subs {c : Sections} {code : Code} (h : c.Carries code) :
    c.subs.length = code.subs.length := by
  simpa using congrArg List.length h.subs

/-- A story without a literal that ends in a backslash is read back with its ids rounded. -/
theorem read_rounded (h : s.Addressable)
    (hid : ∀ a ∈ s.walk, ∀ n ∈ a.characters, (ofInt n).isIntegral)
    (hx : ∀ x ∈ s.literals, ¬EndsInBackslash x) (l : Locale) :
    ∃ text, write s = .ok text ∧ read text l = .ok ⟨l, mapIdsAll roundedId s.actions⟩ := by
  obtain ⟨code, hcompiles, hwrite⟩ := exists_code s
  have hc := regular_of_addressable h hcompiles
  obtain ⟨c, hsections, ht, hp, hcarries⟩ := readSections_good hc
    (fun x hxt ↦ hx x (Story.mem_literals.2 (.inl hxt)))
    (fun x hxp ↦ hx x (Story.mem_literals.2 (.inr hxp))) (text_numberedLines hc.spelled)
  refine ⟨_, hwrite, read_eq_ok.2 ⟨c, _, hsections, ?_, rfl⟩⟩
  exact hcompiles.reads hc hcarries ht hp hid (List.prefix_refl _) hc.main
    hcarries.length_subs.ge hcarries.main

theorem read_good (h : s.Addressable) (hid : ∀ a ∈ s.walk, ∀ n ∈ a.characters, KeepsId n)
    (hx : ∀ x ∈ s.literals, ¬EndsInBackslash x) (l : Locale) :
    ∃ text, write s = .ok text ∧ read text l = .ok ⟨l, s.actions⟩ := by
  obtain ⟨text, hwrite, hread⟩ := read_rounded h (fun a ha n hn ↦ (hid a ha n hn).1) hx l
  have hsame : mapIdsAll roundedId s.actions = s.actions :=
    Action.mapIdsAll_eq_self fun a ha n hn ↦ (hid a ha n hn).2
  rw [hsame] at hread
  exact ⟨text, hwrite, hread⟩

/-- A table that has lost literals lacks the place of the last one. -/
theorem exists_not_located {t : Table} {n : ℕ} (ht : t.Nodup) (hn : n < t.length) :
    ∃ x ∈ t, ¬∃ i, t.index? x = some i ∧ i < n := by
  refine ⟨t[t.length - 1], List.getElem_mem _, ?_⟩
  rintro ⟨i, hi, hlt⟩
  obtain ⟨hlen, heq, -⟩ := List.idxOf?_eq_some_iff.1 hi
  have hlast := (List.Nodup.getElem_inj_iff ht).1 heq
  omega

/-- A trace with a literal that ends in a backslash is not read. -/
theorem read_bad (h : s.Addressable) (hx : ∃ x ∈ s.literals, EndsInBackslash x) {text : String}
    (hwrite : write s = .ok text) (l : Locale) : ∃ e, read text l = .error e := by
  obtain ⟨code, hcompiles, hwrite'⟩ := exists_code s
  have hc := regular_of_addressable h hcompiles
  obtain rfl := Except.ok.inj (hwrite.symm.trans hwrite')
  cases hread : read (String.ofList (writeTrace (Tables.ofStory s) code)) l with
  | error e => exact ⟨e, rfl⟩
  | ok s' =>
    obtain ⟨c, actions, hsections, hcode, -⟩ := read_eq_ok.1 hread
    have hbad : (∃ x ∈ (Tables.ofStory s).texts, EndsInBackslash x) ∨
        ∃ x ∈ (Tables.ofStory s).paths, EndsInBackslash x := by
      obtain ⟨x, hmem, hx⟩ := hx
      exact (Story.mem_literals.1 hmem).imp (fun h ↦ ⟨x, h, hx⟩) fun h ↦ ⟨x, h, hx⟩
    obtain ⟨hshort, hcarries⟩ := readSections_bad hc hbad (text_numberedLines hc.spelled) hsections
    have hlocated := hcompiles.located hc hcarries (List.prefix_refl _) hc.main
      hcarries.length_subs.ge hcarries.main hcode
    rcases hshort with hshort | hshort
    · obtain ⟨x, hx, hn⟩ := exists_not_located (Table.nodup_ofLiterals _) hshort
      obtain ⟨a, ha, hxa⟩ := Story.mem_texts.1 hx
      exact absurd ((hlocated a ha).1 x hxa) hn
    · obtain ⟨x, hx, hn⟩ := exists_not_located (Table.nodup_ofLiterals _) hshort
      obtain ⟨a, ha, hxa⟩ := Story.mem_paths.1 hx
      exact absurd ((hlocated a ha).2 x hxa) hn

/-- Every story has a trace. Whatever its literals hold, the story is read back from it under every
locale if no literal ends in a backslash, and reading it is an error if one does. -/
theorem read_write (h : s.Addressable)
    (hid : ∀ a ∈ s.walk, ∀ n ∈ a.characters, IsExactId n) (l : Locale) :
    ∃ text, write s = .ok text ∧
      ((∀ x ∈ s.literals, ¬EndsInBackslash x) → read text l = .ok ⟨l, s.actions⟩) ∧
      ((∃ x ∈ s.literals, EndsInBackslash x) → ∃ e, read text l = .error e) := by
  obtain ⟨code, -, hwrite⟩ := exists_code s
  refine ⟨_, hwrite, fun hx ↦ ?_, fun hx ↦ read_bad h hx hwrite l⟩
  obtain ⟨text, hwrite', hread⟩ := read_good h (fun a ha n hn ↦ (hid a ha n hn).keepsId) hx l
  rwa [Except.ok.inj (hwrite.symm.trans hwrite')]

def imitation : Story := ⟨.jp, [
  .talk "t1: a;\n\n.code\n" [3] ["sub_0:", ";"] none,
  .blocking [.forkTask [.telop "\\;"], .showModel 3 ".path" .center]]⟩

theorem imitation_addressable : imitation.Addressable := by
  constructor <;> decide

theorem isExactId_three : IsExactId 3 := by
  refine ⟨by decide, by decide, Binary64.ofInt 3, by decide +kernel⟩

theorem read_write_imitation :
    ∃ text, write imitation = .ok text ∧ read text .en = .ok ⟨.en, imitation.actions⟩ := by
  have hid : ∀ a ∈ imitation.walk, ∀ n ∈ a.characters, IsExactId n := by
    have h : ∀ a ∈ imitation.walk, ∀ n ∈ a.characters, n = 3 := by decide
    exact fun a ha n hn ↦ h a ha n hn ▸ isExactId_three
  obtain ⟨text, hwrite, hgood, -⟩ := read_write imitation_addressable hid .en
  exact ⟨text, hwrite, hgood (by decide)⟩

end Stagecraft.Trace
