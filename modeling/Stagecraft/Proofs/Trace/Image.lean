import Stagecraft.Proofs.Trace.RoundTrip

namespace Stagecraft.Trace

open Stagecraft.Action (walkAll)
open Binary64 (KeepsId)
open Outcome (bind_eq_ok map_eq_ok mapM_eq_ok exists_left exists_right)
open Text (Line)

theorem getLast?_unescape (cs : List Char) : (unescape cs).getLast? = cs.getLast? := by
  have hcons {c : Char} {cs ds : List Char} (h : ds.getLast? = cs.getLast?) :
      (c :: ds).getLast? = (c :: cs).getLast? := by
    rw [List.getLast?_cons, List.getLast?_cons, h]
  induction cs using unescape.induct with
  | case1 => rfl
  | case2 cs ih =>
    rw [unescape, hcons ih, List.getLast?_cons, List.getLast?_cons, List.getLast?_cons]
    rfl
  | case3 c cs h ih =>
    rw [unescape, hcons ih]
    exact h

theorem not_endsInBackslash_literal {body : List Char} (h : endsLiteral body) :
    ¬EndsInBackslash (literal body) := by
  rcases List.eq_nil_or_concat body with rfl | ⟨cs, c, rfl⟩
  · cases h
  · rw [List.concat_eq_append] at h ⊢
    by_cases hc : c = ';'
    · rw [hc, endsLiteral_concat, decide_eq_true_iff] at h
      rwa [EndsInBackslash, literal, String.toList_ofList, List.dropLast_concat, getLast?_unescape]
    · rw [endsLiteral_concat_ne hc] at h
      cases h

/-- Tables that were read hold no literal that ends in a backslash. -/
theorem readEntries_sound {tag : Char} {done t : Table} {entry : Option (ℕ × List Char)}
    {ls rest : List Line} (hdone : ∀ x ∈ done, ¬EndsInBackslash x)
    (h : readEntries tag done entry ls = .ok (t, rest)) : ∀ x ∈ t, ¬EndsInBackslash x := by
  induction ls generalizing done entry with
  | nil =>
    obtain ⟨rfl, -⟩ := eq_of_readEntries_nil h
    exact hdone
  | cons l ls ih =>
    obtain ⟨rfl, -⟩ | ⟨done', entry', hrest, rfl | ⟨body, hbody, rfl⟩⟩ := step_of_readEntries h
    · exact hdone
    · exact ih hdone hrest
    · have hliteral : ¬EndsInBackslash (literal body) := not_endsInBackslash_literal hbody
      apply ih _ hrest
      rw [List.forall_mem_append, List.forall_mem_singleton]
      exact ⟨hdone, hliteral⟩

theorem readSections_sound {ls : List Line} {s : Sections} (h : readSections ls = .ok s) :
    (∀ x ∈ s.texts, ¬EndsInBackslash x) ∧ ∀ x ∈ s.paths, ¬EndsInBackslash x := by
  rw [readSections_eq] at h
  obtain ⟨ls, -, h⟩ := bind_eq_ok.1 h
  obtain ⟨⟨texts, ls⟩, htexts, h⟩ := bind_eq_ok.1 h
  obtain ⟨ls, -, h⟩ := bind_eq_ok.1 h
  obtain ⟨⟨paths, ls⟩, hpaths, h⟩ := bind_eq_ok.1 h
  obtain ⟨ls, -, h⟩ := bind_eq_ok.1 h
  obtain ⟨subs, -, h⟩ := bind_eq_ok.1 h
  obtain rfl := Except.ok.inj h
  exact ⟨readEntries_sound (List.forall_mem_nil _) htexts,
    readEntries_sound (List.forall_mem_nil _) hpaths⟩

theorem readReference_bounded {whole cs : List Char} {make : ℕ → Argument} {a : Argument}
    (h : readReference whole cs make = .ok a) (hmake : ∀ n < referenceBound, (make n).Bounded) :
    a.Bounded := by
  rw [readReference] at h
  split at h
  · next n hn =>
    unfold reference? at hn
    obtain ⟨m, -, hm⟩ := Option.bind_eq_some_iff.1 hn
    split at hm
    · next hlt =>
      obtain rfl := Option.some.inj hm
      obtain rfl := Except.ok.inj h
      exact hmake m hlt
    · cases hm
  · cases h

theorem readSimple_bounded {cs : List Char} {a : Argument} (h : readSimple cs = .ok a) :
    a.Bounded := by
  rw [readSimple] at h
  split at h
  · split at h
    · cases h
      trivial
    · cases h
  · split at h
    · exact readReference_bounded h fun _ hn ↦ hn
    · split at h
      · exact readReference_bounded h fun _ hn ↦ hn
      · split at h
        · exact readReference_bounded h fun _ hn ↦ hn
        · cases h

theorem readWithin_bounded {depth : ℕ} {cs : List Char} {as : List Argument}
    (hdepth : ∀ cs a, readArgument depth cs = .ok a → a.Bounded)
    (h : readWithin depth cs = .ok as) : ∀ a ∈ as, a.Bounded := by
  rw [readWithin] at h
  split at h
  · cases h
    simp
  · split at h
    · cases h
    · intro a ha
      obtain ⟨part, -, hpart⟩ := exists_left (mapM_eq_ok.1 h) ha
      exact hdepth part a hpart

theorem readArgument_bounded (depth : ℕ) (cs : List Char) (a : Argument)
    (h : readArgument depth cs = .ok a) : a.Bounded := by
  induction depth generalizing cs a with
  | zero =>
    rw [readArgument] at h
    cases h
  | succ depth ih =>
    rw [readArgument] at h
    split at h
    · obtain ⟨items, hitems, rfl⟩ := map_eq_ok.1 h
      exact Argument.boundedAll_iff.2 (readWithin_bounded ih hitems)
    · split at h
      · obtain ⟨parts, hparts, rfl⟩ := map_eq_ok.1 h
        exact Argument.boundedAll_iff.2 (readWithin_bounded ih hparts)
      · exact readSimple_bounded h

theorem readArguments_bounded {cs : List Char} {as : List Argument}
    (h : readArguments cs = .ok as) : ∀ a ∈ as, a.Bounded :=
  readWithin_bounded (readArgument_bounded _) h

structure Sound (s : Sections) (a : Action) : Prop where
  texts : ∀ x ∈ a.texts, x ∈ s.texts.take referenceBound
  paths : ∀ x ∈ a.paths, x ∈ s.paths.take referenceBound
  ids : ∀ n ∈ a.characters, KeepsId n

theorem mem_take_of_getElem? {t : Table} {x : String} {i n : ℕ} (h : t[i]? = some x) (hi : i < n) :
    x ∈ t.take n := by
  refine List.mem_of_getElem? (i := i) ?_
  rw [List.getElem?_take_of_lt hi, h]

theorem Reads.texts_mem {c : LineContext} {v : Value} {arg : Argument} (h : Reads c v arg)
    (hb : arg.Bounded) : ∀ x ∈ v.textLiterals, x ∈ c.sections.texts.take referenceBound := by
  cases h with
  | text h => exact List.forall_mem_singleton.2 (mem_take_of_getElem? h hb)
  | texts h =>
    intro x hx
    obtain ⟨i, hi, hix⟩ := exists_left h hx
    exact mem_take_of_getElem? hix (Argument.boundedAll_iff.1 hb _ (List.mem_map_of_mem hi))
  | _ => simp [Value.textLiterals]

theorem Reads.paths_mem {c : LineContext} {v : Value} {arg : Argument} (h : Reads c v arg)
    (hb : arg.Bounded) : ∀ x ∈ v.pathLiterals, x ∈ c.sections.paths.take referenceBound := by
  cases h with
  | path h => exact List.forall_mem_singleton.2 (mem_take_of_getElem? h hb)
  | _ => simp [Value.pathLiterals]

theorem readAction_sound {s : Sections} {groups : ℕ → Except ReadError (List Action)} {l : Line}
    {a : Action} (h : readAction s groups l = .ok a) :
    Sound s a ∧ ∀ members ∈ a.members?, ∃ n, groups n = .ok members := by
  obtain ⟨args, hargs, -, hr⟩ := readAction_eq_ok.1 h
  have hb := readArguments_bounded hargs
  rw [ReadsFrom] at hr
  split at hr
  · next members hm =>
    obtain ⟨n, -, hn⟩ := hr
    have hv := values_group hm
    refine ⟨⟨?_, ?_, ?_⟩, ?_⟩
    · rw [texts_eq, hv]
      exact List.forall_mem_nil _
    · rw [paths_eq, hv]
      exact List.forall_mem_nil _
    · rw [Action.characters, hv]
      exact List.forall_mem_nil _
    · intro members' hmembers
      rw [hm] at hmembers
      cases hmembers
      exact ⟨n, hn⟩
  · next hm =>
    have hvalue : ∀ v ∈ values a, ∃ arg ∈ args, Reads _ v arg := fun v hv ↦ exists_right hr hv
    refine ⟨⟨fun x hx ↦ ?_, fun x hx ↦ ?_, fun n hn ↦ ?_⟩, by simp [hm]⟩
    · rw [texts_eq] at hx
      obtain ⟨v, hv, hx⟩ := List.mem_flatMap.1 hx
      obtain ⟨arg, harg, hread⟩ := hvalue v hv
      exact hread.texts_mem (hb arg harg) x hx
    · rw [paths_eq] at hx
      obtain ⟨v, hv, hx⟩ := List.mem_flatMap.1 hx
      obtain ⟨arg, harg, hread⟩ := hvalue v hv
      exact hread.paths_mem (hb arg harg) x hx
    · obtain ⟨v, hv, hn⟩ := List.mem_flatMap.1 hn
      obtain ⟨arg, -, hread⟩ := hvalue v hv
      exact hread.keepsId n hn

theorem mapM_readAction_sound {s : Sections} {groups : ℕ → Except ReadError (List Action)}
    (hgroups : ∀ n members, groups n = .ok members → ∀ a ∈ walkAll members, Sound s a)
    {ls : List Line} {actions : List Action} (h : ls.mapM (readAction s groups) = .ok actions) :
    ∀ a ∈ walkAll actions, Sound s a := by
  have hall := mapM_eq_ok.1 h
  clear h
  induction hall with
  | nil => exact nofun
  | @cons l a ls rest hl _ ih =>
    obtain ⟨hsound, hmembers⟩ := readAction_sound hl
    rw [Action.walkAll_cons, List.forall_mem_cons, List.forall_mem_append]
    refine ⟨hsound, ?_, ih⟩
    cases hm : a.members? with
    | none => exact nofun
    | some members =>
      obtain ⟨n, hn⟩ := hmembers members hm
      exact hgroups n members hn

theorem readGroup_sound {s : Sections} {limit n : ℕ} {actions : List Action}
    (h : readGroup s limit n = .ok actions) : ∀ a ∈ walkAll actions, Sound s a := by
  induction limit generalizing n actions with
  | zero => cases h
  | succ limit ih =>
    rw [readGroup] at h
    split at h
    · exact mapM_readAction_sound (fun n members hn ↦ ih hn) h
    · exact ih h

/-- Every action of a story that was read is sound, in whatever groups it lies. -/
theorem readCode_sound {s : Sections} {actions : List Action} (h : readCode s = .ok actions) :
    ∀ a ∈ walkAll actions, Sound s a :=
  mapM_readAction_sound (fun _ _ hn ↦ readGroup_sound hn) h

variable {s : Story} {text : String} {l : Locale}

theorem read_sound (h : read text l = .ok s) : s.locale = l ∧
    ∃ c : Sections, (∀ x ∈ c.texts, ¬EndsInBackslash x) ∧ (∀ x ∈ c.paths, ¬EndsInBackslash x) ∧
      ∀ a ∈ s.walk, Sound c a := by
  rw [← String.ofList_toList (s := text)] at h
  obtain ⟨c, actions, hsections, hcode, rfl⟩ := read_eq_ok.1 h
  obtain ⟨ht, hp⟩ := readSections_sound hsections
  exact ⟨rfl, c, ht, hp, readCode_sound hcode⟩

theorem length_le_of_mem_take {t c : Table} (ht : t.Nodup)
    (h : ∀ x ∈ t, x ∈ c.take referenceBound) : t.length ≤ referenceBound :=
  (ht.subperm h).length_le.trans (List.length_take_le _ _)

/-- A story that was read can be written again, no literal of it ends in a backslash, and no id of it
is lost. What is written is read as the same story. Only groups can be too many for that, though
never in the memory of a 64-bit machine: a text may share one sub-block among several groups, and
each of them is written out. -/
theorem write_read (h : read text l = .ok s) :
    (∀ x ∈ s.literals, ¬EndsInBackslash x) ∧ (∀ a ∈ s.walk, ∀ n ∈ a.characters, KeepsId n) ∧
      ∃ text', write s = .ok text' ∧
        (s.walk.countP (·.members?.isSome) ≤ referenceBound → read text' l = .ok s) := by
  obtain ⟨rfl, c, ht, hp, hsound⟩ := read_sound h
  have hliterals : ∀ x ∈ s.literals, ¬EndsInBackslash x := by
    intro x hx
    rcases Story.mem_literals.1 hx with hx | hx
    · obtain ⟨a, ha, hx⟩ := Story.mem_texts.1 hx
      exact ht x (List.mem_of_mem_take ((hsound a ha).texts x hx))
    · obtain ⟨a, ha, hx⟩ := Story.mem_paths.1 hx
      exact hp x (List.mem_of_mem_take ((hsound a ha).paths x hx))
  have hids : ∀ a ∈ s.walk, ∀ n ∈ a.characters, KeepsId n := fun a ha ↦ (hsound a ha).ids
  have htexts : (Tables.ofStory s).texts.length ≤ referenceBound := by
    refine length_le_of_mem_take (c := c.texts) (Table.nodup_ofLiterals _) fun x hx ↦ ?_
    obtain ⟨a, ha, hx⟩ := Story.mem_texts.1 hx
    exact (hsound a ha).texts x hx
  have hpaths : (Tables.ofStory s).paths.length ≤ referenceBound := by
    refine length_le_of_mem_take (c := c.paths) (Table.nodup_ofLiterals _) fun x hx ↦ ?_
    obtain ⟨a, ha, hx⟩ := Story.mem_paths.1 hx
    exact (hsound a ha).paths x hx
  obtain ⟨code, -, hwrite⟩ := exists_code s
  refine ⟨hliterals, hids, _, hwrite, fun hgroups ↦ ?_⟩
  obtain ⟨text', hwrite', hread⟩ := read_good ⟨htexts, hpaths, hgroups⟩ hids hliterals s.locale
  rwa [Except.ok.inj (hwrite.symm.trans hwrite')]

def sharedText : String :=
  ".text\n\n.path\n\n.code\ntsk    $sub_0\nblk    $sub_0\n\nsub_0:\nmdh    #1e300\n"

def sharedCode : Code :=
  ⟨[⟨"tsk", [.sub 0]⟩, ⟨"blk", [.sub 0]⟩], [[⟨"mdh", [.number (.ofDecimal false ⟨1, 300⟩)]⟩]]⟩

def sharedStory : Story :=
  ⟨.jp, [.forkTask [.hideModel Binary64.maxId], .blocking [.hideModel Binary64.maxId]]⟩

theorem sharedText_eq : sharedText = String.ofList (writeTrace ⟨[], []⟩ sharedCode) := by
  decide +kernel

theorem regular_sharedCode : sharedCode.Regular where
  main := by
    have h (a : Action) : (⟨opcode a, [.sub 0]⟩ : Instruction).Regular :=
      opcode_regular a ⟨(by decide : 0 < referenceBound), trivial⟩
    exact List.forall_mem_cons.2 ⟨h (.forkTask []), List.forall_mem_singleton.2 (h (.blocking []))⟩
  subs := by
    have h (x : Binary64) : (⟨opcode (.hideModel 0), [.number x]⟩ : Instruction).Regular :=
      opcode_regular _ ⟨trivial, trivial⟩
    exact List.forall_mem_singleton.2 (List.forall_mem_singleton.2 (h _))
  few := by decide

theorem read_sharedText : read sharedText .jp = .ok sharedStory := by
  have hc := regular_sharedCode
  obtain ⟨c, hsections, -, -, hcarries⟩ := readSections_good (t := ⟨[], []⟩) hc
    (List.forall_mem_nil _) (List.forall_mem_nil _) (text_numberedLines hc.spelled)
  obtain ⟨l, ls, hmain, hl, hls⟩ := List.map_eq_cons_iff.1 hcarries.main
  obtain ⟨m, ms, rfl, hm, hms⟩ := List.map_eq_cons_iff.1 hls
  obtain rfl := List.map_eq_nil_iff.1 hms
  have hsub : (c.subs.getD ([] : List (List Instruction)).length []).map Line.text = _ :=
    hcarries.sub (List.prefix_refl _)
  obtain ⟨k, hk, hkm⟩ := List.map_eq_singleton_iff.1 hsub
  have hk : c.subs.getD 0 [] = [k] := hk
  have hbody {groups : ℕ → Except ReadError (List Action)} :
      readAction c groups k = .ok (.hideModel Binary64.maxId) := by
    have hregular := hc.subs _ (List.mem_singleton_self _) _ (List.mem_singleton_self _)
    refine (readAction_write hregular hkm).2 ⟨rfl, ?_⟩
    exact .cons (.integer (asInteger_eq_ok.2 ⟨_, rfl, by decide +kernel, by decide +kernel⟩)) .nil
  have hgroup : readGroup c c.subs.length 0 = .ok [.hideModel Binary64.maxId] := by
    rw [readGroup_eq (by rw [hcarries.length_subs]; decide), hk, List.mapM_cons, hbody]
    rfl
  have hfirst : readAction c (readGroup c c.subs.length) l =
      .ok (.forkTask [.hideModel Binary64.maxId]) :=
    (readAction_write (hc.main _ List.mem_cons_self) hl).2 ⟨rfl, 0, rfl, hgroup⟩
  have hsecond : readAction c (readGroup c c.subs.length) m =
      .ok (.blocking [.hideModel Binary64.maxId]) :=
    (readAction_write (hc.main _ (List.mem_cons_of_mem _ (List.mem_singleton_self _))) hm).2
      ⟨rfl, 0, rfl, hgroup⟩
  rw [sharedText_eq]
  refine read_eq_ok.2 ⟨c, _, hsections, ?_, rfl⟩
  rw [readCode, hmain, List.mapM_cons, List.mapM_cons, hfirst, hsecond]
  rfl

/-- The shared sub-block is written out twice, and the id has become the greatest one. -/
theorem write_read_sharedText : read sharedText .jp = .ok sharedStory ∧
    ∃ text', write sharedStory = .ok text' ∧ read text' .jp = .ok sharedStory := by
  obtain ⟨-, -, text', hwrite, hread⟩ := write_read read_sharedText
  exact ⟨read_sharedText, text', hwrite, hread (by decide)⟩

end Stagecraft.Trace
