import Stagecraft.Proofs.Asset.Appearances
import Stagecraft.Proofs.Scenario.BackwardScan

namespace Stagecraft.Scenario

open Asset

def ripEnding : List Char := ['_', 'r', 'i', 'p']

/-- The bundle that a directory stands for: its last part, without one `_rip` at the end. -/
def bundleOf (directory : String) : String :=
  let name := (lastPart directory).toList
  if ripEnding <:+ name then String.ofList (name.rdrop ripEnding.length) else String.ofList name

section parts

variable {file : List Char}

theorem without_eq (ending cs : List Char) :
    Reference.without ending cs = if ending <:+ cs then cs.rdrop ending.length else cs := by
  rw [Reference.without]
  cases h : Text.after? ending.reverse cs.reverse with
  | none =>
    have hnot : ¬ending <:+ cs := by
      rw [← List.reverse_prefix, ← Text.isSome_after?, h]
      exact Bool.false_ne_true
    rw [if_neg hnot]
  | some rest =>
    have hcs : cs = rest.reverse ++ ending := by
      rw [← List.reverse_reverse cs, Text.eq_append_of_after? h, List.reverse_append,
        List.reverse_reverse]
    rw [if_pos ⟨rest.reverse, hcs.symm⟩, hcs, List.rdrop, List.length_append,
      Nat.add_sub_cancel, List.take_left]

theorem stem_extension (name : List Char) {extension : List Char} (h : '.' ∉ extension) :
    Reference.stem (name ++ '.' :: extension) = name := by
  rw [Reference.stem, Text.splitAtLast?_append h]

theorem lastComponent_append (h : '/' ∉ file) (before : List Char) :
    Reference.lastComponent (before ++ '/' :: file) = (file, some before) := by
  rw [Reference.lastComponent, Text.splitAtLast?_append h]

theorem lastComponent_fst (cs : List Char) :
    (Reference.lastComponent cs).1 = cs.rtakeWhile (· ≠ '/') := by
  have h := lastPart_eq_costumeName (String.ofList cs)
  rw [lastPart, costumeName, String.toList_ofList, String.ofList_inj] at h
  exact h.symm

theorem bundleName_lastComponent (directory : List Char) :
    String.ofList (Reference.bundleName (Reference.lastComponent directory).1) =
      bundleOf (String.ofList directory) := by
  have hrip : "_rip".toList = ripEnding := rfl
  rw [lastComponent_fst, bundleOf, lastPart, String.toList_ofList, String.toList_ofList,
    Reference.bundleName, hrip, without_eq, apply_ite String.ofList]

theorem bundleName_directory (before : List Char) (directory : String) :
    String.ofList (Reference.bundleName
      (Reference.lastComponent (before ++ '/' :: directory.toList)).1) = bundleOf directory := by
  have hlast : lastPart (String.ofList (before ++ '/' :: directory.toList)) = lastPart directory := by
    rw [lastPart, lastPart, String.toList_ofList, Text.rtakeWhile_behind rfl]
  rw [bundleName_lastComponent, bundleOf, hlast, bundleOf]

end parts

def beforeLast (sep : Char) (s : String) : String :=
  String.ofList (s.toList.rdropWhile (· ≠ sep)).dropLast

def withoutExtension (file : String) : String :=
  if '.' ∈ file.toList then beforeLast '.' file else file

theorem stem_lastPart (path : String) :
    String.ofList (Reference.stem (Reference.lastComponent path.toList).1) =
      withoutExtension (lastPart path) := by
  rw [lastComponent_fst, Reference.stem, Text.splitAtLast?_eq, withoutExtension, beforeLast, lastPart,
    String.toList_ofList]
  split_ifs <;> rfl

/-- The reference of any path: an address is kept, and a path of the game names the file behind its
last slash and the bundle before it. -/
theorem ofPath_eq (path : String) (hasBundle : Bool) (bundleStart : String) :
    Reference.ofPath path hasBundle bundleStart =
      if "http://".toList <+: path.toList ∨ "https://".toList <+: path.toList then .custom path
      else .game (withoutExtension (lastPart path))
        (if hasBundle = true ∧ '/' ∈ path.toList then
          some (bundleStart ++ bundleOf (beforeLast '/' path)) else none) := by
  have haddress : Reference.isAddress path.toList = true ↔
      "http://".toList <+: path.toList ∨ "https://".toList <+: path.toList := by
    rw [Reference.isAddress, Bool.or_eq_true, Text.isSome_after?, Text.isSome_after?]
  have hbefore : (Reference.lastComponent path.toList).2 =
      if '/' ∈ path.toList then some (beforeLast '/' path).toList else none := by
    rw [Reference.lastComponent, Text.splitAtLast?_eq, beforeLast, String.toList_ofList]
    split_ifs <;> rfl
  have hbundle (directory : List Char) : bundleStart ++
      String.ofList (Reference.bundleName (Reference.lastComponent directory).1) =
        bundleStart ++ bundleOf (String.ofList directory) := by
    rw [bundleName_lastComponent]
  simp only [Reference.ofPath, haddress, stem_lastPart, hbefore, hbundle, ite_and]
  split_ifs
  all_goals simp only [Option.map_some, Option.map_none, String.ofList_toList]

section paths

variable {locale : Locale} {bundle name : String}

/-- A path that begins with a locale is no address. -/
theorem isAddress_locale (locale : Locale) (rest : List Char) :
    Reference.isAddress (locale.name.toList ++ rest) = false := by
  cases locale <;> rfl

theorem ofPath_file (locale : Locale) (before : List Char) (bundle : String)
    (extension : List Char) {path : String}
    (hpath : path.toList = (locale.name.toList ++ before) ++ '/' :: bundle.toList ++
      '/' :: (name.toList ++ '.' :: extension))
    (hname : '/' ∉ name.toList) (hslash : '/' ∉ extension) (hdot : '.' ∉ extension)
    (hasBundle : Bool) (bundleStart : String) :
    Reference.ofPath path hasBundle bundleStart =
      .game name (if hasBundle then some (bundleStart ++ bundleOf bundle) else none) := by
  have hlocal : Reference.isAddress path.toList = false := by
    rw [hpath, List.append_assoc, List.append_assoc]
    exact isAddress_locale locale _
  have hfile : '/' ∉ name.toList ++ '.' :: extension := by simp [hname, hslash]
  rw [Reference.ofPath, hlocal, hpath, lastComponent_append hfile]
  simp only [stem_extension _ hdot, String.ofList_toList, Option.map_some, bundleName_directory]
  rfl

theorem ofBackground_backgroundPath (hname : '/' ∉ name.toList) :
    Reference.ofBackground (backgroundPath locale bundle name) =
      .game name (some ("bg/" ++ bundleOf bundle)) :=
  ofPath_file locale [] bundle ['p', 'n', 'g'] (by simp [backgroundPath]) hname (by decide) (by decide)
    true _

theorem ofBgm_musicPath (hname : '/' ∉ name.toList) :
    Reference.ofBgm (musicPath locale name) = .game name none :=
  ofPath_file locale "/sound/scenario/bgm".toList (Text.lowercase name) ['m', 'p', '3']
    (by simp [musicPath]) hname (by decide) (by decide) false _

theorem ofSe_sePath (hname : '/' ∉ name.toList) :
    Reference.ofSe (sePath locale bundle name) =
      if bundle = "" then .custom ("https://bestdori.com/res/CommonSE/" ++ name ++ ".mp3")
      else .game name (some (bundleOf bundle)) := by
  split_ifs with hbundle
  · have hpath : sePath locale bundle name =
        "https://bestdori.com/res/CommonSE/" ++ name ++ ".mp3" := by
      rw [← String.toList_inj]
      simp [sePath, hbundle, commonSeBase]
    have haddress : Reference.isAddress
        ("https://bestdori.com/res/CommonSE/" ++ name ++ ".mp3").toList = true := by
      rw [String.toList_append, String.toList_append]
      rfl
    rw [hpath, Reference.ofSe, Reference.ofPath, haddress]
    rfl
  · rw [Reference.ofSe, ofPath_file locale "/sound/se".toList bundle ['m', 'p', '3']
      (by simp [sePath, hbundle]) hname (by decide) (by decide), String.empty_append]
    rfl

theorem costumeName_modelPath (hname : '/' ∉ name.toList) :
    costumeName (modelPath locale name) = name := by
  have hpath : (modelPath locale name).toList =
      (locale.name.toList ++ "/live2d/chara".toList) ++ '/' :: name.toList := by
    simp [modelPath]
  rw [costumeName, hpath, lastComponent_append hname, String.ofList_toList]

end paths

section records

variable (locale : Locale) (m : Memory)

theorem opening_openingActions (c : Setting) :
    (opening ⟨none, none⟩ (openingActions c)).1 =
      ⟨if c.asset.firstBackground = "" then none else some (.ofBackground
        (backgroundPath c.locale c.asset.firstBackgroundBundle c.asset.firstBackground)),
      if c.asset.firstBgm = "" then none
        else some (.ofBgm (musicPath c.locale c.asset.firstBgm))⟩ := by
  rw [openingActions]
  split_ifs <;> rfl

theorem bodies_background {r : EffectRecord}
    (hkind : r.kind = .changeBackground ∨ r.kind = .changeBackgroundStill ∨
      r.kind = .changeCardStill) (hname : '/' ∉ r.subvalue.toList) :
    (effectActions locale r).filterMap m.body? =
      [.effect (.changeBackground (.game r.subvalue (some ("bg/" ++ bundleOf r.value))))] := by
  have hactions : effectActions locale r =
      [.changeBackground (backgroundPath locale r.value r.subvalue)] := by
    rcases hkind with h | h | h <;> rw [effectActions, h]
  rw [hactions, ← ofBackground_backgroundPath hname]
  rfl

theorem bodies_scenarioEffect {r : EffectRecord} (hkind : r.kind = .playScenarioEffect)
    (hvalue : "bgchange".toList <+: r.value.toList) :
    (effectActions locale r).filterMap m.body? =
      [.effect (.changeBackground (.game "bg" (some ("bg/" ++ bundleOf r.subvalue))))] := by
  have hname : '/' ∉ "bg".toList := by decide
  have hbackground : isBackgroundEffect r.value = true := by
    rw [isBackgroundEffect, Text.isSome_after?]
    exact hvalue
  rw [effectActions, hkind, ← ofBackground_backgroundPath hname]
  simp only [hbackground]
  rfl

theorem bodies_sound {r : SoundRecord} (hbgm : '/' ∉ r.bgm.toList) (hse : '/' ∉ r.se.toList) :
    (soundActions locale r).filterMap m.body? =
      (if r.bgm = "" then [] else [.sound (some (.game r.bgm none)) none]) ++
      (if r.se = "" then [] else [.sound none (some (if r.seBundle = "" then
          .custom ("https://bestdori.com/res/CommonSE/" ++ r.se ++ ".mp3")
        else .game r.se (some (bundleOf r.seBundle))))]) := by
  rw [soundActions, List.filterMap_append, ← ofBgm_musicPath hbgm, ← ofSe_sePath hse]
  split_ifs <;> rfl

theorem body_showModel {costume : String} (hname : '/' ∉ costume.toList) (c : Int)
    (position : Position) :
    m.body? (.showModel c (modelPath locale costume) position) =
        some (.layout .appear c costume (.ofPosition position) (.ofPosition position)) ∧
      (m.after (.showModel c (modelPath locale costume) position)).costume c = costume := by
  have hmodel : costumeName (modelPath locale costume) = costume := costumeName_modelPath hname
  constructor
  · rw [Memory.body?, hmodel]
  · rw [Memory.costume, Memory.after, List.lookup_cons_self, Option.map_some, hmodel,
      Option.getD_some]

end records

/-- Scenarios name assets as the assets themselves are named. A background comes back with its bundle,
music without one, a sound effect with its bundle or as the address it has without one, and a character
in the costume that the layout table names. -/
theorem names_kept (asset : Asset) (locale : Locale) (voiceBundle : String) :
    let scene := (opening ⟨none, none⟩ (openingActions ⟨asset, locale, voiceBundle⟩)).1
    ('/' ∉ asset.firstBackground.toList →
      scene.background = if asset.firstBackground = "" then none else
        some (.game asset.firstBackground
          (some ("bg/" ++ bundleOf asset.firstBackgroundBundle)))) ∧
    ('/' ∉ asset.firstBgm.toList →
      scene.bgm = if asset.firstBgm = "" then none else some (.game asset.firstBgm none)) ∧
    ∀ m : Memory,
      (∀ r : EffectRecord, r.kind = .changeBackground ∨ r.kind = .changeBackgroundStill ∨
        r.kind = .changeCardStill → '/' ∉ r.subvalue.toList →
        (effectActions locale r).filterMap m.body? =
          [.effect (.changeBackground (.game r.subvalue (some ("bg/" ++ bundleOf r.value))))]) ∧
      (∀ r : EffectRecord, r.kind = .playScenarioEffect → "bgchange".toList <+: r.value.toList →
        (effectActions locale r).filterMap m.body? =
          [.effect (.changeBackground (.game "bg" (some ("bg/" ++ bundleOf r.subvalue))))]) ∧
      (∀ r : SoundRecord, '/' ∉ r.bgm.toList → '/' ∉ r.se.toList →
        (soundActions locale r).filterMap m.body? =
          (if r.bgm = "" then [] else [.sound (some (.game r.bgm none)) none]) ++
          (if r.se = "" then [] else [.sound none (some (if r.seBundle = "" then
              .custom ("https://bestdori.com/res/CommonSE/" ++ r.se ++ ".mp3")
            else .game r.se (some (bundleOf r.seBundle))))])) ∧
      ∀ c model position,
        .showModel c model position ∈ (convert asset locale voiceBundle).story.actions →
        ∃ n r costume, asset.layouts[n]? = some r ∧ r.kind = .appear ∧ r.character = c ∧
          LayoutRecord.lastCostume? c (asset.layouts.take (n + 1)) = some costume ∧
          ('/' ∉ costume.toList → m.body? (.showModel c model position) =
              some (.layout .appear c costume (.ofPosition position) (.ofPosition position)) ∧
            (m.after (.showModel c model position)).costume c = costume) := by
  rw [opening_openingActions]
  refine ⟨fun hname ↦ ?_, fun hname ↦ ?_, fun m ↦ ⟨fun r ↦ bodies_background locale m,
    fun r ↦ bodies_scenarioEffect locale m, fun r ↦ bodies_sound locale m, ?_⟩⟩
  · rw [← ofBackground_backgroundPath hname]
  · rw [← ofBgm_musicPath hname]
  · intro c model position h
    obtain ⟨i, n, r, x, costume, hrefers, hkind, hc, -, -, hcostume, rfl⟩ := exists_costume h
    exact ⟨n, r, costume, hrefers.row, hkind, hc, hcostume, fun hname ↦
      body_showModel locale m hname c position⟩

def oddNames : Asset :=
  { playing [0] [layoutRow .appear "002_school.v2_rip"] with
    firstBgm := "Live BGM.01"
    firstBackground := "bg.00 1_rip"
    firstBackgroundBundle := "bg/scenario2_rip_rip" }

theorem names_kept_oddNames :
    let scene := (opening ⟨none, none⟩ (openingActions ⟨oddNames, .jp, ""⟩)).1
    ('/' ∉ "bg.00 1_rip".toList ∧ '/' ∉ "Live BGM.01".toList ∧ '/' ∉ "se 1.v2".toList ∧
      "bgchange".toList <+: "bgchange_a".toList ∧ '/' ∉ "002_school.v2_rip".toList) ∧
    scene.background = some (.game "bg.00 1_rip" (some ("bg/" ++ "scenario2_rip"))) ∧
    scene.bgm = some (.game "Live BGM.01" none) ∧
    (effectActions .jp ⟨.changeCardStill, "bg/night_rip", "bg.00 1_rip", .zero⟩).filterMap
      Memory.start.body? =
        [.effect (.changeBackground (.game "bg.00 1_rip" (some ("bg/" ++ "night"))))] ∧
    (effectActions .jp ⟨.playScenarioEffect, "bgchange_a", "bg/night_rip", .zero⟩).filterMap
      Memory.start.body? = [.effect (.changeBackground (.game "bg" (some ("bg/" ++ "night"))))] ∧
    (soundActions .jp ⟨"Live BGM.01", "se 1.v2", "bg/night_rip"⟩).filterMap Memory.start.body? =
      [.sound (some (.game "Live BGM.01" none)) none,
        .sound none (some (.game "se 1.v2" (some "night")))] ∧
    (Memory.start.after (.showModel 2 "jp/live2d/chara/002_school.v2_rip"
      ⟨.center, .ofInt 0⟩)).costume 2 = "002_school.v2_rip" := by
  intro scene
  have hscene : bundleOf "bg/scenario2_rip_rip" = "scenario2_rip" := by decide +kernel
  have hnight : bundleOf "bg/night_rip" = "night" := by decide +kernel
  obtain ⟨hbackground, hbgm, hrecords⟩ := names_kept oddNames .jp ""
  obtain ⟨heffect, hscenario, hsound, hmodel⟩ := hrecords Memory.start
  have hnames : '/' ∉ "bg.00 1_rip".toList ∧ '/' ∉ "Live BGM.01".toList ∧
      '/' ∉ "se 1.v2".toList ∧ "bgchange".toList <+: "bgchange_a".toList ∧
      '/' ∉ "002_school.v2_rip".toList := by decide
  obtain ⟨hbg, hlive, hse, hchange, hschool⟩ := hnames
  have hactions : (convert oddNames .jp "").story.actions =
      openingActions ⟨oddNames, .jp, ""⟩ ++
        [.showModel 2 "jp/live2d/chara/002_school.v2_rip" ⟨.center, .ofInt 0⟩] := rfl
  obtain ⟨n, r, costume, -, -, -, hcostume, hkept⟩ := hmodel 2 _ _
    (hactions ▸ List.mem_append_right _ List.mem_cons_self)
  have htake : oddNames.layouts.take (n + 1) = oddNames.layouts :=
    List.take_of_length_le (Nat.le_add_left 1 n)
  rw [htake] at hcostume
  obtain rfl : "002_school.v2_rip" = costume := Option.some.inj hcostume
  refine ⟨⟨hbg, hlive, hse, hchange, hschool⟩, ?_, hbgm hlive, ?_, ?_, ?_, ?_⟩
  · rw [← hscene]
    exact hbackground hbg
  · rw [← hnight]
    exact heffect _ (.inr (.inr rfl)) hbg
  · rw [← hnight]
    exact hscenario _ rfl hchange
  · rw [← hnight]
    exact hsound _ hlive hse
  · exact (hkept hschool).2

end Stagecraft.Scenario
