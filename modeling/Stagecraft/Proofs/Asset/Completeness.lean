import Stagecraft.Proofs.Asset.Appearances

namespace Stagecraft

namespace Asset

def first? {α : Type} (n : ℕ) (xs : List α) : Option (List α) :=
  if n ≤ xs.length then some (xs.take n) else none

/-- A reference as an index of 64 bits: below zero it wraps around. -/
def wrapped : Int → ℕ
  | .ofNat n => n
  | .negSucc n => 2 ^ 64 - (n + 1)

section checked

variable (c : Setting) (index : ℕ)

def resolve? {α : Type} (table : List α) (what : String) (convert : Snippet → α → Option Output) :
    Option Output := do
  let s ← c.asset.snippets[index]?
  match (place? s.reference).bind fun n ↦ table[n]? with
  | some r => convert s r
  | none => return resolve table what index s.reference fun _ _ ↦ .nothing

def layoutOutput? (s : Snippet) (r : LayoutRecord) : Option Output := do
  let rows ← if s.kind = .layout ∧ r.kind = .appear then
    first? (wrapped s.reference) c.asset.layouts else some []
  return layoutOutput c.locale index s.kind rows.reverse r

def recordOutput? (s : Snippet) : Option Output :=
  match s.kind with
  | .none => some .nothing
  | .talk =>
    resolve? c index c.asset.talks "talk" fun _ r ↦ some (.ofActions (talkActions c.voiceBundle r))
  | .layout => resolve? c index c.asset.layouts "layout" (layoutOutput? c index)
  | .motion => resolve? c index c.asset.layouts "layout" (layoutOutput? c index)
  | .input => some (leftOut index "input")
  | .selectable => some (leftOut index "selectable")
  | .effect =>
    resolve? c index c.asset.effects "effect" fun _ r ↦ some (.ofActions (effectActions c.locale r))
  | .sound =>
    resolve? c index c.asset.sounds "sound" fun _ r ↦ some (.ofActions (soundActions c.locale r))

def delayActions? (s : Snippet) : Option (List Action) :=
  if s.delay.isPositive then
    (fun earlier ↦ delayActions earlier.reverse s) <$> first? index c.asset.snippets
  else some []

def snippetOutput? : Option Output := do
  let s ← c.asset.snippets[index]?
  let record ← recordOutput? c index s
  let delays ← delayActions? c index s
  return .ofActions (delays ++ gateActions s) ++ record

def outputTo? (i : ℕ) : Option Output :=
  (List.range i).foldlM (fun output index ↦ (output ++ ·) <$> snippetOutput? c index) .nothing

/-- A conversion that fails at an index or a cut out of range. -/
def convert? (asset : Asset) (locale : Locale) (voiceBundle : String) : Option Conversion := do
  let c : Setting := ⟨asset, locale, voiceBundle⟩
  let output ← outputTo? c asset.snippets.length
  return ⟨⟨locale, openingActions c ++ output.actions⟩, output.diagnostics⟩

end checked

section checked

variable {c : Setting} {index i : ℕ} {s : Snippet}

theorem first?_eq {α : Type} {n : ℕ} {xs : List α} (h : n ≤ xs.length) :
    first? n xs = some (xs.take n) := if_pos h

theorem resolve?_eq {α : Type} {table : List α} {what : String} {convert : List α → α → Output}
    {convert? : Snippet → α → Option Output} (hs : c.asset.snippets[index]? = some s)
    (h : ∀ (n : ℕ) r, s.reference = n → table[n]? = some r →
      convert? s r = some (convert (table.take n).reverse r)) :
    resolve? c index table what convert? = some (resolve table what index s.reference convert) := by
  rw [resolve?, hs, Option.bind_eq_bind, Option.bind_some]
  cases hreference : s.reference with
  | ofNat n =>
    cases hr : table[n]? with
    | some r =>
      have hconvert := h n r hreference hr
      simp [resolve, place?, hr, hconvert]
    | none => simp [resolve, place?, hr]
  | negSucc n => rfl

/-- Only an appearance looks at the rows before it. -/
theorem layoutOutput_congr (locale : Locale) (index : ℕ) {kind : SnippetKind} {r : LayoutRecord}
    (h : ¬(kind = .layout ∧ r.kind = .appear)) (earlier earlier' : List LayoutRecord) :
    layoutOutput locale index kind earlier r = layoutOutput locale index kind earlier' r := by
  have hstaged : (if kind = .layout then staging locale index earlier r else .nothing) =
      if kind = .layout then staging locale index earlier' r else .nothing := by
    split_ifs with hkind
    · rw [staging, staging]
      cases hr : r.kind with
      | appear => exact absurd ⟨hkind, hr⟩ h
      | _ => rfl
    · rfl
  rw [layoutOutput, layoutOutput, hstaged]

theorem layoutOutput?_eq {n : ℕ} {r : LayoutRecord} (hreference : s.reference = n)
    (hr : c.asset.layouts[n]? = some r) : layoutOutput? c index s r =
      some (layoutOutput c.locale index s.kind (c.asset.layouts.take n).reverse r) := by
  rw [layoutOutput?]
  by_cases h : s.kind = .layout ∧ r.kind = .appear
  · -- The reference has been looked up, so that it is not below zero and the cut is in range.
    have hcut : first? (wrapped s.reference) c.asset.layouts = some (c.asset.layouts.take n) := by
      rw [hreference]
      exact first?_eq (List.getElem?_eq_some_iff.1 hr).1.le
    rw [if_pos h, hcut]
    rfl
  · rw [if_neg h, layoutOutput_congr c.locale index h (c.asset.layouts.take n).reverse]
    rfl

theorem recordOutput?_eq (hs : c.asset.snippets[index]? = some s) :
    recordOutput? c index s = some (recordOutput c index s) := by
  rw [recordOutput?, recordOutput]
  cases hkind : s.kind with
  | none => rfl
  | input => rfl
  | selectable => rfl
  | talk => exact resolve?_eq hs fun _ _ _ _ ↦ rfl
  | effect => exact resolve?_eq hs fun _ _ _ _ ↦ rfl
  | sound => exact resolve?_eq hs fun _ _ _ _ ↦ rfl
  | layout => exact resolve?_eq hs fun n r hreference hr ↦ hkind ▸ layoutOutput?_eq hreference hr
  | motion => exact resolve?_eq hs fun n r hreference hr ↦ hkind ▸ layoutOutput?_eq hreference hr

theorem delayActions?_eq (hs : c.asset.snippets[index]? = some s) : delayActions? c index s =
    some (delayActions (c.asset.snippets.take index).reverse s) := by
  rw [delayActions?]
  split_ifs with hdelay
  · rw [first?_eq (List.getElem?_eq_some_iff.1 hs).1.le]
    rfl
  · rw [delayActions, if_neg hdelay]

end checked

section convert

variable {asset : Asset} {locale : Locale} {voiceBundle : String} {i : ℕ} {s : Snippet}

theorem snippetOutput?_eq (locale : Locale) (voiceBundle : String)
    (hs : asset.snippets[i]? = some s) :
    snippetOutput? ⟨asset, locale, voiceBundle⟩ i =
      some (outputAt asset locale voiceBundle i s) := by
  let c : Setting := ⟨asset, locale, voiceBundle⟩
  have hrecord := recordOutput?_eq (c := c) hs
  have hdelays := delayActions?_eq (c := c) hs
  rw [snippetOutput?, hs, Option.bind_eq_bind, Option.bind_some, hrecord, hdelays]
  rfl

theorem outputTo?_eq (locale : Locale) (voiceBundle : String) (hi : i ≤ asset.snippets.length) :
    outputTo? ⟨asset, locale, voiceBundle⟩ i = some (outputTo asset locale voiceBundle i) := by
  induction i with
  | zero => rfl
  | succ i ih =>
    have hs := List.getElem?_eq_getElem hi
    have hsnippet := snippetOutput?_eq locale voiceBundle hs
    have hbefore := ih (by omega)
    rw [outputTo?] at hbefore ⊢
    rw [List.range_succ, List.foldlM_append, hbefore, outputTo_succ locale voiceBundle hs]
    simp [hsnippet]

theorem convert?_eq (asset : Asset) (locale : Locale) (voiceBundle : String) :
    convert? asset locale voiceBundle = some (convert asset locale voiceBundle) := by
  rw [convert?, outputTo?_eq locale voiceBundle le_rfl, outputTo, List.take_length]
  rfl

theorem exists_indices (c : Setting) (index : ℕ) (earlier xs : List Snippet) :
    ∃ indices : List ℕ, (snippetsOutput c index earlier xs).diagnostics.map (·.location) =
        indices.map .snippet ∧ indices.Pairwise (· ≤ ·) ∧
      ∀ k ∈ indices, index ≤ k ∧ k < index + xs.length := by
  induction xs generalizing index earlier with
  | nil => exact ⟨[], rfl, .nil, List.forall_mem_nil _⟩
  | cons s xs ih =>
    obtain ⟨indices, hlocations, hordered, hbounds⟩ := ih (index + 1) (s :: earlier)
    let own := List.replicate (snippetOutput c index earlier s).diagnostics.length index
    have hown : (snippetOutput c index earlier s).diagnostics.map (·.location) =
        own.map .snippet := by
      rw [List.map_replicate, List.map_eq_replicate_iff]
      intro d hd
      exact (reports_snippetOutput index c earlier s d hd).location_eq
    refine ⟨own ++ indices, ?_, List.pairwise_append.2 ⟨?_, hordered, ?_⟩, ?_⟩
    · rw [snippetsOutput, Output.diagnostics_append, List.map_append, hown, hlocations,
        List.map_append]
    · exact List.pairwise_replicate.2 (.inr le_rfl)
    · intro j hj k hk
      obtain rfl := List.eq_of_mem_replicate hj
      have := hbounds k hk
      omega
    · intro k hk
      rw [List.length_cons]
      rcases List.mem_append.1 hk with hk | hk
      · obtain rfl := List.eq_of_mem_replicate hk
        omega
      · have := hbounds k hk
        omega

def Tells (x : Output) : Prop := (∃ a ∈ x.actions, isTiming a = false) ∨ x.diagnostics ≠ []

/-- The snippets of which something must come: lines, what stories do not know, and layout snippets
unless they play a row of no kind. -/
inductive MustTell (asset : Asset) (s : Snippet) : Prop
  | talk (h : s.kind = .talk)
  | input (h : s.kind = .input)
  | selectable (h : s.kind = .selectable)
  | layout (h : s.kind = .layout) (hrow : ∀ r, asset.row? s = some r → r.kind ≠ .none)

def Dangling (asset : Asset) (s : Snippet) : Prop :=
  ∃ n, asset.recordCount? s.kind = some n ∧ (s.reference < 0 ∨ n ≤ s.reference)

theorem Tells.append_left {x : Output} (h : Tells x) (y : Output) : Tells (x ++ y) := by
  obtain ⟨a, ha, htold⟩ | hreported := h
  · exact .inl ⟨a, List.mem_append_left _ ha, htold⟩
  · exact .inr fun hnil ↦ hreported (List.append_eq_nil_iff.1 hnil).1

theorem Tells.append_right {y : Output} (h : Tells y) (x : Output) : Tells (x ++ y) := by
  obtain ⟨a, ha, htold⟩ | hreported := h
  · exact .inl ⟨a, List.mem_append_right _ ha, htold⟩
  · exact .inr fun hnil ↦ hreported (List.append_eq_nil_iff.1 hnil).2

theorem tells_ofDiagnostic (d : Diagnostic) : Tells (.ofDiagnostic d) := .inr (List.cons_ne_nil _ _)

theorem tells_of_filter_ne_nil {x : Output} (h : x.actions.filter Stage.isStaging ≠ []) :
    Tells x := by
  obtain ⟨a, ha⟩ := List.exists_mem_of_ne_nil _ h
  obtain ⟨hmem, hstaging⟩ := List.mem_filter.1 ha
  refine .inl ⟨a, hmem, Bool.eq_false_iff.2 fun htiming ↦ ?_⟩
  rw [not_isStaging_of_isTiming htiming] at hstaging
  cases hstaging

theorem tells_appearance (locale : Locale) (rows : List LayoutRecord) (r : LayoutRecord)
    (index : ℕ) : Tells (appearance locale index rows.reverse r) := by
  have h := appearance_settles locale rows r index
  generalize hactions : (appearance locale index rows.reverse r).actions.filter Stage.isStaging = as
    at h
  generalize herrors : (appearance locale index rows.reverse r).diagnostics.filter Diagnostic.isError
    = ds at h
  cases h with
  | moved position hon => exact tells_of_filter_ne_nil (hactions ▸ List.cons_ne_nil _ _)
  | shown costume position hoff hcostume =>
    exact tells_of_filter_ne_nil (hactions ▸ List.cons_ne_nil _ _)
  | reported detail hoff hnone =>
    refine .inr fun hnil ↦ ?_
    rw [hnil] at herrors
    cases herrors

theorem tells_staging {r : LayoutRecord} (h : r.kind ≠ .none) (locale : Locale)
    (rows : List LayoutRecord) (index : ℕ) : Tells (staging locale index rows.reverse r) := by
  rw [staging]
  cases hr : r.kind with
  | none => exact absurd hr h
  | appear => exact tells_appearance locale rows r index
  | move => exact Tells.append_right (.inl ⟨_, List.mem_cons_self, rfl⟩) _
  | hide => exact .inl ⟨_, List.mem_cons_self, rfl⟩
  | shakeX => exact .inl ⟨_, List.mem_cons_self, rfl⟩
  | shakeY => exact .inl ⟨_, List.mem_cons_self, rfl⟩

theorem MustTell.tells (h : MustTell asset s) (hs : asset.snippets[i]? = some s) :
    Tells (recordOutput ⟨asset, locale, voiceBundle⟩ i s) := by
  cases h with
  | input h =>
    rw [recordOutput, h]
    exact tells_ofDiagnostic _
  | selectable h =>
    rw [recordOutput, h]
    exact tells_ofDiagnostic _
  | talk h =>
    rw [recordOutput, h]
    obtain ⟨n, r, -, -, heq⟩ | ⟨-, detail, heq⟩ := resolve_cases i asset.talks "talk" s.reference
      fun _ r ↦ .ofActions (talkActions voiceBundle r)
    · exact heq ▸ .inl ⟨_, List.mem_cons_self, rfl⟩
    · exact heq ▸ tells_ofDiagnostic _
  | layout h hrow =>
    obtain ⟨n, r, gs, hrefers, -, heq⟩ | ⟨detail, heq⟩ := layout_record locale voiceBundle hs h
    · obtain ⟨s', hs', -, hr⟩ := hrefers.exists_row
      obtain rfl := Option.some.inj (hs.symm.trans hs')
      rw [heq]
      exact (tells_staging (hrow r hr) locale _ i).append_left _
    · exact heq ▸ tells_ofDiagnostic _

theorem Dangling.diagnostics_ne_nil (h : Dangling asset s) (i : ℕ) :
    (recordOutput ⟨asset, locale, voiceBundle⟩ i s).diagnostics ≠ [] := by
  obtain ⟨n, hn, houtside⟩ := h
  have hkind : s.kind ≠ .none := by
    intro hkind
    rw [hkind] at hn
    cases hn
  obtain ⟨detail, hrecord⟩ := recordOutput_outside ⟨asset, locale, voiceBundle⟩ i hkind fun m hm ↦ by
    rwa [← Option.some.inj (hn.symm.trans hm)]
  rw [hrecord]
  exact List.cons_ne_nil _ _

/-- A conversion never looks at an index out of range. It reports on the snippets in their order, and
only on snippets that there are. A snippet of which something must come tells more than when to go on
or is reported, and one with a dangling reference is reported. -/
theorem nothing_dropped (asset : Asset) (locale : Locale) (voiceBundle : String) :
    convert? asset locale voiceBundle = some (convert asset locale voiceBundle) ∧
    (∃ indices : List ℕ,
      (convert asset locale voiceBundle).diagnostics.map (·.location) = indices.map .snippet ∧
      indices.Pairwise (· ≤ ·) ∧ ∀ i ∈ indices, i < asset.snippets.length) ∧
    ∀ i s, asset.snippets[i]? = some s → ∃ x, Contributes asset locale voiceBundle i x ∧
      (MustTell asset s → (∃ a ∈ x.actions, isTiming a = false) ∨ x.diagnostics ≠ []) ∧
      (Dangling asset s → x.diagnostics ≠ []) := by
  refine ⟨convert?_eq asset locale voiceBundle, ?_, fun i s hs ↦ ?_⟩
  · obtain ⟨indices, hlocations, hordered, hbounds⟩ :=
      exists_indices ⟨asset, locale, voiceBundle⟩ 0 [] asset.snippets
    refine ⟨indices, hlocations, hordered, fun i hi ↦ ?_⟩
    have := hbounds i hi
    omega
  · refine ⟨_, contributes_outputAt hs, fun h ↦ ?_, fun h ↦ h.diagnostics_ne_nil i⟩
    exact (h.tells hs).append_right _

end convert

def leaving : Snippet := ⟨.layout, 0, 0, .zero⟩

def belowZero : Snippet := ⟨.layout, 0, -1, .zero⟩

def farOut : Snippet := ⟨.sound, 1, 2 ^ 63 - 1, .zero⟩

def astray : Asset :=
  { playing [] [layoutRow .hide ""] with snippets := [leaving, belowZero, farOut] }

theorem nothing_dropped_astray :
    MustTell astray leaving ∧ Dangling astray belowZero ∧ Dangling astray farOut ∧
    (∃ x, Contributes astray .jp "" 0 x ∧
      ((∃ a ∈ x.actions, isTiming a = false) ∨ x.diagnostics ≠ [])) ∧
    (∃ x, Contributes astray .jp "" 1 x ∧ x.diagnostics ≠ []) ∧
    ∃ x, Contributes astray .jp "" 2 x ∧ x.diagnostics ≠ [] := by
  have hleaving : MustTell astray leaving := by
    refine .layout rfl fun r hr ↦ ?_
    cases hr
    decide
  have hbelow : Dangling astray belowZero := ⟨1, rfl, .inl (by decide)⟩
  have hfar : Dangling astray farOut := ⟨0, rfl, .inr (by decide)⟩
  obtain ⟨-, -, hsnippets⟩ := nothing_dropped astray .jp ""
  obtain ⟨x, hx, htold, -⟩ := hsnippets 0 leaving rfl
  obtain ⟨y, hy, -, hy'⟩ := hsnippets 1 belowZero rfl
  obtain ⟨z, hz, -, hz'⟩ := hsnippets 2 farOut rfl
  exact ⟨hleaving, hbelow, hfar, ⟨x, hx, htold hleaving⟩, ⟨y, hy, hy' hbelow⟩, z, hz, hz' hfar⟩

end Asset

end Stagecraft
