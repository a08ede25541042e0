import Stagecraft.Proofs.Script.Mangling

namespace Stagecraft

namespace Numeral

theorem exists_digitChar {c : Char} (h : c.isDigit) : ∃ n < 10, Nat.digitChar n = c := by
  have h0 : 48 ≤ c.toNat := (Char.isDigit_iff_toNat.1 h).1
  have h9 : c.toNat ≤ 57 := (Char.isDigit_iff_toNat.1 h).2
  refine ⟨c.toNat - 48, by omega, ?_⟩
  rw [← Char.ofNat_toNat c]
  generalize c.toNat = n at h0 h9
  interval_cases n <;> rfl

/-- A run of digits is the shortest one of its value behind zeros. -/
theorem exists_zeros {ds : List Char} (h : ∀ c ∈ ds, c.isDigit) : ∃ zeros,
    ds = List.replicate zeros '0' ++ if valueOf ds = 0 then [] else digits (valueOf ds) := by
  induction ds using List.reverseRecOn with
  | nil => exact ⟨0, rfl⟩
  | append_singleton ds c ih =>
    obtain ⟨hds, hc⟩ := List.forall_mem_append.1 h
    obtain ⟨zeros, hzeros⟩ := ih hds
    obtain ⟨n, hn, rfl⟩ := exists_digitChar (hc c List.mem_cons_self)
    have hlast : valueOf [Nat.digitChar n] = n := by
      rw [valueOf, Nat.ofDigitChars_cons_digitChar_of_lt_ten hn, Nat.ofDigitChars_nil]
      omega
    have hvalue : valueOf (ds ++ [Nat.digitChar n]) = 10 * valueOf ds + n := by
      rw [valueOf_append, hlast]
      rfl
    rw [hvalue]
    -- The last digit is one more zero only if nothing but zeros stands before it.
    by_cases hfirst : valueOf ds = 0
    · rw [if_pos hfirst, List.append_nil] at hzeros
      by_cases hdigit : n = 0
      · refine ⟨zeros + 1, ?_⟩
        rw [hfirst, hdigit, if_pos rfl, List.append_nil, List.replicate_succ', ← hzeros]
        rfl
      · refine ⟨zeros, ?_⟩
        rw [hfirst, Nat.mul_zero, Nat.zero_add, if_neg hdigit, digits, Nat.toDigits_of_lt_base hn,
          ← hzeros]
    · refine ⟨zeros, ?_⟩
      rw [if_neg hfirst] at hzeros
      rw [if_neg (by omega), digits, ← Nat.toDigits_append_toDigits (by decide) (by omega) hn,
        Nat.toDigits_of_lt_base hn, ← List.append_assoc, ← digits, ← hzeros]

theorem exists_zeros_of_natural? {ds : List Char} {n : ℕ} (h : natural? ds = some n) (hn : 0 < n) :
    ∃ zeros, ds = List.replicate zeros '0' ++ digits n := by
  rw [natural?] at h
  split at h
  · next hds =>
    obtain rfl := Option.some.inj h
    have hzeros := exists_zeros (List.all_eq_true.1 hds.2)
    rwa [if_neg hn.ne'] at hzeros
  · cases h

end Numeral

namespace Script

open Text (Alphabet)

variable {a : Alphabet}

theorem padded_of_readName {s : String} {cs rest : List Char} (h : readName a cs = some (s, rest)) :
    ∃ zeros, Padded a rest zeros [.name s] cs := by
  obtain ⟨n, hn, h⟩ := Option.bind_eq_some_iff.1 h
  dsimp only at h
  split at h
  · next hname =>
    obtain ⟨hlength, hidentifier⟩ := hname
    obtain ⟨rfl, rfl⟩ := Prod.mk.inj (Option.some.inj h)
    have hpos : 0 < n := by
      rcases Nat.eq_zero_or_pos n with rfl | hpos
      · cases hidentifier
      · exact hpos
    obtain ⟨zeros, hzeros⟩ := Numeral.exists_zeros_of_natural? hn hpos
    refine ⟨zeros, ?_⟩
    let word : List Char := (cs.dropWhile Char.isDigit).take n
    have hcs : cs = List.replicate zeros '0' ++
        (spelled (String.ofList word) ++ (cs.dropWhile Char.isDigit).drop n) := by
      rw [spelled, String.toList_ofList, List.length_take_of_le hlength, List.append_assoc,
        List.take_append_drop, ← List.append_assoc, ← hzeros, List.takeWhile_append_dropWhile]
    have hword : isNameIn a (String.ofList word) = true := by
      rw [isNameIn, String.toList_ofList]
      exact hidentifier
    have hpadded : Padded a ((cs.dropWhile Char.isDigit).drop n) _ [.name (String.ofList word)] _ :=
      .name hword zeros .done
    rwa [← hcs] at hpadded
  · cases h

theorem padded_of_takeParent {parent : Option String} {cs rest : List Char}
    (h : takeParent a cs = some (parent, rest)) :
    ∃ zeros, Padded a rest zeros (parentParts parent) cs := by
  rw [takeParent.eq_def] at h
  split at h
  · obtain ⟨⟨s, rest'⟩, hname, heq⟩ := Option.map_eq_some_iff.1 h
    obtain ⟨rfl, rfl⟩ := Prod.mk.inj heq
    obtain ⟨zeros, hpadded⟩ := padded_of_readName hname
    exact ⟨zeros, .mark ['p'] hpadded⟩
  · obtain ⟨rfl, rfl⟩ := Prod.mk.inj (Option.some.inj h)
    exact ⟨0, .done⟩

theorem padded_of_takeParameters {fuel : ℕ} {ps : List Parameter} {cs rest : List Char}
    (h : takeParameters a fuel cs = some (ps, rest)) :
    ∃ zeros, Padded a rest zeros (ps.flatMap Parameter.parts) cs := by
  induction fuel generalizing cs ps with
  | zero =>
    obtain ⟨rfl, rfl⟩ := Prod.mk.inj (Option.some.inj h)
    exact ⟨0, .done⟩
  | succ fuel ih =>
    rw [takeParameters] at h
    split at h
    · obtain ⟨⟨label, afterLabel⟩, hlabel, h⟩ := Option.bind_eq_some_iff.1 h
      obtain ⟨⟨type, afterType⟩, htype, h⟩ := Option.bind_eq_some_iff.1 h
      obtain ⟨⟨qs, rest'⟩, hqs, h⟩ := Option.bind_eq_some_iff.1 h
      obtain ⟨rfl, rfl⟩ := Prod.mk.inj (Option.some.inj h)
      obtain ⟨_, hlabel⟩ := padded_of_readName hlabel
      obtain ⟨_, htype⟩ := padded_of_readName htype
      obtain ⟨_, hqs⟩ := ih hqs
      exact ⟨_, hlabel.append (htype.append hqs)⟩
    · obtain ⟨rfl, rfl⟩ := Prod.mk.inj (Option.some.inj h)
      exact ⟨0, .done⟩

theorem eq_of_takeEffects {isAsync isStatic : Bool} {cs rest : List Char}
    (h : takeEffects cs = some ((isAsync, isStatic), rest)) :
    cs = writeEffects isAsync isStatic ++ rest := by
  rw [takeEffects.eq_def] at h
  split at h <;> cases h <;> rfl

theorem padded_of_readReturn {result : Option String} {cs : List Char}
    (h : readReturn a cs = some result) : ∃ zeros, Padded a [] zeros (returnParts result) cs := by
  rw [readReturn] at h
  split at h
  · next hcs =>
    obtain rfl := Option.some.inj h
    exact ⟨0, hcs ▸ .mark ['V'] .done⟩
  · split at h
    · next s hname =>
      obtain rfl := Option.some.inj h
      exact padded_of_readName hname
    · cases h

namespace Signature

theorem padded_of_read? {s : Signature} {cs : List Char} (h : read? a cs = some s) :
    ∃ zeros, Padded a [] zeros s.parts cs := by
  obtain ⟨cs₁, hbegins, h⟩ := Option.bind_eq_some_iff.1 h
  obtain ⟨⟨parent, cs₂⟩, hparent, h⟩ := Option.bind_eq_some_iff.1 h
  obtain ⟨cs₃, hmark, h⟩ := Option.bind_eq_some_iff.1 h
  obtain ⟨⟨name, cs₄⟩, hname, h⟩ := Option.bind_eq_some_iff.1 h
  obtain ⟨⟨parameters, cs₅⟩, hparameters, h⟩ := Option.bind_eq_some_iff.1 h
  obtain ⟨⟨⟨isAsync, isStatic⟩, cs₆⟩, heffects, h⟩ := Option.bind_eq_some_iff.1 h
  obtain ⟨cs₇, hbefore, h⟩ := Option.bind_eq_some_iff.1 h
  obtain ⟨result, hresult, h⟩ := Option.bind_eq_some_iff.1 h
  obtain rfl := Option.some.inj h
  obtain ⟨_, hparent⟩ := padded_of_takeParent hparent
  obtain ⟨_, hname⟩ := padded_of_readName hname
  obtain ⟨_, hparameters⟩ := padded_of_takeParameters hparameters
  obtain ⟨_, hresult⟩ := padded_of_readReturn hresult
  rw [Text.eq_append_of_after? hbegins]
  rw [Text.eq_append_of_after? hmark] at hparent
  rw [eq_of_takeEffects heffects, Text.eq_append_of_after? hbefore] at hparameters
  exact ⟨_, .mark _ (hparent.append (.mark _ (hname.append (hparameters.append
    (.mark _ (.mark _ hresult))))))⟩

/-- With any alphabet a text is read as a signature just if it is its mangled name with some zeros
before the counts. -/
theorem demangledWith_iff_padded (a : Alphabet) (m : String) (s : Signature) :
    (demangleWith? a m = some s ↔ ∃ zeros, Padded a [] zeros s.parts m.toList) ∧
    ∀ zeros, Padded a [] zeros s.parts m.toList → ∃ mangled, s.mangleWith a = .ok mangled ∧
      m.length = mangled.length + zeros ∧ (m = mangled ↔ zeros = 0) := by
  refine ⟨⟨padded_of_read?, fun ⟨zeros, h⟩ ↦ read?_padded h⟩, fun zeros h ↦ ?_⟩
  have hnames : s.names.find? (!isNameIn a ·) = none := by
    refine List.find?_eq_none.2 fun n hn ↦ ?_
    rw [h.isName (name_mem_parts.2 hn)]
    decide
  have hlength : m.length = (String.ofList s.spelled).length + zeros := by
    rw [← String.length_toList, h.length_eq, flatMap_parts, List.append_nil, String.length_ofList]
  refine ⟨_, mangleWith_of_find?_eq_none hnames, hlength, fun heq ↦ ?_, fun hzeros ↦ ?_⟩
  · rw [← heq] at hlength
    omega
  · obtain rfl := hzeros
    rw [← String.ofList_toList (s := m), (padded_zero.1 h).2, flatMap_parts, List.append_nil]

/-- A text is the mangled name of a signature with so many zeros put in before the counts. -/
def IsSpelled (s : Signature) (zeros : ℕ) (m : String) : Prop :=
  Padded .unicode [] zeros s.parts m.toList

/-- A text is read as a signature just if it is its mangled name with some zeros put in before the
counts, and it is the mangled name itself just if there are none. -/
theorem demangled_iff_padded (m : String) (s : Signature) :
    (demangle? m = some s ↔ ∃ zeros, s.IsSpelled zeros m) ∧
    ∀ zeros, s.IsSpelled zeros m → ∃ mangled, s.mangle = .ok mangled ∧
      m.length = mangled.length + zeros ∧ (m = mangled ↔ zeros = 0) :=
  demangledWith_iff_padded .unicode m s

/-- Not every name that is read is the mangled name of what it is read as. -/
theorem not_mangled_of_demangled :
    ¬∀ (m : String) (s : Signature), demangle? m = some s → s.mangle = .ok m := by
  intro h
  have hread : demangle? "$zf03sayrV" = some ⟨none, "say", [], none, false, false⟩ := by
    decide +kernel
  have hmangle : Signature.mangle ⟨none, "say", [], none, false, false⟩ = .ok "$zf3sayrV" := by
    decide +kernel
  have heq := Except.ok.inj (hmangle.symm.trans (h _ _ hread))
  revert heq
  decide +kernel

end Signature

end Script

end Stagecraft
