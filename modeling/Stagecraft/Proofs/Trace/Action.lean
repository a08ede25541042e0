import Stagecraft.Proofs.Trace.Value
import Stagecraft.Trace.Read

namespace Stagecraft.Trace

open Outcome (run_bind_eq_ok run_pure_eq_ok map_eq_ok mapM_eq_ok bind_eq_ok)

inductive Reads (c : LineContext) : Value → Argument → Prop
  | integer {n : ℤ} {a : Argument} (h : c.asInteger a = .ok n) : Reads c (.integer n) a
  | number (x : Binary64) : Reads c (.number x) (.number x)
  | text {s : String} {i : ℕ} (h : c.sections.texts[i]? = some s) : Reads c (.text s) (.text i)
  | path {s : String} {i : ℕ} (h : c.sections.paths[i]? = some s) : Reads c (.path s) (.path i)
  | position {p : Position} {a : Argument} (h : c.asPosition a = .ok p) : Reads c (.position p) a
  | integers {ns : List ℤ} {items : List Argument}
    (h : List.Forall₂ (fun a n ↦ c.asInteger a = .ok n) items ns) : Reads c (.integers ns) (.list items)
  | texts {ss : List String} {is : List ℕ}
    (h : List.Forall₂ (fun i s ↦ c.sections.texts[i]? = some s) is ss) :
    Reads c (.texts ss) (.list (is.map .text))

def ReadsFrom (c : LineContext) (groups : ℕ → Except ReadError (List Action)) (a : Action)
    (args : List Argument) : Prop :=
  match a.members? with
  | some members => ∃ n, args = [.sub n] ∧ groups n = .ok members
  | none => List.Forall₂ (Reads c) (values a) args

variable {c : LineContext} {groups : ℕ → Except ReadError (List Action)} {args left : List Argument}

namespace LineContext

theorem take_eq_ok {α : Type} {wanted : String} {read : Argument → Except ReadError α} {x : α} :
    c.take wanted read args = .ok (x, left) ↔ ∃ a, args = a :: left ∧ read a = .ok x := by
  cases args with
  | nil => exact ⟨nofun, fun ⟨_, h, _⟩ ↦ nomatch h⟩
  | cons a rest =>
    simp only [take, map_eq_ok, Prod.mk.injEq, List.cons.injEq]
    constructor
    · rintro ⟨y, hy, rfl, rfl⟩
      exact ⟨a, ⟨rfl, rfl⟩, hy⟩
    · rintro ⟨b, ⟨rfl, rfl⟩, hy⟩
      exact ⟨x, hy, rfl, rfl⟩

theorem asText_eq_ok {a : Argument} {s : String} :
    c.asText a = .ok s ↔ ∃ i, a = .text i ∧ c.sections.texts[i]? = some s := by
  cases a with
  | text i =>
    rw [asText]
    cases h : c.sections.texts[i]? with
    | none => simp [fail, h]
    | some s' => simp [h]
  | _ => simp [asText, wrong, fail]

theorem asPath_eq_ok {a : Argument} {s : String} :
    c.asPath a = .ok s ↔ ∃ i, a = .path i ∧ c.sections.paths[i]? = some s := by
  cases a with
  | path i =>
    rw [asPath]
    cases h : c.sections.paths[i]? with
    | none => simp [fail, h]
    | some s' => simp [h]
  | _ => simp [asPath, wrong, fail]

def Takes {α : Type} (c : LineContext) (m : Taking α) (v : α → Value) : Prop :=
  ∀ args x left, m args = .ok (x, left) ↔ ∃ a, args = a :: left ∧ Reads c (v x) a

theorem takes_integer : c.Takes c.integer .integer := fun args n left ↦ by
  refine take_eq_ok.trans ⟨fun ⟨a, h, hr⟩ ↦ ⟨a, h, .integer hr⟩, ?_⟩
  rintro ⟨a, h, hr⟩
  cases hr with
  | integer hr => exact ⟨a, h, hr⟩

theorem takes_number : c.Takes c.number .number := fun args x left ↦ by
  refine take_eq_ok.trans ⟨?_, ?_⟩
  · rintro ⟨a, h, hr⟩
    cases a with
    | number y => exact ⟨_, h, Except.ok.inj hr ▸ .number y⟩
    | _ => cases hr
  · rintro ⟨a, h, hr⟩
    cases hr with
    | number => exact ⟨_, h, rfl⟩

theorem takes_text : c.Takes c.text .text := fun args s left ↦ by
  refine take_eq_ok.trans ⟨?_, ?_⟩
  · rintro ⟨a, h, hr⟩
    obtain ⟨i, rfl, hi⟩ := asText_eq_ok.1 hr
    exact ⟨_, h, .text hi⟩
  · rintro ⟨a, h, hr⟩
    cases hr with
    | text hi => exact ⟨_, h, asText_eq_ok.2 ⟨_, rfl, hi⟩⟩

theorem takes_path : c.Takes c.path .path := fun args s left ↦ by
  refine take_eq_ok.trans ⟨?_, ?_⟩
  · rintro ⟨a, h, hr⟩
    obtain ⟨i, rfl, hi⟩ := asPath_eq_ok.1 hr
    exact ⟨_, h, .path hi⟩
  · rintro ⟨a, h, hr⟩
    cases hr with
    | path hi => exact ⟨_, h, asPath_eq_ok.2 ⟨_, rfl, hi⟩⟩

theorem takes_position : c.Takes c.position .position := fun args p left ↦ by
  refine take_eq_ok.trans ⟨fun ⟨a, h, hr⟩ ↦ ⟨a, h, .position hr⟩, ?_⟩
  rintro ⟨a, h, hr⟩
  cases hr with
  | position hr => exact ⟨a, h, hr⟩

theorem list_eq_ok {α : Type} {read : Argument → Except ReadError α} {xs : List α} :
    c.list read args = .ok (xs, left) ↔
      ∃ items, args = .list items :: left ∧ List.Forall₂ (fun a x ↦ read a = .ok x) items xs := by
  refine take_eq_ok.trans ⟨?_, ?_⟩
  · rintro ⟨a, h, hr⟩
    obtain ⟨items, hitems, hr⟩ := bind_eq_ok.1 hr
    cases a with
    | list items' =>
      cases hitems
      exact ⟨items, h, mapM_eq_ok.1 hr⟩
    | _ => cases hitems
  · rintro ⟨items, h, hr⟩
    exact ⟨_, h, bind_eq_ok.2 ⟨items, rfl, mapM_eq_ok.2 hr⟩⟩

theorem takes_integers : c.Takes (c.list c.asInteger) .integers := fun args ns left ↦ by
  refine list_eq_ok.trans ⟨fun ⟨items, h, hr⟩ ↦ ⟨_, h, .integers hr⟩, ?_⟩
  rintro ⟨a, h, hr⟩
  cases hr with
  | integers hr => exact ⟨_, h, hr⟩

theorem takes_texts : c.Takes (c.list c.asText) .texts := fun args ss left ↦ by
  refine list_eq_ok.trans ⟨?_, ?_⟩
  · rintro ⟨items, h, hr⟩
    obtain ⟨is, rfl, his⟩ : ∃ is : List ℕ, items = is.map .text ∧
        List.Forall₂ (fun i s ↦ c.sections.texts[i]? = some s) is ss := by
      clear h
      induction hr with
      | nil => exact ⟨[], rfl, .nil⟩
      | cons ha _ ih =>
        obtain ⟨i, rfl, hi⟩ := asText_eq_ok.1 ha
        obtain ⟨is, rfl, his⟩ := ih
        exact ⟨i :: is, rfl, .cons hi his⟩
    exact ⟨_, h, .texts his⟩
  · rintro ⟨a, h, hr⟩
    cases hr with
    | texts his =>
      refine ⟨_, h, List.forall₂_map_left_iff.2 (his.imp fun i s hi ↦ ?_)⟩
      exact asText_eq_ok.2 ⟨i, rfl, hi⟩

theorem optionalPath_eq_ok {path : Option String} :
    c.optionalPath args = .ok (path, []) ↔
      List.Forall₂ (Reads c) (path.toList.map .path) args := by
  cases args with
  | nil =>
    cases path with
    | none => exact ⟨fun _ ↦ .nil, fun _ ↦ rfl⟩
    | some s => exact ⟨nofun, nofun⟩
  | cons a rest =>
    have h : c.optionalPath (a :: rest) = (c.path >>= fun s ↦ pure (some s)) (a :: rest) := rfl
    rw [h, run_bind_eq_ok]
    simp only [run_pure_eq_ok, takes_path (a :: rest)]
    constructor
    · rintro ⟨s, r, ⟨a', hargs, hr⟩, rfl, rfl⟩
      rw [hargs]
      exact .cons hr .nil
    · intro hr
      cases path with
      | none => cases hr
      | some s =>
        obtain ⟨hs, ⟨⟩⟩ := List.forall₂_cons.1 hr
        exact ⟨s, [], ⟨a, rfl, hs⟩, rfl, rfl⟩

theorem group_eq_ok {members : List Action} :
    c.group groups args = .ok (members, left) ↔
      ∃ n, args = .sub n :: left ∧ groups n = .ok members := by
  refine take_eq_ok.trans ⟨?_, fun ⟨n, h, hg⟩ ↦ ⟨_, h, hg⟩⟩
  rintro ⟨a, h, hg⟩
  cases a with
  | sub n => exact ⟨n, h, hg⟩
  | _ => cases hg

variable {α β γ : Type} {m : Taking α} {k : Taking β} {l : Taking γ} {u : α → Value} {v : β → Value}
  {w : γ → Value} {a : Action}

theorem Takes.one (hm : c.Takes m u) (f : α → Action) :
    (do return f (← m)) args = .ok (a, []) ↔
      ∃ x, f x = a ∧ List.Forall₂ (Reads c) [u x] args := by
  simp only [run_bind_eq_ok, run_pure_eq_ok, hm args]
  constructor
  · rintro ⟨x, _, ⟨b, rfl, hb⟩, rfl, rfl⟩
    exact ⟨x, rfl, .cons hb .nil⟩
  · rintro ⟨x, rfl, hr⟩
    obtain ⟨b, _, hb, ⟨⟩, rfl⟩ := List.forall₂_cons_left_iff.1 hr
    exact ⟨x, [], ⟨b, rfl, hb⟩, rfl, rfl⟩

theorem Takes.two (hm : c.Takes m u) (hk : c.Takes k v) (f : α → β → Action) :
    (do return f (← m) (← k)) args = .ok (a, []) ↔
      ∃ x y, f x y = a ∧ List.Forall₂ (Reads c) [u x, v y] args := by
  rw [run_bind_eq_ok]
  simp only [hk.one, hm args]
  constructor
  · rintro ⟨x, r, ⟨b, rfl, hb⟩, y, rfl, hr⟩
    exact ⟨x, y, rfl, .cons hb hr⟩
  · rintro ⟨x, y, rfl, hr⟩
    obtain ⟨b, r, hb, hrest, rfl⟩ := List.forall₂_cons_left_iff.1 hr
    exact ⟨x, r, ⟨b, rfl, hb⟩, y, rfl, hrest⟩

theorem Takes.three (hm : c.Takes m u) (hk : c.Takes k v) (hl : c.Takes l w)
    (f : α → β → γ → Action) :
    (do return f (← m) (← k) (← l)) args = .ok (a, []) ↔
      ∃ x y z, f x y z = a ∧ List.Forall₂ (Reads c) [u x, v y, w z] args := by
  rw [run_bind_eq_ok]
  simp only [hk.two hl, hm args]
  constructor
  · rintro ⟨x, r, ⟨b, rfl, hb⟩, y, z, rfl, hr⟩
    exact ⟨x, y, z, rfl, .cons hb hr⟩
  · rintro ⟨x, y, z, rfl, hr⟩
    obtain ⟨b, r, hb, hrest, rfl⟩ := List.forall₂_cons_left_iff.1 hr
    exact ⟨x, r, ⟨b, rfl, hb⟩, y, z, rfl, hrest⟩

theorem talk_eq_ok : (do
      let text ← c.text
      let characters ← c.list c.asInteger
      let names ← c.list c.asText
      return .talk text characters names (← c.optionalPath) : Taking Action) args = .ok (a, []) ↔
    ∃ text characters names voice, .talk text characters names voice = a ∧
      List.Forall₂ (Reads c) (values (.talk text characters names voice)) args := by
  rw [run_bind_eq_ok]
  simp only [run_bind_eq_ok, run_pure_eq_ok, takes_text _, takes_integers _, takes_texts _]
  constructor
  · rintro ⟨text, _, ⟨b, rfl, hb⟩, characters, _, ⟨d, rfl, hd⟩, names, _, ⟨e, rfl, he⟩, voice, _, hv,
      rfl, rfl⟩
    exact ⟨text, characters, names, voice, rfl,
      .cons hb (.cons hd (.cons he (optionalPath_eq_ok.1 hv)))⟩
  · rintro ⟨text, characters, names, voice, rfl, hr⟩
    rcases hr with _ | ⟨hb, _ | ⟨hd, _ | ⟨he, hv⟩⟩⟩
    exact ⟨text, _, ⟨_, rfl, hb⟩, characters, _, ⟨_, rfl, hd⟩, names, _, ⟨_, rfl, he⟩, voice, [],
      optionalPath_eq_ok.2 hv, rfl, rfl⟩

theorem groups_eq_ok (f : List Action → Action) :
    (do return f (← c.group groups) : Taking Action) args = .ok (a, []) ↔
      ∃ members, f members = a ∧ ∃ n, args = [.sub n] ∧ groups n = .ok members := by
  simp only [run_bind_eq_ok, run_pure_eq_ok, group_eq_ok]
  constructor
  · rintro ⟨members, _, ⟨n, rfl, hn⟩, rfl, rfl⟩
    exact ⟨members, rfl, n, rfl, hn⟩
  · rintro ⟨members, rfl, n, rfl, hn⟩
    exact ⟨members, [], ⟨n, rfl, hn⟩, rfl, rfl⟩

end LineContext

open LineContext

variable {a : Action}

theorem action_reads (h : c.action groups args = .ok (a, [])) :
    String.ofList c.opcode = opcode a ∧ ReadsFrom c groups a args := by
  unfold LineContext.action at h
  generalize hop : String.ofList c.opcode = o at h ⊢
  split at h
  · obtain ⟨_, _, _, _, rfl, hr⟩ := talk_eq_ok.1 h
    exact ⟨rfl, hr⟩
  · obtain ⟨_, rfl, hr⟩ := (takes_text.one Action.telop).1 h
    exact ⟨rfl, hr⟩
  · obtain ⟨_, _, _, rfl, hr⟩ := (takes_integer.three takes_path takes_position Action.showModel).1 h
    exact ⟨rfl, hr⟩
  · obtain ⟨_, rfl, hr⟩ := (takes_integer.one Action.hideModel).1 h
    exact ⟨rfl, hr⟩
  · obtain ⟨_, _, rfl, hr⟩ := (takes_integer.two takes_position Action.moveModel).1 h
    exact ⟨rfl, hr⟩
  · obtain ⟨_, _, rfl, hr⟩ := (takes_integer.two takes_text Action.act).1 h
    exact ⟨rfl, hr⟩
  · obtain ⟨_, _, rfl, hr⟩ := (takes_integer.two takes_text Action.express).1 h
    exact ⟨rfl, hr⟩
  · obtain ⟨_, rfl, hr⟩ := (takes_integer.one Action.horizontalShake).1 h
    exact ⟨rfl, hr⟩
  · obtain ⟨_, rfl, hr⟩ := (takes_integer.one Action.verticalShake).1 h
    exact ⟨rfl, hr⟩
  · obtain ⟨_, rfl, hr⟩ := (takes_number.one Action.showBlackCover).1 h
    exact ⟨rfl, hr⟩
  · obtain ⟨_, rfl, hr⟩ := (takes_number.one Action.hideBlackCover).1 h
    exact ⟨rfl, hr⟩
  · obtain ⟨_, rfl, hr⟩ := (takes_number.one Action.showWhiteCover).1 h
    exact ⟨rfl, hr⟩
  · obtain ⟨_, rfl, hr⟩ := (takes_number.one Action.hideWhiteCover).1 h
    exact ⟨rfl, hr⟩
  · obtain ⟨_, rfl, hr⟩ := (takes_number.one Action.shakeScreen).1 h
    exact ⟨rfl, hr⟩
  · obtain ⟨_, rfl, hr⟩ := (takes_number.one Action.shakeDialogBox).1 h
    exact ⟨rfl, hr⟩
  · obtain ⟨_, rfl, hr⟩ := (takes_path.one Action.changeBackground).1 h
    exact ⟨rfl, hr⟩
  · obtain ⟨_, rfl, hr⟩ := (takes_path.one Action.changeBgm).1 h
    exact ⟨rfl, hr⟩
  · obtain ⟨_, rfl, hr⟩ := (takes_path.one Action.changeSe).1 h
    exact ⟨rfl, hr⟩
  · obtain ⟨_, rfl, hr⟩ := (takes_number.one Action.delay).1 h
    exact ⟨rfl, hr⟩
  · obtain ⟨_, rfl, hr⟩ := (groups_eq_ok Action.blocking).1 h
    exact ⟨rfl, hr⟩
  · obtain ⟨_, rfl, hr⟩ := (groups_eq_ok Action.forkTask).1 h
    exact ⟨rfl, hr⟩
  · obtain ⟨rfl, rfl⟩ := run_pure_eq_ok.1 h
    exact ⟨rfl, .nil⟩
  · obtain ⟨rfl, rfl⟩ := run_pure_eq_ok.1 h
    exact ⟨rfl, .nil⟩
  · cases h

theorem action_of_reads (hop : String.ofList c.opcode = opcode a) (hr : ReadsFrom c groups a args) :
    c.action groups args = .ok (a, []) := by
  unfold LineContext.action
  rw [hop]
  cases a with
  | talk _ _ _ _ => exact talk_eq_ok.2 ⟨_, _, _, _, rfl, hr⟩
  | telop _ => exact (takes_text.one Action.telop).2 ⟨_, rfl, hr⟩
  | showModel _ _ _ =>
    exact (takes_integer.three takes_path takes_position Action.showModel).2 ⟨_, _, _, rfl, hr⟩
  | hideModel _ => exact (takes_integer.one Action.hideModel).2 ⟨_, rfl, hr⟩
  | moveModel _ _ => exact (takes_integer.two takes_position Action.moveModel).2 ⟨_, _, rfl, hr⟩
  | act _ _ => exact (takes_integer.two takes_text Action.act).2 ⟨_, _, rfl, hr⟩
  | express _ _ => exact (takes_integer.two takes_text Action.express).2 ⟨_, _, rfl, hr⟩
  | horizontalShake _ => exact (takes_integer.one Action.horizontalShake).2 ⟨_, rfl, hr⟩
  | verticalShake _ => exact (takes_integer.one Action.verticalShake).2 ⟨_, rfl, hr⟩
  | showBlackCover _ => exact (takes_number.one Action.showBlackCover).2 ⟨_, rfl, hr⟩
  | hideBlackCover _ => exact (takes_number.one Action.hideBlackCover).2 ⟨_, rfl, hr⟩
  | showWhiteCover _ => exact (takes_number.one Action.showWhiteCover).2 ⟨_, rfl, hr⟩
  | hideWhiteCover _ => exact (takes_number.one Action.hideWhiteCover).2 ⟨_, rfl, hr⟩
  | shakeScreen _ => exact (takes_number.one Action.shakeScreen).2 ⟨_, rfl, hr⟩
  | shakeDialogBox _ => exact (takes_number.one Action.shakeDialogBox).2 ⟨_, rfl, hr⟩
  | changeBackground _ => exact (takes_path.one Action.changeBackground).2 ⟨_, rfl, hr⟩
  | changeBgm _ => exact (takes_path.one Action.changeBgm).2 ⟨_, rfl, hr⟩
  | changeSe _ => exact (takes_path.one Action.changeSe).2 ⟨_, rfl, hr⟩
  | blocking _ => exact (groups_eq_ok Action.blocking).2 ⟨_, rfl, hr⟩
  | delay _ => exact (takes_number.one Action.delay).2 ⟨_, rfl, hr⟩
  | forkTask _ => exact (groups_eq_ok Action.forkTask).2 ⟨_, rfl, hr⟩
  | waitForTap =>
    cases hr
    rfl
  | waitForAll =>
    cases hr
    rfl

/-- An action is read from its opcode and the arguments of its values, and from nothing else. -/
theorem action_eq_ok : c.action groups args = .ok (a, []) ↔
    String.ofList c.opcode = opcode a ∧ ReadsFrom c groups a args :=
  ⟨action_reads, fun ⟨hop, hr⟩ ↦ action_of_reads hop hr⟩

end Stagecraft.Trace
