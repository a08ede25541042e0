import Stagecraft.Proofs.Scenario.Sites
import Stagecraft.Proofs.Text.Lines

namespace Stagecraft.Scenario

def isDelay : Action → Bool
  | .delay _ => true
  | _ => false

def isGate : Action → Bool
  | .waitForTap => true
  | .waitForAll => true
  | _ => false

def placement? (c : Int) : Action → Option Position
  | .showModel c' _ p => if c' = c then some p else none
  | .moveModel c' p => if c' = c then some p else none
  | _ => none

def shown? (c : Int) : Action → Option String
  | .showModel c' model _ => if c' = c then some model else none
  | _ => none

/-- The seconds of the nearest earlier delay, unless a gate lies between. -/
def delayAfter (earlier : List Action) : Int :=
  match earlier.find? isDelay with
  | some (.delay seconds) =>
    if (earlier.takeWhile (!isDelay ·)).any isGate then 0 else seconds.toId
  | _ => 0

def placeAfter (earlier : List Action) (c : Int) : Place :=
  ((earlier.findSome? (placement? c)).map Place.ofPosition).getD ⟨.center, 0⟩

def lastPart (path : String) : String := String.ofList (path.toList.rtakeWhile (· ≠ '/'))

def costumeAfter (earlier : List Action) (c : Int) : String :=
  ((earlier.findSome? (shown? c)).map lastPart).getD ""

namespace Site

def unmoved (x : Site) (kind : LayoutKind) (c : Int) : Body :=
  .layout kind c (costumeAfter x.earlier c) (placeAfter x.earlier c) (placeAfter x.earlier c)

/-- What the action becomes. An action that needs no scan becomes what it would be at the start of a
sequence. -/
def body? (x : Site) : Option Body :=
  match x.action with
  | .showModel c model p =>
    some (.layout .appear c (lastPart model) (.ofPosition p) (.ofPosition p))
  | .moveModel c p =>
    some (.layout .move c (costumeAfter x.earlier c) (placeAfter x.earlier c) (.ofPosition p))
  | .hideModel c => some (x.unmoved .hide c)
  | .horizontalShake c => some (x.unmoved .shakeX c)
  | .verticalShake c => some (x.unmoved .shakeY c)
  | .act c motion => some (.motion c (costumeAfter x.earlier c) motion "")
  | .express c expression => some (.motion c (costumeAfter x.earlier c) "" expression)
  | a => Memory.start.body? a

def isAwaited (x : Site) : Bool :=
  isTalk x.action || (x.enclosure = .blocking && x.later.isEmpty)

def record? (x : Site) : Option Record :=
  x.body?.map fun b ↦ ⟨delayAfter x.earlier, x.isAwaited, b⟩

end Site

theorem lastPart_eq_costumeName (path : String) : lastPart path = costumeName path := by
  rw [lastPart, costumeName, Reference.lastComponent, Text.splitAtLast?_eq]
  split_ifs with h
  · rfl
  · have hall : ∀ c ∈ path.toList, decide (c ≠ '/') = true :=
      fun c hc ↦ decide_eq_true fun hs ↦ h (hs ▸ hc)
    rw [List.rtakeWhile_eq_self_iff.2 hall]

section delayAfter

variable {a : Action} {earlier : List Action}

theorem delayAfter_delay (seconds : Binary64) (earlier : List Action) :
    delayAfter (.delay seconds :: earlier) = seconds.toId := rfl

theorem delayAfter_gate (hd : isDelay a = false) (hg : isGate a = true) (earlier : List Action) :
    delayAfter (a :: earlier) = 0 := by
  rw [delayAfter, List.find?_cons_of_neg (by simp [hd]), List.takeWhile_cons_of_pos (by simp [hd]),
    List.any_cons, hg, Bool.true_or]
  split <;> rfl

theorem delayAfter_cons (hd : isDelay a = false) (hg : isGate a = false) (earlier : List Action) :
    delayAfter (a :: earlier) = delayAfter earlier := by
  rw [delayAfter, List.find?_cons_of_neg (by simp [hd]), List.takeWhile_cons_of_pos (by simp [hd]),
    List.any_cons, hg, Bool.false_or, delayAfter]

end delayAfter

namespace Memory

structure Recalls (m : Memory) (earlier : List Action) : Prop where
  delay : m.delay = delayAfter earlier
  positions : ∀ c, m.positions.lookup c = earlier.findSome? (placement? c)
  models : ∀ c, m.models.lookup c = earlier.findSome? (shown? c)

variable {m : Memory} {earlier : List Action}

theorem recalls_start : start.Recalls [] := ⟨rfl, fun _ ↦ rfl, fun _ ↦ rfl⟩

theorem lookup_cons_eq {κ : Type} (c c' : Int) (k : κ) (entries : List (Int × κ)) :
    ((c', k) :: entries).lookup c = if c' = c then some k else entries.lookup c := by
  rw [List.lookup_cons]
  by_cases h : c' = c
  · simp [h]
  · simp [h, beq_false_of_ne (Ne.symm h)]

theorem Recalls.after (h : m.Recalls earlier) (a : Action) : (m.after a).Recalls (a :: earlier) := by
  obtain ⟨hdelay, hpositions, hmodels⟩ := h
  cases a with
  | showModel c model p =>
    refine ⟨hdelay, fun c' ↦ ?_, fun c' ↦ ?_⟩
    · rw [Memory.after, lookup_cons_eq, hpositions, List.findSome?_cons, placement?]
      split <;> rfl
    · rw [Memory.after, lookup_cons_eq, hmodels, List.findSome?_cons, shown?]
      split <;> rfl
  | moveModel c p =>
    refine ⟨hdelay, fun c' ↦ ?_, hmodels⟩
    rw [Memory.after, lookup_cons_eq, hpositions, List.findSome?_cons, placement?]
    split <;> rfl
  | delay seconds => exact ⟨(delayAfter_delay seconds earlier).symm, hpositions, hmodels⟩
  | waitForTap => exact ⟨(delayAfter_gate rfl rfl earlier).symm, hpositions, hmodels⟩
  | waitForAll => exact ⟨(delayAfter_gate rfl rfl earlier).symm, hpositions, hmodels⟩
  | _ => exact ⟨hdelay.trans (delayAfter_cons rfl rfl earlier).symm, hpositions, hmodels⟩

theorem Recalls.place_eq (h : m.Recalls earlier) (c : Int) : m.place c = placeAfter earlier c := by
  rw [place, standing, h.positions, placeAfter]
  cases earlier.findSome? (placement? c) with
  | none => decide +kernel
  | some p => rfl

theorem Recalls.costume_eq (h : m.Recalls earlier) (c : Int) :
    m.costume c = costumeAfter earlier c := by
  rw [costume, h.models, costumeAfter, funext lastPart_eq_costumeName]

variable {x : Site}

theorem Recalls.unmoved_eq (h : m.Recalls x.earlier) (kind : LayoutKind) (c : Int) :
    m.unmoved kind c = x.unmoved kind c := by
  rw [unmoved, h.place_eq, h.costume_eq, Site.unmoved]

theorem Recalls.body?_eq (h : m.Recalls x.earlier) : m.body? x.action = x.body? := by
  rw [Site.body?]
  cases x.action with
  | showModel c model p => rw [body?, ← lastPart_eq_costumeName]
  | moveModel c p => rw [body?, h.place_eq, h.costume_eq]
  | hideModel c => rw [body?, h.unmoved_eq]
  | horizontalShake c => rw [body?, h.unmoved_eq]
  | verticalShake c => rw [body?, h.unmoved_eq]
  | act c motion => rw [body?, h.costume_eq]
  | express c expression => rw [body?, h.costume_eq]
  | _ => rfl

theorem Recalls.record?_eq (h : m.Recalls x.earlier) :
    record? x.enclosure m x.later.isEmpty x.action = x.record? := by
  rw [record?, h.body?_eq, h.delay, Site.record?, Site.isAwaited]

end Memory

theorem flattenSequence_cons (e : Enclosure) (m : Memory) (a : Action) (rest : List Action) :
    flattenSequence e m (a :: rest) = (record? e m rest.isEmpty a).toList ++
      (flattenSequence (.ofGroup a) .start (a.members?.getD []) ++
        flattenSequence e (m.after a) rest) := by
  cases a <;> rfl

/-- The records of a sequence are those found by looking back from each place in it. -/
theorem flattenSequence_eq {m : Memory} {earlier : List Action} (h : m.Recalls earlier)
    (e : Enclosure) (rest : List Action) :
    flattenSequence e m rest = (sites e earlier rest).filterMap Site.record? := by
  induction rest using Action.members_induction generalizing e m earlier with
  | nil => rfl
  | cons a rest hmembers hrest =>
    have hrecord : record? e m rest.isEmpty a = Site.record? ⟨e, earlier, a, rest⟩ :=
      Memory.Recalls.record?_eq (x := ⟨e, earlier, a, rest⟩) h
    rw [flattenSequence_cons, hmembers Memory.recalls_start, hrest (h.after a), sites_cons,
      List.filterMap_cons, List.filterMap_append, hrecord]
    cases Site.record? ⟨e, earlier, a, rest⟩ <;> rfl

/-- Whether an action belongs to the opening scene if only such actions stand before it. -/
def isOpening : Action → Bool
  | .changeBackground _ => true
  | .changeBgm _ => true
  | _ => false

theorem opening_snd (o : Opening) (actions : List Action) :
    (opening o actions).2 = actions.dropWhile isOpening := by
  fun_induction opening o actions with
  | case1 o path rest ih => exact ih
  | case2 o path rest ih => exact ih
  | case3 o rest hbackground hbgm =>
    cases rest with
    | nil => rfl
    | cons a rest =>
      cases a with
      | changeBackground path => exact absurd rfl (hbackground path rest)
      | changeBgm path => exact absurd rfl (hbgm path rest)
      | _ => rfl

/-- The records of a story are those found by looking back from each place of its flat sequences, and
the places are all indices of these sequences, in pre-order. -/
theorem records_ofStory (s : Story) (server : Int) :
    let top := s.actions.dropWhile isOpening
    (ofStory s server).records = (sites .topLevel [] top).filterMap Site.record? ∧
    (sites .topLevel [] top).map Site.action = Action.walkAll top ∧
    ∀ x, x ∈ sites .topLevel [] top ↔
      ∃ actions, Flat top x.enclosure actions ∧ ∃ i, x = siteAt x.enclosure actions i := by
  refine ⟨?_, map_action_sites .topLevel [] _, fun x ↦ mem_sites⟩
  rw [← opening_snd ⟨none, none⟩]
  exact flattenSequence_eq Memory.recalls_start .topLevel _

end Stagecraft.Scenario
