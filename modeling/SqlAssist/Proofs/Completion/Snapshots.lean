import SqlAssist.Completion.Engine
import Mathlib.Data.List.Forall2
import Mathlib.Tactic.SplitIfs

/-!
# Snapshots keep their value

An engine shares a memory with its caller, who changes its objects at any time and may let several
configurations share a list. The engine's snapshot is not touched by this: it refers to a copy, the
copy shares no object with what was copied (`holds_store`), and no action changes an object of the
engine (`keeps_step`). So a configuration that the engine holds reads the same after any run
(`Holds.mono`), the current snapshot is the one of the value that was given last (`Sound.run`), and
rebuilding the catalog on its own does not reach it. Each action does to the engine what it does to
one that shares nothing with its caller (`Sound.engine_step`).

**`run_consistent`** puts this together: after every run of actions the engine answers like a new
one for the value that the last given configuration had when it was given, and each snapshot taken
on the way still reads as it did then.
-/

namespace SqlAssist

namespace Memory

variable {m m' : Memory} {o : Owner} {place : Nat} {x : Cell} {c : Configuration}

/-! ### What stays -/

/-- The objects of an owner in the first memory stand in the second as they were. -/
def Keeps (o : Owner) (m m' : Memory) : Prop :=
  ∀ (place : Nat) (x : Cell), m[place]? = some (o, x) → m'[place]? = some (o, x)

theorem Keeps.refl (o : Owner) (m : Memory) : Keeps o m m := fun _ _ h => h

theorem Keeps.trans {m'' : Memory} (h : Keeps o m m') (h' : Keeps o m' m'') : Keeps o m m'' :=
  fun place x hx => h' place x (h place x hx)

/-- The places hold the lists of functions, in objects of the owner. -/
def HoldsLists (m : Memory) (o : Owner) (places : OrderedMap Text Nat)
    (lists : OrderedMap Text (List Builtin)) : Prop :=
  List.Forall₂ (fun p q => p.1 = q.1 ∧ m[p.2]? = some (o, .builtins q.2)) places lists

/-- The configuration and all its lists stand in objects of the owner. -/
structure Holds (m : Memory) (o : Owner) (place : Nat) (c : Configuration) : Prop where
  /-- The configuration refers to each list. -/
  exists_places : ∃ schemas builtinsByType keywords operators vars lists,
    m[place]? = some (o, .configuration c.databaseType schemas builtinsByType keywords operators
      vars) ∧
    m[schemas]? = some (o, .schemas c.schemas) ∧
    m[builtinsByType]? = some (o, .builtinsByType lists) ∧
    m.HoldsLists o lists c.builtinsByType ∧
    m[keywords]? = some (o, .words c.keywords) ∧
    m[operators]? = some (o, .words c.operators) ∧
    m[vars]? = some (o, .workflowVariables c.workflowVariables)

theorem HoldsLists.mono {places : OrderedMap Text Nat} {lists : OrderedMap Text (List Builtin)}
    (h : m.HoldsLists o places lists) (hk : Keeps o m m') : m'.HoldsLists o places lists :=
  List.Forall₂.imp (fun _ _ hpq => ⟨hpq.1, hk _ _ hpq.2⟩) h

/-- What an owner holds it holds on, as long as its objects are kept. -/
theorem Holds.mono (h : m.Holds o place c) (hk : Keeps o m m') : m'.Holds o place c := by
  obtain ⟨schemas, builtinsByType, keywords, operators, vars, lists, hplace, hschemas,
    hbuiltins, hlists, hkeywords, hoperators, hvars⟩ := h
  exact ⟨schemas, builtinsByType, keywords, operators, vars, lists, hk _ _ hplace,
    hk _ _ hschemas, hk _ _ hbuiltins, hlists.mono hk, hk _ _ hkeywords, hk _ _ hoperators,
    hk _ _ hvars⟩

/-! ### Reading what is held -/

theorem cell?_of_getElem? (h : m[place]? = some (o, x)) : m.cell? place = some x := by
  rw [cell?, h]
  rfl

theorem builtinsAt_of_holdsLists {places : OrderedMap Text Nat}
    {lists : OrderedMap Text (List Builtin)} (h : m.HoldsLists o places lists) :
    places.map (fun p => (p.1, m.builtinsAt p.2)) = lists := by
  induction h with
  | nil => rfl
  | cons hpq _ ih =>
    rw [List.map_cons, ih, hpq.1, builtinsAt, cell?_of_getElem? hpq.2]

theorem Holds.read (h : m.Holds o place c) : m.read place = c := by
  obtain ⟨schemas, builtinsByType, keywords, operators, vars, lists, hplace, hschemas,
    hbuiltins, hlists, hkeywords, hoperators, hvars⟩ := h
  simp only [Memory.read, schemasAt, builtinsByTypeAt, wordsAt, variablesAt,
    cell?_of_getElem? hplace, cell?_of_getElem? hschemas, cell?_of_getElem? hbuiltins,
    cell?_of_getElem? hkeywords, cell?_of_getElem? hoperators, cell?_of_getElem? hvars,
    builtinsAt_of_holdsLists hlists]

/-! ### New objects -/

theorem keeps_push (m : Memory) (o o' : Owner) (x : Cell) : Keeps o' m (m.push o x).1 := by
  intro place y h
  rw [push, List.getElem?_append_left (List.getElem?_eq_some_iff.mp h).1, h]

theorem getElem?_push (m : Memory) (o : Owner) (x : Cell) :
    (m.push o x).1[(m.push o x).2]? = some (o, x) := by
  simp [push]

theorem keeps_pushBuiltins (m : Memory) (o o' : Owner) (lists : OrderedMap Text (List Builtin)) :
    Keeps o' m (m.pushBuiltins o lists).1 := by
  induction lists generalizing m with
  | nil => exact .refl _ _
  | cons p lists ih => exact (keeps_push m o o' _).trans (ih _)

theorem holdsLists_pushBuiltins (m : Memory) (o : Owner) (lists : OrderedMap Text (List Builtin)) :
    (m.pushBuiltins o lists).1.HoldsLists o (m.pushBuiltins o lists).2 lists := by
  induction lists generalizing m with
  | nil => exact .nil
  | cons p lists ih =>
    exact .cons ⟨rfl, keeps_pushBuiltins _ o o lists _ _ (getElem?_push m o _)⟩ (ih _)

/-- A stored configuration is held by its owner, and nothing that was there before is changed. -/
theorem holds_store (m : Memory) (o : Owner) (c : Configuration) :
    (m.store o c).1.Holds o (m.store o c).2 c ∧ ∀ o', Keeps o' m (m.store o c).1 := by
  -- One memory after each push; every later one keeps what an earlier one holds.
  let p₁ := m.push o (.schemas c.schemas)
  let p₂ := p₁.1.pushBuiltins o c.builtinsByType
  let p₃ := p₂.1.push o (.builtinsByType p₂.2)
  let p₄ := p₃.1.push o (.words c.keywords)
  let p₅ := p₄.1.push o (.words c.operators)
  let p₆ := p₅.1.push o (.workflowVariables c.workflowVariables)
  let p₇ := p₆.1.push o (.configuration c.databaseType p₁.2 p₃.2 p₄.2 p₅.2 p₆.2)
  have hstore : m.store o c = p₇ := rfl
  have k₁ (o') : Keeps o' m p₁.1 := keeps_push m o o' _
  have k₂ (o') : Keeps o' p₁.1 p₂.1 := keeps_pushBuiltins p₁.1 o o' _
  have k₃ (o') : Keeps o' p₂.1 p₃.1 := keeps_push p₂.1 o o' _
  have k₄ (o') : Keeps o' p₃.1 p₄.1 := keeps_push p₃.1 o o' _
  have k₅ (o') : Keeps o' p₄.1 p₅.1 := keeps_push p₄.1 o o' _
  have k₆ (o') : Keeps o' p₅.1 p₆.1 := keeps_push p₅.1 o o' _
  have k₇ (o') : Keeps o' p₆.1 p₇.1 := keeps_push p₆.1 o o' _
  have k₆₇ (o') := (k₆ o').trans (k₇ o')
  have k₅₇ (o') := (k₅ o').trans (k₆₇ o')
  have k₄₇ (o') := (k₄ o').trans (k₅₇ o')
  have k₃₇ (o') := (k₃ o').trans (k₄₇ o')
  have k₂₇ (o') := (k₂ o').trans (k₃₇ o')
  rw [hstore]
  refine ⟨⟨p₁.2, p₃.2, p₄.2, p₅.2, p₆.2, p₂.2, getElem?_push _ _ _, ?_, ?_, ?_, ?_, ?_, ?_⟩,
    fun o' => (k₁ o').trans (k₂₇ o')⟩
  · exact k₂₇ o _ _ (getElem?_push _ _ _)
  · exact k₄₇ o _ _ (getElem?_push _ _ _)
  · exact (holdsLists_pushBuiltins _ _ _).mono (k₃₇ o)
  · exact k₅₇ o _ _ (getElem?_push _ _ _)
  · exact k₆₇ o _ _ (getElem?_push _ _ _)
  · exact k₇ o _ _ (getElem?_push _ _ _)

/-! ### Changed objects -/

/-- The caller does not change an object of the engine. -/
theorem keeps_write (m : Memory) (place : Nat) (x : Cell) : Keeps .engine m (m.write place x) := by
  intro at' y h
  rw [write]
  split_ifs with hw
  · have hcallers : m.isCallers place = true := by simp_all
    have hne : place ≠ at' := by
      rintro rfl
      rw [isCallers, h] at hcallers
      cases hcallers
    rw [List.getElem?_set_ne hne, h]
  · exact h

theorem keeps_overwrite (m : Memory) (place : Nat) (c : Configuration) :
    Keeps .engine m (m.overwrite place c) := by
  have hwrites (l : List (Nat × Cell)) (m : Memory) :
      Keeps .engine m (l.foldl (fun m p => m.write p.1 p.2) m) := by
    induction l generalizing m with
    | nil => exact .refl _ _
    | cons p l ih => exact (keeps_write m p.1 p.2).trans (ih _)
  rw [overwrite]
  split
  · exact (keeps_pushBuiltins m .caller .engine _).trans (hwrites _ _)
  · exact .refl _ _

end Memory

namespace Session

open Memory

variable {s : Session} {c : Configuration}

/-! ### What one action does -/

/-- The value of the configuration that an action gives to the engine, if it gives one. -/
def handed? (s : Session) : Action → Option Configuration
  | .give place =>
    if s.memory.isCallersConfiguration place then some (s.memory.read place) else none
  | .update c => some c
  | .make _ | .write _ _ | .change _ _ | .rebuildCatalog _ _ | .complete _ | .hover _ _ => none

/-- The value that the last configuration had when it was given, among those that the actions give
to the engine; `c` if they give none. -/
def lastHanded (s : Session) (c : Configuration) : List Action → Configuration
  | [] => c
  | a :: actions => (s.step a).lastHanded ((s.handed? a).getD c) actions

/-- The engine holds the configuration as its own, and its index is built from it. -/
structure Sound (s : Session) (c : Configuration) : Prop where
  /-- The configuration stands in objects of the engine. -/
  holds : s.memory.Holds .engine s.current.place c
  /-- The index is built from it. -/
  index : s.current.built.index = .build c.schemas c.workflowVariables

theorem index_ofPlace {m : Memory} {o : Owner} {place : Nat} (h : m.Holds o place c) (build : Nat) :
    (HeldSnapshot.ofPlace m build place).built.index = .build c.schemas c.workflowVariables := by
  rw [HeldSnapshot.ofPlace, h.read]

theorem sound_ofPlace {m : Memory} {place : Nat} (h : m.Holds .engine place c) (given : List Nat) :
    (ofPlace m given place).Sound c :=
  ⟨h, index_ofPlace h 0⟩

/-- A new session is sound. -/
theorem sound_start (given : Option Configuration) : (start given).Sound (given.getD {}) := by
  cases given with
  | none => exact sound_ofPlace (holds_store [] .engine {}).1 []
  | some c =>
    let p := Memory.store [] .caller c
    have hread : p.1.read p.2 = c := (holds_store [] .caller c).1.read
    have hcopy := (holds_store p.1 .engine (p.1.read p.2)).1
    have hsound : (start (some c)).Sound (p.1.read p.2) := sound_ofPlace hcopy [p.2]
    rwa [hread] at hsound

theorem keeps_adopt (s : Session) (place : Nat) : Keeps .engine s.memory (s.adopt place).memory :=
  (holds_store s.memory .engine (s.memory.read place)).2 .engine

/-- The engine that was given a configuration holds the value that it has at the moment. -/
theorem sound_adopt (s : Session) (place : Nat) : (s.adopt place).Sound (s.memory.read place) :=
  have h := (holds_store s.memory .engine (s.memory.read place)).1
  ⟨h, index_ofPlace h s.builds⟩

/-- No action changes an object of the engine. -/
theorem keeps_step (s : Session) (a : Action) : Keeps .engine s.memory (s.step a).memory := by
  cases a with
  | make x =>
    rw [step]
    split_ifs
    · exact keeps_push _ _ _ _
    · exact .refl _ _
  | write place x => exact keeps_write _ _ _
  | give place =>
    rw [step]
    split_ifs
    · exact keeps_adopt s place
    · exact .refl _ _
  | update c =>
    have hadopt := keeps_adopt { s with memory := (s.memory.store .caller c).1 }
      (s.memory.store .caller c).2
    exact ((holds_store s.memory .caller c).2 .engine).trans hadopt
  | change position c =>
    rw [step]
    split
    · exact keeps_overwrite _ _ _
    · exact .refl _ _
  | rebuildCatalog schemas vars => exact .refl _ _
  | complete r => exact .refl _ _
  | hover before after => exact .refl _ _

/-- An action that gives nothing to the engine leaves its snapshot. -/
theorem current_step_of_handed?_eq_none {a : Action} (h : s.handed? a = none) :
    (s.step a).current = s.current := by
  cases a with
  | make x => rw [step]; split_ifs <;> rfl
  | write place x => rfl
  | give place =>
    rw [handed?] at h
    split_ifs at h with hplace
    rw [step, if_neg hplace]
  | update c => cases h
  | change position c => rw [step]; split <;> rfl
  | rebuildCatalog schemas vars => rfl
  | complete r => rfl
  | hover before after => rfl

/-- After an action that gives a configuration to the engine, it holds the value given. -/
theorem sound_step_of_handed?_eq_some {a : Action} (h : s.handed? a = some c) :
    (s.step a).Sound c := by
  cases a with
  | give place =>
    rw [handed?] at h
    split_ifs at h with hplace
    rw [step, if_pos hplace, ← Option.some.inj h]
    exact sound_adopt s place
  | update c' =>
    obtain rfl := Option.some.inj h
    have hread := (holds_store s.memory .caller c').1.read
    have := sound_adopt { s with memory := (s.memory.store .caller c').1 }
      (s.memory.store .caller c').2
    rwa [hread] at this
  | make x => cases h
  | write place x => cases h
  | change position c' => cases h
  | rebuildCatalog schemas vars => cases h
  | complete r => cases h
  | hover before after => cases h

theorem Sound.step (h : s.Sound c) (a : Action) : (s.step a).Sound ((s.handed? a).getD c) := by
  cases ha : s.handed? a with
  | none =>
    have hcurrent := current_step_of_handed?_eq_none ha
    exact ⟨by rw [hcurrent]; exact h.holds.mono (keeps_step s a), by rw [hcurrent]; exact h.index⟩
  | some c' => exact sound_step_of_handed?_eq_some ha

/-- An engine in the memory is given a configuration as one by itself is given its value. -/
theorem engine_adopt (s : Session) (place : Nat) :
    (s.adopt place).engine = s.engine.update (s.memory.read place) := by
  have hread := (holds_store s.memory .engine (s.memory.read place)).1.read
  simp only [adopt, engine, copy, HeldSnapshot.ofPlace, HeldSnapshot.view, hread]
  rfl

/-- The engine reads the same in every memory that keeps its objects. -/
theorem Sound.engine_of_keeps {m : Memory} (h : s.Sound c) (hk : Keeps .engine s.memory m) :
    { s with memory := m }.engine = s.engine := by
  have hread : m.read s.current.place = s.memory.read s.current.place :=
    (h.holds.mono hk).read.trans h.holds.read.symm
  rw [engine, HeldSnapshot.view, hread]
  rfl

/-- An action does to the engine what it does to one that shares nothing with its caller: the value
given is taken up, the catalog is rebuilt on its own, and everything else passes it by. -/
theorem Sound.engine_step (h : s.Sound c) (a : Action) :
    (s.step a).engine =
      match a, s.handed? a with
      | .rebuildCatalog schemas vars, _ => s.engine.rebuildCatalog schemas vars
      | _, some c' => s.engine.update c'
      | _, none => s.engine := by
  have hkeeps := h.engine_of_keeps (keeps_step s a)
  cases a with
  | make x =>
    rw [Session.step] at hkeeps ⊢
    split_ifs at hkeeps ⊢
    · exact hkeeps
    · rfl
  | write place x => exact hkeeps
  | give place =>
    rw [Session.step, handed?]
    split_ifs
    · exact engine_adopt s place
    · rfl
  | update c' =>
    have hread := (holds_store s.memory .caller c').1.read
    have hadopt := engine_adopt { s with memory := (s.memory.store .caller c').1 }
      (s.memory.store .caller c').2
    rw [hread] at hadopt
    exact hadopt
  | change position c' =>
    rw [Session.step] at hkeeps ⊢
    split at hkeeps <;> exact hkeeps
  | rebuildCatalog schemas vars => rfl
  | complete r => rfl
  | hover before after => rfl

/-! ### What a run does -/

theorem run_append (s : Session) (earlier later : List Action) :
    s.run (earlier ++ later) = (s.run earlier).run later :=
  List.foldl_append

theorem keeps_run (s : Session) (actions : List Action) :
    Keeps .engine s.memory (s.run actions).memory := by
  induction actions generalizing s with
  | nil => exact .refl _ _
  | cons a actions ih => exact (keeps_step s a).trans (ih _)

/-- After a run the engine holds the value that was given last. -/
theorem Sound.run (h : s.Sound c) (actions : List Action) :
    (s.run actions).Sound (s.lastHanded c actions) := by
  induction actions generalizing s c with
  | nil => exact h
  | cons a actions ih => exact ih (h.step a)

/-- A snapshot reads the same after any run. -/
theorem Sound.view_run (h : s.Sound c) (actions : List Action) :
    s.current.view (s.run actions).memory = s.engine.snapshot := by
  have hafter := (h.holds.mono (keeps_run s actions)).read
  have hnow := h.holds.read
  rw [engine, HeldSnapshot.view, HeldSnapshot.view, hafter, hnow]

theorem Sound.configuration (h : s.Sound c) : s.engine.snapshot.configuration = c := h.holds.read

/-- A request has the answer of a new engine for the configuration held. -/
theorem Sound.complete (h : s.Sound c) (r : Request) :
    s.engine.complete r = (Engine.ofConfiguration c).complete r := by
  have hindex : s.engine.index = (Engine.ofConfiguration c).index := h.index
  rw [Engine.complete, Engine.complete, hindex, h.configuration]
  rfl

theorem Sound.hover (h : s.Sound c) (before after : Text) :
    s.engine.hover before after = (Engine.ofConfiguration c).hover before after := by
  have hindex : s.engine.index = (Engine.ofConfiguration c).index := h.index
  rw [Engine.hover, Engine.hover, hindex, h.configuration]
  rfl

/-- **Snapshots are consistent and do not depend on the past**: after any actions of the caller, the
engine's configuration has the value that the last given one had when it was given, its index is
built from that value, each snapshot taken on the way reads as it did then, and candidates and
descriptions are those of a new engine for the value. -/
theorem run_consistent (given : Option Configuration) (actions : List Action) :
    let s := (start given).run actions
    let c := (start given).lastHanded (given.getD {}) actions
    s.engine.snapshot.configuration = c ∧
      s.engine.snapshot.built.index = .build s.engine.snapshot.configuration.schemas
        s.engine.snapshot.configuration.workflowVariables ∧
      (∀ n, ((start given).run (actions.take n)).current.view s.memory =
        ((start given).run (actions.take n)).engine.snapshot) ∧
      (∀ r, s.engine.complete r = (Engine.ofConfiguration c).complete r) ∧
      ∀ before after, s.engine.hover before after =
        (Engine.ofConfiguration c).hover before after := by
  have hsound := (sound_start given).run actions
  refine ⟨hsound.configuration, ?_, ?_, hsound.complete, hsound.hover⟩
  · rw [hsound.configuration]
    exact hsound.index
  · intro n
    have hview := ((sound_start given).run (actions.take n)).view_run (actions.drop n)
    rwa [← run_append, List.take_append_drop] at hview

end Session

end SqlAssist
