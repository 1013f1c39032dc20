import Mathlib.Data.List.Basic
import Mathlib.Data.List.Induction
import FlightCaption.Proofs.Tag.Lookup

/-!
# Building a registry

A registry is built in steps. Each of them registers one handler, or all built-in tags at once. This
module says which handlers the registry has in the end, and that its listing agrees with them:

1. A step replaces the handlers of the names that it registers and touches no other name.
2. So after a sequence of steps a name has the handler that the last step registers for it, whether
   that is a step of its own or one for the built-in tags.
3. The names that have a handler are listed once each, in the order of their code points.

Main statement: `Registry.build_lastWrite`.
-/

namespace FlightCaption

/-- The code points of a text, by which texts are ordered as words are. -/
def Text.codePoints (text : String) : List ℕ :=
  text.toList.map Char.toNat

open Text (codePoints)

/-! ## Steps -/

/-- A step in building a registry. -/
inductive RegistryStep where
  /-- Registers a handler under a name. -/
  | tag (name : String) (handler : Handler)
  /-- Registers all built-in tags. -/
  | builtins

namespace RegistryStep

/-- The registry after a step. -/
def apply (registry : Registry) : RegistryStep → Registry
  | tag name handler => registry.insert name handler
  | builtins => registry.withBuiltins

/-- The step registers a handler under a name. -/
def Registers : RegistryStep → String → Handler → Prop
  | tag name handler, key, registered => name = key ∧ handler = registered
  | builtins, key, registered => ∃ tag : Builtin, tag.name = key ∧ tag.handler = registered

variable {step : RegistryStep} {name : String} {handler : Handler}

/-- A step replaces the handler of a name that it registers. -/
theorem get?_apply_of_registers (registry : Registry) (h : step.Registers name handler) :
    (step.apply registry).get? name = some handler := by
  cases step with
  | tag key registered =>
    obtain ⟨rfl, rfl⟩ := h
    rw [apply, Registry.get?_insert, if_pos rfl]
  | builtins =>
    obtain ⟨tag, rfl, rfl⟩ := h
    exact registry.get?_insertBuiltins_of_mem tag.mem_all

/-- A step does not touch the other names. -/
theorem get?_apply_of_forall_not_registers (registry : Registry)
    (h : ∀ handler, ¬ step.Registers name handler) :
    (step.apply registry).get? name = registry.get? name := by
  cases step with
  | tag key registered =>
    have hne : key ≠ name := fun heq => h registered ⟨heq, rfl⟩
    rw [apply, Registry.get?_insert, if_neg hne]
  | builtins =>
    apply registry.get?_insertBuiltins_of_forall_ne
    -- A built-in tag of this name would have been registered under it
    intro tag _ heq
    exact h tag.handler ⟨tag, heq, rfl⟩

/-- A step registers one handler under a name at most. -/
theorem Registers.unique {handler' : Handler} (h : step.Registers name handler)
    (h' : step.Registers name handler') : handler = handler' := by
  have hfound := get?_apply_of_registers .empty h
  rw [get?_apply_of_registers .empty h'] at hfound
  exact (Option.some.inj hfound).symm

/-- After a step a name has the handler that the step registers, or else the one that it had. -/
theorem get?_apply_eq_some_iff (registry : Registry) :
    (step.apply registry).get? name = some handler ↔
      step.Registers name handler ∨
        (∀ other, ¬ step.Registers name other) ∧ registry.get? name = some handler := by
  by_cases hstep : ∃ registered, step.Registers name registered
  · obtain ⟨registered, hregistered⟩ := hstep
    rw [get?_apply_of_registers registry hregistered]
    constructor
    · intro hsame
      obtain rfl := Option.some.inj hsame
      exact .inl hregistered
    · rintro (hstep | ⟨hnot, -⟩)
      · rw [hregistered.unique hstep]
      · exact absurd hregistered (hnot registered)
  · have hnot : ∀ other, ¬ step.Registers name other := not_exists.mp hstep
    rw [get?_apply_of_forall_not_registers registry hnot]
    simp [hnot]

/-- No step takes a handler away. -/
theorem get?_apply_eq_none_iff (registry : Registry) :
    (step.apply registry).get? name = none ↔
      registry.get? name = none ∧ ∀ handler, ¬ step.Registers name handler := by
  by_cases hstep : ∃ registered, step.Registers name registered
  · obtain ⟨registered, hregistered⟩ := hstep
    rw [get?_apply_of_registers registry hregistered]
    refine iff_of_false (Option.some_ne_none registered) ?_
    exact fun hnone => hnone.2 registered hregistered
  · have hnot : ∀ other, ¬ step.Registers name other := not_exists.mp hstep
    rw [get?_apply_of_forall_not_registers registry hnot]
    exact (and_iff_left hnot).symm

end RegistryStep

/-! ## Sequences of steps -/

/-- The handler is the one that the last step with the name registers under it. -/
def IsLastRegistered (steps : List RegistryStep) (name : String) (handler : Handler) : Prop :=
  ∃ before step after, steps = before ++ step :: after ∧ step.Registers name handler ∧
    ∀ later ∈ after, ∀ other, ¬ later.Registers name other

theorem isLastRegistered_append_singleton_iff {steps : List RegistryStep} {step : RegistryStep}
    {name : String} {handler : Handler} :
    IsLastRegistered (steps ++ [step]) name handler ↔
      step.Registers name handler ∨
        (∀ other, ¬ step.Registers name other) ∧ IsLastRegistered steps name handler := by
  constructor
  · rintro ⟨before, found, after, hsteps, hfound, hafter⟩
    rcases List.eq_nil_or_concat after with rfl | ⟨more, last, rfl⟩
    · -- The step that is found is the new one
      obtain ⟨-, hlast⟩ := List.append_inj' hsteps rfl
      obtain rfl : step = found := by simpa using hlast
      exact .inl hfound
    · -- The step that is found is an older one, and the new one comes after it
      rw [List.concat_eq_append, List.forall_mem_append, List.forall_mem_singleton] at hafter
      have hold : steps ++ [step] = (before ++ found :: more) ++ [last] := by simp [hsteps]
      obtain ⟨rfl, hlast⟩ := List.append_inj' hold rfl
      obtain rfl : step = last := by simpa using hlast
      exact .inr ⟨hafter.2, before, found, more, rfl, hfound, hafter.1⟩
  · rintro (hstep | ⟨hnot, before, found, after, rfl, hfound, hafter⟩)
    · exact ⟨steps, step, [], rfl, hstep, by simp⟩
    · refine ⟨before, found, after ++ [step], by simp, hfound, ?_⟩
      rw [List.forall_mem_append, List.forall_mem_singleton]
      exact ⟨hafter, hnot⟩

namespace Registry

/-- The registry that a sequence of steps builds. -/
def build (steps : List RegistryStep) : Registry :=
  steps.foldl RegistryStep.apply empty

theorem build_append_singleton (steps : List RegistryStep) (step : RegistryStep) :
    build (steps ++ [step]) = step.apply (build steps) := by
  rw [build, List.foldl_append]
  rfl

/-- The handler of a name is the one that has been registered last. -/
theorem get?_build_eq_some_iff {steps : List RegistryStep} {name : String} {handler : Handler} :
    (build steps).get? name = some handler ↔ IsLastRegistered steps name handler := by
  induction steps using List.reverseRecOn with
  | nil => simp [build, empty, get?, IsLastRegistered]
  | append_singleton steps step ih =>
    -- The new step is the last one, and it decides wherever it registers the name
    rw [build_append_singleton, RegistryStep.get?_apply_eq_some_iff,
      isLastRegistered_append_singleton_iff, ih]

/-- A name has no handler where no step registers one. -/
theorem get?_build_eq_none_iff {steps : List RegistryStep} {name : String} :
    (build steps).get? name = none ↔
      ∀ step ∈ steps, ∀ handler, ¬ step.Registers name handler := by
  induction steps using List.reverseRecOn with
  | nil => simp [build, empty, get?]
  | append_singleton steps step ih =>
    rw [build_append_singleton, RegistryStep.get?_apply_eq_none_iff, List.forall_mem_append,
      List.forall_mem_singleton, ih]

/-! ## The listing -/

theorem contains_eq_isSome_get? (registry : Registry) (name : String) :
    registry.contains name = (registry.get? name).isSome :=
  Std.TreeMap.contains_eq_isSome_getElem?

theorem mem_names_iff {registry : Registry} {name : String} :
    name ∈ registry.names ↔ registry.contains name = true :=
  Std.TreeMap.mem_keys

theorem length_names (registry : Registry) : registry.names.length = registry.size :=
  Std.TreeMap.length_keys

theorem isEmpty_iff {registry : Registry} : registry.isEmpty = true ↔ registry.names = [] := by
  rw [← List.isEmpty_iff, names, Std.TreeMap.isEmpty_keys]
  rfl

/-- Names are listed in strictly increasing order, and so each of them once. -/
theorem pairwise_names (registry : Registry) :
    registry.names.Pairwise fun first second => codePoints first < codePoints second := by
  refine Std.TreeMap.ordered_keys.imp ?_
  intro first second hless
  have htexts : first < second := compareOfLessAndEq_eq_lt.mp hless
  exact List.map_lt (fun _ _ hchars => hchars) htexts

/-- **A registry keeps the last handler of each name, and lists its names in order without
    duplicates**, whatever the steps are that it is built in, and in which order. -/
theorem build_lastWrite (steps : List RegistryStep) :
    (∀ name handler, (build steps).get? name = some handler ↔
      IsLastRegistered steps name handler) ∧
    (∀ name, (build steps).get? name = none ↔
      ∀ step ∈ steps, ∀ handler, ¬ step.Registers name handler) ∧
    (∀ name, ((build steps).contains name = true ↔ ((build steps).get? name).isSome) ∧
      (name ∈ (build steps).names ↔ ((build steps).get? name).isSome)) ∧
    ((build steps).names.Pairwise fun first second => codePoints first < codePoints second) ∧
    (build steps).size = (build steps).names.length ∧
    ((build steps).isEmpty = true ↔ (build steps).names = []) := by
  refine ⟨fun _ _ => get?_build_eq_some_iff, fun _ => get?_build_eq_none_iff, ?_,
    pairwise_names _, (length_names _).symm, isEmpty_iff⟩
  intro name
  rw [mem_names_iff, contains_eq_isSome_get?]
  exact ⟨Iff.rfl, Iff.rfl⟩

example (quiet loud : Handler) :
    (build [.tag "b" quiet, .tag "a" quiet, .tag "b" loud]).names = ["a", "b"] := rfl

end Registry

end FlightCaption
