import FlightCaption.Proofs.Expansion.Contribution

/-!
# The nesting limit

How deep passes may nest is an argument of an expansion, and where the limit is reached there is
no answer. A larger limit changes nothing else: answers are never revised. Main statement: an
expansion that has an answer has the same one under every larger limit (`expand?_mono`).
-/

namespace FlightCaption

/-! ## Larger answers to nested markup -/

/-- Wherever `nested` has an answer, `nested'` has the same one. -/
def IsExtendedBy (nested nested' : String → Option Caption) : Prop :=
  ∀ markup caption, nested markup = some caption → nested' markup = some caption

section

variable {nested nested' : String → Option Caption} {registry : Registry} {scope : Scope}

theorem Script.perform_mono (h : IsExtendedBy nested nested') {script : Script}
    {performance : Performance} (hperform : script.perform nested = some performance) :
    script.perform nested' = some performance := by
  induction script generalizing performance with
  | done => exact hperform
  | fail fault => exact hperform
  | write text next ih =>
    rw [perform] at hperform ⊢
    obtain ⟨rest, hrest, rfl⟩ := Option.map_eq_some_iff.mp hperform
    rw [ih hrest]
    rfl
  | expand markup next ih =>
    rw [perform] at hperform ⊢
    obtain ⟨inner, hinner, hnext⟩ := Option.bind_eq_some_iff.mp hperform
    obtain ⟨rest, hrest, rfl⟩ := Option.map_eq_some_iff.mp hnext
    -- The pass has the same answer, so the script goes on in the same way
    rw [h markup inner hinner, Option.bind_some, ih inner.text hrest]
    rfl

theorem Expansion.contribution_mono (h : IsExtendedBy nested nested') {token : Token}
    {caption : Caption} (htoken : contribution nested registry scope token = some caption) :
    contribution nested' registry scope token = some caption := by
  cases token with
  | literal text => exact htoken
  | tag key args =>
    cases hhandler : handler? registry scope.allowCustom key with
    | none => simpa only [contribution, hhandler] using htoken
    | some handler =>
      simp only [contribution, hhandler] at htoken ⊢
      obtain ⟨performance, hperform, rfl⟩ := Option.map_eq_some_iff.mp htoken
      rw [Script.perform_mono h hperform]
      rfl

end

/-! ## Larger limits -/

section

variable {registry : Registry} {context : Context} {depth depth' : Nat}

private theorem expand?_mono_of_isExtendedBy {allowCustom : Bool}
    (h : IsExtendedBy (Expansion.nested? registry context depth)
      (Expansion.nested? registry context depth'))
    {tokens : List Token} {caption : Caption}
    (htokens : expand? depth registry context allowCustom tokens = some caption) :
    expand? depth' registry context allowCustom tokens = some caption := by
  induction tokens generalizing caption with
  | nil => exact htokens
  | cons token tokens ih =>
    rw [expand?_cons] at htokens ⊢
    obtain ⟨first, hfirst, hmap⟩ := Option.bind_eq_some_iff.mp htokens
    obtain ⟨rest, hrest, rfl⟩ := Option.map_eq_some_iff.mp hmap
    have htoken : expand? depth' registry context allowCustom [token] = some first := by
      rw [expand?_singleton] at hfirst ⊢
      exact Expansion.contribution_mono h hfirst
    rw [htoken, Option.bind_some, ih hrest]
    rfl

/-- Nested passes keep their answers under a larger limit. -/
theorem nested?_mono (hdepth : depth ≤ depth') :
    IsExtendedBy (Expansion.nested? registry context depth)
      (Expansion.nested? registry context depth') := by
  induction depth generalizing depth' with
  | zero =>
    intro markup caption hnone
    simp [Expansion.nested?] at hnone
  | succ depth ih =>
    -- A pass below the limit is an expansion with one level less on both sides
    obtain ⟨depth', rfl⟩ := Nat.exists_eq_succ_of_ne_zero (Nat.ne_of_gt (Nat.lt_of_lt_of_le
      (Nat.succ_pos depth) hdepth))
    intro markup caption hmarkup
    rw [Nat.succ_eq_add_one, nested?_succ]
    rw [nested?_succ] at hmarkup
    exact expand?_mono_of_isExtendedBy (ih (Nat.le_of_succ_le_succ hdepth)) hmarkup

/-- **Answers are never revised**: an expansion keeps its answer under a larger limit. -/
theorem expand?_mono {allowCustom : Bool} (hdepth : depth ≤ depth') {tokens : List Token}
    {caption : Caption}
    (h : expand? depth registry context allowCustom tokens = some caption) :
    expand? depth' registry context allowCustom tokens = some caption :=
  expand?_mono_of_isExtendedBy (nested?_mono hdepth) h

end

end FlightCaption
