import Mathlib.Logic.Function.Basic
import FlightCaption.Tag.Registry

/-!
# Looking up built-in tags

The built-in tags have forty different names, so registering them one after the other replaces
none of them. Main statement: the registry of the built-in tags finds the handler of each of them
under its name (`get?_builtins_name`); that it finds nothing else is
`Registry.eq_handler_of_get?_builtins`.
-/

namespace FlightCaption

namespace Builtin

theorem mem_all (tag : Builtin) : tag ∈ all := by
  cases tag with
  | clock part => cases part <;> decide
  | vessel reading => cases reading <;> decide
  | orbit reading => cases reading <;> decide
  | crew role =>
    cases role with
    | none => decide
    | some role => cases role <;> decide
  | _ => decide

/-- No two built-in tags have one name. -/
theorem name_injective : Function.Injective name := by
  -- The tags are finitely many, so all pairs of them can be looked at
  have hall : ∀ first ∈ all, ∀ second ∈ all, first.name = second.name → first = second := by
    decide +kernel
  intro first second hname
  exact hall first (mem_all first) second (mem_all second) hname

end Builtin

namespace Registry

/-- Registering tags does not touch the other names. -/
theorem get?_insertBuiltins_of_forall_ne (registry : Registry) {tags : List Builtin}
    {key : String} (h : ∀ tag ∈ tags, tag.name ≠ key) :
    (registry.insertBuiltins tags).get? key = registry.get? key := by
  induction tags generalizing registry with
  | nil => rfl
  | cons tag tags ih =>
    obtain ⟨htag, htags⟩ := List.forall_mem_cons.mp h
    show ((registry.insert tag.name tag.handler).insertBuiltins tags).get? key = _
    rw [ih _ htags, get?_insert, if_neg htag]

/-- A registered tag is found under its name, whatever has been registered before. -/
theorem get?_insertBuiltins_of_mem (registry : Registry) {tags : List Builtin} {tag : Builtin}
    (h : tag ∈ tags) : (registry.insertBuiltins tags).get? tag.name = some tag.handler := by
  induction tags generalizing registry with
  | nil => simp at h
  | cons first tags ih =>
    show ((registry.insert first.name first.handler).insertBuiltins tags).get? tag.name = _
    by_cases hlater : tag ∈ tags
    · exact ih _ hlater
    · -- The tag is registered here, and the tags that follow have other names
      obtain rfl : tag = first := by simpa [hlater] using h
      rw [get?_insertBuiltins_of_forall_ne, get?_insert, if_pos rfl]
      intro other hother hname
      apply hlater
      rwa [← Builtin.name_injective hname]

theorem get?_builtins_name (tag : Builtin) : builtins.get? tag.name = some tag.handler :=
  get?_insertBuiltins_of_mem empty (Builtin.mem_all tag)

end Registry

end FlightCaption
