import FlightCaption.Proofs.Expansion.Contribution
import FlightCaption.Proofs.Template.WrittenForm

/-!
# Tags that nothing handles

A tag without a handler is left in place in its written form, which need not be the form that the
template has it in. Where no tag has a handler, the caption is the written form of the template's
tokens, so it is shorter than the template or as long, and it is the template itself exactly if the
template has its tags in the written form (`expand?_unresolved_eq_iff`).
-/

namespace FlightCaption

/-- The events of tags that are left in place, one for each of them. -/
def leftEvents (tokens : List Token) : List Event :=
  tokens.filterMap fun
    | .literal _ => none
    | .tag key _ => some (.left key)

/-- No tag of the tokens is registered. -/
def IsUnresolved (registry : Registry) (tokens : List Token) : Prop :=
  ∀ key args, .tag key args ∈ tokens → registry.get? key = none

section

variable {registry : Registry} {tokens : List Token} (depth : Nat) (context : Context)
  (allowCustom : Bool)

/-- Tokens of which no tag is registered are written out again, without any nesting. -/
theorem expand?_unresolved (h : IsUnresolved registry tokens) :
    expand? depth registry context allowCustom tokens =
      some { text := Grammar.written tokens, log := leftEvents tokens } := by
  induction tokens with
  | nil => rfl
  | cons token tokens ih =>
    have htoken : expand? depth registry context allowCustom [token] =
        some { text := token.written, log := leftEvents [token] } := by
      cases token with
      | literal text => rfl
      | tag key args =>
        exact expand?_left depth registry context allowCustom (.inl (h key args List.mem_cons_self))
          args
    have hrest := ih fun key args hmem => h key args (List.mem_cons_of_mem _ hmem)
    rw [expand?_cons, htoken, Option.bind_some, hrest, Option.map_some, Option.some.injEq]
    apply Caption.eq_of_text_of_log
    · rw [← String.toList_inj, Grammar.written_cons]
      exact String.toList_append
    · show leftEvents [token] ++ leftEvents tokens = leftEvents ([token] ++ tokens)
      exact List.filterMap_append.symm

end

/-- **Tags that nothing handles are written back**, and this never makes a caption longer than its
    template. The caption is the template exactly if each of its closed, named tags has no group, or
    a single one directly before its `>` whose pieces have no blanks around them. -/
theorem expand?_unresolved_eq_iff {registry : Registry} {template : String}
    (h : IsUnresolved registry (tokenize template)) (depth : Nat) (context : Context)
    (allowCustom : Bool) :
    ∃ caption, expand? depth registry context allowCustom (tokenize template) = some caption ∧
      caption.text.length ≤ template.length ∧
      (caption.text = template ↔ ∀ parts, Grammar.HasTag template parts →
        Grammar.key parts ≠ [] → Grammar.IsWrittenForm parts) :=
  ⟨_, expand?_unresolved depth context allowCustom h,
    Grammar.length_written_tokenize_le template, Grammar.written_tokenize_eq_iff template⟩

/-- A key behind a group changes its place, without a change of length. -/
theorem expand?_unresolved_late_key :
    IsUnresolved .empty (tokenize "a > <(x)> <(1,2)B>") ∧
      expand? 0 .empty {} true (tokenize "a > <(x)> <(1,2)B>") =
        some { text := "a > <(x)> <B(1,2)>", log := [.left "B"] } ∧
      ¬ ∀ parts, Grammar.HasTag "a > <(x)> <(1,2)B>" parts → Grammar.key parts ≠ [] →
        Grammar.IsWrittenForm parts := by
  have hunresolved : IsUnresolved .empty (tokenize "a > <(x)> <(1,2)B>") := fun _ _ _ => rfl
  have hcaption : expand? 0 .empty {} true (tokenize "a > <(x)> <(1,2)B>") =
      some { text := "a > <(x)> <B(1,2)>", log := [.left "B"] } := by decide +kernel
  obtain ⟨caption, hexpand, -, hform⟩ := expand?_unresolved_eq_iff hunresolved 0 {} true
  rw [hcaption] at hexpand
  obtain rfl := Option.some.inj hexpand
  refine ⟨hunresolved, hcaption, ?_⟩
  -- The caption is not the template, so some tag is in another form
  rw [← hform]
  decide

end FlightCaption
