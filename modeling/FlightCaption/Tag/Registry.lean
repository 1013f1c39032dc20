import Std.Data.TreeMap
import FlightCaption.Tag.Builtin

/-!
# Tag registries

A registry gives handlers to tag names. Names are told apart by case and kept in the order of their
characters' code points; registering a name again replaces its handler.

Main statement: a handler found in the registry of the built-in tags is the handler of a built-in
tag of that name (`eq_handler_of_get?_builtins`).
-/

namespace FlightCaption

/-- Handlers by tag name, in the order of the names. -/
structure Registry where
  handlers : Std.TreeMap String Handler := ∅

namespace Registry

/-! ## Building -/

/-- The registry without tags. -/
def empty : Registry := {}

/-- Registers a handler under a name. -/
def insert (registry : Registry) (name : String) (handler : Handler) : Registry :=
  { handlers := registry.handlers.insert name handler }

/-- Registers some built-in tags. -/
def insertBuiltins (registry : Registry) (tags : List Builtin) : Registry :=
  tags.foldl (fun registry tag => registry.insert tag.name tag.handler) registry

/-- Registers all built-in tags. -/
def withBuiltins (registry : Registry) : Registry :=
  registry.insertBuiltins Builtin.all

/-- The registry of the built-in tags. -/
def builtins : Registry :=
  empty.withBuiltins

/-! ## Questions -/

/-- The handler of a name. -/
def get? (registry : Registry) (name : String) : Option Handler :=
  registry.handlers[name]?

/-- Whether a name has a handler. -/
def contains (registry : Registry) (name : String) : Bool :=
  registry.handlers.contains name

/-- The names that have a handler, in order. -/
def names (registry : Registry) : List String :=
  registry.handlers.keys

/-- The number of names that have a handler. -/
def size (registry : Registry) : Nat :=
  registry.handlers.size

def isEmpty (registry : Registry) : Bool :=
  registry.handlers.isEmpty

/-! ## Look-ups -/

/-- The latest handler of a name is found, and other names are not touched. -/
theorem get?_insert (registry : Registry) (name key : String) (handler : Handler) :
    (registry.insert name handler).get? key =
      if name = key then some handler else registry.get? key := by
  simp [get?, insert, Std.TreeMap.getElem?_insert]

theorem eq_handler_of_get?_insertBuiltins {registry : Registry} {tags : List Builtin}
    {key : String} {handler : Handler}
    (h : (registry.insertBuiltins tags).get? key = some handler) :
    (∃ tag ∈ tags, tag.name = key ∧ tag.handler = handler) ∨
      registry.get? key = some handler := by
  induction tags generalizing registry with
  | nil => exact .inr h
  | cons tag tags ih =>
    rcases ih h with ⟨found, mem, name, same⟩ | earlier
    · exact .inl ⟨found, List.mem_cons_of_mem tag mem, name, same⟩
    · rw [get?_insert] at earlier
      split at earlier
      · next name => exact .inl ⟨tag, List.mem_cons_self, name, Option.some.inj earlier⟩
      · exact .inr earlier

/-- Every handler in the registry of the built-in tags is that of a built-in tag of the name. -/
theorem eq_handler_of_get?_builtins {key : String} {handler : Handler}
    (h : builtins.get? key = some handler) :
    ∃ tag : Builtin, tag.name = key ∧ tag.handler = handler := by
  rcases eq_handler_of_get?_insertBuiltins h with ⟨tag, _, name, same⟩ | none
  · exact ⟨tag, name, same⟩
  · simp [empty, get?] at none

end Registry

end FlightCaption
