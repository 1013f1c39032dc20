import FlightCaption.Document.Form
import FlightCaption.Proofs.Results
import Mathlib.Data.List.Perm.Basic

/-!
# Members of a record

The members of an object are checked against a schema in the order of the text, since the first
misfit is the one that is told. Whether they fit at all does not depend on that order: every name is
known or may be skipped, known names come once, their values are admitted, and no required name is
missing (`Fits`). This module shows so, and derives what it means for an object to gain or lose one
member.

Main statements: `Schema.conformMembers_eq_ok_iff` and `Fits.of_perm`.
-/

namespace FlightCaption.Document

/-! ## Members by name -/

section

variable {β : Type*} {name : String} {members before after : List (String × β)} {value : β}

theorem mem_of_lookup_eq_some (h : members.lookup name = some value) : (name, value) ∈ members := by
  obtain ⟨before, after, rfl, -⟩ := List.lookup_eq_some_iff.mp h
  exact List.mem_append_right before List.mem_cons_self

theorem lookup_eq_none_iff_not_mem : members.lookup name = none ↔ name ∉ members.map (·.1) := by
  rw [List.lookup_eq_none_iff, List.mem_map]
  constructor
  · rintro h ⟨member, hmem, rfl⟩
    simpa using h member hmem
  · intro h member hmem
    exact bne_iff_ne.mpr fun heq => h ⟨member, hmem, heq.symm⟩

/-- A member is found behind others of other names. -/
theorem lookup_middle (h : name ∉ before.map (·.1)) :
    (before ++ (name, value) :: after).lookup name = some value := by
  rw [List.lookup_append, lookup_eq_none_iff_not_mem.mpr h, Option.none_or, List.lookup_cons_self]

/-- A member is not found under another name. -/
theorem lookup_middle_of_ne {other : String} (h : other ≠ name) :
    (before ++ (name, value) :: after).lookup other = (before ++ after).lookup other := by
  have hname : (other == name) = false := beq_eq_false_iff_ne.mpr h
  rw [List.lookup_append, List.lookup_append, List.lookup_cons, hname]

/-- Members share no name among some that are told apart. -/
def Apart (told : List String) (members : List (String × β)) : Prop :=
  members.Pairwise fun first second => first.1 ∈ told → first.1 ≠ second.1

theorem Apart.of_perm {told : List String} {members' : List (String × β)} (h : Apart told members)
    (hperm : members.Perm members') : Apart told members' := by
  refine hperm.pairwise h ?_
  intro first second hne hmem heq
  exact hne (heq ▸ hmem) heq.symm

/-- The order of members does not matter to a name that is told apart. -/
theorem lookup_eq_of_perm {told : List String} {members' : List (String × β)}
    (hperm : members.Perm members') (h : Apart told members) (hname : name ∈ told) :
    members.lookup name = members'.lookup name := by
  induction hperm with
  | nil => rfl
  | cons member _ ih =>
    rw [List.lookup_cons, List.lookup_cons, ih h.of_cons]
  | swap first second rest =>
    rw [List.lookup_cons, List.lookup_cons, List.lookup_cons, List.lookup_cons]
    cases hfirst : name == first.1 with
    | false => rfl
    | true =>
      cases hsecond : name == second.1 with
      | false => rfl
      | true =>
        -- The name would come twice
        obtain rfl := eq_of_beq hfirst
        exact absurd (eq_of_beq hsecond).symm
          (List.rel_of_pairwise_cons h List.mem_cons_self (eq_of_beq hsecond ▸ hname))
  | trans hfirst _ ih ih' => exact (ih h).trans (ih' (h.of_perm hfirst))

end

/-! ## Which members fit -/

/-- A value may stand in the place of a member: it is a null that is allowed there, or it conforms
    to the schema of the place. -/
def Admits (presence : Presence) (schema : Schema) (value : Value) : Prop :=
  (presence = .nullable ∧ value.isNull = true) ∨ schema.conform value = .ok ()

theorem Admits.conform_eq_ok {presence : Presence} {schema : Schema} {value : Value}
    (h : Admits presence schema value) (hvalue : value.isNull = false) :
    schema.conform value = .ok () := by
  refine h.resolve_left fun hnull => ?_
  rw [hvalue] at hnull
  exact Bool.false_ne_true hnull.2

/-- Members fit the fields of a record, behind other members that have been seen: each is known, or
    skipped where the record is not strict, no known one comes again, its value is admitted, and no
    required one is missing in the end. -/
@[mk_iff]
structure Fits (strict : Bool) (fields : List (String × Presence × Schema)) (seen : List String)
    (members : List (String × Value)) : Prop where
  known : ∀ member ∈ members, strict = true → member.1 ∈ names fields
  apart : Apart (names fields) members
  new : ∀ member ∈ members, member.1 ∈ names fields → member.1 ∉ seen
  admitted : ∀ member ∈ members, ∀ presence schema,
    fields.lookup member.1 = some (presence, schema) → Admits presence schema member.2
  complete : ∀ field ∈ fields, field.2.1 = .required →
    field.1 ∈ seen ∨ ∃ member ∈ members, member.1 = field.1

section

variable {strict : Bool} {fields : List (String × Presence × Schema)} {seen : List String}
  {name : String} {value : Value} {members before after : List (String × Value)}

/-- The order of members does not matter. -/
theorem Fits.of_perm {members' : List (String × Value)} (h : Fits strict fields seen members)
    (hperm : members.Perm members') : Fits strict fields seen members' where
  known member hmem := h.known member (hperm.mem_iff.mpr hmem)
  apart := h.apart.of_perm hperm
  new member hmem := h.new member (hperm.mem_iff.mpr hmem)
  admitted member hmem := h.admitted member (hperm.mem_iff.mpr hmem)
  complete field hfield hrequired := by
    refine (h.complete field hfield hrequired).imp_right ?_
    rintro ⟨member, hmem, hname⟩
    exact ⟨member, hperm.mem_iff.mp hmem, hname⟩

/-- A name that is not known counts only where the record is strict. -/
theorem fits_cons_iff_of_unknown (hname : name ∉ names fields) :
    Fits strict fields seen ((name, value) :: members) ↔
      strict = false ∧ Fits strict fields seen members := by
  have hlookup : fields.lookup name = none := lookup_eq_none_iff_not_mem.mpr hname
  have hother : ∀ field ∈ fields, name ≠ field.1 := by
    rintro field hfield rfl
    exact hname (List.mem_map_of_mem hfield)
  -- Each clause says of the first member what it says of the others
  simp only [fits_iff, Apart, List.pairwise_cons, List.mem_cons, forall_eq_or_imp,
    exists_eq_or_imp, hlookup]
  grind

/-- A known name is new, its value is admitted, and it does not come again. -/
theorem fits_cons_iff_of_known {presence : Presence} {schema : Schema}
    (hname : fields.lookup name = some (presence, schema)) :
    Fits strict fields seen ((name, value) :: members) ↔
      name ∉ seen ∧ Admits presence schema value ∧ Fits strict fields (name :: seen) members := by
  have hmem : name ∈ names fields := List.mem_map_of_mem (mem_of_lookup_eq_some hname)
  simp only [fits_iff, Apart, List.pairwise_cons, List.mem_cons, forall_eq_or_imp,
    exists_eq_or_imp, hname]
  grind

theorem fits_nil_iff :
    Fits strict fields seen [] ↔ ∀ field ∈ fields, field.2.1 = .required → field.1 ∈ seen := by
  simp [fits_iff, Apart]

/-! ## One member more or less -/

/-- A known member between others: its value is admitted, and its name does not come again. -/
theorem fits_middle_iff_of_known {presence : Presence} {schema : Schema}
    (hname : fields.lookup name = some (presence, schema)) :
    Fits strict fields [] (before ++ (name, value) :: after) ↔
      Admits presence schema value ∧ Fits strict fields [name] (before ++ after) := by
  have hcons : Fits strict fields [] ((name, value) :: (before ++ after)) ↔ _ :=
    fits_cons_iff_of_known hname
  exact ⟨fun h => (hcons.mp (h.of_perm List.perm_middle)).2,
    fun h => (hcons.mpr ⟨List.not_mem_nil, h⟩).of_perm List.perm_middle.symm⟩

theorem fits_middle_iff_of_unknown (hname : name ∉ names fields) :
    Fits strict fields [] (before ++ (name, value) :: after) ↔
      strict = false ∧ Fits strict fields [] (before ++ after) := by
  have hcons : Fits strict fields [] ((name, value) :: (before ++ after)) ↔ _ :=
    fits_cons_iff_of_unknown hname
  exact ⟨fun h => hcons.mp (h.of_perm List.perm_middle),
    fun h => (hcons.mpr h).of_perm List.perm_middle.symm⟩

/-- A known member that has been seen does not come again. -/
theorem Fits.not_mem (h : Fits strict fields [name] members) (hname : name ∈ names fields) :
    name ∉ members.map (·.1) := by
  intro hmem
  obtain ⟨member, hmember, rfl⟩ := List.mem_map.mp hmem
  exact h.new member hmember hname List.mem_cons_self

/-- A member that is not required may be missing. -/
theorem Fits.forget (h : Fits strict fields [name] members)
    (hoptional : ∀ field ∈ fields, field.1 = name → field.2.1 ≠ .required) :
    Fits strict fields [] members where
  known := h.known
  apart := h.apart
  new _ _ _ := List.not_mem_nil
  admitted := h.admitted
  complete field hfield hrequired := by
    refine .inr ((h.complete field hfield hrequired).resolve_left fun hname => ?_)
    exact hoptional field hfield (List.mem_singleton.mp hname) hrequired

/-- A member that is required may not. -/
theorem Fits.not_fits_of_required (h : Fits strict fields [name] members) {schema : Schema}
    (hrequired : (name, .required, schema) ∈ fields) : ¬ Fits strict fields [] members := by
  intro hfits
  obtain ⟨member, hmember, hname⟩ :=
    (hfits.complete _ hrequired rfl).resolve_left List.not_mem_nil
  exact h.not_mem (List.mem_map_of_mem hrequired) (List.mem_map.mpr ⟨member, hmember, hname⟩)

/-! ## Checking -/

namespace Schema

theorem checkMissing_eq_ok_iff :
    checkMissing fields seen = .ok () ↔
      ∀ field ∈ fields, field.2.1 = .required → field.1 ∈ seen := by
  rw [checkMissing]
  split
  case h_1 name presence schema hmissing =>
    have hrule := List.find?_some hmissing
    simp only [decide_eq_true_eq] at hrule
    exact iff_of_false nofun fun h => hrule.2 (h _ (List.mem_of_find?_eq_some hmissing) hrule.1)
  case h_2 hmissing =>
    simp only [List.find?_eq_none, decide_eq_true_eq] at hmissing
    refine iff_of_true rfl fun field hfield hrequired => ?_
    by_contra hseen
    exact hmissing field hfield ⟨hrequired, hseen⟩

/-- A place is checked before what follows it. -/
theorem conform_or_null_then_eq_ok_iff {presence : Presence} {schema : Schema}
    {next : Unit → Except Misfit Unit} :
    (if presence = .nullable ∧ value.isNull = true then .ok () >>= next
      else schema.conform value >>= next) = .ok () ↔
        Admits presence schema value ∧ next () = .ok () := by
  rw [Admits]
  by_cases hnull : presence = .nullable ∧ value.isNull = true
  · rw [if_pos hnull, ok_bind]
    exact (and_iff_right (Or.inl hnull)).symm
  · rw [if_neg hnull, bind_eq_ok_iff, or_iff_right hnull]
    exact ⟨fun ⟨(), h⟩ => h, fun h => ⟨(), h⟩⟩

/-- **An object is accepted exactly if its members fit the record.** -/
theorem conformMembers_eq_ok_iff :
    conformMembers strict fields seen members = .ok () ↔ Fits strict fields seen members := by
  induction members generalizing seen with
  | nil => rw [conformMembers, checkMissing_eq_ok_iff, fits_nil_iff]
  | cons member members ih =>
    obtain ⟨name, value⟩ := member
    cases hname : fields.lookup name with
    | none =>
      rw [fits_cons_iff_of_unknown (lookup_eq_none_iff_not_mem.mp hname), ← ih]
      cases strict <;> simp [conformMembers, hname]
    | some entry =>
      -- The name is seen from here on
      obtain ⟨presence, schema⟩ := entry
      rw [fits_cons_iff_of_known hname, ← ih]
      by_cases hseen : name ∈ seen
      · simp [conformMembers, hname, hseen, bind, Except.bind]
      · simp only [conformMembers, hname, hseen, if_false, conform_or_null_then_eq_ok_iff,
          not_false_eq_true, true_and]

theorem conformItems_cons_eq_ok_iff {title : String} {size read : ℕ}
    {field : String × Presence × Schema} {values : List Value} :
    conformItems title size read (field :: fields) (value :: values) = .ok () ↔
      Admits field.2.1 field.2.2 value ∧
        conformItems title size (read + 1) fields values = .ok () := by
  rw [conformItems, conform_or_null_then_eq_ok_iff]

/-- An element of an accepted array is admitted by the field in its position, and may be replaced by
    any other value that is. -/
theorem conformItems_middle {title : String} {size read : ℕ} {before after : List Value}
    (h : conformItems title size read fields (before ++ value :: after) = .ok ()) :
    ∃ field, fields[before.length]? = some field ∧ Admits field.2.1 field.2.2 value ∧
      ∀ value', Admits field.2.1 field.2.2 value' →
        conformItems title size read fields (before ++ value' :: after) = .ok () := by
  induction before generalizing fields read with
  | nil =>
    cases fields with
    | nil => simp [conformItems] at h
    | cons field fields =>
      rw [List.nil_append, conformItems_cons_eq_ok_iff] at h
      refine ⟨field, rfl, h.1, fun value' hvalue' => ?_⟩
      rw [List.nil_append, conformItems_cons_eq_ok_iff]
      exact ⟨hvalue', h.2⟩
  | cons item before ih =>
    cases fields with
    | nil => simp [conformItems] at h
    | cons field fields =>
      rw [List.cons_append, conformItems_cons_eq_ok_iff] at h
      obtain ⟨found, hfound, hvalue, hreplace⟩ := ih h.2
      refine ⟨found, hfound, hvalue, fun value' hvalue' => ?_⟩
      rw [List.cons_append, conformItems_cons_eq_ok_iff]
      exact ⟨h.1, hreplace value' hvalue'⟩

end Schema

end

end FlightCaption.Document
