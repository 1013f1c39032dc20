import FlightCaption.Proofs.Document.Members

/-!
# Records and what they carry

The content that a form accepts a value with depends on the members of a record by name only. So it
stays the same when members change places, when one goes that says no more than its default, and
when one comes that is skipped; a value with a repeated member, without a required one or, if the
record is strict, with one that is not known is refused.

A record stands inside another one as a member, as an element of an array, or in a list. What is
done to the inner one shows in the outer one only through the content (`Form.Carries`).

Main statements: the section on objects, and `Form.IsRecord.carries_member` and
`Form.IsRecord.carries_item`.
-/

namespace FlightCaption.Document

/-! ## Accepting -/

/-- A form accepts a value with some content. -/
def Form.Accepts {α : Type} (form : Form α) (value : Value) (content : α) : Prop :=
  form.schema.conform value = .ok () ∧ form.read value = content

/-- A form refuses a value if it accepts it with no content. -/
def Form.Refuses {α : Type} (form : Form α) (value : Value) : Prop :=
  ∀ content, ¬ form.Accepts value content

/-! ## Fields -/

/-- A member of a record: whether it must be there, how its value is held, and what stands for it
    where it is left out. For a required member that is never used. -/
structure Field where
  {Content : Type}
  presence : Presence
  form : Form Content
  absent : Content

/-- A field as a schema lists it. -/
def Field.listed (field : String × Field) : String × Presence × Schema :=
  member field.1 field.2.presence field.2.form

/-- What a value holds in a field. -/
def Field.readIn (field : Field) (names : List String) (name : String) (value : Value) :
    field.Content :=
  value.readMember names name field.form field.absent

/-- A form is that of a record with some fields: its schema lists them, and what is read from a
    value depends on what the value holds in them. -/
structure Form.IsRecord {α : Type} (form : Form α) (strict : Bool)
    (fields : List (String × Field)) : Prop where
  schema_eq : ∃ title, form.schema = .record title strict (fields.map Field.listed)
  lookup_of_mem : ∀ field ∈ fields, fields.lookup field.1 = some field.2
  read_congr : ∀ {value value' : Value},
    (∀ field ∈ fields, field.2.readIn (fields.map (·.1)) field.1 value =
      field.2.readIn (fields.map (·.1)) field.1 value') →
    form.read value = form.read value'

section

variable {fields : List (String × Field)} {name : String} {field : Field}

theorem names_map_listed : names (fields.map Field.listed) = fields.map (·.1) := by
  rw [names, List.map_map]
  rfl

theorem lookup_map_listed (h : fields.lookup name = some field) :
    (fields.map Field.listed).lookup name = some (field.presence, field.form.schema) := by
  induction fields with
  | nil => simp at h
  | cons first fields ih =>
    rw [List.lookup_cons] at h
    rw [List.map_cons, Field.listed, member, List.lookup_cons]
    cases hname : name == first.1 with
    | false =>
      rw [hname] at h
      exact ih h
    | true =>
      rw [hname] at h
      obtain rfl := Option.some.inj h
      rfl

theorem mem_names_of_lookup (h : fields.lookup name = some field) : name ∈ fields.map (·.1) :=
  List.mem_map_of_mem (mem_of_lookup_eq_some h)

/-- The field of a name stands where the name does. -/
theorem getElem?_idxOf_of_lookup (h : fields.lookup name = some field) :
    fields[(fields.map (·.1)).idxOf name]? = some (name, field) := by
  induction fields with
  | nil => simp at h
  | cons first fields ih =>
    rw [List.lookup_cons] at h
    rw [List.map_cons, List.idxOf_cons]
    cases hname : name == first.1 with
    | false =>
      rw [hname] at h
      have hne : (first.1 == name) = false := by rw [BEq.comm, hname]
      simpa [hne] using ih h
    | true =>
      rw [hname] at h
      obtain rfl := Option.some.inj h
      obtain rfl := eq_of_beq hname
      simp

end

/-! ## Objects -/

namespace Form.IsRecord

variable {α : Type} {form : Form α} {strict : Bool} {fields : List (String × Field)}
  (hform : form.IsRecord strict fields)
include hform

theorem conform_object_eq_ok_iff {members : List (String × Value)} :
    form.schema.conform (.object members) = .ok () ↔
      Fits strict (fields.map Field.listed) [] members := by
  obtain ⟨title, hschema⟩ := hform.schema_eq
  rw [hschema, Schema.conform, Schema.conformMembers_eq_ok_iff]

/-- What is read from an object depends on what is found under the names of the fields. -/
theorem read_object_congr {members members' : List (String × Value)}
    (h : ∀ name ∈ fields.map (·.1), members.lookup name = members'.lookup name) :
    form.read (.object members) = form.read (.object members') := by
  refine hform.read_congr fun field hfield => ?_
  have hlookup := h field.1 (List.mem_map_of_mem hfield)
  rw [Field.readIn, Field.readIn, Value.readMember, Value.readMember, Value.member?, Value.member?,
    hlookup]

section

variable {members before after : List (String × Value)} {name : String} {value : Value}
  {field : Field} {content : α}

/-- Members may change places. -/
theorem accepts_of_perm {members' : List (String × Value)} (hperm : members.Perm members')
    (h : form.Accepts (.object members) content) : form.Accepts (.object members') content := by
  have hfits := hform.conform_object_eq_ok_iff.mp h.1
  refine ⟨hform.conform_object_eq_ok_iff.mpr (hfits.of_perm hperm), ?_⟩
  rw [← h.2]
  refine (hform.read_object_congr fun name hname => ?_).symm
  exact lookup_eq_of_perm hperm hfits.apart (names_map_listed ▸ hname)

theorem exists_lookup (hname : name ∈ fields.map (·.1)) :
    ∃ field, fields.lookup name = some field := by
  obtain ⟨field, hfield, rfl⟩ := List.mem_map.mp hname
  exact ⟨field.2, hform.lookup_of_mem field hfield⟩

/-- There is one field of a name. -/
theorem eq_of_mem (hfield : fields.lookup name = some field) {field' : Field}
    (hmem : (name, field') ∈ fields) : field' = field :=
  Option.some.inj ((hform.lookup_of_mem _ hmem).symm.trans hfield)

/-- Values that differ in one field only are read alike if they hold the same in it. -/
theorem read_congr_at (hfield : fields.lookup name = some field) {value value' : Value}
    (hsame : field.readIn (fields.map (·.1)) name value =
      field.readIn (fields.map (·.1)) name value')
    (hothers : ∀ other ∈ fields.map (·.1), other ≠ name →
      value.member? (fields.map (·.1)) other = value'.member? (fields.map (·.1)) other) :
    form.read value = form.read value' := by
  refine hform.read_congr fun ⟨other, field'⟩ hmem => ?_
  by_cases hname : other = name
  · subst hname
    obtain rfl := hform.eq_of_mem hfield hmem
    exact hsame
  · have hmember := hothers other (List.mem_map_of_mem hmem) hname
    rw [Field.readIn, Field.readIn, Value.readMember, Value.readMember, hmember]

/-- An accepted object has a known member once, and admits its value. -/
theorem fits_of_accepts (hfield : fields.lookup name = some field)
    (h : form.Accepts (.object (before ++ (name, value) :: after)) content) :
    Admits field.presence field.form.schema value ∧
      Fits strict (fields.map Field.listed) [name] (before ++ after) :=
  (fits_middle_iff_of_known (lookup_map_listed hfield)).mp (hform.conform_object_eq_ok_iff.mp h.1)

/-- A member may go that is not required and says no more than its default. -/
theorem accepts_without (hfield : fields.lookup name = some field)
    (hoptional : field.presence ≠ .required) (hdefault : field.form.read value = field.absent)
    (h : form.Accepts (.object (before ++ (name, value) :: after)) content) :
    form.Accepts (.object (before ++ after)) content := by
  have hfits := (hform.fits_of_accepts hfield h).2
  have hgone := hfits.not_mem (names_map_listed ▸ mem_names_of_lookup hfield)
  refine ⟨hform.conform_object_eq_ok_iff.mpr (hfits.forget ?_), ?_⟩
  · rintro _ hlisted rfl
    obtain ⟨⟨name, field'⟩, hmem, rfl⟩ := List.mem_map.mp hlisted
    obtain rfl := hform.eq_of_mem hfield hmem
    exact hoptional
  · rw [← h.2]
    refine hform.read_congr_at hfield ?_ fun other _ hname => (lookup_middle_of_ne hname).symm
    -- The name is found with the default on one side, and not at all on the other
    have hnone : (before ++ after).lookup name = none := lookup_eq_none_iff_not_mem.mpr hgone
    rw [List.map_append, List.mem_append, not_or] at hgone
    simp only [Field.readIn, Value.readMember, Value.member?, hnone, lookup_middle hgone.1]
    exact hdefault.symm

/-- A required member may not go. -/
theorem refuses_without_required (hfield : fields.lookup name = some field)
    (hrequired : field.presence = .required)
    (h : form.Accepts (.object (before ++ (name, value) :: after)) content) :
    form.Refuses (.object (before ++ after)) := by
  intro content' h'
  have hlisted : (name, .required, field.form.schema) ∈ fields.map Field.listed :=
    hrequired ▸ List.mem_map_of_mem (mem_of_lookup_eq_some hfield)
  exact (hform.fits_of_accepts hfield h).2.not_fits_of_required hlisted
    (hform.conform_object_eq_ok_iff.mp h'.1)

/-- A known member may not come again. -/
theorem refuses_repeated (hfield : fields.lookup name = some field)
    (hmem : name ∈ (before ++ after).map (·.1)) :
    form.Refuses (.object (before ++ (name, value) :: after)) := by
  intro content h
  have hknown : name ∈ names (fields.map Field.listed) :=
    names_map_listed ▸ mem_names_of_lookup hfield
  exact (hform.fits_of_accepts hfield h).2.not_mem hknown hmem

/-- A member that is not known is skipped, or refused where the record is strict. -/
theorem accepts_unknown_iff (hname : name ∉ fields.map (·.1)) :
    form.Accepts (.object (before ++ (name, value) :: after)) content ↔
      strict = false ∧ form.Accepts (.object (before ++ after)) content := by
  have hread : form.read (.object (before ++ (name, value) :: after)) =
      form.read (.object (before ++ after)) := by
    refine hform.read_object_congr fun other hother => lookup_middle_of_ne ?_
    rintro rfl
    exact hname hother
  rw [Accepts, Accepts, hform.conform_object_eq_ok_iff, hform.conform_object_eq_ok_iff,
    fits_middle_iff_of_unknown (names_map_listed ▸ hname), hread, and_assoc]

end

end Form.IsRecord

/-! ## Values inside values -/

/-- An element is not found in another position. -/
theorem getElem?_middle_of_ne {before after : List Value} {value value' : Value} {i : ℕ}
    (h : i ≠ before.length) :
    (before ++ value :: after)[i]? = (before ++ value' :: after)[i]? := by
  grind

/-- An outer form carries an inner one in a place of its values, which `fill` fills: where the outer
    form accepts, so does the inner one, and another value that the inner form accepts with the same
    content does not change the content of the outer one. Nulls, which may stand for nothing, are
    left aside. -/
structure Form.Carries {α β : Type} (outer : Form α) (inner : Form β) (fill : Value → Value) :
    Prop where
  isNull_fill : ∀ {value}, value.isNull = false → (fill value).isNull = false
  accepts_inner : ∀ {value content}, value.isNull = false → outer.Accepts (fill value) content →
    inner.Accepts value (inner.read value)
  accepts_outer : ∀ {value value' content}, value.isNull = false → value'.isNull = false →
    inner.Accepts value' (inner.read value) → outer.Accepts (fill value) content →
    outer.Accepts (fill value') content

namespace Form.Carries

variable {α β γ : Type} {outer : Form α} {middle : Form β} {inner : Form γ}
  {fill fill' : Value → Value}

theorem refl (form : Form α) : form.Carries form id where
  isNull_fill hvalue := hvalue
  accepts_inner _ h := ⟨h.1, rfl⟩
  accepts_outer _ _ h' h := h.2 ▸ h'

theorem trans (h : outer.Carries middle fill) (h' : middle.Carries inner fill') :
    outer.Carries inner (fill ∘ fill') where
  isNull_fill hvalue := h.isNull_fill (h'.isNull_fill hvalue)
  accepts_inner hvalue haccepts :=
    h'.accepts_inner hvalue (h.accepts_inner (h'.isNull_fill hvalue) haccepts)
  accepts_outer hvalue hvalue' hinner haccepts := by
    have hmiddle := h.accepts_inner (h'.isNull_fill hvalue) haccepts
    exact h.accepts_outer (h'.isNull_fill hvalue) (h'.isNull_fill hvalue')
      (h'.accepts_outer hvalue hvalue' hinner hmiddle) haccepts

/-- A value that may be null is one that is not. -/
theorem nullable (form : Form α) : form.nullable.Carries form id where
  isNull_fill hvalue := hvalue
  accepts_inner _ h := ⟨h.1, rfl⟩
  accepts_outer := by
    intro value value' content hvalue hvalue' h' h
    refine ⟨h'.1, ?_⟩
    rw [← h.2]
    simp [Form.nullable, hvalue, hvalue', h'.2]

end Form.Carries

theorem Schema.conformAll_eq_ok_iff {items : Schema} {values : List Value} :
    conformAll items values = .ok () ↔ ∀ value ∈ values, items.conform value = .ok () := by
  induction values with
  | nil => simp [conformAll]
  | cons value values ih =>
    rw [conformAll, bind_eq_ok_iff, List.forall_mem_cons, ← ih]
    exact ⟨fun ⟨(), h⟩ => h, fun h => ⟨(), h⟩⟩

/-- A list carries its elements. -/
theorem Form.Carries.item {α : Type} (items : Form α) (before after : List Value) :
    items.list.Carries items fun value => .array (before ++ value :: after) where
  isNull_fill _ := rfl
  accepts_inner _ h := by
    refine ⟨?_, rfl⟩
    exact Schema.conformAll_eq_ok_iff.mp h.1 _ (List.mem_append_right before List.mem_cons_self)
  accepts_outer := by
    intro value value' content _ _ h' h
    have hall := Schema.conformAll_eq_ok_iff.mp h.1
    refine ⟨Schema.conformAll_eq_ok_iff.mpr fun item hitem => ?_, ?_⟩
    · rcases List.mem_append.mp hitem with hbefore | hafter
      · exact hall item (List.mem_append_left _ hbefore)
      · rcases List.mem_cons.mp hafter with rfl | hafter
        · exact h'.1
        · exact hall item (List.mem_append_right before (List.mem_cons_of_mem value hafter))
    · rw [← h.2]
      simp [Form.list, h'.2]

namespace Form.IsRecord

variable {α : Type} {form : Form α} {strict : Bool} {fields : List (String × Field)}
  (hform : form.IsRecord strict fields) {name : String} {field : Field}
  (hfield : fields.lookup name = some field)
include hform hfield

/-- An object carries the values of its members. -/
theorem carries_member (before after : List (String × Value)) :
    form.Carries field.form fun value => .object (before ++ (name, value) :: after) where
  isNull_fill _ := rfl
  accepts_inner := by
    intro value content hvalue h
    exact ⟨(hform.fits_of_accepts hfield h).1.conform_eq_ok hvalue, rfl⟩
  accepts_outer := by
    intro value value' content _ _ h' h
    have hfits := (hform.fits_of_accepts hfield h).2
    refine ⟨hform.conform_object_eq_ok_iff.mpr ((fits_middle_iff_of_known
      (lookup_map_listed hfield)).mpr ⟨.inr h'.1, hfits⟩), ?_⟩
    rw [← h.2]
    refine hform.read_congr_at hfield ?_ fun other _ hname => ?_
    · simp only [Field.readIn, Value.readMember, Value.member?, List.lookup_append,
        List.lookup_cons_self]
      cases before.lookup name with
      | none => exact h'.2
      | some found => rfl
    · rw [Value.member?, Value.member?, lookup_middle_of_ne hname, lookup_middle_of_ne hname]

/-- An accepted array has a value that is admitted in the position of a field, and any other value
    that is may take its place. -/
theorem admits_of_conform_array {before after : List Value} {value : Value}
    (hposition : before.length = (fields.map (·.1)).idxOf name)
    (h : form.schema.conform (.array (before ++ value :: after)) = .ok ()) :
    Admits field.presence field.form.schema value ∧
      ∀ value', Admits field.presence field.form.schema value' →
        form.schema.conform (.array (before ++ value' :: after)) = .ok () := by
  obtain ⟨title, hschema⟩ := hform.schema_eq
  rw [hschema, Schema.conform] at h
  obtain ⟨listed, hlisted, hvalue, hreplace⟩ := Schema.conformItems_middle h
  rw [List.getElem?_map, hposition, getElem?_idxOf_of_lookup hfield] at hlisted
  obtain rfl := Option.some.inj hlisted
  refine ⟨hvalue, fun value' hvalue' => ?_⟩
  rw [hschema, Schema.conform]
  exact hreplace value' hvalue'

/-- An array carries its elements, each in the field that has its position. -/
theorem carries_item {before : List Value}
    (hposition : before.length = (fields.map (·.1)).idxOf name) (after : List Value) :
    form.Carries field.form fun value => .array (before ++ value :: after) where
  isNull_fill _ := rfl
  accepts_inner := by
    intro value content hvalue h
    exact ⟨(hform.admits_of_conform_array hfield hposition h.1).1.conform_eq_ok hvalue, rfl⟩
  accepts_outer := by
    intro value value' content _ _ h' h
    refine ⟨(hform.admits_of_conform_array hfield hposition h.1).2 value' (.inr h'.1), ?_⟩
    rw [← h.2]
    refine hform.read_congr_at hfield ?_ fun other hother hname => getElem?_middle_of_ne ?_
    · simp only [Field.readIn, Value.readMember, Value.member?, ← hposition]
      rw [List.getElem?_append_right (Nat.le_refl _), List.getElem?_append_right (Nat.le_refl _),
        Nat.sub_self]
      exact h'.2
    · rw [hposition]
      exact (List.idxOf_inj hother).not.mpr hname

end Form.IsRecord

end FlightCaption.Document
