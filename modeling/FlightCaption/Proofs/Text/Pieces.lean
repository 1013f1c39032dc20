import Mathlib.Data.List.DropRight
import FlightCaption.Text.Blank

/-!
# Pieces of a text

A text is cut at each occurrence of a character, and blanks are cut off the ends of the pieces.
The lemmas here say what a piece can hold, and that trimming removes exactly the blanks at the two
ends: a trimmed text has none there, and a text that has none there is left alone.
-/

namespace FlightCaption.Text

/-! ## Cutting at a character -/

/-- No piece of a cut text holds the character at which the text was cut. -/
theorem not_mem_of_mem_splitOn {a : Char} {text piece : List Char} (h : piece ∈ text.splitOn a) :
    a ∉ piece := by
  induction text generalizing piece with
  | nil =>
    obtain rfl : piece = [] := by simpa using h
    exact List.not_mem_nil
  | cons c text ih =>
    -- One more character in front concerns the first piece only
    rw [List.splitOn_cons_eq_if_modifyHead] at h
    obtain ⟨first, others, hcut⟩ := List.exists_cons_of_ne_nil (List.splitOn_ne_nil a text)
    rw [hcut] at h ih
    split at h
    · -- The text is cut here, so an empty piece comes first
      rcases List.mem_cons.mp h with rfl | hpiece
      · exact List.not_mem_nil
      · exact ih hpiece
    · next hc =>
      -- The first piece grows by a character other than `a`
      rcases List.mem_cons.mp h with rfl | hpiece
      · exact List.not_mem_cons_of_ne_of_not_mem (fun heq => hc (by simp [heq]))
          (ih List.mem_cons_self)
      · exact ih (List.mem_cons_of_mem _ hpiece)

/-- A piece holds nothing but characters of the text. -/
theorem mem_of_mem_splitOn {a c : Char} {text piece : List Char} (h : piece ∈ text.splitOn a)
    (hc : c ∈ piece) : c ∈ text := by
  -- The text is its pieces put together again, so the pieces can be taken one by one
  have hjoin : [a].intercalate (text.splitOn a) = text := List.intercalate_splitOn a
  rw [← hjoin]
  generalize text.splitOn a = pieces at h
  induction pieces with
  | nil => simp at h
  | cons first others ih =>
    cases others with
    | nil =>
      obtain rfl : piece = first := by simpa using h
      simpa using hc
    | cons second others =>
      rw [List.intercalate_cons_cons]
      rcases List.mem_cons.mp h with rfl | hpiece
      · simp [hc]
      · exact List.mem_append_right _ (ih hpiece)

/-- A text that is put together from pieces holds their characters and the one between them. -/
theorem mem_of_mem_intercalate {a c : Char} {pieces : List (List Char)}
    (h : c ∈ [a].intercalate pieces) : c = a ∨ ∃ piece ∈ pieces, c ∈ piece := by
  induction pieces with
  | nil => simp at h
  | cons first others ih =>
    cases others with
    | nil => exact .inr ⟨first, List.mem_cons_self, by simpa using h⟩
    | cons second others =>
      rw [List.intercalate_cons_cons, List.mem_append, List.mem_append] at h
      rcases h with (hc | hc) | hc
      · exact .inr ⟨first, List.mem_cons_self, hc⟩
      · exact .inl (List.mem_singleton.mp hc)
      · rcases ih hc with heq | ⟨piece, hpiece, hc⟩
        · exact .inl heq
        · exact .inr ⟨piece, List.mem_cons_of_mem _ hpiece, hc⟩

/-- The characters of some pieces, each with one more behind it. -/
def room : List (List Char) → Nat
  | [] => 0
  | piece :: pieces => piece.length + 1 + room pieces

theorem room_append (pieces pieces' : List (List Char)) :
    room (pieces ++ pieces') = room pieces + room pieces' := by
  induction pieces with
  | nil => simp [room]
  | cons piece pieces ih =>
    rw [List.cons_append, room, room, ih]
    omega

/-- A text that is put together has room for its pieces, but for the character behind the last. -/
theorem length_intercalate_succ {pieces : List (List Char)} (h : pieces ≠ []) (c : Char) :
    ([c].intercalate pieces).length + 1 = room pieces := by
  induction pieces with
  | nil => exact absurd rfl h
  | cons first others ih =>
    cases others with
    | nil => simp [room]
    | cons second others =>
      rw [List.intercalate_cons_cons, room, ← ih (by simp)]
      simp only [List.length_append, List.length_singleton]
      omega

/-! ## Trimming -/

/-- A text without blanks at its ends. -/
def IsTrimmed (text : List Char) : Prop :=
  (∀ c ∈ text.head?, isBlank c = false) ∧ ∀ c ∈ text.getLast?, isBlank c = false

/-- A trimmed text is an initial part of the text less its leading blanks. -/
theorem trim_prefix_dropWhile (text : List Char) : trim text <+: text.dropWhile isBlank :=
  ⟨_, dropTail_append_tail isBlank (text.dropWhile isBlank)⟩

/-- Trimming adds no characters. -/
theorem mem_of_mem_trim {c : Char} {text : List Char} (h : c ∈ trim text) : c ∈ text :=
  (List.dropWhile_suffix isBlank).subset ((trim_prefix_dropWhile text).subset h)

theorem length_trim_le (text : List Char) : (trim text).length ≤ text.length :=
  (trim_prefix_dropWhile text).length_le.trans (List.length_dropWhile_le _ _)

theorem room_map_trim_le (pieces : List (List Char)) : room (pieces.map trim) ≤ room pieces := by
  induction pieces with
  | nil => exact Nat.le_refl 0
  | cons piece pieces ih =>
    have hpiece := length_trim_le piece
    rw [List.map_cons, room, room]
    omega

theorem isTrimmed_trim (text : List Char) : IsTrimmed (trim text) := by
  constructor
  · intro c hc
    -- The first character is the one at which dropping leading blanks stopped
    obtain ⟨rest, htrim⟩ : ∃ rest, trim text = c :: rest := by
      cases htrim : trim text with
      | nil => simp [htrim] at hc
      | cons d rest => exact ⟨rest, by simpa [htrim] using hc⟩
    obtain ⟨tail, htail⟩ := trim_prefix_dropWhile text
    have hstop := List.head?_dropWhile_not isBlank text
    rw [← htail, htrim] at hstop
    simpa using hstop
  · intro c hc
    have hne : trim text ≠ [] := by
      intro hnil
      simp [hnil] at hc
    -- The last character is the one at which dropping trailing blanks stopped
    have hlast : c = (trim text).getLast hne := by
      simpa [List.getLast?_eq_some_getLast hne, eq_comm] using hc
    rw [hlast]
    exact eq_false_of_ne_true (List.rdropWhile_last_not isBlank (text.dropWhile isBlank) hne)

/-- Nothing is cut off a text without blanks at its ends. -/
theorem trim_eq_self {text : List Char} (h : IsTrimmed text) : trim text = text := by
  have hlead : text.dropWhile isBlank = text := by
    cases text with
    | nil => rfl
    | cons c text => simp [h.1 c rfl]
  have htail : text.rdropWhile isBlank = text := by
    rw [List.rdropWhile_eq_self_iff]
    intro hne
    simpa using h.2 _ (List.getLast?_eq_some_getLast hne)
  show (text.dropWhile isBlank).rdropWhile isBlank = text
  rw [hlead, htail]

end FlightCaption.Text
