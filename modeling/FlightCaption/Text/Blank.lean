/-!
# Blank characters

Blank space is what the Unicode property `White_Space` says it is: twenty-five characters.
This module holds the class, cutting blanks off both ends of a text, and the first word of a
text. The lemmas beside them say that cutting the tail of a list leaves an initial part of it, and
that a first word holds no blank.
-/

namespace FlightCaption.Text

/-! ## The class -/

/-- Whether a character has the property `White_Space`. -/
def isBlank (c : Char) : Bool :=
  let n := c.toNat
  (0x09 ≤ n && n ≤ 0x0D) || n == 0x20 || n == 0x85 || n == 0xA0 || n == 0x1680 ||
    (0x2000 ≤ n && n ≤ 0x200A) || n == 0x2028 || n == 0x2029 || n == 0x202F || n == 0x205F ||
    n == 0x3000

/-! ## Cutting -/

/-- A list less its last elements that satisfy `p`. -/
def dropTail {α : Type} (p : α → Bool) (xs : List α) : List α :=
  (xs.reverse.dropWhile p).reverse

/-- A text without the blanks at its two ends. -/
def trim (cs : List Char) : List Char :=
  dropTail isBlank (cs.dropWhile isBlank)

/-- The first stretch of non-blank characters; empty when there is none. -/
def firstWord (cs : List Char) : List Char :=
  (cs.dropWhile isBlank).takeWhile (! isBlank ·)

/-- What remains after cutting the tail, with the tail put back, is the list. -/
theorem dropTail_append_tail {α : Type} (p : α → Bool) (xs : List α) :
    dropTail p xs ++ (xs.reverse.takeWhile p).reverse = xs := by
  rw [dropTail, ← List.reverse_append, List.takeWhile_append_dropWhile, List.reverse_reverse]

/-- A first word holds no blank. -/
theorem isBlank_of_mem_firstWord {c : Char} {cs : List Char} (h : c ∈ firstWord cs) :
    isBlank c = false := by
  have := List.all_takeWhile (p := fun c => ! isBlank c) (l := cs.dropWhile isBlank)
  rw [List.all_eq_true] at this
  simpa using this c h

end FlightCaption.Text
