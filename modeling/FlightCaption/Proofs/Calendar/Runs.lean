import FlightCaption.Calendar.Pattern
import Mathlib.Data.List.Chain

/-!
# Maximal runs

A pattern is read in runs, each of one character and as long as it can be. This module describes
these runs without saying how they are found: they are not empty, neighbours have different
characters, and together they are the pattern. Every text has exactly one such list of runs.

Main statements: a text's runs are maximal, and they are the only ones (`Run.ofChars_eq_iff`); texts
that do not meet in one character have their runs one after the other (`Run.ofChars_append`).
-/

namespace FlightCaption

namespace Run

/-- The runs of a text: each as long as it can be, and none of them empty. -/
structure AreMaximal (runs : List Run) (cs : List Char) : Prop where
  nonempty : ∀ run ∈ runs, 0 < run.length
  differ : runs.IsChain fun run next => run.char ≠ next.char
  chars : runs.flatMap Run.chars = cs

/-! ## Runs of a longer text -/

@[simp] theorem ofChars_nil : ofChars [] = [] := rfl

theorem ofChars_cons (c : Char) (cs : List Char) : ofChars (c :: cs) = push c (ofChars cs) := rfl

/-- A character that differs from the first one is a run of its own. -/
theorem push_of_ne {c : Char} {runs : List Run} (h : ∀ run ∈ runs.head?, run.char ≠ c) :
    push c runs = ⟨c, 1⟩ :: runs := by
  cases runs with
  | nil => rfl
  | cons run rest => exact if_neg (h run rfl)

/-- The first run has the first character. -/
theorem head?_ofChars (cs : List Char) : (ofChars cs).head?.map Run.char = cs.head? := by
  cases cs with
  | nil => rfl
  | cons c cs =>
    rw [ofChars_cons]
    cases ofChars cs with
    | nil => rfl
    | cons run rest =>
      rw [push]
      split <;> rfl

theorem ofChars_ne_nil (c : Char) (cs : List Char) : ofChars (c :: cs) ≠ [] := by
  intro h
  have hhead := head?_ofChars (c :: cs)
  rw [h] at hhead
  contradiction

/-- **No run goes over a place where the character changes.** -/
theorem ofChars_append {cs ds : List Char} (h : ∀ c ∈ cs.getLast?, ∀ d ∈ ds.head?, c ≠ d) :
    ofChars (cs ++ ds) = ofChars cs ++ ofChars ds := by
  induction cs with
  | nil => rfl
  | cons c cs ih =>
    rw [List.cons_append, ofChars_cons, ofChars_cons]
    cases cs with
    | nil =>
      -- The boundary is right behind the character
      show push c (ofChars ds) = ⟨c, 1⟩ :: ofChars ds
      apply push_of_ne
      intro run hrun hchar
      have hhead : (ofChars ds).head?.map Run.char = some c := by
        rw [Option.mem_def.mp hrun, Option.map_some, hchar]
      rw [head?_ofChars] at hhead
      exact h c rfl c hhead rfl
    | cons c' cs' =>
      rw [ih fun x hx => h x (by rwa [List.getLast?_cons_cons])]
      obtain ⟨run, rest, hrest⟩ := List.exists_cons_of_ne_nil (ofChars_ne_nil c' cs')
      rw [hrest, List.cons_append, push, push]
      split <;> rfl

/-! ## Maximal runs are the runs -/

theorem AreMaximal.push {runs : List Run} {cs : List Char} (h : AreMaximal runs cs) (c : Char) :
    AreMaximal (push c runs) (c :: cs) := by
  obtain ⟨hnonempty, hdiffer, rfl⟩ := h
  cases runs with
  | nil => exact ⟨by simp [Run.push], by simp [Run.push], rfl⟩
  | cons run rest =>
    rw [List.isChain_cons] at hdiffer
    by_cases hchar : run.char = c
    · -- The first run grows, its neighbours are as before
      rw [Run.push, if_pos hchar]
      refine ⟨?_, ?_, ?_⟩
      · intro run' hrun'
        rcases List.mem_cons.mp hrun' with rfl | hrest
        · exact Nat.succ_pos _
        · exact hnonempty run' (List.mem_cons_of_mem _ hrest)
      · rw [List.isChain_cons]
        exact ⟨fun next hnext => hchar ▸ hdiffer.1 next hnext, hdiffer.2⟩
      · simp [Run.chars, List.replicate_succ, hchar]
    · rw [Run.push, if_neg hchar]
      refine ⟨?_, ?_, ?_⟩
      · intro run' hrun'
        rcases List.mem_cons.mp hrun' with rfl | hrest
        · exact Nat.one_pos
        · exact hnonempty run' hrest
      · rw [List.isChain_cons_cons, List.isChain_cons]
        exact ⟨Ne.symm hchar, hdiffer⟩
      · simp [Run.chars]

theorem areMaximal_ofChars (cs : List Char) : AreMaximal (ofChars cs) cs := by
  induction cs with
  | nil => exact ⟨by simp, by simp, rfl⟩
  | cons c cs ih => exact ih.push c

theorem ofChars_chars {run : Run} (h : 0 < run.length) : ofChars run.chars = [run] := by
  obtain ⟨c, n⟩ := run
  induction n with
  | zero => contradiction
  | succ n ih =>
    rw [chars, List.replicate_succ, ofChars_cons]
    cases n with
    | zero => rfl
    | succ n =>
      rw [chars] at ih
      rw [ih (Nat.succ_pos n), Run.push, if_pos rfl]

/-- **Every text has its runs, and no other list of runs is maximal in it.** -/
theorem ofChars_eq_iff {cs : List Char} {runs : List Run} :
    ofChars cs = runs ↔ AreMaximal runs cs := by
  constructor
  · rintro rfl
    exact areMaximal_ofChars cs
  · rintro ⟨hnonempty, hdiffer, rfl⟩
    induction runs with
    | nil => rfl
    | cons run rest ih =>
      rw [List.isChain_cons] at hdiffer
      have hlength := hnonempty run List.mem_cons_self
      have hrest := ih (fun run' hrun' => hnonempty run' (List.mem_cons_of_mem _ hrun')) hdiffer.2
      rw [List.flatMap_cons, ofChars_append, ofChars_chars hlength, hrest]
      · rfl
      · -- What follows begins with the character of the next run
        intro c hc d hd
        rw [← head?_ofChars, hrest] at hd
        obtain ⟨next, hnext, rfl⟩ := Option.map_eq_some_iff.mp hd
        have hchar : c = run.char :=
          List.eq_of_mem_replicate (List.mem_of_mem_getLast? hc)
        rw [hchar]
        exact hdiffer.1 next hnext

end Run

end FlightCaption
