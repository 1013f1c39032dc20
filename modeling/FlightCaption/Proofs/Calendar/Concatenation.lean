import FlightCaption.Proofs.Calendar.Runs
import FlightCaption.Proofs.Results
import Mathlib.Data.List.Induction

/-!
# Patterns one after the other

A pattern is written run by run, and a run does not depend on what stands around it. So two patterns
that do not meet in one character are written one after the other, and what fails in the first goes
before what fails in the second.

A character that stands for no part of a date is copied. Its runs may be cut anywhere, since the
copies of two pieces are the copy of the whole. So such a character is copied in its place also
where it stands beside itself, and the patterns on its two sides need not be told apart further.

Main statement: `Calendar.format_concatenation`.
-/

namespace FlightCaption

/-- The characters that stand for a part of a date. -/
def DateField.letters : List Char :=
  ['h', 'H', 'm', 's', 'd', 'M', 'y']

theorem DateField.ofRun_of_not_mem_letters {run : Run} (h : run.char ∉ letters) :
    ofRun run = copy run := by
  rw [ofRun]
  split <;> simp_all [letters]

namespace Calendar

variable (calendar : Calendar) (parts : TimeParts)

/-! ## Runs one after the other -/

/-- The text of a list of runs. -/
def writeRuns (runs : List Run) : Except CalendarFault String := do
  let texts ← runs.mapM fun run => (DateField.ofRun run).write calendar parts
  return String.join texts

theorem format_eq_writeRuns (pattern : String) :
    calendar.format parts pattern = calendar.writeRuns parts (Run.ofChars pattern.toList) := rfl

theorem writeRuns_nil : calendar.writeRuns parts [] = .ok "" := rfl

theorem writeRuns_append (runs others : List Run) :
    calendar.writeRuns parts (runs ++ others) = do
      let first ← calendar.writeRuns parts runs
      let second ← calendar.writeRuns parts others
      return first ++ second := by
  simp only [writeRuns, List.mapM_append, bind_assoc, pure_bind, String.join_append]

theorem writeRuns_cons (run : Run) (runs : List Run) :
    calendar.writeRuns parts (run :: runs) = do
      let first ← (DateField.ofRun run).write calendar parts
      let second ← calendar.writeRuns parts runs
      return first ++ second := by
  simp only [writeRuns, List.mapM_cons, bind_assoc, pure_bind, String.join_cons]

/-! ## Copied characters -/

section

variable {c : Char} (hc : c ∉ DateField.letters)
include hc

theorem write_ofRun_literal (n : Nat) :
    (DateField.ofRun ⟨c, n⟩).write calendar parts = .ok (String.ofList (List.replicate n c)) := by
  rw [DateField.ofRun_of_not_mem_letters hc]
  rfl

/-- A copied character before some runs is copied before their text, whether or not it makes the
    first of them longer. -/
theorem writeRuns_push_literal (runs : List Run) :
    calendar.writeRuns parts (Run.push c runs) = do
      let text ← calendar.writeRuns parts runs
      return String.singleton c ++ text := by
  have hone : (DateField.ofRun ⟨c, 1⟩).write calendar parts = .ok (String.singleton c) :=
    write_ofRun_literal calendar parts hc 1
  cases runs with
  | nil => rw [Run.push, writeRuns_cons, hone]; rfl
  | cons run rest =>
    rw [Run.push]
    split
    · next hchar =>
      obtain ⟨char, n⟩ := run
      obtain rfl : char = c := hchar
      rw [writeRuns_cons, writeRuns_cons, write_ofRun_literal calendar parts hc,
        write_ofRun_literal calendar parts hc, ok_bind, ok_bind]
      simp only [List.replicate_succ, String.ofList_cons, String.append_assoc, bind_assoc,
        pure_bind]
    · rw [writeRuns_cons, hone, ok_bind]

/-- A copied character stands between the texts of what is before it and of what is behind it. -/
theorem writeRuns_ofChars_literal (cs ds : List Char) :
    calendar.writeRuns parts (Run.ofChars (cs ++ c :: ds)) = do
      let first ← calendar.writeRuns parts (Run.ofChars cs)
      let second ← calendar.writeRuns parts (Run.ofChars ds)
      return first ++ String.singleton c ++ second := by
  induction cs using List.reverseRecOn generalizing ds with
  | nil =>
    rw [List.nil_append, Run.ofChars_cons, writeRuns_push_literal calendar parts hc,
      Run.ofChars_nil, writeRuns_nil, ok_bind]
    simp only [String.empty_append]
  | append_singleton cs x ih =>
    by_cases hx : x = c
    · -- The same character again: it goes with what follows, and so does the one in question
      subst hx
      rw [List.append_assoc, List.singleton_append, ih, ih [], Run.ofChars_cons,
        writeRuns_push_literal calendar parts hc]
      simp only [bind_assoc, pure_bind, String.append_assoc, Run.ofChars_nil, writeRuns_nil,
        ok_bind, String.append_empty]
    · have hboundary : ∀ a ∈ (cs ++ [x]).getLast?, ∀ b ∈ (c :: ds).head?, a ≠ b := by
        simpa using hx
      rw [Run.ofChars_append hboundary, writeRuns_append, Run.ofChars_cons c ds,
        writeRuns_push_literal calendar parts hc]
      simp only [bind_assoc, pure_bind, String.append_assoc]

end

/-! ## Patterns -/

/-- **Two patterns that do not meet in one character are written one after the other**, and the
    fault of the first goes before that of the second. A character that stands for no part of a date
    is copied in its place, whatever surrounds it. -/
theorem format_concatenation :
    (∀ p q : String, p = "" ∨ q = "" ∨ p.toList.getLast? ≠ q.toList.head? →
      calendar.format parts (p ++ q) = do
        let first ← calendar.format parts p
        let second ← calendar.format parts q
        return first ++ second) ∧
    ∀ c ∉ DateField.letters, ∀ p q : String,
      calendar.format parts (p ++ String.singleton c ++ q) = do
        let first ← calendar.format parts p
        let second ← calendar.format parts q
        return first ++ String.singleton c ++ second := by
  simp only [format_eq_writeRuns, String.toList_append, String.toList_singleton]
  constructor
  · intro p q hmeet
    rw [← writeRuns_append, ← Run.ofChars_append]
    intro c hc d hd heq
    subst heq
    rcases hmeet with rfl | rfl | hne
    · contradiction
    · contradiction
    · exact hne (hc.trans hd.symm)
  · intro c hc p q
    rw [List.append_assoc, List.singleton_append, writeRuns_ofChars_literal calendar parts hc]

/-- The sixth day of the third month, in two pieces and with a hyphen between equal fields. -/
theorem format_concatenation_sixthOfFloris :
    "dd".toList.getLast? ≠ "/MM".toList.head? ∧ '-' ∉ DateField.letters ∧
    (default : Calendar).format { days := 76 } ("dd" ++ "/MM") = .ok "06/03" ∧
    (default : Calendar).format { days := 76 } ("d" ++ String.singleton '-' ++ "d") =
      .ok "6-6" := by
  have hmeet : "dd".toList.getLast? ≠ "/MM".toList.head? := by decide
  have hliteral : '-' ∉ DateField.letters := by decide
  have hday : (default : Calendar).format { days := 76 } "dd" = .ok "06" := by decide +kernel
  have hmonth : (default : Calendar).format { days := 76 } "/MM" = .ok "/03" := by decide +kernel
  have hsingle : (default : Calendar).format { days := 76 } "d" = .ok "6" := by decide +kernel
  obtain ⟨happend, hcopy⟩ := format_concatenation default { days := 76 }
  refine ⟨hmeet, hliteral, ?_, ?_⟩
  · rw [happend "dd" "/MM" (.inr (.inr hmeet)), hday, hmonth]
    rfl
  · rw [hcopy '-' hliteral "d" "d", hsingle]
    rfl

end Calendar

end FlightCaption
