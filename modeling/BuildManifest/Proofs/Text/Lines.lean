import BuildManifest.Proofs.Text.Trimming
import BuildManifest.Text.Lines

/-!
# Lines in a row

A text put together from lines has these lines again.  Only a carriage return at the end of one is
lost to the line break, and an empty line at the very end is none.

## What is here

* `trim_withoutReturn` — the carriage return that is lost is only space.
* `lines_append`, `lines_of_not_mem` — **what stands before a line feed is a line**.
* `not_mem_of_mem_lines` — no line goes on after a line feed.
-/

set_option autoImplicit false

namespace BuildManifest.Text

variable {line rest text : List Char}

/-- A line without the carriage return at its end. -/
def withoutReturn (line : List Char) : List Char :=
  if line.getLast? = some '\r' then line.dropLast else line

/-- The carriage return that a line break takes with it is only space. -/
theorem trim_withoutReturn (line : List Char) : trim (withoutReturn line) = trim line := by
  rw [withoutReturn]
  split
  · next returns =>
    obtain ⟨front, rfl⟩ := List.getLast?_eq_some_iff.1 returns
    rw [List.dropLast_concat]
    exact (trim_append_blank front (by decide)).symm
  · rfl

theorem withoutReturn_cons_cons (c d : Char) (line : List Char) :
    withoutReturn (c :: d :: line) = c :: withoutReturn (d :: line) := by
  rw [withoutReturn, withoutReturn, List.getLast?_cons_cons]
  split <;> rfl

theorem lines_cons {c : Char} (other : c ≠ '\n') (alone : ∀ more, rest ≠ '\n' :: more) :
    lines (c :: rest) = extendFirst c (lines rest) :=
  lines.eq_4 c rest other fun more _ => alone more

/-- **What stands before the first line feed is the first line**, except for a carriage return at
its end. -/
theorem lines_append (one : '\n' ∉ line) :
    lines (line ++ '\n' :: rest) = withoutReturn line :: lines rest := by
  induction line with
  | nil => rfl
  | cons c line ih =>
    obtain ⟨other, one⟩ := not_or.1 (mt List.mem_cons.2 one)
    cases line with
    | nil =>
      by_cases returns : c = '\r'
      · rw [returns]
        rfl
      · have start : lines ('\n' :: rest) = [] :: lines rest := rfl
        have kept : withoutReturn [c] = [c] := if_neg (by simpa using returns)
        rw [List.singleton_append, lines.eq_4 _ _ (Ne.symm other) fun _ h => absurd h returns,
          start, kept]
        rfl
    | cons d line =>
      have alone : ∀ more, d :: line ++ '\n' :: rest ≠ '\n' :: more := by
        intro more eq
        exact one (by rw [(List.cons.inj eq).1]; exact List.mem_cons_self)
      rw [List.cons_append, lines_cons (Ne.symm other) alone, ih one, withoutReturn_cons_cons]
      rfl

example : lines "a\r\n\nb".toList = [['a'], [], ['b']] := by decide

/-- A text without a line feed is one line, unless it is empty. -/
theorem lines_of_not_mem (one : '\n' ∉ line) : lines line = if line = [] then [] else [line] := by
  induction line with
  | nil => rfl
  | cons c line ih =>
    obtain ⟨other, one⟩ := not_or.1 (mt List.mem_cons.2 one)
    have alone : ∀ more, line ≠ '\n' :: more := by
      rintro more rfl
      exact one List.mem_cons_self
    rw [lines_cons (Ne.symm other) alone, ih one]
    cases line <;> rfl

/-- No line goes on after a line feed. -/
theorem not_mem_of_mem_lines (member : line ∈ lines text) : '\n' ∉ line := by
  induction text using lines.induct generalizing line with
  | case1 => cases member
  | case2 rest ih =>
    rcases List.mem_cons.1 member with rfl | later
    · exact List.not_mem_nil
    · exact ih later
  | case3 rest ih =>
    rcases List.mem_cons.1 member with rfl | later
    · exact List.not_mem_nil
    · exact ih later
  | case4 c rest feed _ ih =>
    rw [lines.eq_4 c rest feed ‹_›] at member
    have other : '\n' ≠ c := fun eq => feed eq.symm
    cases eq : lines rest with
    | nil =>
      rw [eq] at member
      simp only [extendFirst, List.mem_singleton] at member
      simp [member, other]
    | cons first more =>
      rw [eq] at member ih
      simp only [extendFirst, List.mem_cons] at member
      rcases member with rfl | later
      · simp [other, ih List.mem_cons_self]
      · exact ih (List.mem_cons_of_mem _ later)

end BuildManifest.Text
