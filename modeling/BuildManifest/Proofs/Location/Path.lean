import BuildManifest.Location.Path

/-!
# Paths below a directory

The pieces of a path below a directory are those of the directory, followed by those of the path,
so that paths through different entries of a directory are different paths.

## What is here

* `splitAt_append` — the pieces of two texts with a separator between them.
* `splitAt_join` — the pieces of a path below a directory.
* `exists_steps` — the steps of a path, taken apart at one of them.
* `eq_of_same` — **paths through different entries of a directory are different**.
-/

set_option autoImplicit false

namespace BuildManifest

namespace Text

theorem splitAt_ne_nil (separator : Char) (text : List Char) : splitAt separator text ≠ [] := by
  cases text with
  | nil => simp [splitAt]
  | cons c rest =>
    rw [splitAt]
    split
    · simp
    · split <;> simp

/-- **The pieces of two texts** with a separator between them. -/
theorem splitAt_append (separator : Char) (before after : List Char) :
    splitAt separator (before ++ separator :: after) =
      splitAt separator before ++ splitAt separator after := by
  induction before with
  | nil => simp [splitAt]
  | cons c rest ih =>
    rw [List.cons_append, splitAt, splitAt]
    split
    · rw [ih, List.cons_append]
    · rw [ih]
      cases pieces : splitAt separator rest with
      | nil => exact absurd pieces (splitAt_ne_nil separator rest)
      | cons piece others => rfl

example : splitAt ',' "a,,b".toList = [['a'], [], ['b']] := by decide

theorem splitAt_of_not_mem {separator : Char} {text : List Char} (h : separator ∉ text) :
    splitAt separator text = [text] := by
  induction text with
  | nil => rfl
  | cons c rest ih =>
    rw [List.mem_cons, not_or] at h
    rw [splitAt, if_neg (Ne.symm h.1), ih h.2]

end Text

namespace FilePath

theorem endsWith_slash_iff {path : String} :
    path.endsWith "/" = true ↔ ∃ before, path.toList = before ++ ['/'] := by
  rw [← String.endsWith_toSlice, String.Slice.endsWith_string_iff, String.copy_toSlice]
  exact ⟨fun ⟨before, eq⟩ => ⟨before, eq.symm⟩, fun ⟨before, eq⟩ => ⟨before, eq.symm⟩⟩

variable {directory path : String}

/-- A path stands at the end of the path below a directory. -/
theorem exists_toList_join (directory : String) (relative : path.startsWith "/" = false) :
    ∃ before, (join directory path).toList = before ++ path.toList := by
  rw [join, relative, if_neg (by decide)]
  split
  · exact ⟨directory.toList, String.toList_append⟩
  · exact ⟨(directory ++ "/").toList, String.toList_append⟩

theorem toList_join (relative : path.startsWith "/" = false) (nonempty : directory ≠ "")
    (open_ : ¬directory.endsWith "/" = true) :
    (join directory path).toList = directory.toList ++ '/' :: path.toList := by
  rw [join, relative, if_neg (by decide), if_neg]
  · simp
  · simp [nonempty, open_]

/-- **The pieces of a path below a directory** are those of the directory, and those of the
path. -/
theorem splitAt_join (directory : String) : ∃ before, ∀ path : String,
    path.startsWith "/" = false → Text.splitAt '/' (join directory path).toList =
      before ++ Text.splitAt '/' path.toList := by
  by_cases empty : directory = ""
  · refine ⟨[], fun path relative => ?_⟩
    rw [join, relative, empty]
    simp
  · by_cases slash : directory.endsWith "/" = true
    · obtain ⟨before, eq⟩ := endsWith_slash_iff.1 slash
      refine ⟨Text.splitAt '/' before, fun path relative => ?_⟩
      rw [join, relative, slash, Bool.or_true, if_neg (by decide), if_pos rfl,
        String.toList_append, eq, List.append_assoc]
      exact Text.splitAt_append '/' before path.toList
    · refine ⟨Text.splitAt '/' directory.toList, fun path relative => ?_⟩
      rw [toList_join relative empty slash, Text.splitAt_append]

/-- Where a path starts, which its first pieces tell. -/
theorem exists_start (before : List (List Char)) : ∃ start front, ∀ (path : String) step after,
    Text.splitAt '/' path.toList = before ++ step :: after → isIdle step = false →
    FilePath.split path = (start, front ++ step :: after) := by
  match before with
  | [] =>
    refine ⟨.unwritten, [], fun path step after pieces idle => ?_⟩
    rw [FilePath.split, pieces]
    split <;> simp_all [isIdle]
  | [] :: rest =>
    refine ⟨.root, rest, fun path step after pieces idle => ?_⟩
    rw [FilePath.split, pieces]
    cases rest <;> rfl
  | (c :: word) :: rest =>
    by_cases point : c :: word = ['.']
    · refine ⟨.here, rest, fun path step after pieces idle => ?_⟩
      rw [FilePath.split, pieces, point]
      rfl
    · refine ⟨.unwritten, (c :: word) :: rest, fun path step after pieces idle => ?_⟩
      rw [FilePath.split, pieces]
      split <;> simp_all

/-- **The steps of a path**, taken apart at a step that leads somewhere. -/
theorem exists_steps (before : List (List Char)) : ∃ start front, ∀ (path : String) step after,
    Text.splitAt '/' path.toList = before ++ step :: after → isIdle step = false →
    steps path = (start, front ++ step :: after.filter fun piece => !isIdle piece) := by
  obtain ⟨start, front, starts⟩ := exists_start before
  refine ⟨start, front.filter fun piece => !isIdle piece, fun path step after pieces idle => ?_⟩
  rw [steps, starts path step after pieces idle]
  dsimp only
  rw [List.filter_append, List.filter_cons_of_pos (by rw [idle]; rfl)]

/-- **Paths through different entries of a directory are different.** -/
theorem eq_of_same {before : List (List Char)} {one other : String} {step step' : List Char}
    {after after' : List (List Char)}
    (pieces : Text.splitAt '/' one.toList = before ++ step :: after)
    (pieces' : Text.splitAt '/' other.toList = before ++ step' :: after')
    (idle : isIdle step = false) (idle' : isIdle step' = false) (h : same one other = true) :
    step = step' := by
  obtain ⟨start, front, all⟩ := exists_steps before
  rw [same, beq_iff_eq, all one step after pieces idle, all other step' after' pieces' idle'] at h
  have steps_ := List.append_cancel_left (Prod.mk.inj h).2
  exact (List.cons.inj steps_).1

/-- Other ways of writing a path lead to the same place, another entry does not. -/
example : same "/s/include-0/m" "/s//include-0/./m" = true ∧
    same "/s/include-0/m" "/s//include-1/./m" = false := by decide +kernel

end FilePath

end BuildManifest
