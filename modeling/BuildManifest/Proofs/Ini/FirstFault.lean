import BuildManifest.Dialect
import BuildManifest.Proofs.Ini.Acceptance
import BuildManifest.Proofs.Ini.Writing

/-!
# The first bad line

A text in the flat dialect is read line by line, and each line is put on top of what the lines
before it have built.  Reading stops at the first line that cannot be read there.  So what is
reported depends on the lines up to that one only: they have been read, and nothing behind them
has.

## What is here

* `readLines_append` — lines are read on top of those before them.
* `readLines_eq_error_iff` — when lines cannot be read, and what is reported.
* `exists_readLines_iff` — when they can be.
* `firstFault_of_parseIni_eq_error`, `exists_parseIni_iff` — the same of whole texts.
* `parseIni_first_fault` — **errors point at the first bad line**, and a text has none exactly if
  each of its lines is acceptable on top of the tree of the lines before it.
-/

set_option autoImplicit false

namespace BuildManifest.Ini

open Text

variable {entries : Mapping} {number : Nat} {lines : List (List Char)} {error : IniError}

/-! ## Lines -/

/-- Lines are read on top of those before them. -/
theorem readLines_append (entries : Mapping) (number : Nat) (before after : List (List Char)) :
    readLines entries number (before ++ after) = (readLines entries number before >>= fun grown =>
      readLines grown (number + before.length) after) := by
  induction before generalizing entries number with
  | nil => rfl
  | cons first rest ih =>
    rw [List.cons_append, readLines, readLines]
    cases applyLine entries first with
    | error fault => rfl
    | ok grown =>
      simp only [ih, List.length_cons]
      rw [show number + 1 + rest.length = number + (rest.length + 1) by omega]

/-- **Lines cannot be read exactly if one of them cannot after those before it could**, and its
number and fault are reported. -/
theorem readLines_eq_error_iff : readLines entries number lines = .error error ↔
    ∃ before line after grown, lines = before ++ line :: after ∧
      readLines entries number before = .ok grown ∧ error.line = number + before.length ∧
      applyLine grown line = .error error.fault := by
  constructor
  · intro h
    induction lines generalizing entries number with
    | nil => cases h
    | cons first rest ih =>
      rw [readLines] at h
      cases applied : applyLine entries first with
      | error fault =>
        rw [applied] at h
        cases h
        exact ⟨[], first, rest, entries, rfl, rfl, rfl, applied⟩
      | ok next =>
        rw [applied] at h
        obtain ⟨before, line, after, grown, rfl, read, place, failed⟩ := ih h
        refine ⟨first :: before, line, after, grown, rfl, ?_, ?_, failed⟩
        · rw [readLines, applied]
          exact read
        · rw [place, List.length_cons]
          omega
  · rintro ⟨before, line, after, grown, rfl, read, place, failed⟩
    rw [readLines_append, read]
    show readLines grown _ (line :: after) = _
    rw [readLines, failed, ← place]

/-- **Lines can be read exactly if each is acceptable on top of what those before it build.** -/
theorem exists_readLines_iff : (∃ result, readLines entries number lines = .ok result) ↔
    ∀ before line after, lines = before ++ line :: after →
      ∃ grown, readLines entries number before = .ok grown ∧ Acceptable grown line := by
  constructor
  · rintro ⟨result, h⟩ before line after rfl
    rw [readLines_append] at h
    obtain ⟨grown, read, h⟩ := bind_eq_ok_iff.1 h
    refine ⟨grown, read, exists_applyLine_iff.1 ?_⟩
    rw [readLines] at h
    split at h
    · next grown' applied => exact ⟨grown', applied⟩
    · cases h
  · intro acceptable
    cases h : readLines entries number lines with
    | ok result => exact ⟨result, rfl⟩
    | error error =>
      obtain ⟨before, line, after, grown, split, read, -, failed⟩ := readLines_eq_error_iff.1 h
      obtain ⟨grown', read', fine⟩ := acceptable before line after split
      cases read.symm.trans read'
      obtain ⟨result, applied⟩ := exists_applyLine_iff.2 fine
      cases failed.symm.trans applied

end BuildManifest.Ini

namespace BuildManifest

open Ini Text

/-! ## Texts -/

/-- The text that has the given lines. -/
def textOf (lines : List (List Char)) : String := String.ofList (['\n'].intercalate lines)

theorem parseIni_eq_ok_iff {text : String} {tree : Tree} : parseIni text = .ok tree ↔
    ∃ entries, readLines [] 1 (lines text.toList) = .ok entries ∧ tree = .mapping entries := by
  rw [parseIni, readIni]
  cases readLines [] 1 (lines text.toList) with
  | error error => simp [Except.map]
  | ok entries => simp [Except.map, eq_comm]

theorem parseIni_eq_error_iff {text : String} {error : ParseError} :
    parseIni text = .error error ↔
      ∃ fault, readLines [] 1 (lines text.toList) = .error fault ∧ error = .ini fault := by
  rw [parseIni, readIni]
  cases readLines [] 1 (lines text.toList) with
  | error fault => simp [Except.map, eq_comm]
  | ok entries => simp [Except.map]

theorem parseIni_textOf_eq_ok_iff {before : List (List Char)} {tree : Tree}
    (oneLine : ∀ line ∈ before, '\n' ∉ line) : parseIni (textOf before) = .ok tree ↔
      ∃ entries, readLines [] 1 before = .ok entries ∧ tree = .mapping entries := by
  rw [parseIni_eq_ok_iff, textOf, String.toList_ofList, readLines_intercalate oneLine]

theorem not_mem_of_mem_part {text : List Char} {before : List (List Char)}
    (part : before <+: lines text) : ∀ line ∈ before, '\n' ∉ line :=
  fun _ member => not_mem_of_mem_lines (part.mem member)

/-- **An error has the number of the first line that cannot be read**, and the lines up to this one
decide it. -/
theorem firstFault_of_parseIni_eq_error {text : String} {error : ParseError}
    (unreadable : parseIni text = .error error) :
    error.dialect = .ini ∧ ∃ n, error.line? = some n ∧ 1 ≤ n ∧ n ≤ (lines text.toList).length ∧
      (∃ tree, parseIni (textOf ((lines text.toList).take (n - 1))) = .ok tree) ∧
      ∀ other : String, (lines other.toList).take n = (lines text.toList).take n →
        parseIni other = .error error := by
  obtain ⟨fault, failed, rfl⟩ := parseIni_eq_error_iff.1 unreadable
  obtain ⟨before, line, after, grown, split, read, place, applied⟩ :=
    readLines_eq_error_iff.1 failed
  refine ⟨rfl, 1 + before.length, congrArg some place, by omega, ?_, ?_, ?_⟩
  · simp [split]
    omega
  · have taken : (lines text.toList).take (1 + before.length - 1) = before := by
      simp [split]
    have oneLine := not_mem_of_mem_part ⟨line :: after, split.symm⟩
    rw [taken]
    exact ⟨_, (parseIni_textOf_eq_ok_iff oneLine).2 ⟨grown, read, rfl⟩⟩
  · intro other same
    have taken : (lines text.toList).take (1 + before.length) = before ++ [line] := by
      rw [split, Nat.add_comm]
      simp [List.take_append]
    have begins : lines other.toList = before ++ line ::
        (lines other.toList).drop (1 + before.length) := by
      have whole := List.take_append_drop (1 + before.length) (lines other.toList)
      rw [same, taken, List.append_assoc] at whole
      exact whole.symm
    exact parseIni_eq_error_iff.2 ⟨fault, readLines_eq_error_iff.2
      ⟨before, line, _, grown, begins, read, place, applied⟩, rfl⟩

/-- **A text can be read exactly if each line is acceptable** on top of the tree of the lines before
it. -/
theorem exists_parseIni_iff {text : String} : (∃ tree, parseIni text = .ok tree) ↔
    ∀ before line after, lines text.toList = before ++ line :: after →
      ∃ entries, parseIni (textOf before) = .ok (.mapping entries) ∧ Acceptable entries line := by
  have reads : (∃ tree, parseIni text = .ok tree) ↔
      ∃ entries, readLines [] 1 (lines text.toList) = .ok entries := by
    simp [parseIni_eq_ok_iff]
  rw [reads, exists_readLines_iff]
  refine forall_congr' fun before => forall_congr' fun line => forall_congr' fun after =>
    forall_congr' fun split => exists_congr fun grown => and_congr_left fun _ => ?_
  rw [parseIni_textOf_eq_ok_iff (not_mem_of_mem_part ⟨line :: after, split.symm⟩)]
  simp

/-- **Errors point at the first bad line.**  A text that cannot be read in the flat dialect has an
error of that dialect with the number of one of its lines: the lines before that one can be read,
and every text that begins with the same lines up to that one has the same error.  And a text can be
read exactly if each of its lines is blank, a comment, or an assignment with a name and brackets
before the first equals sign, with no half open quote behind it, and with a path that leads through
nothing but mappings in the tree of the lines before it.  (Indices are counted on without a
bound.) -/
theorem parseIni_first_fault (text : String) :
    (∀ error, parseIni text = .error error →
      error.dialect = .ini ∧ ∃ n, error.line? = some n ∧ 1 ≤ n ∧ n ≤ (lines text.toList).length ∧
        (∃ tree, parseIni (textOf ((lines text.toList).take (n - 1))) = .ok tree) ∧
        ∀ other : String, (lines other.toList).take n = (lines text.toList).take n →
          parseIni other = .error error) ∧
    ((∃ tree, parseIni text = .ok tree) ↔
      ∀ before line after, lines text.toList = before ++ line :: after →
        ∃ entries, parseIni (textOf before) = .ok (.mapping entries) ∧ Acceptable entries line) :=
  ⟨fun _ unreadable => firstFault_of_parseIni_eq_error unreadable, exists_parseIni_iff⟩

/-- The third line leads through the text that the second one puts down. -/
def conflicting : String :=
  "core = 8.x\nprojects[views] = 3.0\nprojects[views][subdir] = contrib\n[] = '\n"

theorem parseIni_first_fault_conflicting : ∃ error, parseIni conflicting = .error error ∧
    error.line? = some 3 ∧
    error.detail = "'views' already holds a value and cannot contain nested keys" ∧
    (∃ tree, parseIni "core = 8.x\nprojects[views] = 3.0" = .ok tree) ∧
    parseIni "core = 8.x\nprojects[views] = 3.0\nprojects[views][subdir] = contrib" =
      .error error := by
  have reported : ((parseIni conflicting).map fun _ => ()).mapError (fun error =>
      (error.line?, error.detail)) =
      .error (some 3, "'views' already holds a value and cannot contain nested keys") := by
    decide +kernel
  cases result : parseIni conflicting with
  | ok tree =>
    rw [result] at reported
    cases reported
  | error error =>
    rw [result] at reported
    obtain ⟨line, detail⟩ := Prod.mk.inj (Except.error.inj reported)
    obtain ⟨-, n, number, -, -, before, same⟩ := (parseIni_first_fault conflicting).1 error result
    obtain rfl : 3 = n := Option.some.inj (line.symm.trans number)
    exact ⟨error, rfl, line, detail, before, same _ (by decide)⟩

end BuildManifest
