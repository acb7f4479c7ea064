import BuildManifest.Dialect
import BuildManifest.Proofs.Success
import BuildManifest.Proofs.Text.Trimming
import BuildManifest.Tree.Equal

/-!
# Detection and reading

A text can be read in the dialect it appears to be in, or that dialect can be asked for first and
the text read in it.  Mostly this is the same.  It is not where a line sets `core` in the flat way
and yet the text does not read in the flat dialect: detection then says YAML, although reading
takes the text for flat and reports what is wrong with it there.

## What is here

* `YamlCore`, `FlatCore` — the lines by which a text declares its dialect, as patterns.
* `detect_eq_ini_iff` — which texts are detected as flat.
* `parse_detect_iff` — **when reading in the detected dialect is reading**.
-/

set_option autoImplicit false

namespace BuildManifest

open Text

variable {text : String} {line : List Char}

/-! ## Lines that set `core` -/

/-- Some line is space, `core:` and anything. -/
def YamlCore (text : String) : Prop :=
  ∃ line ∈ lines text.toList, ∃ indent rest, AllBlank indent ∧
    line = indent ++ ("core:".toList ++ rest)

/-- Some line is space, `core`, space, an equals sign and anything. -/
def FlatCore (text : String) : Prop :=
  ∃ line ∈ lines text.toList, ∃ indent gap rest, AllBlank indent ∧ AllBlank gap ∧
    line = indent ++ ("core".toList ++ (gap ++ '=' :: rest))

theorem hasYamlCore_iff : hasYamlCore text = true ↔ YamlCore text := by
  rw [hasYamlCore, List.any_eq_true]
  refine exists_congr fun line => and_congr_right fun _ => ?_
  rw [startsYamlCore, List.isPrefixOf_iff_prefix]
  constructor
  · rintro ⟨rest, eq⟩
    obtain ⟨indent, blank, split⟩ := exists_trimStart line
    exact ⟨indent, rest, blank, by rw [eq]; exact split⟩
  · rintro ⟨indent, rest, blank, rfl⟩
    refine ⟨rest, ?_⟩
    rw [trimStart_append blank]
    exact (trimStart_cons (by decide) _).symm

theorem hasIniCore_iff : hasIniCore text = true ↔ FlatCore text := by
  rw [hasIniCore, List.any_eq_true]
  refine exists_congr fun line => and_congr_right fun _ => ?_
  rw [startsIniCore, Bool.and_eq_true, List.isPrefixOf_iff_prefix, beq_iff_eq]
  have dropped (rest : List Char) : ("core".toList ++ rest).drop 4 = rest := rfl
  constructor
  · rintro ⟨⟨after, eq⟩, equals⟩
    rw [← eq, dropped] at equals
    obtain ⟨rest, trimmed⟩ := List.head?_eq_some_iff.1 equals
    obtain ⟨indent, blank, split⟩ := exists_trimStart line
    obtain ⟨gap, blank', split'⟩ := exists_trimStart after
    refine ⟨indent, gap, rest, blank, blank', ?_⟩
    rw [← trimmed, ← split', eq]
    exact split
  · rintro ⟨indent, gap, rest, blank, blank', rfl⟩
    have start : trimStart (indent ++ ("core".toList ++ (gap ++ '=' :: rest))) =
        "core".toList ++ (gap ++ '=' :: rest) := by
      rw [trimStart_append blank]
      exact trimStart_cons (by decide) _
    rw [start, dropped, trimStart_append blank', trimStart_cons (by decide)]
    exact ⟨⟨_, rfl⟩, rfl⟩

/-! ## The dialect of an error -/

theorem dialect_of_parseYaml {error : ParseError} (h : parseYaml text = .error error) :
    error.dialect = .yaml := by
  rw [parseYaml] at h
  split at h
  · cases h
  · split at h <;> cases h <;> rfl

theorem dialect_of_parseIni {error : ParseError} (h : parseIni text = .error error) :
    error.dialect = .ini := by
  rw [parseIni] at h
  split at h <;> cases h
  rfl

/-! ## Detection -/

/-- A `core:` line decides for YAML. -/
theorem parseDetected_of_yamlCore (yaml : YamlCore text) :
    parseDetected text = (parseYaml text).map fun tree => (tree, .yaml) := by
  rw [parseDetected, if_pos (hasYamlCore_iff.2 yaml)]

/-- Without one, a `core =` line decides for the flat dialect. -/
theorem parseDetected_of_flatCore (flat : FlatCore text) (other : ¬YamlCore text) :
    parseDetected text = (parseIni text).map fun tree => (tree, .ini) := by
  rw [parseDetected, if_neg (mt hasYamlCore_iff.1 other), if_pos (hasIniCore_iff.2 flat)]

/-- Without either, the flat dialect is what is left when the text is no YAML. -/
theorem parseDetected_of_neither (flat : ¬FlatCore text) (other : ¬YamlCore text) :
    parseDetected text =
      match parseYaml text with
      | .ok tree => .ok (tree, .yaml)
      | .error error =>
        match parseIni text with
        | .ok tree => .ok (tree, .ini)
        | .error _ => .error error := by
  rw [parseDetected]
  exact (if_neg (mt hasYamlCore_iff.1 other)).trans (if_neg (mt hasIniCore_iff.1 flat))

/-- **A text is detected as flat exactly if it reads in the flat dialect, nothing in it declares
YAML, and it declares itself flat or does not read as YAML.** -/
theorem detect_eq_ini_iff : detect text = .ini ↔
    ¬YamlCore text ∧ (∃ tree, parseIni text = .ok tree) ∧
      (FlatCore text ∨ ¬∃ tree, parseYaml text = .ok tree) := by
  by_cases yaml : YamlCore text
  · rw [detect, parseDetected_of_yamlCore yaml]
    cases parseYaml text <;> simp [Except.map, yaml]
  by_cases flat : FlatCore text
  · rw [detect, parseDetected_of_flatCore flat yaml]
    cases parseIni text <;> simp [Except.map, yaml, flat]
  · rw [detect, parseDetected_of_neither flat yaml]
    cases parseYaml text <;> cases parseIni text <;> simp [yaml, flat]

/-! ## Reading in the detected dialect -/

theorem parse_of_parseDetected {read : Tree × Dialect} (h : parseDetected text = .ok read) :
    parse text (detect text) = .ok read.1 := by
  rw [detect, h]
  by_cases yaml : YamlCore text
  · rw [parseDetected_of_yamlCore yaml] at h
    obtain ⟨tree, result, rfl⟩ := map_eq_ok_iff.1 h
    exact result
  by_cases flat : FlatCore text
  · rw [parseDetected_of_flatCore flat yaml] at h
    obtain ⟨tree, result, rfl⟩ := map_eq_ok_iff.1 h
    exact result
  · rw [parseDetected_of_neither flat yaml] at h
    split at h
    · next result =>
      cases h
      exact result
    · split at h
      · next result =>
        cases h
        exact result
      · cases h

/-- An error of detection is one of YAML, unless the text declares itself flat. -/
theorem parseYaml_of_parseDetected {error : ParseError} (h : parseDetected text = .error error)
    (sound : FlatCore text → ¬YamlCore text → ∃ tree, parseIni text = .ok tree) :
    parseYaml text = .error error := by
  by_cases yaml : YamlCore text
  · rw [parseDetected_of_yamlCore yaml] at h
    cases result : parseYaml text with
    | ok tree => rw [result] at h; cases h
    | error reason => rw [result] at h; cases h; rfl
  by_cases flat : FlatCore text
  · obtain ⟨tree, result⟩ := sound flat yaml
    rw [parseDetected_of_flatCore flat yaml, result] at h
    cases h
  · rw [parseDetected_of_neither flat yaml] at h
    split at h
    · cases h
    · next result =>
      split at h
      · cases h
      · cases h
        exact result

/-- What becomes of a text that declares itself flat and does not read in the flat dialect. -/
theorem detect_of_unreadable {error : ParseError} (flat : FlatCore text) (other : ¬YamlCore text)
    (unreadable : parseIni text = .error error) :
    parseDetected text = .error error ∧ detect text = .yaml := by
  have failed : parseDetected text = .error error := by
    rw [parseDetected_of_flatCore flat other, unreadable]
    rfl
  exact ⟨failed, by rw [detect, failed]⟩

/-- **Reading in the detected dialect is reading, except where a text declares itself flat and does
not read in the flat dialect.**  Such a text is detected as YAML, while reading reports what is
wrong with it as a flat one. -/
theorem parse_detect_iff (text : String) :
    (parse text (detect text) = (parseDetected text).map Prod.fst ↔
        (FlatCore text → ¬YamlCore text → ∃ tree, parseIni text = .ok tree)) ∧
      (FlatCore text → ¬YamlCore text →
        (detect text = .ini ↔ ∃ tree, parseIni text = .ok tree) ∧
          ∀ error, parseIni text = .error error →
            parseDetected text = .error error ∧ parse text (detect text) = parseYaml text) := by
  refine ⟨⟨fun agree flat other => ?_, fun sound => ?_⟩, fun flat other => ⟨?_, ?_⟩⟩
  · cases result : parseIni text with
    | ok tree => exact ⟨tree, rfl⟩
    | error error =>
      -- The two errors would be one, in both dialects.
      obtain ⟨failed, yaml⟩ := detect_of_unreadable flat other result
      rw [failed, yaml] at agree
      have same := (dialect_of_parseIni result).symm.trans (dialect_of_parseYaml agree)
      cases same
  · cases result : parseDetected text with
    | ok read => exact parse_of_parseDetected result
    | error error =>
      have yaml : detect text = .yaml := by rw [detect, result]
      rw [yaml]
      exact parseYaml_of_parseDetected result sound
  · rw [detect_eq_ini_iff]
    exact ⟨fun h => h.2.1, fun reads => ⟨other, reads, .inl flat⟩⟩
  · intro error unreadable
    obtain ⟨failed, yaml⟩ := detect_of_unreadable flat other unreadable
    exact ⟨failed, by rw [yaml]; rfl⟩

/-- A text that declares itself flat and reads as YAML only. -/
def flatByName : String := "core = 7.x: 1\nprojects:\n"

theorem parse_detect_iff_flatByName :
    FlatCore flatByName ∧ ¬YamlCore flatByName ∧ detect flatByName ≠ .ini ∧
      (parse flatByName (detect flatByName)).toOption =
        some (.mapping [(.string "core = 7.x", .number (.int 1)), (.string "projects", .null)]) ∧
      ∃ error, parseDetected flatByName = .error error ∧
        error.message = "ini syntax error at line 2: expected 'key = value', found 'projects:'" := by
  have flat : FlatCore flatByName := hasIniCore_iff.1 (by decide +kernel)
  have other : ¬YamlCore flatByName := mt hasYamlCore_iff.2 (by decide +kernel)
  obtain ⟨detected, elsewhere⟩ := (parse_detect_iff flatByName).2 flat other
  have message : (match parseIni flatByName with
      | .ok _ => none
      | .error error => some error.message) =
      some "ini syntax error at line 2: expected 'key = value', found 'projects:'" := by
    decide +kernel
  have asYaml : (parseYaml flatByName).toOption =
      some (.mapping [(.string "core = 7.x", .number (.int 1)), (.string "projects", .null)]) := by
    decide +kernel
  cases result : parseIni flatByName with
  | ok tree =>
    rw [result] at message
    cases message
  | error error =>
    obtain ⟨failed, yaml⟩ := elsewhere error result
    rw [result] at message
    refine ⟨flat, other, fun ini => ?_, yaml ▸ asYaml, error, failed, Option.some.inj message⟩
    obtain ⟨tree, read⟩ := detected.1 ini
    rw [read] at result
    cases result

end BuildManifest
