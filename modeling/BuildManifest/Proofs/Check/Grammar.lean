import BuildManifest.Check.CoreVersion

/-!
# How a platform version is spelt

The reader of platform versions takes the digits a text starts with and looks at what is left.  Its
counterpart here says which texts are versions without taking anything apart: a major number, alone
or followed by `.x`, or by a point and a minor number, perhaps with a suffix behind a dash.

## What is here

* `CoreVersion.Spelt` — the four spellings, and what each of them says.
* `readCoreVersion_eq_some_iff` — **the reader accepts these spellings and no other text**.
* `readCoreVersion_branch` — a branch is its own branch, and names no release.
* `branchAndRelease?_grammar` — **what a version comes to**: which texts have a branch, and which of
  them name a release.
-/

set_option autoImplicit false

namespace BuildManifest

open Text

namespace CoreVersion

/-- A number as it is written. -/
def Digits (text : List Char) : Prop := text ≠ [] ∧ ∀ c ∈ text, isDecimalDigit c = true

/-- What may follow the dash. -/
def SuffixText (text : List Char) : Prop := text ≠ [] ∧ ∀ c ∈ text, isSuffixChar c = true

/-- The spellings of platform versions.  One that has a minor number names a release, which is the
whole of it. -/
inductive Spelt : List Char → CoreVersion → Prop
  | major {major : List Char} (digits : Digits major) : Spelt major ⟨major, none⟩
  | branch {major : List Char} (digits : Digits major) : Spelt (major ++ ['.', 'x']) ⟨major, none⟩
  | minor {major minor : List Char} (digits : Digits major) (digits' : Digits minor) :
      Spelt (major ++ '.' :: minor) ⟨major, some (String.ofList (major ++ '.' :: minor))⟩
  | suffixed {major minor suffix : List Char} (digits : Digits major) (digits' : Digits minor)
      (text : SuffixText suffix) :
      Spelt (major ++ '.' :: (minor ++ '-' :: suffix))
        ⟨major, some (String.ofList (major ++ '.' :: (minor ++ '-' :: suffix)))⟩

theorem Spelt.digits {text : List Char} {version : CoreVersion} (spelt : Spelt text version) :
    Digits version.major := by
  cases spelt <;> assumption

/-! ## Taking the digits off -/

theorem digits_append {digits : List Char} (decimal : ∀ c ∈ digits, isDecimalDigit c = true)
    (rest : List Char) (stop : ∀ c ∈ rest.head?, isDecimalDigit c = false) :
    (digits ++ rest).takeWhile isDecimalDigit = digits ∧
      (digits ++ rest).dropWhile isDecimalDigit = rest := by
  rw [List.takeWhile_append_of_pos decimal, List.dropWhile_append_of_pos decimal]
  cases rest with
  | nil => simp
  | cons first rest =>
    have other : ¬isDecimalDigit first = true := by simp [stop first rfl]
    rw [List.takeWhile_cons_of_neg other, List.dropWhile_cons_of_neg other]
    simp

theorem stop_cons {first : Char} (rest : List Char) (other : isDecimalDigit first = false) :
    ∀ c ∈ (first :: rest).head?, isDecimalDigit c = false := by
  rintro c ⟨⟩
  exact other

theorem digits_takeWhile {text : List Char} (some_ : text.takeWhile isDecimalDigit ≠ []) :
    Digits (text.takeWhile isDecimalDigit) :=
  ⟨some_, fun c member => List.all_eq_true.1 List.all_takeWhile c member⟩

theorem isSuffix_iff {text : List Char} :
    isSuffix text = true ↔ text = [] ∨ ∃ suffix, text = '-' :: suffix ∧ SuffixText suffix := by
  rw [isSuffix.eq_def]
  split
  · simp
  · simp [SuffixText]
  · next nonempty other =>
    refine ⟨nofun, ?_⟩
    rintro (rfl | ⟨suffix, rfl, -⟩)
    · exact absurd rfl nonempty
    · exact absurd rfl (other suffix)

theorem isMinor_iff {text : List Char} :
    isMinor text = true ↔ Digits text ∨
      ∃ minor suffix, text = minor ++ '-' :: suffix ∧ Digits minor ∧ SuffixText suffix := by
  rw [isMinor, Bool.and_eq_true, isSuffix_iff]
  constructor
  · rintro ⟨some_, rest⟩
    have split := List.takeWhile_append_dropWhile (p := isDecimalDigit) (l := text)
    have digits : Digits (text.takeWhile isDecimalDigit) := digits_takeWhile (by simpa using some_)
    rcases rest with nothing | ⟨suffix, dash, valid⟩
    · rw [nothing, List.append_nil] at split
      exact .inl (split ▸ digits)
    · rw [dash] at split
      exact .inr ⟨_, suffix, split.symm, digits, valid⟩
  · rintro (⟨some_, decimal⟩ | ⟨minor, suffix, rfl, ⟨some_, decimal⟩, valid⟩)
    · obtain ⟨taken, dropped⟩ := digits_append decimal [] nofun
      rw [List.append_nil] at taken dropped
      rw [taken, dropped]
      exact ⟨by simpa using some_, .inl rfl⟩
    · have dash := stop_cons suffix (by decide : isDecimalDigit '-' = false)
      obtain ⟨taken, dropped⟩ := digits_append decimal ('-' :: suffix) dash
      rw [taken, dropped]
      exact ⟨by simpa using some_, .inr ⟨suffix, rfl, valid⟩⟩

/-- What follows the major number of a version: the release that is then named, if any. -/
def releaseAfter (text : String) : List Char → Option (Option String)
  | [] => some none
  | ['.', 'x'] => some none
  | '.' :: rest => if isMinor rest then some (some text) else none
  | _ => none

/-- The reader takes the major number off and looks at the rest. -/
theorem readCoreVersion_append {major : List Char} (digits : Digits major) (rest : List Char)
    (stop : ∀ c ∈ rest.head?, isDecimalDigit c = false) :
    readCoreVersion (String.ofList (major ++ rest)) =
      (releaseAfter (String.ofList (major ++ rest)) rest).map (CoreVersion.mk major) := by
  obtain ⟨taken, dropped⟩ := digits_append digits.2 rest stop
  rw [readCoreVersion, String.toList_ofList, taken, dropped]
  simp only [List.isEmpty_iff, if_neg digits.1]
  split
  · rfl
  · rfl
  · next rest other =>
    rw [releaseAfter.eq_3 _ rest other]
    split <;> rfl
  · next empty branch point => rw [releaseAfter.eq_4 _ rest empty branch point, Option.map_none]

theorem readCoreVersion_minor {major minor : List Char} (digits : Digits major)
    (valid : isMinor minor = true) :
    readCoreVersion (String.ofList (major ++ '.' :: minor)) =
      some ⟨major, some (String.ofList (major ++ '.' :: minor))⟩ := by
  have stop := stop_cons minor (by decide : isDecimalDigit '.' = false)
  have other : minor ≠ ['x'] := by
    rintro rfl
    exact absurd valid (by decide)
  rw [readCoreVersion_append digits _ stop, releaseAfter.eq_3 _ minor other, if_pos valid,
    Option.map_some]

theorem spelt_of_releaseAfter {major rest : List Char} {release : Option String}
    (digits : Digits major)
    (h : releaseAfter (String.ofList (major ++ rest)) rest = some release) :
    Spelt (major ++ rest) ⟨major, release⟩ := by
  rw [releaseAfter.eq_def] at h
  split at h
  · cases h
    rw [List.append_nil]
    exact .major digits
  · cases h
    exact .branch digits
  · split at h
    · next valid =>
      cases h
      rcases isMinor_iff.1 valid with digits' | ⟨minor, suffix, rfl, digits', text⟩
      · exact .minor digits digits'
      · exact .suffixed digits digits' text
    · cases h
  · cases h

end CoreVersion

open CoreVersion

/-- **The reader of platform versions accepts their spellings and no other text.** -/
theorem readCoreVersion_eq_some_iff {text : String} {version : CoreVersion} :
    readCoreVersion text = some version ↔ Spelt text.toList version := by
  obtain ⟨chars, rfl⟩ : ∃ chars, text = String.ofList chars :=
    ⟨text.toList, String.ofList_toList.symm⟩
  rw [String.toList_ofList]
  constructor
  · intro h
    have some_ : chars.takeWhile isDecimalDigit ≠ [] := by
      intro none_
      rw [readCoreVersion, String.toList_ofList, none_] at h
      cases h
    have digits := digits_takeWhile some_
    have stop : ∀ c ∈ (chars.dropWhile isDecimalDigit).head?, isDecimalDigit c = false := by
      intro c first
      have other := List.head?_dropWhile_not isDecimalDigit chars
      rwa [first] at other
    rw [← List.takeWhile_append_dropWhile (p := isDecimalDigit) (l := chars)] at h ⊢
    rw [readCoreVersion_append digits _ stop] at h
    obtain ⟨release, after, rfl⟩ := Option.map_eq_some_iff.1 h
    exact spelt_of_releaseAfter digits after
  · intro spelt
    cases spelt with
    | major digits =>
      have read := readCoreVersion_append digits [] nofun
      rwa [List.append_nil] at read
    | branch digits => exact readCoreVersion_append digits ['.', 'x'] (stop_cons ['x'] (by decide))
    | minor digits digits' => exact readCoreVersion_minor digits (isMinor_iff.2 (.inl digits'))
    | suffixed digits digits' text =>
      exact readCoreVersion_minor digits (isMinor_iff.2 (.inr ⟨_, _, rfl, digits', text⟩))

/-- **A branch is its own branch, and names no release.** -/
theorem readCoreVersion_branch {digits : List Char} (nonempty : digits ≠ [])
    (decimal : ∀ c ∈ digits, isDecimalDigit c = true) :
    readCoreVersion (String.ofList (digits ++ ['.', 'x'])) = some ⟨digits, none⟩ := by
  rw [readCoreVersion_eq_some_iff, String.toList_ofList]
  exact .branch ⟨nonempty, decimal⟩

/-- The branch of a platform version, and the release that it names. -/
def branchAndRelease? (text : String) : Option (String × Option String) :=
  (readCoreVersion text).map fun version => (version.branch, version.release)

theorem branchAndRelease?_eq_some_iff {text branch : String} {release : Option String} :
    branchAndRelease? text = some (branch, release) ↔
      ∃ major, Spelt text.toList ⟨major, release⟩ ∧
        branch = String.ofList (major ++ ['.', 'x']) := by
  simp only [branchAndRelease?, Option.map_eq_some_iff, readCoreVersion_eq_some_iff, Prod.mk.injEq]
  constructor
  · rintro ⟨⟨major, release⟩, spelt, rfl, rfl⟩
    exact ⟨major, spelt, rfl⟩
  · rintro ⟨major, spelt, rfl⟩
    exact ⟨⟨major, release⟩, spelt, rfl, rfl⟩

/-- The spellings with a given major number, by whether they name a release. -/
theorem spelt_iff {text : String} {major : List Char} {release : Option String} :
    Spelt text.toList ⟨major, release⟩ ↔ Digits major ∧
      ((text.toList = major ∨ text.toList = major ++ ['.', 'x']) ∧ release = none ∨
        (∃ minor, Digits minor ∧ (text.toList = major ++ '.' :: minor ∨
          ∃ suffix, SuffixText suffix ∧
            text.toList = major ++ '.' :: (minor ++ '-' :: suffix))) ∧ release = some text) := by
  obtain ⟨chars, rfl⟩ : ∃ chars, text = String.ofList chars :=
    ⟨text.toList, String.ofList_toList.symm⟩
  rw [String.toList_ofList]
  constructor
  · intro spelt
    refine ⟨spelt.digits, ?_⟩
    cases spelt with
    | major _ => exact .inl ⟨.inl rfl, rfl⟩
    | branch _ => exact .inl ⟨.inr rfl, rfl⟩
    | minor _ digits => exact .inr ⟨⟨_, digits, .inl rfl⟩, rfl⟩
    | suffixed _ digits suffix => exact .inr ⟨⟨_, digits, .inr ⟨_, suffix, rfl⟩⟩, rfl⟩
  · rintro ⟨digits, ⟨rfl | rfl, rfl⟩ | ⟨⟨minor, digits', rfl | ⟨suffix, valid, rfl⟩⟩, rfl⟩⟩
    · exact .major digits
    · exact .branch digits
    · exact .minor digits digits'
    · exact .suffixed digits digits' valid

/-- **What a platform version comes to.**  A text comes to a branch and perhaps a release exactly if
it is a major number, alone or with `.x`, and there is no release, or if it is a major number, a
point, a minor number and perhaps a dash and a suffix, and the release is the whole text; the branch
is the major number with `.x`.  The branch itself comes to itself and to no release. -/
theorem branchAndRelease?_grammar (text : String) :
    (∀ branch release, branchAndRelease? text = some (branch, release) ↔
      ∃ major, Digits major ∧ branch = String.ofList (major ++ ['.', 'x']) ∧
        ((text.toList = major ∨ text.toList = major ++ ['.', 'x']) ∧ release = none ∨
          (∃ minor, Digits minor ∧ (text.toList = major ++ '.' :: minor ∨
            ∃ suffix, SuffixText suffix ∧
              text.toList = major ++ '.' :: (minor ++ '-' :: suffix))) ∧ release = some text)) ∧
    ∀ branch release, branchAndRelease? text = some (branch, release) →
      branchAndRelease? branch = some (branch, none) := by
  constructor
  · intro branch release
    simp only [branchAndRelease?_eq_some_iff, spelt_iff]
    exact exists_congr fun major => and_assoc.trans (and_congr_right fun _ => and_comm)
  · intro branch release h
    obtain ⟨major, spelt, rfl⟩ := branchAndRelease?_eq_some_iff.1 h
    refine branchAndRelease?_eq_some_iff.2 ⟨major, ?_, rfl⟩
    rw [String.toList_ofList]
    exact .branch spelt.digits

/-- Digits of any script make a version, but only letters of ASCII make a suffix. -/
theorem branchAndRelease?_grammar_scripts :
    branchAndRelease? "८.٢-rc1" = some ("८.x", some "८.٢-rc1") ∧
      branchAndRelease? "८.x" = some ("८.x", none) := by
  have digits (c : Char) (digit : isDecimalDigit c = true) : Digits [c] :=
    ⟨List.cons_ne_nil _ _, by simpa using digit⟩
  obtain ⟨grammar, branch⟩ := branchAndRelease?_grammar "८.٢-rc1"
  have major : Digits ['८'] := digits '८' (by decide)
  have minor : Digits ['٢'] := digits '٢' (by decide)
  have suffix : SuffixText "rc1".toList := ⟨by decide, List.all_eq_true.1 (by decide)⟩
  have read := (grammar "८.x" (some "८.٢-rc1")).2 ⟨_, major, by decide,
    .inr ⟨⟨_, minor, .inr ⟨_, suffix, by decide⟩⟩, rfl⟩⟩
  exact ⟨read, branch _ _ read⟩

end BuildManifest
