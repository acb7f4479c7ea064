import BuildManifest.Manifest.OfTree
import BuildManifest.Proofs.Dialect.Detection
import BuildManifest.Proofs.Ini.Spelling
import BuildManifest.Proofs.Ini.Standing
import BuildManifest.Proofs.Manifest.Places

/-!
# Values that read back as they were written

The flat dialect has no quotes around most values, so it takes what looks like a number for a number
and what looks like a truth value for a truth value.  Where a text is wanted, such as for a version
or a revision, these are written out again, and that gives what stood on the line only if it was
spelt in the way numbers and truth values are written.

## What is here

* `SpeltPlainly` — such a spelling.
* `scalarText?_bareValue` — the text of a value without quotes.
* `readsBack_iff` — **when an attribute is what its line says**.
-/

set_option autoImplicit false

namespace BuildManifest

open Ini (IsLastFor bareValue isWordAnyCase readValue valueText)
open Text (isUsual readIntBetween)

/-! ## One value -/

/-- A text that is spelt as values are written: if it is the numeral of an integer of 64 bits, as
integers are, and if it is the word for a truth value, in lower case. -/
structure SpeltPlainly (text : List Char) : Prop where
  /-- A numeral has no plus sign, no zero in front of other digits, no minus sign before zero. -/
  numeral : ∀ value, readIntBetween (-Int.pow 2 63) (Int.pow 2 63 - 1) text = some value →
    isUsual text = true
  /-- A word is in lower case. -/
  word : ∀ truth, isWordAnyCase text (Tree.boolWord truth) = true →
    text = (Tree.boolWord truth).toList

/-- **A value without quotes has a text**, which is how it was written if it was spelt plainly. -/
theorem scalarText?_bareValue (text : List Char) :
    ∃ rendering, (bareValue text).scalarText? = some rendering ∧
      (rendering.toList = text ↔ SpeltPlainly text) := by
  by_cases word : ∃ truth, isWordAnyCase text (Tree.boolWord truth) = true
  · obtain ⟨truth, spells⟩ := word
    refine ⟨Tree.boolWord truth, by rw [Ini.bareValue_of_spells spells]; rfl, fun same => ?_, ?_⟩
    · refine ⟨fun value read => ?_, fun other spells' => ?_⟩
      · rw [Ini.readIntBetween_of_spells _ _ spells] at read
        cases read
      · rw [← Ini.eq_of_spells spells spells', same]
    · exact fun plain => (plain.word truth spells).symm
  · have noWord (truth : Bool) : ¬isWordAnyCase text (Tree.boolWord truth) = true := fun spells =>
      word ⟨truth, spells⟩
    rw [bareValue]
    cases read : readIntBetween (-Int.pow 2 63) (Int.pow 2 63 - 1) text with
    | some value =>
      refine ⟨toString value, rfl, (Text.toString_eq_iff_isUsual read).trans ⟨fun usual => ?_, ?_⟩⟩
      · exact ⟨fun _ _ => usual, fun truth spells => absurd spells (noWord truth)⟩
      · exact fun plain => plain.numeral value read
    | none =>
      have notTrue : ¬isWordAnyCase text "true" = true := noWord true
      have notFalse : ¬isWordAnyCase text "false" = true := noWord false
      dsimp only
      rw [if_neg notTrue, if_neg notFalse]
      refine ⟨String.ofList text, rfl, iff_of_true String.toList_ofList ?_⟩
      refine ⟨fun value read' => ?_, fun truth spells => absurd spells (noWord truth)⟩
      rw [read] at read'
      cases read'

/-! ## The line of an attribute -/

/-- **When an attribute is what its line says.**  A value without quotes has a text, which is how it
was written exactly if it was spelt plainly.  Wherever the value is the last one that a manifest in
the flat dialect gives to an attribute that is a text, the attribute is that text. -/
theorem readsBack_iff (value : List Char) (plain : ∀ c ∈ value.head?, c ≠ '"' ∧ c ≠ '\'') :
    ∃ tree rendering, readValue value = .ok tree ∧ tree.scalarText? = some rendering ∧
      (rendering.toList = value ↔ SpeltPlainly value) ∧
      ∀ (text : String) (manifest : Manifest) (place : TextPlace) (line : List Char),
        parseManifest text = .ok manifest → detect text = .ini → place.Valid →
        IsLastFor place.path text line → valueText line = value →
        place.Holds manifest rendering := by
  obtain ⟨rendering, scalar, same⟩ := scalarText?_bareValue value
  have read := Ini.readValue_of_plain plain
  refine ⟨_, rendering, read, scalar, same, ?_⟩
  intro text manifest place line parsed flat valid last eq
  rw [parseManifest] at parsed
  split at parsed
  · next tree dialect detected =>
    have keyed : tree.wellKeyed = true := by
      obtain ⟨_, -, keyed⟩ := wellKeyed_of_parseDetected detected
      exact keyed
    have inFlat := parse_of_parseDetected detected
    rw [flat, parse, parseIni] at inFlat
    split at inFlat
    · cases inFlat
    · next given readIni =>
      cases inFlat
      obtain ⟨value, valued, found⟩ := Ini.valueAt?_of_readIni readIni last
        (by cases place <;> exact List.cons_ne_nil _ _) valid.rigid
      rw [eq, read] at valued
      cases valued
      exact holds_of_valueAt? keyed parsed valid found scalar
  · cases parsed

/-- A manifest with a revision of digits. -/
def revisions : String :=
  "core = 8.x\nprojects[views][version] = 3.14\nprojects[views][download][revision] = 0012345\n"

/-- The zeros in front are lost. -/
theorem readsBack_iff_revisions :
    let place : TextPlace := .download .projects (.string "views") "revision"
    let line := "projects[views][download][revision] = 0012345".toList
    ∃ manifest, parseManifest revisions = .ok manifest ∧ detect revisions = .ini ∧
      IsLastFor place.path revisions line ∧ valueText line = "0012345".toList ∧
      place.Holds manifest "12345" ∧ ¬SpeltPlainly "0012345".toList := by
  intro place line
  obtain ⟨manifest, parsed⟩ : ∃ manifest, parseManifest revisions = .ok manifest :=
    isSome_toOption_iff.1 (by decide +kernel)
  have flat : detect revisions = .ini := by decide +kernel
  have last : IsLastFor place.path revisions line := by
    refine ⟨["core = 8.x".toList, "projects[views][version] = 3.14".toList], [], by decide +kernel,
      ⟨.number (.int 12345), by with_unfolding_all rfl⟩, nofun⟩
  have text : valueText line = "0012345".toList := by decide +kernel
  obtain ⟨tree, rendering, read, scalar, same, holds⟩ := readsBack_iff "0012345".toList
    fun c first => by
      cases (show some '0' = some c from first)
      decide
  obtain rfl : .number (.int 12345) = tree := Except.ok.inj read
  obtain rfl : "12345" = rendering := Option.some.inj scalar
  exact ⟨manifest, parsed, flat, last, text,
    holds revisions manifest place line parsed flat ⟨.name (by decide), by decide⟩ last text,
    fun plain => absurd (same.2 plain) (by decide)⟩

end BuildManifest
