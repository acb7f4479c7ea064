import BuildManifest.Manifest.OfTree
import BuildManifest.Proofs.Manifest.Readable
import BuildManifest.Proofs.Tree.Indexing

/-!
# Lists and indices read alike

A list is read like the mapping from positions to its items, wherever a manifest may have one.
Normalizing keeps it so: a manifest gives the same fields, or the same error, whichever of its
lists are written with indices.

## What is here

* `Entry.ofMapping_mapValues`, `Section.ofTree_indexSection`, `Reference.listOfTree_indexed` — the
  readers, one after the other.
* `Manifest.ofTree_indexLists` — a manifest with all lists written with indices reads alike.
* `Manifest.ofTree_normalize_indexLists` — **after normalizing, so does a manifest with some of
  them**.
-/

set_option autoImplicit false

namespace BuildManifest

open Mapping (mapValues)
open BuildManifest.Tree (everyList indexAttribute indexEntry indexField indexLists indexSection
  indexed_indexed)

variable {attributes entries root : Mapping} {key value : Tree}

/-! ## Entries -/

theorem Patch.allOfTree_indexed (value : Tree) :
    Patch.allOfTree value.indexed = Patch.allOfTree value := by
  rw [allOfTree, allOfTree, indexed_indexed]

namespace Entry

/-- Only patches may be a list. -/
theorem indexAttribute_of_ofName?_ne {name : String} (text : key.text? = some name)
    (other : Attribute.ofName? name ≠ some .patches) (value : Tree) :
    indexAttribute (fun _ => true) key value = value := by
  refine if_neg fun gives => other ?_
  rw [Tree.givesPatches_iff, text, Option.some.injEq, Option.some.injEq] at gives
  rcases gives with rfl | rfl <;> decide

theorem withAttribute_indexAttribute {name : String} {one : Attribute} (entry : Entry)
    (text : key.text? = some name) (known : Attribute.ofName? name = some one) (value : Tree) :
    entry.withAttribute (indexAttribute (fun _ => true) key value) one =
      entry.withAttribute value one := by
  by_cases patches : one = .patches
  · subst patches
    rw [indexAttribute]
    split
    · rw [withAttribute, withAttribute]
      exact congrArg _ (Patch.allOfTree_indexed value)
    · rfl
  · rw [indexAttribute_of_ofName?_ne text]
    rw [known]
    exact fun eq => patches (Option.some.inj eq)

theorem readAttributes_mapValues (entry : Entry) (seen : List Attribute) :
    readAttributes entry seen (mapValues (indexAttribute fun _ => true) attributes) =
      readAttributes entry seen attributes := by
  induction attributes generalizing entry seen with
  | nil => rfl
  | cons first rest ih =>
    obtain ⟨key, value⟩ := first
    rw [Mapping.mapValues_cons, readAttributes, readAttributes]
    cases text : key.text? with
    | none => rfl
    | some name =>
      dsimp only
      cases known : Attribute.ofName? name with
      | none =>
        rw [indexAttribute_of_ofName?_ne text (by simp [known])]
        exact bind_congr fun next => ih next seen
      | some one =>
        dsimp only
        rw [withAttribute_indexAttribute entry text known]
        split
        · rfl
        · exact bind_congr fun next => ih next _

theorem ofMapping_mapValues : ofMapping (mapValues (indexAttribute fun _ => true) attributes) =
    ofMapping attributes := by
  rw [ofMapping, ofMapping, readAttributes_mapValues]

end Entry

/-! ## Sections and references -/

namespace Section

theorem readEntry_indexEntry (key value : Tree) :
    readEntry key (indexEntry (fun _ => true) key value) = readEntry key value := by
  cases value with
  | mapping attributes =>
    rw [indexEntry]
    split
    · rfl
    · rw [readEntry, readEntry, Entry.ofMapping_mapValues]
  | _ => rfl

theorem readEntries_mapValues (kind : SectionKind) :
    readEntries kind (mapValues (indexEntry fun _ => true) entries) = readEntries kind entries := by
  induction entries with
  | nil => rfl
  | cons first rest ih =>
    rw [Mapping.mapValues_cons, readEntries, readEntries, readEntry_indexEntry, ih]

theorem ofTree_indexSection (kind : SectionKind) (value : Tree) :
    ofTree kind (indexSection everyList value) = ofTree kind value := by
  have mapping (entries : Mapping) :
      ofTree kind (.mapping (mapValues (indexEntry fun _ => true) entries)) =
        ofTree kind (.mapping entries) :=
    congrArg (·.map ofList) (readEntries_mapValues kind)
  cases value with
  | mapping entries => exact mapping entries
  | _ => rfl

end Section

theorem values_indexedFrom (first : Nat) (items : List Tree) :
    (Tree.indexedFrom first items).map Prod.snd = items := by
  induction items generalizing first with
  | nil => rfl
  | cons item rest ih => rw [Tree.indexedFrom, List.map_cons, ih]

theorem Reference.listOfTree_indexed (value : Tree) :
    Reference.listOfTree value.indexed = Reference.listOfTree value := by
  cases value with
  | sequence items => exact congrArg readAll (values_indexedFrom 0 items)
  | _ => rfl

/-! ## Manifests -/

namespace Manifest

theorem valueOf_mapValues (root : Mapping) (name : String) :
    valueOf (mapValues (indexField everyList) root) name =
      indexField everyList (.string name) (valueOf root name) := by
  rw [valueOf, valueOf, Mapping.get?, Mapping.find?_mapValues Tree.stable_indexField, Mapping.get?]
  cases Mapping.find? root (.string name) with
  | some value => rfl
  | none =>
    rw [Option.map_none, Option.getD_none, indexField]
    split
    · rfl
    · split <;> rfl

/-- **A manifest reads alike** with all its lists written with indices. -/
theorem ofTree_indexLists (tree : Tree) (format : Option Dialect) :
    ofTree (indexLists everyList tree) format = ofTree tree format := by
  cases tree with
  | mapping root =>
    have plain (name : String) (other : name ∉ Tree.entrySections ∧ name ∉ Tree.referenceLists) :
        valueOf (mapValues (indexField everyList) root) name = valueOf root name := by
      rw [valueOf_mapValues, indexField, if_neg other.1, if_neg other.2]
    have sections (kind : SectionKind) :
        Section.ofTree kind (valueOf (mapValues (indexField everyList) root) kind.name) =
          Section.ofTree kind (valueOf root kind.name) := by
      rw [valueOf_mapValues, indexField, if_pos (by cases kind <;> decide)]
      exact Section.ofTree_indexSection kind _
    have references (name : String)
        (list : name ∉ Tree.entrySections ∧ name ∈ Tree.referenceLists) :
        readReferences (valueOf (mapValues (indexField everyList) root) name) =
          readReferences (valueOf root name) := by
      rw [valueOf_mapValues, indexField, if_neg list.1, if_pos list.2, readReferences,
        readReferences]
      rw [← Reference.listOfTree_indexed (valueOf root name)]
      rfl
    have projects : Section.ofTree .projects
        (valueOf (mapValues (indexField everyList) root) "projects") =
          Section.ofTree .projects (valueOf root "projects") := sections .projects
    have libraries : Section.ofTree .libraries
        (valueOf (mapValues (indexField everyList) root) "libraries") =
          Section.ofTree .libraries (valueOf root "libraries") := sections .libraries
    rw [indexLists, ofTree, ofTree, ofMapping, ofMapping, plain "core" (by decide),
      plain "api" (by decide), projects, libraries, references "includes" (by decide),
      references "overrides" (by decide), plain "defaults" (by decide)]
  | _ => rfl

/-- **A normalized manifest reads alike**, as the same manifest or with the same error, whichever
of its lists were written with indices. -/
theorem ofTree_normalize_indexLists (chosen : List Tree → Bool) (tree : Tree)
    (format : Option Dialect) :
    ofTree (indexLists chosen tree).normalize format = ofTree tree.normalize format :=
  calc ofTree (indexLists chosen tree).normalize format
    _ = ofTree (indexLists everyList (indexLists chosen tree).normalize) format :=
      (ofTree_indexLists _ format).symm
    _ = ofTree (indexLists everyList tree).normalize format := by
      rw [← Tree.normalize_indexLists, Tree.indexLists_indexLists]
    _ = ofTree (indexLists everyList tree.normalize) format := by rw [Tree.normalize_indexLists]
    _ = ofTree tree.normalize format := ofTree_indexLists _ format

end Manifest

end BuildManifest
