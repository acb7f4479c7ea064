import BuildManifest.Ini.Reading
import BuildManifest.Proofs.Tree.Canonical

/-!
# Lists written with indices

A list of a manifest may be written as the mapping from positions to its items, which is what the
flat dialect makes of lines that append.  Here that is done to the lists of a manifest that have a
meaning: the sections, the references, and the patches of an entry that has a name.

## What is here

* `Mapping.mapValues` — the values of a mapping changed; look-up, insertion and removal commute
  with a change that does the same for keys that are the same.
* `Tree.indexLists` — the lists at some of the places written with indices.
* `foldlM_assign_append` — lines of the flat dialect that append build a list in that form.
* `indexLists_indexLists` — once all are, it does not matter which of them were before.
* `normalize_indexLists` — **normalizing commutes with writing all lists with indices**.
-/

set_option autoImplicit false

namespace BuildManifest

open BuildManifest.Tree (isIndexKey_of_same)

namespace Mapping

variable {entries done list : Mapping} {key value : Tree} {change : Tree → Tree → Tree}

/-- Change every value, given its key. -/
def mapValues (change : Tree → Tree → Tree) (entries : Mapping) : Mapping :=
  entries.map fun entry => (entry.1, change entry.1 entry.2)

theorem mapValues_cons (first : Tree × Tree) (rest : Mapping) :
    mapValues change (first :: rest) = (first.1, change first.1 first.2) :: mapValues change rest :=
  rfl

@[simp] theorem keys_mapValues : keys (mapValues change entries) = keys entries := by
  rw [keys, keys, mapValues, List.map_map]
  rfl

/-- The change is the same for keys that are the same. -/
def Stable (change : Tree → Tree → Tree) : Prop :=
  ∀ key present : Tree, key.same present = true → change present = change key

theorem find?_mapValues (stable : Stable change) :
    find? (mapValues change entries) key = (find? entries key).map (change key) := by
  induction entries with
  | nil => rfl
  | cons first rest ih =>
    obtain ⟨present, old⟩ := first
    rw [mapValues_cons, find?_cons, find?_cons, ih]
    by_cases same : key.same present = true
    · rw [if_pos same, if_pos same, stable key present same, Option.map_some]
    · rw [if_neg same, if_neg same]

theorem insert_mapValues (stable : Stable change) :
    insert (mapValues change entries) key (change key value) =
      mapValues change (insert entries key value) := by
  induction entries with
  | nil => rfl
  | cons first rest ih =>
    obtain ⟨present, old⟩ := first
    rw [mapValues_cons, insert, insert, ih]
    by_cases same : key.same present = true
    · rw [if_pos same, if_pos same, mapValues_cons, stable key present same]
    · rw [if_neg same, if_neg same, mapValues_cons]

theorem erase_mapValues : erase (mapValues change entries) key =
    mapValues change (erase entries key) := by
  induction entries with
  | nil => rfl
  | cons first rest ih =>
    obtain ⟨present, old⟩ := first
    rw [mapValues_cons, erase, erase, ih]
    by_cases same : key.same present = true
    · rw [if_pos same, if_pos same, mapValues, List.getLast?_map]
      cases rest.getLast? with
      | none => rfl
      | some last => exact congrArg _ (List.map_dropLast ..).symm
    · rw [if_neg same, if_neg same, mapValues_cons]

theorem insertAll_mapValues (stable : Stable change) :
    insertAll (mapValues change done) (mapValues change list) =
      mapValues change (insertAll done list) := by
  induction list generalizing done with
  | nil => rfl
  | cons first rest ih =>
    rw [mapValues_cons, insertAll_cons, insertAll_cons, insert_mapValues stable, ih]

theorem ofList_mapValues (stable : Stable change) :
    ofList (mapValues change list) = mapValues change (ofList list) :=
  @insertAll_mapValues [] list change stable

/-- A second change that makes the first one irrelevant. -/
theorem mapValues_mapValues {change' : Tree → Tree → Tree}
    (absorbs : ∀ entry ∈ entries,
      change' entry.1 (change entry.1 entry.2) = change' entry.1 entry.2) :
    mapValues change' (mapValues change entries) = mapValues change' entries := by
  rw [mapValues, mapValues, mapValues, List.map_map]
  exact List.map_congr_left fun entry member => congrArg (Prod.mk entry.1) (absorbs entry member)

theorem mapValues_eq_self (fixed : ∀ entry ∈ entries, change entry.1 entry.2 = entry.2) :
    mapValues change entries = entries := by
  rw [mapValues, List.map_congr_left (g := id) fun entry member => ?_, List.map_id]
  exact congrArg (Prod.mk entry.1) (fixed entry member)

end Mapping

namespace Tree

open Mapping (mapValues Stable)

variable {attributes entries : Mapping} {key value : Tree} {chosen : List Tree → Bool}

/-! ## Lists at some places -/

/-- A value with its list written with indices, if it is chosen. -/
def indexedIf (chosen : Bool) (value : Tree) : Tree := if chosen then value.indexed else value

/-- The key gives the patches of an entry. -/
def GivesPatches (key : Tree) : Prop := key.text? = some "patch" ∨ key.text? = some "patches"

instance (key : Tree) : Decidable key.GivesPatches :=
  inferInstanceAs (Decidable (key.text? = some "patch" ∨ key.text? = some "patches"))

theorem givesPatches_iff :
    key.GivesPatches ↔ key.text? = some "patch" ∨ key.text? = some "patches" := Iff.rfl

/-- The value of an attribute, of which patches may be a list. -/
def indexAttribute (chosen : Tree → Bool) (key value : Tree) : Tree :=
  if key.GivesPatches then indexedIf (chosen key) value else value

/-- An entry, of which one that has a name may give its patches as lists. -/
def indexEntry (chosen : Tree → Bool) (key value : Tree) : Tree :=
  match value with
  | .mapping attributes =>
    if key.isIndexKey then value else .mapping (mapValues (indexAttribute chosen) attributes)
  | other => other

/-- A section, which may be a list, and with it its entries. -/
def indexSection (chosen : List Tree → Bool) : Tree → Tree
  | .mapping entries =>
    .mapping (mapValues (fun key => indexEntry (fun one => chosen [key, one]) key) entries)
  | other => indexedIf (chosen []) other

/-- The keys of a manifest that hold references. -/
def referenceLists : List String := ["includes", "overrides"]

/-- What a manifest has under a key. -/
def indexField (chosen : List Tree → Bool) (key value : Tree) : Tree :=
  match key with
  | .string name =>
    if name ∈ entrySections then indexSection (fun path => chosen (key :: path)) value
    else if name ∈ referenceLists then indexedIf (chosen [key]) value
    else value
  | _ => value

/-- **The chosen lists of a manifest written with indices.**  A list is chosen by the keys that
lead to it: both sections, the references, and the patches of every entry that has a name. -/
def indexLists (chosen : List Tree → Bool) : Tree → Tree
  | .mapping root => .mapping (mapValues (indexField chosen) root)
  | tree => tree

/-- Every list is chosen. -/
def everyList (_path : List Tree) : Bool := true

/-! ## Lines that append -/

section Appending

open Ini (assign nextIndex indexAfter)

variable {root : Mapping} {done : List Tree}

theorem nextIndex_indexedFrom (first : Nat) (items : List Tree) :
    nextIndex (indexedFrom first items) = if items = [] then 0 else first + items.length := by
  induction items generalizing first with
  | nil => rfl
  | cons item rest ih =>
    rw [indexedFrom, nextIndex, ih, if_neg (List.cons_ne_nil item rest), List.length_cons]
    have here : indexAfter (.number (.int first)) = first + 1 := Int.toNat_natCast (first + 1)
    rw [here]
    split
    · next none_ => simp [none_]
    · omega

theorem indexedFrom_append (first : Nat) (items others : List Tree) :
    indexedFrom first (items ++ others) =
      indexedFrom first items ++ indexedFrom (first + items.length) others := by
  induction items generalizing first with
  | nil => rfl
  | cons item rest ih =>
    rw [List.cons_append, indexedFrom, ih, indexedFrom, List.cons_append, List.length_cons]
    congr 3
    omega

/-- **An item appended** to a list written with indices is the next one of that list. -/
theorem assign_append (items : List Tree) (item : Tree) :
    assign (indexedFrom 0 items) [.append] item = .ok (indexedFrom 0 (items ++ [item])) := by
  have next : nextIndex (indexedFrom 0 items) = items.length := by
    rw [nextIndex_indexedFrom]
    split
    · next none_ => rw [none_]; rfl
    · exact Nat.zero_add _
  have apart := Mapping.apart_indexedFrom 0 (items ++ [item])
  rw [indexedFrom_append, Nat.zero_add] at apart
  have absent : Mapping.find? (indexedFrom 0 items) (.number (.int items.length)) = none :=
    Mapping.find?_eq_none_iff_forall.2 fun entry member =>
      (List.pairwise_append.1 apart).2.2 entry member _ List.mem_cons_self
  rw [assign, Ini.Segment.keyIn, next, Mapping.insert_of_find?_eq_none absent, indexedFrom_append,
    Nat.zero_add]
  rfl

/-- Lines that append go on with a list that is there. -/
theorem foldlM_assign_append_of_some {name : String} (items : List Tree)
    (found : Mapping.get? root name = some (.mapping (indexedFrom 0 done))) :
    items.foldlM (fun entries item => assign entries [.named (.string name), .append] item) root =
      .ok (Mapping.insert root (.string name) (.mapping (indexedFrom 0 (done ++ items)))) := by
  induction items generalizing root done with
  | nil =>
    rw [List.append_nil, Mapping.insert_of_find?_eq_some found]
    rfl
  | cons item rest ih =>
    have step : assign root [.named (.string name), .append] item =
        .ok (Mapping.insert root (.string name) (.mapping (indexedFrom 0 (done ++ [item])))) := by
      rw [assign]
      · have found' : Mapping.find? root (.string name) = _ := found
        simp only [Ini.Segment.keyIn, found', assign_append]
        rfl
      · exact nofun
    rw [List.foldlM_cons, step]
    refine (ih (Mapping.find?_insert_self (textual_string name))).trans ?_
    rw [List.append_assoc, Mapping.insert_insert (textual_string name)]
    rfl

/-- **Lines that append build a list** in the form with indices. -/
theorem foldlM_assign_append {name : String} {items : List Tree} (some_ : items ≠ [])
    (absent : Mapping.get? root name = none) :
    items.foldlM (fun entries item => assign entries [.named (.string name), .append] item) root =
      .ok (Mapping.insert root (.string name) (Tree.sequence items).indexed) := by
  cases items with
  | nil => exact absurd rfl some_
  | cons item rest =>
    have step : assign root [.named (.string name), .append] item =
        .ok (Mapping.insert root (.string name) (.mapping (indexedFrom 0 [item]))) := by
      rw [assign]
      · have absent' : Mapping.find? root (.string name) = none := absent
        have first : assign [] [.append] item = .ok (indexedFrom 0 [item]) := assign_append [] item
        simp only [Ini.Segment.keyIn, absent', first]
        rfl
      · exact nofun
    rw [List.foldlM_cons, step]
    refine (foldlM_assign_append_of_some rest
      (Mapping.find?_insert_self (textual_string name))).trans ?_
    rw [Mapping.insert_insert (textual_string name)]
    rfl

end Appending

/-! ## All lists after some -/

theorem indexed_indexedIf (chosen : Bool) (value : Tree) :
    (indexedIf chosen value).indexed = value.indexed := by
  cases chosen with
  | false => rfl
  | true => exact indexed_indexed value

theorem indexAttribute_indexAttribute (chosen : Tree → Bool) (key value : Tree) :
    indexAttribute (fun _ => true) key (indexAttribute chosen key value) =
      indexAttribute (fun _ => true) key value := by
  rw [indexAttribute, indexAttribute, indexAttribute]
  split
  · exact indexed_indexedIf (chosen key) value
  · rfl

theorem indexEntry_indexEntry (chosen : Tree → Bool) (key value : Tree) :
    indexEntry (fun _ => true) key (indexEntry chosen key value) =
      indexEntry (fun _ => true) key value := by
  cases value with
  | mapping attributes =>
    by_cases index : key.isIndexKey = true
    · simp only [indexEntry, if_pos index]
    · simp only [indexEntry, if_neg index]
      rw [Mapping.mapValues_mapValues fun entry _ =>
        indexAttribute_indexAttribute chosen entry.1 entry.2]
  | _ => rfl

theorem indexEntry_of_isIndexKey {chosen : Tree → Bool} (index : key.isIndexKey = true)
    (value : Tree) : indexEntry chosen key value = value := by
  cases value with
  | mapping attributes => rw [indexEntry, if_pos index]
  | _ => rfl

theorem indexSection_indexed (value : Tree) :
    indexSection everyList value.indexed = indexSection everyList value := by
  cases value with
  | sequence items =>
    refine congrArg mapping (Mapping.mapValues_eq_self fun entry member => ?_)
    obtain ⟨position, -, eq⟩ := Mapping.le_of_mem_keys_indexedFrom (List.mem_map_of_mem member)
    rw [eq]
    exact indexEntry_of_isIndexKey rfl _
  | _ => rfl

theorem indexSection_indexedIf (chosen : Bool) (value : Tree) :
    indexSection everyList (indexedIf chosen value) = indexSection everyList value := by
  rw [← indexSection_indexed, indexed_indexedIf, indexSection_indexed]

theorem indexSection_indexSection (chosen : List Tree → Bool) (value : Tree) :
    indexSection everyList (indexSection chosen value) = indexSection everyList value := by
  cases value with
  | mapping entries =>
    refine congrArg mapping (Mapping.mapValues_mapValues fun entry _ => ?_)
    exact indexEntry_indexEntry _ entry.1 entry.2
  | _ => exact indexSection_indexedIf _ _

/-- **Once all lists are written with indices**, it does not matter which of them were before. -/
theorem indexLists_indexLists (chosen : List Tree → Bool) (tree : Tree) :
    indexLists everyList (indexLists chosen tree) = indexLists everyList tree := by
  cases tree with
  | mapping root =>
    refine congrArg mapping (Mapping.mapValues_mapValues fun entry _ => ?_)
    obtain ⟨key, value⟩ := entry
    cases key with
    | string name =>
      simp only [indexField]
      split
      · exact indexSection_indexSection _ value
      · split
        · exact indexed_indexedIf _ value
        · rfl
    | _ => rfl
  | _ => rfl

/-! ## Normalizing -/

/-- Keys that are the same have one text, if any. -/
theorem text?_of_same {present : Tree} (same : key.same present = true) :
    present.text? = key.text? := by
  by_cases textual : key.Textual
  · rw [(same_iff_of_textual textual).1 same]
  · have none_ {tree : Tree} (plain : ¬tree.Textual) : tree.text? = none := by
      rwa [Textual, Bool.not_eq_true, Option.isSome_eq_false_iff, Option.isNone_iff_eq_none]
        at plain
    rw [none_ textual, none_ fun textual' => textual (textual_of_same textual' same)]

theorem stable_indexAttribute : Stable (indexAttribute fun _ => true) := by
  intro key present same
  funext value
  have gives : present.GivesPatches ↔ key.GivesPatches := by
    rw [givesPatches_iff, givesPatches_iff, text?_of_same same]
  exact if_congr gives rfl rfl

theorem stable_indexEntry : Stable (indexEntry fun _ => true) := by
  intro key present same
  funext value
  cases value with
  | mapping attributes => rw [indexEntry, indexEntry, isIndexKey_of_same same]
  | _ => rfl

theorem stable_indexField : Stable (indexField everyList) := by
  intro key present same
  funext value
  cases key with
  | string name => rw [(same_iff_of_textual (textual_string name)).1 same]
  | _ =>
    cases present with
    | string name => cases (same_iff_of_textual_right (textual_string name)).1 same
    | _ => rfl

theorem indexAttribute_string (name : String) (value : Tree) :
    indexAttribute (fun _ => true) (.string name) value =
      if name = "patch" ∨ name = "patches" then value.indexed else value := by
  refine if_congr ?_ rfl rfl
  simp [givesPatches_iff, text?, untagged]

/-- A merge of two values that are no lists is no list. -/
theorem indexed_merge_indexed (lower upper : Tree) :
    (lower.indexed.merge upper.indexed).indexed = lower.indexed.merge upper.indexed :=
  merge_induction (fun tree => tree.indexed = tree) (indexed_indexed lower) (indexed_indexed upper)
    fun _ _ _ _ => rfl

theorem foldPatch_mapValues :
    foldPatch (mapValues (indexAttribute fun _ => true) attributes) =
      mapValues (indexAttribute fun _ => true) (foldPatch attributes) := by
  have stable := stable_indexAttribute
  have find (entries : Mapping) (name : String) (patch : name = "patch" ∨ name = "patches") :
      Mapping.get? (mapValues (indexAttribute fun _ => true) entries) name =
        (Mapping.get? entries name).map indexed := by
    rw [Mapping.get?, Mapping.find?_mapValues stable, Mapping.get?]
    refine congrArg (Option.map · _) (funext fun value => ?_)
    rw [indexAttribute_string, if_pos patch]
  have put (entries : Mapping) (value : Tree) :
      Mapping.insert (mapValues (indexAttribute fun _ => true) entries) (.string "patches")
          value.indexed =
        mapValues (indexAttribute fun _ => true) (Mapping.insert entries (.string "patches")
          value) := by
    rw [← Mapping.insert_mapValues stable, indexAttribute_string, if_pos (.inr rfl)]
  rw [foldPatch, foldPatch, find _ _ (.inl rfl)]
  cases Mapping.get? attributes "patch" with
  | none => rfl
  | some patch =>
    simp only [Option.map_some]
    rw [Mapping.erase_mapValues, find _ _ (.inr rfl)]
    cases Mapping.get? (Mapping.erase attributes (.string "patch")) "patches" with
    | none => exact put _ patch
    | some patches =>
      simp only [Option.map_some]
      rw [Mapping.erase_mapValues, ← put, indexed_indexed, indexed_indexed,
        indexed_merge_indexed]

theorem expandDownload_mapValues :
    expandDownload (mapValues (indexAttribute fun _ => true) attributes) =
      mapValues (indexAttribute fun _ => true) (expandDownload attributes) := by
  have stable := stable_indexAttribute
  have plain (value : Tree) :
      indexAttribute (fun _ => true) (.string "download") value = value := by
    rw [indexAttribute_string, if_neg (by decide)]
  rw [expandDownload, expandDownload, Mapping.get?, Mapping.find?_mapValues stable,
    funext plain, Option.map_id', Mapping.get?]
  split
  · next url found => rw [← Mapping.insert_mapValues stable, plain]
  · rfl

theorem indexEntry_version (chosen : Tree → Bool) (key : Tree) (version : String) :
    indexEntry chosen key (.mapping [(.string "version", .string version)]) =
      .mapping [(.string "version", .string version)] := by
  by_cases index : key.isIndexKey = true
  · exact indexEntry_of_isIndexKey index _
  · rw [indexEntry, if_neg index]
    rfl

theorem expandEntry_indexEntry (named : key.isIndexKey = false) (value : Tree) :
    expandEntry (indexEntry (fun _ => true) key value) =
      indexEntry (fun _ => true) key (expandEntry value) := by
  have plain : ¬key.isIndexKey = true := by simp [named]
  cases value with
  | mapping attributes =>
    rw [indexEntry, if_neg plain, expandEntry, expandEntry, indexEntry, if_neg plain,
      normalizeAttributes, foldPatch_mapValues, expandDownload_mapValues, normalizeAttributes]
  | null =>
    rw [expandEntry, indexEntry, if_neg plain]
    rfl
  | sequence items => rfl
  | tagged name content => rfl
  | _ => exact (indexEntry_version _ key _).symm

/-- An entry is carried over alike, whether or not its lists are written with indices. -/
theorem Carries.indexEntry {declared seen next : List String} {first : Tree × Tree}
    (carries : Carries declared seen (key, value) first next) :
    Carries declared seen (key, indexEntry (fun _ => true) key value)
      (first.1, Tree.indexEntry (fun _ => true) first.1 first.2) next := by
  cases carries with
  | stays index taken =>
    rw [indexEntry_of_isIndexKey index]
    exact .stays index taken
  | @named _ _ name index text undeclared unseen =>
    have nothing : Tree.indexEntry (fun _ => true) (.string name) (.mapping []) = .mapping [] := by
      rw [Tree.indexEntry]
      split <;> rfl
    rw [indexEntry_of_isIndexKey index, nothing]
    exact .named index text undeclared unseen
  | expands named =>
    rw [← expandEntry_indexEntry named]
    exact .expands named

theorem carried_mapValues (declared seen : List String) :
    carried declared seen (mapValues (indexEntry fun _ => true) entries) =
      mapValues (indexEntry fun _ => true) (carried declared seen entries) := by
  induction entries generalizing seen with
  | nil => rfl
  | cons first rest ih =>
    rw [Mapping.mapValues_cons, carried, carried, Mapping.mapValues_cons, ← ih,
      carry_of_carries (Carries.indexEntry carries_carry)]

theorem canonicalEntries_mapValues :
    canonicalEntries (mapValues (indexEntry fun _ => true) entries) =
      mapValues (indexEntry fun _ => true) (canonicalEntries entries) := by
  have declared : declaredNames (mapValues (indexEntry fun _ => true) entries) =
      declaredNames entries := by
    rw [declaredNames, declaredNames, Mapping.keys_mapValues]
  rw [canonicalEntries, canonicalEntries, declared, carried_mapValues]
  exact Mapping.ofList_mapValues stable_indexEntry

theorem normalizeSection_indexSection (value : Tree) :
    normalizeSection (indexSection everyList value) =
      indexSection everyList (normalizeSection value) := by
  by_cases shape : ∃ entries, value.indexed = .mapping entries
  · obtain ⟨entries, eq⟩ := shape
    rw [← indexSection_indexed, ← normalizeSection_indexed value, eq, normalizeSection_mapping]
    exact (normalizeSection_mapping _).trans (congrArg mapping canonicalEntries_mapValues)
  · have other := fun entries eq => shape ⟨entries, eq⟩
    rw [normalizeSection_of_indexed other]
    cases value with
    | sequence items => exact absurd rfl (other _)
    | mapping entries => exact absurd rfl (other _)
    | _ => rfl

theorem changeKey_mapValues {root : Mapping} {name : String} (member : name ∈ entrySections) :
    changeKey normalizeSection (mapValues (indexField everyList) root) name =
      mapValues (indexField everyList) (changeKey normalizeSection root name) := by
  have under (value : Tree) :
      indexField everyList (.string name) value = indexSection everyList value := if_pos member
  rw [changeKey, changeKey, Mapping.get?, Mapping.find?_mapValues stable_indexField, Mapping.get?]
  cases Mapping.find? root (.string name) with
  | none => rfl
  | some value =>
    rw [Option.map_some, under]
    dsimp only
    rw [normalizeSection_indexSection, ← under, Mapping.insert_mapValues stable_indexField]

/-- **Normalizing commutes with writing all lists with indices.** -/
theorem normalize_indexLists (tree : Tree) :
    (indexLists everyList tree).normalize = indexLists everyList tree.normalize := by
  cases tree with
  | mapping root =>
    refine congrArg mapping ?_
    rw [entrySections, List.foldl_cons, List.foldl_cons, List.foldl_nil,
      changeKey_mapValues (by decide), changeKey_mapValues (by decide)]
    rfl
  | _ => rfl

end Tree

end BuildManifest
