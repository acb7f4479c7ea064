import BuildManifest.Manifest.ToTree
import BuildManifest.Proofs.Manifest.Canonical
import BuildManifest.Proofs.Manifest.Fitting
import BuildManifest.Proofs.Manifest.Legible

/-!
# What is written can be read again

A manifest is written without shorthands: every entry is a mapping, patches have labels, and a
download is a record.  So normalizing leaves it as it is, and reading it gives every part back.
Only the exact release of the platform and the dialect are not read: a manifest that is read has
neither from its tree.

## What is here

* `record` — a mapping of the fields that are set, which is what all writers give.
* `Download.ofTree_toTree`, `Patch.ofTree_toTree`, `Entry.ofMapping_attributes` — the parts.
* `Manifest.normalize_toTree` — what is written is in its canonical shape.
* `Manifest.ofTree_normalize_toTree` — **what is written reads as what it was written from**.
-/

set_option autoImplicit false

namespace BuildManifest

variable {entries : Mapping} {name : String}

/-! ## Records of the fields that are set -/

/-- What is written of something that may be empty. -/
def filled (isEmpty : Bool) (tree : Tree) : Option Tree := if isEmpty then none else some tree

theorem filledEntry_eq (name : String) (isEmpty : Bool) (tree : Tree) :
    filledEntry name isEmpty tree = fieldEntry name (filled isEmpty tree) := by
  cases isEmpty <;> rfl

theorem getD_filled (isEmpty : Bool) (tree : Tree) :
    (filled isEmpty tree).getD .null = if isEmpty then .null else tree := by
  cases isEmpty <;> rfl

/-- The fields that are set, under their names. -/
def record (fields : List (String × Option Tree)) : Mapping :=
  fields.flatMap fun field => fieldEntry field.1 field.2

section

variable {fields : List (String × Option Tree)} {value : Option Tree} {pair : Tree × Tree}

theorem mem_fieldEntry_iff :
    pair ∈ fieldEntry name value ↔ ∃ tree, value = some tree ∧ pair = (.string name, tree) := by
  cases value with
  | none => simp [fieldEntry]
  | some tree => simp [fieldEntry]

theorem mem_record_iff : pair ∈ record fields ↔
    ∃ name tree, (name, some tree) ∈ fields ∧ pair = (.string name, tree) := by
  rw [record, List.mem_flatMap]
  constructor
  · rintro ⟨⟨name, value⟩, member, inside⟩
    obtain ⟨tree, rfl, rfl⟩ := mem_fieldEntry_iff.1 inside
    exact ⟨name, tree, member, rfl⟩
  · rintro ⟨name, tree, member, rfl⟩
    exact ⟨(name, some tree), member, mem_fieldEntry_iff.2 ⟨tree, rfl, rfl⟩⟩

theorem plainNames_record (fields : List (String × Option Tree)) : PlainNames (record fields) := by
  intro key member
  obtain ⟨pair, inside, rfl⟩ := List.mem_map.1 member
  obtain ⟨name, tree, -, rfl⟩ := mem_record_iff.1 inside
  exact ⟨name, rfl⟩

/-- Fields of different names have different keys. -/
theorem pairwise_record (distinct : (fields.map Prod.fst).Nodup) :
    (record fields).Pairwise fun a b => a.1 ≠ b.1 := by
  induction fields with
  | nil => exact List.Pairwise.nil
  | cons field rest ih =>
    obtain ⟨name, value⟩ := field
    obtain ⟨fresh, distinct'⟩ := List.nodup_cons.1 distinct
    cases value with
    | none => exact ih distinct'
    | some tree =>
      refine List.pairwise_cons.2 ⟨fun pair member => ?_, ih distinct'⟩
      obtain ⟨other, value, inside, rfl⟩ := mem_record_iff.1 member
      rintro same
      cases same
      exact fresh (List.mem_map.2 ⟨_, inside, rfl⟩)

theorem once_record (distinct : (fields.map Prod.fst).Nodup) (key : Tree) :
    Mapping.Once (record fields) key :=
  (pairwise_record distinct).imp fun ne same => ne (same.1.trans same.2.symm)

theorem get?_record_cons (name : String) (value : Option Tree) (wanted : String) :
    Mapping.get? (record ((name, value) :: fields)) wanted =
      if name = wanted then value.or (Mapping.get? (record fields) wanted)
      else Mapping.get? (record fields) wanted := by
  cases value with
  | none => exact (ite_self _).symm
  | some tree =>
    rw [record, List.flatMap_cons, fieldEntry, List.singleton_append, Mapping.get?,
      Mapping.find?_cons, Tree.same]
    exact if_congr (beq_iff_eq.trans eq_comm) rfl rfl

theorem get?_record_of_not_mem (absent : name ∉ fields.map Prod.fst) :
    Mapping.get? (record fields) name = none := by
  induction fields with
  | nil => rfl
  | cons field rest ih =>
    obtain ⟨ne, later⟩ := not_or.1 (mt List.mem_cons.2 absent)
    rw [get?_record_cons, if_neg (Ne.symm ne), ih later]

/-- **A field has the value that it was given.** -/
theorem get?_record (distinct : (fields.map Prod.fst).Nodup) (member : (name, value) ∈ fields) :
    Mapping.get? (record fields) name = value := by
  induction fields with
  | nil => cases member
  | cons field rest ih =>
    obtain ⟨fresh, distinct⟩ := List.nodup_cons.1 distinct
    rw [get?_record_cons]
    rcases List.mem_cons.1 member with rfl | later
    · rw [if_pos rfl, get?_record_of_not_mem fresh, Option.or_none]
    · rw [if_neg, ih distinct later]
      rintro rfl
      exact fresh (List.mem_map.2 ⟨_, later, rfl⟩)

end

/-! ## Texts that may be missing -/

section

variable (text : Option String)

theorem optionalString?_getD :
    ((text.map Tree.string).getD .null).optionalString? = some text := by
  cases text <;> rfl

theorem optionalScalar?_getD :
    ((text.map Tree.string).getD .null).optionalScalar? = some text := by
  cases text <;> rfl

theorem readText_getD : readText ((text.map Tree.string).getD .null) = .ok text := by
  cases text <;> rfl

end

/-! ## Downloads and patches -/

/-- The fields of a download as they are written. -/
def Download.fields (download : Download) : List (String × Option String) :=
  [("type", download.kind.map DownloadKind.text), ("url", download.url),
    ("branch", download.branch), ("tag", download.tag), ("revision", download.revision)]

theorem Download.toTree_eq (download : Download) : download.toTree =
    .mapping (record (download.fields.map fun one => (one.1, one.2.map .string))) := by
  simp [toTree, fields, record, Function.comp_def]

theorem Download.hasTag_toTree (download : Download) : download.toTree.hasTag = false := by
  rw [toTree_eq, Tree.hasTag, Tree.entriesHaveTag_eq_false_iff]
  intro pair member
  obtain ⟨name, tree, inside, rfl⟩ := mem_record_iff.1 member
  obtain ⟨one, -, eq⟩ := List.mem_map.1 inside
  obtain ⟨text, -, rfl⟩ := Option.map_eq_some_iff.1 (Prod.mk.inj eq).2
  exact ⟨rfl, rfl⟩

/-- **A download reads as it was written**, if its kind goes by its own name. -/
theorem Download.ofTree_toTree {download : Download} (legible : download.Legible) :
    ofTree download.toTree = .ok download := by
  let written := download.fields.map fun one => (one.1, one.2.map Tree.string)
  have distinct : (written.map Prod.fst).Nodup := by simp [written, fields]
  have plain : PlainNames (record written) := plainNames_record _
  have once : Fields.areRecord fieldNames (record written) = true :=
    (Fields.areRecord_iff plain).2 fun name _ => once_record distinct _
  have field {name : String} {text : Option String} (member : (name, text) ∈ download.fields) :
      Fields.value fieldNames (record written) name = (text.map .string).getD .null := by
    rw [Fields.value_eq plain, get?_record distinct (List.mem_map.2 ⟨_, member, rfl⟩)]
  have kind : (download.kind.map DownloadKind.text).map DownloadKind.ofText = download.kind := by
    cases given : download.kind with
    | none => rfl
    | some kind => exact congrArg some (legible kind given)
  rw [ofTree, hasTag_toTree, if_neg Bool.false_ne_true, toTree_eq]
  rw [ofUntagged?, ofRecord?, if_pos once]
  dsimp only
  rw [field (.head _), field (.tail _ (.head _)), field (.tail _ (.tail _ (.head _))),
    field (.tail _ (.tail _ (.tail _ (.head _)))),
    field (.tail _ (.tail _ (.tail _ (.tail _ (.head _)))))]
  simp only [optionalString?_getD, optionalScalar?_getD]
  exact congrArg Except.ok (by rw [kind])

/-- **A patch reads as it was written.** -/
theorem Patch.ofTree_toTree (patch : Patch) : ofTree patch.toTree = .ok patch := by
  cases patch with
  | bare url => rfl
  | detailed url md5 => cases md5 <;> rfl

/-! ## Labelled values -/

namespace Labelled

variable {α : Type} {entries : List (String × α)} {label : String} {value : α}

/-- A label after all others is placed at the end. -/
theorem place_of_forall_lt (above : ∀ entry ∈ entries, entry.1 < label) :
    place label value entries = entries ++ [(label, value)] := by
  induction entries with
  | nil => rfl
  | cons first rest ih =>
    obtain ⟨present, old⟩ := first
    obtain ⟨here, later⟩ := List.forall_mem_cons.1 above
    rw [place, if_neg fun less => String.lt_irrefl _ (String.lt_trans here less),
      if_neg (String.ne_of_lt here).symm, ih later]
    rfl

/-- Values under the same labels are the same. -/
theorem eq_of_entries {a b : Labelled α} (h : a.entries = b.entries) : a = b := by
  cases a
  cases b
  congr

theorem eq_empty_of_isEmpty {labelled : Labelled α} (none_ : labelled.isEmpty = true) :
    labelled = .empty := eq_of_entries (List.isEmpty_iff.1 none_)

/-- **Labelled values come back** when they are inserted one after the other. -/
theorem foldl_insert_entries {done : Labelled α} {list : List (String × α)}
    (increasing : (done.entries ++ list).Pairwise fun a b => a.1 < b.1) :
    (list.foldl (fun done entry => done.insert entry.1 entry.2) done).entries =
      done.entries ++ list := by
  induction list generalizing done with
  | nil => exact (List.append_nil _).symm
  | cons first rest ih =>
    obtain ⟨label, value⟩ := first
    have grown : (done.insert label value).entries = done.entries ++ [(label, value)] :=
      place_of_forall_lt fun entry member =>
        (List.pairwise_append.1 increasing).2.2 entry member _ List.mem_cons_self
    have all : (done.insert label value).entries ++ rest =
        done.entries ++ (label, value) :: rest := by
      rw [grown, List.append_assoc]
      rfl
    rw [List.foldl_cons, ih (all ▸ increasing), all]

theorem ofList_entries (labelled : Labelled α) : ofList labelled.entries = labelled :=
  eq_of_entries (foldl_insert_entries labelled.increasing)

end Labelled

theorem Patch.readLabelled_map (done : Labelled Patch) (list : List (String × Patch)) :
    readLabelled done (list.map fun entry => (.string entry.1, entry.2.toTree)) =
      .ok (list.foldl (fun done entry => done.insert entry.1 entry.2) done) := by
  induction list generalizing done with
  | nil => rfl
  | cons first rest ih =>
    rw [List.map_cons, readLabelled, ofTree_toTree]
    exact ih _

/-- **Patches read as they were written.** -/
theorem Patch.allOfTree_toTree (patches : Labelled Patch) :
    allOfTree (patches.toTree Patch.toTree) = .ok patches :=
  (readLabelled_map .empty patches.entries).trans (congrArg Except.ok patches.ofList_entries)

/-! ## Entries -/

namespace Entry

variable {entry : Entry}

/-- What an attribute is written as. -/
def treeOf (entry : Entry) : Attribute → Option Tree
  | .version => entry.version.map .string
  | .kind => entry.kind.map .string
  | .download => entry.download.map Download.toTree
  | .subdir => entry.subdir.map .string
  | .directoryName => entry.directoryName.map .string
  | .contribDestination => entry.contribDestination.map .string
  | .destination => entry.destination.map .string
  | .patches => filled entry.patches.isEmpty (entry.patches.toTree Patch.toTree)
  | .workingCopy => entry.workingCopy.map .bool

/-- The attributes that are interpreted, as they are written. -/
def fields (entry : Entry) : List (String × Option Tree) :=
  Attribute.all.map fun one => (one.name, entry.treeOf one)

/-- All attributes, as they are written. -/
def attributes (entry : Entry) : Mapping := record entry.fields ++ entry.extra

theorem toTree_eq (entry : Entry) : entry.toTree = .mapping entry.attributes := by
  simp [toTree, filledEntry_eq, attributes, fields, record, Attribute.all, Attribute.name, treeOf]

theorem distinct_fields (entry : Entry) : (entry.fields.map Prod.fst).Nodup := by
  simp [fields, Attribute.all, Attribute.name]

theorem mem_fields (entry : Entry) (one : Attribute) :
    (one.name, entry.treeOf one) ∈ entry.fields :=
  List.mem_map_of_mem (by cases one <;> decide)

/-- **Every attribute reads as it was written.** -/
theorem readsAs_treeOf (legible : entry.Legible) (one : Attribute) :
    one.ReadsAs ((entry.treeOf one).getD .null) entry := by
  cases one with
  | download =>
    rw [treeOf, Attribute.ReadsAs]
    cases given : entry.download with
    | none => rfl
    | some download =>
      have read := Download.ofTree_toTree (legible.download download given)
      rw [Option.map_some, Option.getD_some]
      rw [Download.toTree] at read ⊢
      exact congrArg (Except.map some) read
  | patches =>
    rw [treeOf, Attribute.ReadsAs, getD_filled]
    split
    · next none_ => rw [Labelled.eq_empty_of_isEmpty none_]; rfl
    · exact Patch.allOfTree_toTree entry.patches
  | workingCopy =>
    rw [treeOf, Attribute.ReadsAs]
    cases entry.workingCopy <;> rfl
  | _ => exact readText_getD _

theorem exists_of_mem_record {pair : Tree × Tree} (member : pair ∈ record entry.fields) :
    ∃ one tree, entry.treeOf one = some tree ∧ pair = (.string one.name, tree) := by
  obtain ⟨name, tree, inside, rfl⟩ := mem_record_iff.1 member
  obtain ⟨one, -, eq⟩ := List.mem_map.1 inside
  obtain ⟨rfl, given⟩ := Prod.mk.inj eq
  exact ⟨one, tree, given, rfl⟩

theorem slot?_name (one : Attribute) (tree : Tree) : slot? (.string one.name, tree) = some one := by
  cases one <;> rfl

theorem slot?_extra (legible : entry.Legible) {pair : Tree × Tree} (member : pair ∈ entry.extra) :
    slot? pair = none := by
  obtain ⟨name, key, unknown, -⟩ := legible.extra pair member
  rw [slot?, key]
  exact unknown

/-- An attribute that is interpreted is given as it is written. -/
theorem given?_attributes (legible : entry.Legible) (once : GivesOnce entry.attributes)
    (one : Attribute) : given? entry.attributes one = entry.treeOf one := by
  cases written : entry.treeOf one with
  | some tree =>
    refine given?_of_mem once (List.mem_append_left _ ?_) (slot?_name one tree)
    exact mem_record_iff.2 ⟨one.name, tree, written ▸ entry.mem_fields one, rfl⟩
  | none =>
    refine given?_eq_none_iff.2 fun pair member slot => ?_
    rcases List.mem_append.1 member with field | extra
    · obtain ⟨other, tree, given, rfl⟩ := exists_of_mem_record field
      rw [slot?_name] at slot
      cases slot
      rw [written] at given
      cases given
    · rw [slot?_extra legible extra] at slot
      cases slot

/-- **What is written is what the entry is read from.** -/
theorem readFrom_attributes (legible : entry.Legible) : ReadFrom entry.attributes entry := by
  have once : GivesOnce entry.attributes := by
    refine List.pairwise_append.2 ⟨?_, ?_, fun a inside b extra => ?_⟩
    · refine List.Pairwise.imp_of_mem (fun {a b} first second ne => .inr fun same => ne ?_)
        (pairwise_record entry.distinct_fields)
      obtain ⟨one, tree, -, rfl⟩ := exists_of_mem_record first
      obtain ⟨other, tree', -, rfl⟩ := exists_of_mem_record second
      rw [slot?_name, slot?_name] at same
      cases same
      rfl
    · exact List.Pairwise.imp_of_mem (fun first _ _ => .inl (slot?_extra legible first))
        legible.apart
    · obtain ⟨one, tree, -, rfl⟩ := exists_of_mem_record inside
      rw [slot?_name, slot?_extra legible extra]
      exact .inr nofun
  have kept : extraOf entry.attributes = entry.extra := by
    have plain : PlainNames entry.attributes := by
      intro key member
      obtain ⟨pair, inside, rfl⟩ := List.mem_map.1 member
      rcases List.mem_append.1 inside with field | extra
      · exact plainNames_record _ _ (List.mem_map_of_mem field)
      · obtain ⟨name, eq, -⟩ := legible.extra pair extra
        exact ⟨name, eq⟩
    rw [extraOf_of_plainNames plain, uninterpreted, attributes, List.filter_append,
      List.filter_eq_nil_iff.2, List.nil_append, List.filter_eq_self.2]
    · intro pair member
      rw [slot?_extra legible member]
      rfl
    · intro pair member
      obtain ⟨one, tree, -, rfl⟩ := exists_of_mem_record member
      rw [slot?_name]
      exact Bool.false_ne_true
  refine ⟨fun pair member => ?_, once, fun one => ?_, kept.symm, kept.symm ▸ legible.apart⟩
  · rcases List.mem_append.1 member with field | extra
    · obtain ⟨one, tree, -, rfl⟩ := exists_of_mem_record field
      have known : Attribute.ofName? one.name = some one := slot?_name one tree
      refine ⟨one.name, rfl, fun unknown => ?_⟩
      rw [known] at unknown
      cases unknown
    · obtain ⟨name, key, -, untagged⟩ := legible.extra pair extra
      exact ⟨name, by rw [key]; rfl, fun _ => untagged⟩
  · rw [given?_attributes legible once]
    exact readsAs_treeOf legible one

/-- **An entry reads as it was written.** -/
theorem ofMapping_attributes (legible : entry.Legible) : ofMapping entry.attributes = .ok entry :=
  ofMapping_eq_ok_iff.2 (readFrom_attributes legible)

/-- What is written is written out: the patches go by `patches`, and the download is a record. -/
theorem canonical_attributes (legible : entry.Legible) :
    Tree.CanonicalAttributes entry.attributes := by
  have of_get? {name : String} {value : Tree}
      (found : Mapping.get? entry.attributes name = some value) :
      (∃ one : Attribute, one.name = name ∧ entry.treeOf one = some value) ∨
        Attribute.ofName? name = none := by
    have member := Mapping.mem_of_find? (Tree.textual_string name) found
    rcases List.mem_append.1 member with field | extra
    · obtain ⟨one, tree, given, eq⟩ := exists_of_mem_record field
      cases eq
      exact .inl ⟨one, rfl, given⟩
    · obtain ⟨other, key, unknown, -⟩ := legible.extra _ extra
      cases key
      exact .inr unknown
  refine ⟨Option.eq_none_iff_forall_ne_some.2 fun value found => ?_, fun url found => ?_⟩
  · rcases of_get? found with ⟨one, named, -⟩ | unknown
    · cases one <;> exact absurd named (by decide)
    · cases unknown
  · rcases of_get? found with ⟨one, named, given⟩ | unknown
    · cases one <;> first | exact absurd named (by decide) | skip
      obtain ⟨download, -, eq⟩ := Option.map_eq_some_iff.1 given
      cases eq
    · cases unknown

theorem expandEntry_toTree (legible : entry.Legible) :
    Tree.expandEntry entry.toTree = entry.toTree := by
  rw [toTree_eq]
  exact Tree.expandEntry_of_expanded (canonical_attributes legible)

end Entry

/-! ## Sections -/

namespace Section

variable {s : Section}

theorem readEntries_map {kind : SectionKind} {list : List (String × Entry)}
    (legible : ∀ one ∈ list, one.2.Legible) :
    readEntries kind (list.map fun one => (.string one.1, one.2.toTree)) = .ok list := by
  induction list with
  | nil => rfl
  | cons first rest ih =>
    obtain ⟨name, entry⟩ := first
    obtain ⟨here, later⟩ := List.forall_mem_cons.1 legible
    have read : readEntry (.string name) entry.toTree = .ok (name, entry) := by
      rw [Entry.toTree_eq, readEntry, Entry.ofMapping_attributes here]
      rfl
    rw [List.map_cons, readEntries, read, ih later]
    rfl

/-- **A section reads as it was written.** -/
theorem ofTree_toTree (kind : SectionKind) (legible : s.Legible) :
    ofTree kind s.toTree = .ok s :=
  congrArg (Except.map ofList) (readEntries_map legible)

/-- **A section is written in its canonical shape**, if no name is in it twice. -/
theorem normalizeSection_toTree (legible : s.Legible) (distinct : s.names.Nodup) :
    Tree.normalizeSection s.toTree = s.toTree := by
  have apart : Mapping.Apart (s.entries.map fun one => (Tree.string one.1, one.2.toTree)) := by
    refine List.pairwise_map.2 ((List.pairwise_map.1 distinct).imp fun {a b} ne => ?_)
    exact Bool.eq_false_iff.2 fun same => ne (eq_of_beq same).symm
  rw [toTree, Tree.normalizeSection_mapping]
  refine congrArg Tree.mapping ((Tree.canonicalEntries_eq_self_iff apart).2 ⟨?_, ?_⟩)
  · intro name member
    obtain ⟨pair, inside, item⟩ := Tree.mem_itemNames_iff.1 member
    obtain ⟨one, -, rfl⟩ := List.mem_map.1 inside
    have text := (Tree.itemName?_eq_some_iff.1 item).2
    rw [Entry.toTree_eq] at text
    cases text
  · intro pair member _
    obtain ⟨one, inside, rfl⟩ := List.mem_map.1 member
    exact Entry.expandEntry_toTree (legible one inside)

end Section

/-! ## References and defaults -/

/-- **A reference reads as it was written.** -/
theorem Reference.ofTree_toTree {reference : Reference} (legible : reference.Legible) :
    ofTree reference.toTree = .ok reference := by
  cases reference with
  | plain path => rfl
  | checkout makefile download =>
    obtain ⟨address, kind⟩ := legible
    have none_ : download.url.isNone = false := by
      rw [← Option.not_isSome, address]
      rfl
    have given : Mapping.get? [(.string "makefile", .string makefile),
        (.string "download", download.toTree)] "download" = some download.toTree := rfl
    have named : (Mapping.get? [(.string "makefile", .string makefile),
        (.string "download", download.toTree)] "makefile").bind Tree.scalarText? = some makefile :=
      rfl
    rw [toTree, ofTree, ofMapping, named, given]
    simp only [Download.ofTree_toTree kind, none_, Bool.false_eq_true, if_false]

theorem Reference.readAll_map {references : List Reference}
    (legible : ∀ one ∈ references, one.Legible) :
    readAll (references.map toTree) = .ok references := by
  induction references with
  | nil => rfl
  | cons first rest ih =>
    obtain ⟨here, later⟩ := List.forall_mem_cons.1 legible
    rw [List.map_cons, readAll, ofTree_toTree here, ih later]
    rfl

theorem Manifest.readSectionDefaults_map (done : Labelled Entry) {list : List (String × Entry)}
    (legible : ∀ one ∈ list, one.2.Legible) :
    readSectionDefaults done (list.map fun one => (.string one.1, one.2.toTree)) =
      .ok (list.foldl (fun done one => done.insert one.1 one.2) done) := by
  induction list generalizing done with
  | nil => rfl
  | cons first rest ih =>
    obtain ⟨here, later⟩ := List.forall_mem_cons.1 legible
    have read : Entry.ofTree first.2.toTree = .ok first.2 := by
      rw [Entry.toTree_eq]
      exact Entry.ofMapping_attributes here
    rw [List.map_cons, readSectionDefaults, read]
    exact ih _ later

/-! ## Manifests -/

namespace Manifest

variable {manifest : Manifest}

/-- The keys of a manifest as they are written. -/
def fields (manifest : Manifest) : List (String × Option Tree) :=
  [("core", manifest.core.map .string), ("core_release", manifest.coreRelease.map .string),
    ("api", manifest.api.map fun (version : Nat) => .number (.int version)),
    ("projects", filled manifest.projects.isEmpty manifest.projects.toTree),
    ("libraries", filled manifest.libraries.isEmpty manifest.libraries.toTree),
    ("includes", filled manifest.includes.isEmpty
      (.sequence (manifest.includes.map Reference.toTree))),
    ("overrides", filled manifest.overrides.isEmpty
      (.sequence (manifest.overrides.map Reference.toTree))),
    ("defaults", filled manifest.defaults.isEmpty (manifest.defaults.toTree Entry.toTree))]

theorem toTree_eq (manifest : Manifest) : manifest.toTree = .mapping (record manifest.fields) := by
  simp only [toTree, filledEntry_eq, fields, record, List.flatMap_cons, List.flatMap_nil,
    List.append_assoc, List.append_nil]
  cases manifest.api <;> rfl

theorem fieldOrNull_toTree (name : String) (value : Option Tree)
    (member : (name, value) ∈ manifest.fields) :
    manifest.toTree.fieldOrNull name = value.getD .null := by
  have distinct : (manifest.fields.map Prod.fst).Nodup := by simp [fields]
  rw [toTree_eq, Tree.fieldOrNull, Tree.field?, get?_record distinct member]

theorem fieldOrNull_toTree_section (kind : SectionKind) :
    manifest.toTree.fieldOrNull kind.name =
      if (manifest.sectionOf kind).isEmpty then .null else (manifest.sectionOf kind).toTree := by
  rw [← getD_filled]
  refine fieldOrNull_toTree _ _ ?_
  cases kind <;> simp [fields, SectionKind.name, sectionOf]

theorem readApi_getD (small : ∀ version ∈ manifest.api, version < versionBound) :
    readApi ((manifest.api.map fun (version : Nat) => Tree.number (.int version)).getD .null) =
      .ok manifest.api := by
  cases given : manifest.api with
  | none => rfl
  | some version =>
    have below := small version given
    have read : apiVersion? (.number (.int version)) = some version := by
      simp [apiVersion?, Number.natural?, below]
    simp only [Option.map_some, Option.getD_some, readApi, read]

theorem readReferences_filled {references : List Reference}
    (legible : ∀ one ∈ references, one.Legible) :
    readReferences ((filled references.isEmpty
      (.sequence (references.map Reference.toTree))).getD .null) = .ok references := by
  rw [getD_filled]
  split
  · next none_ => rw [List.isEmpty_iff.1 none_]; rfl
  · rw [readReferences, Reference.listOfTree, Reference.readAll_map legible]

theorem readDefaults_filled {defaults : Labelled Entry}
    (legible : ∀ one ∈ defaults.entries, one.2.Legible) :
    readDefaults ((filled defaults.isEmpty (defaults.toTree Entry.toTree)).getD .null) =
      .ok defaults := by
  rw [getD_filled]
  split
  · next none_ => rw [Labelled.eq_empty_of_isEmpty none_]; rfl
  · exact (readSectionDefaults_map .empty legible).trans
      (congrArg Except.ok defaults.ofList_entries)

/-- **What is written is what the manifest is read from.** -/
theorem readFrom_toTree (legible : manifest.Legible) : ReadFrom manifest.toTree manifest where
  core := by
    rw [fieldOrNull_toTree "core" (manifest.core.map .string) (by simp [fields]), readCore,
      optionalScalar?_getD]
  api := by
    rw [fieldOrNull_toTree "api" (manifest.api.map fun (version : Nat) => .number (.int version))
      (by simp [fields])]
    exact readApi_getD legible.api
  sections kind := by
    rw [fieldOrNull_toTree_section]
    split
    · next none_ =>
      have nothing : manifest.sectionOf kind = {} :=
        congrArg Section.mk (List.isEmpty_iff.1 none_)
      rw [nothing]
      rfl
    · exact Section.ofTree_toTree kind (legible.sections kind)
  includes := by
    rw [fieldOrNull_toTree "includes" (filled manifest.includes.isEmpty
      (.sequence (manifest.includes.map Reference.toTree))) (by simp [fields])]
    exact readReferences_filled legible.includes
  overrides := by
    rw [fieldOrNull_toTree "overrides" (filled manifest.overrides.isEmpty
      (.sequence (manifest.overrides.map Reference.toTree))) (by simp [fields])]
    exact readReferences_filled legible.overrides
  defaults := by
    rw [fieldOrNull_toTree "defaults" (filled manifest.defaults.isEmpty
      (manifest.defaults.toTree Entry.toTree)) (by simp [fields])]
    exact readDefaults_filled legible.defaults

/-- **What is written reads as what it was written from**, but for the exact release of the
platform and the dialect. -/
theorem ofTree_toTree (legible : manifest.Legible) (format : Option Dialect) :
    ofTree manifest.toTree format = .ok { manifest with coreRelease := none, format } := by
  have from_ := readFrom_toTree legible
  rw [toTree_eq] at from_ ⊢
  exact ofTree_of_readFrom from_ format

/-- **What is written is in its canonical shape**, if no name is in a section twice. -/
theorem normalize_toTree (legible : manifest.Legible)
    (distinct : ∀ kind, (manifest.sectionOf kind).names.Nodup) :
    manifest.toTree.normalize = manifest.toTree := by
  refine Tree.normalize_eq_self_iff.2 fun kind => ?_
  rw [fieldOrNull_toTree_section]
  split
  · rfl
  · exact Section.normalizeSection_toTree (legible.sections kind) (distinct kind)

/-- **What is read can be written and read again**, if no name is in a section twice: it is the same
manifest, whatever the dialects. -/
theorem ofTree_normalize_toTree {tree : Tree} {format : Option Dialect}
    (h : ofTree tree.normalize format = .ok manifest)
    (distinct : ∀ kind, (manifest.sectionOf kind).names.Nodup) (format' : Option Dialect) :
    ofTree manifest.toTree.normalize format' = .ok { manifest with format := format' } := by
  have legible := legible_of_ofTree h
  rw [normalize_toTree legible distinct, ofTree_toTree legible, ← coreRelease_of_ofTree h]

/-- A manifest with every kind of part, most of them written short. -/
def sample : Tree :=
  .mapping [(.string "core", .string "8.x"), (.string "api", .string " 2 "),
    (.string "projects", .mapping [(.number (.int 0), .string "views"),
      (.string "7", .mapping [(.string "type", .string "module")]),
      (.string "ctools", .string "1.4"),
      (.string "token", .mapping [(.string "patch", .sequence [.string "a.patch",
          .mapping [(.string "md5", .string "0f"), (.string "url", .string "b.patch")]]),
        (.string "download", .string "u"), (.string "working_copy", .string "Yes"),
        (.string "l10n", .mapping [(.string "url", .null)])])]),
    (.string "libraries", .sequence [.string "jquery"]),
    (.string "includes", .sequence [.string "base.yml",
      .mapping [(.string "makefile", .string "m"), (.string "download",
        .mapping [(.string "type", .string " GIT "), (.string "url", .string "u")])]]),
    (.string "overrides", .string "site.yml"),
    (.string "defaults", .mapping [(.string "projects",
      .mapping [(.string "subdir", .string "contrib")])])]

theorem ofTree_normalize_toTree_sample : ∃ manifest, ofTree sample.normalize none = .ok manifest ∧
    (manifest.sectionOf .projects).names = ["views", "7", "ctools", "token"] ∧
    ofTree manifest.toTree.normalize (some .yaml) = .ok { manifest with format := some .yaml } := by
  have names : (ofTree sample.normalize none).toOption.map (fun manifest =>
      (manifest.projects.names, manifest.libraries.names)) =
        some (["views", "7", "ctools", "token"], ["jquery"]) := by decide +kernel
  obtain ⟨manifest, read, named⟩ := Option.map_eq_some_iff.1 names
  have read : ofTree sample.normalize none = .ok manifest := toOption_eq_some_iff.1 read
  obtain ⟨projects, libraries⟩ := Prod.mk.inj named
  refine ⟨manifest, read, projects, ofTree_normalize_toTree read (fun kind => ?_) _⟩
  cases kind with
  | projects => exact projects ▸ by decide
  | libraries => exact libraries ▸ by decide

end Manifest

end BuildManifest
