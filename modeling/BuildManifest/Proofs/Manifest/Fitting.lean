import BuildManifest.Proofs.Manifest.Readable

/-!
# Values that fit on each other

Manifests are merged before they are read.  A value that can be read, laid on another one that can
be read as the same attribute, gives one that can be read, provided that the records among them go
by the names of their fields: a field given by its name in one record and by its position in the
other would be given twice in the merge.

## What is here

* `Tree.hasTag_merge` — no tag comes from nowhere.
* `Download.exists_ofRecord?_iff`, `Patch.ofTree_mapping_iff` — which records can be read.
* `downloadFits_merge`, `patchFits_merge`, `patchesFit_merge` — records on records.
* `AttributesFit`, `attributesFit_mergeEntries` — **attributes that can be laid on each other**.
* `AttributesFit.exists_ofMapping` — they can be read.
-/

set_option autoImplicit false

namespace BuildManifest

open Mapping (Once)

variable {entries lower upper : Mapping} {base top key value : Tree} {name : String}

/-! ## Tags -/

namespace Tree

theorem entriesHaveTag_eq_false_iff : entriesHaveTag entries = false ↔
    ∀ entry ∈ entries, entry.1.hasTag = false ∧ entry.2.hasTag = false := by
  induction entries with
  | nil => simp [entriesHaveTag]
  | cons first rest ih =>
    rw [entriesHaveTag, Bool.or_eq_false_iff, Bool.or_eq_false_iff, ih, List.forall_mem_cons]

/-- **No tag comes from nowhere.** -/
theorem hasTag_merge {base : Tree} : (top : Tree) → base.hasTag = false → top.hasTag = false →
    (base.merge top).hasTag = false
  | top, below, above => by
    refine merge_induction (fun tree => tree.hasTag = false) below above
      fun lower upper eq eq' => ?_
    rw [eq, hasTag, entriesHaveTag_eq_false_iff] at below
    rw [eq', hasTag, entriesHaveTag_eq_false_iff] at above
    rw [hasTag, entriesHaveTag_eq_false_iff]
    refine Mapping.forall_mem_mergeEntries (fun key value => key.hasTag = false ∧
      value.hasTag = false) (fun {key _ _ value} member _ lower upper => ?_) below above
    have smaller : sizeOf value < sizeOf top := eq' ▸ sizeOf_lt_of_mem member
    exact ⟨lower.1, hasTag_merge value lower.2 upper.2⟩
  termination_by top => sizeOf top

end Tree

/-! ## Records that go by names -/

/-- A record goes by the names of its fields. -/
def Tree.NamedFields (record : Tree) : Prop := PlainNames record.topEntries

instance (record : Tree) : Decidable record.NamedFields :=
  inferInstanceAs (Decidable (PlainNames _))

theorem plainNames_mergeEntries (below : PlainNames lower) (above : PlainNames upper) :
    PlainNames (Tree.mergeEntries lower upper) := by
  intro key member
  rcases Mapping.mem_keys_mergeEntries member with old | new
  · exact below key old
  · exact above key new

namespace Fields

variable {names : List String}

theorem values_cons_string (text : String) (value : Tree) (rest : Mapping) :
    values names ((.string text, value) :: rest) name =
      if text = name then value :: values names rest name else values names rest name := by
  by_cases same : text = name
  · simp [values, standsFor, same]
  · simp [values, standsFor, same]

theorem values_eq_nil_iff (plain : PlainNames entries) :
    values names entries name = [] ↔ .string name ∉ Mapping.keys entries := by
  induction entries with
  | nil => simp [values, Mapping.keys]
  | cons first rest ih =>
    obtain ⟨key, value⟩ := first
    obtain ⟨⟨text, rfl⟩, others⟩ := plainNames_cons.1 plain
    rw [values_cons_string, Mapping.keys, List.map_cons, List.mem_cons, not_or]
    by_cases same : text = name
    · simp [same]
    · rw [if_neg same, ih others]
      exact (and_iff_right fun eq => same (Tree.string.inj eq).symm).symm

/-- A field is given at most once exactly if its name is. -/
theorem length_values_le_one_iff (plain : PlainNames entries) :
    (values names entries name).length ≤ 1 ↔ Once entries (.string name) := by
  induction entries with
  | nil => simp [values, Once]
  | cons first rest ih =>
    obtain ⟨key, value⟩ := first
    obtain ⟨⟨text, rfl⟩, others⟩ := plainNames_cons.1 plain
    rw [values_cons_string, Mapping.once_cons, ← ih others, ← values_eq_nil_iff others]
    by_cases same : text = name
    · rw [if_pos same, List.length_cons]
      constructor
      · intro le
        have nil : (values names rest name).length = 0 := by omega
        exact ⟨fun _ => List.length_eq_zero_iff.1 nil, by omega⟩
      · rintro ⟨nil, -⟩
        rw [nil (congrArg Tree.string same)]
        exact Nat.le_refl _
    · rw [if_neg same]
      exact (and_iff_right fun eq => absurd (Tree.string.inj eq) same).symm

theorem areRecord_iff (plain : PlainNames entries) :
    areRecord names entries = true ↔ ∀ name ∈ names, Once entries (.string name) := by
  have keys : entries.all (fun entry => isKey entry.1) = true := by
    rw [List.all_eq_true]
    intro entry member
    obtain ⟨text, eq⟩ := plain _ (List.mem_map_of_mem member)
    rw [eq]
    rfl
  rw [areRecord, keys, Bool.true_and, List.all_eq_true]
  exact forall₂_congr fun name _ => by rw [decide_eq_true_iff, length_values_le_one_iff plain]

theorem value_eq (plain : PlainNames entries) :
    Fields.value names entries name = (Mapping.get? entries name).getD .null := by
  induction entries with
  | nil => rfl
  | cons first rest ih =>
    obtain ⟨key, given⟩ := first
    obtain ⟨⟨text, rfl⟩, others⟩ := plainNames_cons.1 plain
    rw [Fields.value, values_cons_string, Mapping.get?, Mapping.find?_cons]
    by_cases same : text = name
    · rw [if_pos same, if_pos ((Tree.same_iff_of_textual (Tree.textual_string name)).2
        (congrArg Tree.string same.symm))]
      rfl
    · rw [if_neg same, if_neg fun eq => same (Tree.string.inj
        ((Tree.same_iff_of_textual (Tree.textual_string name)).1 eq)).symm]
      exact ih others

end Fields

/-- What a record has for a field. -/
def fieldValue (entries : Mapping) (name : String) : Tree := (Mapping.get? entries name).getD .null

theorem fieldValue_mergeEntries (once : Once upper (.string name)) :
    fieldValue (Tree.mergeEntries lower upper) name =
      (fieldValue lower name).merge (fieldValue upper name) := by
  rw [fieldValue, fieldValue, fieldValue, ← Mapping.getD_layered, Mapping.get?,
    Mapping.find?_mergeEntries (Tree.textual_string name) once]
  rfl

/-! ### Downloads -/

/-- The value can be read as a field of a download. -/
def Download.ReadsField (name : String) (value : Tree) : Prop :=
  if name = "type" then value.optionalString?.isSome = true
  else value.optionalScalar?.isSome = true

theorem Download.exists_ofRecord?_iff (plain : PlainNames entries) :
    (∃ download, Download.ofRecord? entries = some download) ↔
      (∀ name ∈ Download.fieldNames, Once entries (.string name)) ∧
      ∀ name ∈ Download.fieldNames, Download.ReadsField name (fieldValue entries name) := by
  have fields : (∀ name ∈ Download.fieldNames, Download.ReadsField name (fieldValue entries name)) ↔
      (fieldValue entries "type").optionalString?.isSome = true ∧
      (fieldValue entries "url").optionalScalar?.isSome = true ∧
      (fieldValue entries "branch").optionalScalar?.isSome = true ∧
      (fieldValue entries "tag").optionalScalar?.isSome = true ∧
      (fieldValue entries "revision").optionalScalar?.isSome = true := by
    simp [Download.fieldNames, Download.ReadsField]
  rw [fields, ← Fields.areRecord_iff plain, Download.ofRecord?]
  by_cases record : Fields.areRecord Download.fieldNames entries = true
  · rw [if_pos record, and_iff_right record]
    simp only [Fields.value_eq plain, ← fieldValue.eq_1]
    cases (fieldValue entries "type").optionalString? <;>
      cases (fieldValue entries "url").optionalScalar? <;>
      cases (fieldValue entries "branch").optionalScalar? <;>
      cases (fieldValue entries "tag").optionalScalar? <;>
      cases (fieldValue entries "revision").optionalScalar? <;> simp
  · simp [record]

theorem Download.readsField_merge (below : Download.ReadsField name base)
    (above : Download.ReadsField name top) : Download.ReadsField name (base.merge top) := by
  refine Tree.merge_induction _ below above fun lower upper eq _ => ?_
  rw [eq, Download.ReadsField] at below
  split at below <;> cases below

/-- A record on a record. -/
theorem Download.exists_ofRecord?_mergeEntries (plain : PlainNames lower)
    (plain' : PlainNames upper) (below : ∃ download, Download.ofRecord? lower = some download)
    (above : ∃ download, Download.ofRecord? upper = some download) :
    ∃ download, Download.ofRecord? (Tree.mergeEntries lower upper) = some download := by
  rw [Download.exists_ofRecord?_iff plain] at below
  rw [Download.exists_ofRecord?_iff plain'] at above
  rw [Download.exists_ofRecord?_iff (plainNames_mergeEntries plain plain')]
  refine ⟨fun name member => ?_, fun name member => ?_⟩
  · exact Mapping.once_mergeEntries (Tree.textual_string name) (below.1 name member)
  · rw [fieldValue_mergeEntries (above.1 name member)]
    exact Download.readsField_merge (below.2 name member) (above.2 name member)

/-- A download that can be read, and that goes by the names of its fields. -/
structure DownloadFits (value : Tree) : Prop where
  /-- It can be read. -/
  reads : ∃ download, readDownload value = .ok download
  /-- It goes by the names of its fields. -/
  named : value.NamedFields

theorem readDownload_mapping_iff : (∃ download, readDownload (.mapping entries) = .ok download) ↔
    (Tree.mapping entries).hasTag = false ∧
      ∃ download, Download.ofRecord? entries = some download := by
  rw [readDownload.eq_def]
  simp only [exists_map_eq_ok_iff, Download.ofTree, Download.ofUntagged?]
  by_cases tagged : (Tree.mapping entries).hasTag = true
  · simp [tagged]
  · cases Download.ofRecord? entries <;> simp [tagged]

/-- **A download on a download.** -/
theorem downloadFits_merge (below : DownloadFits base) (above : DownloadFits top) :
    DownloadFits (base.merge top) := by
  refine Tree.merge_induction _ below above fun lower upper eq eq' => ?_
  subst eq eq'
  obtain ⟨untagged, reads⟩ := readDownload_mapping_iff.1 below.reads
  obtain ⟨untagged', reads'⟩ := readDownload_mapping_iff.1 above.reads
  have merged := Tree.hasTag_merge _ untagged untagged'
  rw [Tree.merge] at merged
  exact ⟨readDownload_mapping_iff.2 ⟨merged,
    Download.exists_ofRecord?_mergeEntries below.named above.named reads reads'⟩,
    plainNames_mergeEntries below.named above.named⟩

/-! ### Patches -/

/-- A patch that can be read, and that goes by the names of its fields. -/
structure PatchFits (value : Tree) : Prop where
  /-- It can be read. -/
  reads : ∃ patch, Patch.ofTree value = .ok patch
  /-- It goes by the names of its fields. -/
  named : value.NamedFields

theorem Patch.ofTree_mapping_iff (plain : PlainNames entries) :
    (∃ patch, Patch.ofTree (.mapping entries) = .ok patch) ↔
      (Tree.mapping entries).hasTag = false ∧
      (∀ name ∈ Patch.fieldNames, Once entries (.string name)) ∧
      (∃ url, fieldValue entries "url" = .string url) ∧
      (fieldValue entries "md5").optionalString?.isSome = true := by
  rw [← Fields.areRecord_iff plain, Patch.ofTree, Patch.ofUntagged?]
  simp only [Fields.value_eq plain, ← fieldValue.eq_1]
  by_cases tagged : (Tree.mapping entries).hasTag = true
  · simp [tagged]
  · by_cases record : Fields.areRecord Patch.fieldNames entries = true
    · cases fieldValue entries "url" <;> simp [tagged, record]
      cases (fieldValue entries "md5").optionalString? <;> simp
    · simp [tagged, record]

/-- **A patch on a patch.** -/
theorem patchFits_merge (below : PatchFits base) (above : PatchFits top) :
    PatchFits (base.merge top) := by
  refine Tree.merge_induction _ below above fun lower upper eq eq' => ?_
  subst eq eq'
  obtain ⟨untagged, once, ⟨url, eq⟩, md5⟩ := (Patch.ofTree_mapping_iff below.named).1 below.reads
  obtain ⟨untagged', single, ⟨url', eq'⟩, md5'⟩ :=
    (Patch.ofTree_mapping_iff above.named).1 above.reads
  have plain := plainNames_mergeEntries below.named above.named
  refine ⟨(Patch.ofTree_mapping_iff plain).2 ⟨?_, fun name member => ?_, ⟨url', ?_⟩, ?_⟩, plain⟩
  · have merged := Tree.hasTag_merge _ untagged untagged'
    rwa [Tree.merge] at merged
  · exact Mapping.once_mergeEntries (Tree.textual_string name) (once name member)
  · rw [fieldValue_mergeEntries (single "url" (by decide)), eq', Tree.merge.eq_def]
  · rw [fieldValue_mergeEntries (single "md5" (by decide))]
    exact Tree.merge_induction (fun tree => tree.optionalString?.isSome = true) md5 md5'
      fun lower upper eq _ => by rw [eq] at md5; cases md5

theorem exists_readLabelled_iff (done : Labelled Patch) :
    (∃ patches, Patch.readLabelled done entries = .ok patches) ↔
      ∀ entry ∈ entries, ∃ patch, Patch.ofTree entry.2 = .ok patch := by
  induction entries generalizing done with
  | nil => simp [Patch.readLabelled]
  | cons first rest ih =>
    obtain ⟨key, value⟩ := first
    rw [List.forall_mem_cons, Patch.readLabelled]
    cases Patch.ofTree value with
    | error fault => simp
    | ok patch => simp [ih]

/-- Patches that can be read, and that go by the names of their fields. -/
structure PatchesFit (value : Tree) : Prop where
  /-- They can be read. -/
  reads : ∃ patches, Patch.allOfTree value = .ok patches
  /-- They go by the names of their fields. -/
  named : ∀ entry ∈ value.indexed.topEntries, entry.2.NamedFields

theorem patchesFit_mapping_iff :
    PatchesFit (.mapping entries) ↔ ∀ entry ∈ entries, PatchFits entry.2 := by
  have reads : (∃ patches, Patch.allOfTree (.mapping entries) = .ok patches) ↔
      ∀ entry ∈ entries, ∃ patch, Patch.ofTree entry.2 = .ok patch := exists_readLabelled_iff _
  constructor
  · rintro ⟨given, named⟩ entry member
    exact ⟨reads.1 given entry member, named entry member⟩
  · intro fit
    exact ⟨reads.2 fun entry member => (fit entry member).reads,
      fun entry member => (fit entry member).named⟩

/-- **Patches on patches.** -/
theorem patchesFit_merge (below : PatchesFit base) (above : PatchesFit top) :
    PatchesFit (base.merge top) := by
  refine Tree.merge_induction _ below above fun lower upper eq eq' => ?_
  subst eq eq'
  rw [patchesFit_mapping_iff] at below above ⊢
  exact Mapping.forall_mem_mergeEntries (fun _ value => PatchFits value)
    (fun _ _ lower upper => patchFits_merge lower upper) below above

/-! ### Texts and truth values -/

theorem exists_readText_merge (below : ∃ text, readText base = .ok text)
    (above : ∃ text, readText top = .ok text) : ∃ text, readText (base.merge top) = .ok text := by
  refine Tree.merge_induction (fun tree => ∃ text, readText tree = .ok text) below above
    fun lower upper eq _ => ?_
  obtain ⟨_, read⟩ := below
  rw [eq] at read
  cases read

theorem exists_readTruth_merge (below : ∃ truth, readTruth base = .ok truth)
    (above : ∃ truth, readTruth top = .ok truth) :
    ∃ truth, readTruth (base.merge top) = .ok truth := by
  refine Tree.merge_induction (fun tree => ∃ truth, readTruth tree = .ok truth) below above
    fun lower upper eq _ => ?_
  obtain ⟨_, read⟩ := below
  rw [eq] at read
  cases read

/-! ## Attributes -/

/-- The records in the value of an attribute go by the names of their fields. -/
def Attribute.NamedRecords : Attribute → Tree → Prop
  | .download, value => value.NamedFields
  | .patches, value => ∀ entry ∈ value.indexed.topEntries, entry.2.NamedFields
  | _, _ => True

instance : (one : Attribute) → (value : Tree) → Decidable (one.NamedRecords value)
  | .download, value => inferInstanceAs (Decidable value.NamedFields)
  | .patches, value =>
    inferInstanceAs (Decidable (∀ entry ∈ value.indexed.topEntries, entry.2.NamedFields))
  | .version, _ | .kind, _ | .subdir, _ | .directoryName, _ | .contribDestination, _
  | .destination, _ | .workingCopy, _ => isTrue trivial

/-- The value can be read as the attribute, and can be laid on another one that can. -/
structure Attribute.Fits (one : Attribute) (value : Tree) : Prop where
  /-- It can be read. -/
  reads : one.Reads value
  /-- Its records go by the names of their fields. -/
  named : one.NamedRecords value

theorem Attribute.fits_merge {one : Attribute} (below : one.Fits base) (above : one.Fits top) :
    one.Fits (base.merge top) := by
  cases one with
  | download =>
    obtain ⟨reads, named⟩ :=
      downloadFits_merge ⟨below.reads, below.named⟩ ⟨above.reads, above.named⟩
    exact ⟨reads, named⟩
  | patches =>
    obtain ⟨reads, named⟩ :=
      patchesFit_merge ⟨below.reads, below.named⟩ ⟨above.reads, above.named⟩
    exact ⟨reads, named⟩
  | workingCopy => exact ⟨exists_readTruth_merge below.reads above.reads, trivial⟩
  | _ => exact ⟨exists_readText_merge below.reads above.reads, trivial⟩

/-- The value fits under a name. -/
def FitsUnder (name : String) (value : Tree) : Prop :=
  match Attribute.ofName? name with
  | some one => one.Fits value
  | none => value.hasTag = false

theorem fitsUnder_merge (below : FitsUnder name base) (above : FitsUnder name top) :
    FitsUnder name (base.merge top) := by
  rw [FitsUnder] at below above ⊢
  cases known : Attribute.ofName? name with
  | some one =>
    rw [known] at below above
    exact Attribute.fits_merge below above
  | none =>
    rw [known] at below above
    exact Tree.hasTag_merge _ below above

/-- Attributes with plain names, whose records go by the names of their fields. -/
structure PlainAttributes (attributes : Mapping) : Prop where
  /-- The keys are texts without tags. -/
  names : PlainNames attributes
  /-- The records go by the names of their fields. -/
  records : ∀ pair ∈ attributes, ∀ one ∈ Entry.slot? pair, one.NamedRecords pair.2

instance (attributes : Mapping) : Decidable (PlainAttributes attributes) :=
  decidable_of_iff (PlainNames attributes ∧
      ∀ pair ∈ attributes, ∀ one ∈ Entry.slot? pair, one.NamedRecords pair.2)
    ⟨fun h => ⟨h.1, h.2⟩, fun h => ⟨h.names, h.records⟩⟩

/-- Attributes that can be read and laid on others: each is given once, under a name that is not
the refused one. -/
structure AttributesFit (refused : String) (attributes : Mapping) : Prop where
  /-- No name is given twice. -/
  once : ∀ name, Once attributes (.string name)
  /-- The keys are names, none of them the refused one, and the values fit. -/
  fits : ∀ pair ∈ attributes, ∃ name, pair.1 = .string name ∧ name ≠ refused ∧
    FitsUnder name pair.2

variable {attributes : Mapping} {refused : String}

theorem AttributesFit.plainNames (fit : AttributesFit refused attributes) :
    PlainNames attributes := by
  intro key member
  obtain ⟨pair, inside, rfl⟩ := List.mem_map.1 member
  obtain ⟨name, eq, -⟩ := fit.fits pair inside
  exact ⟨name, eq⟩

theorem attributesFit_nil : AttributesFit refused [] :=
  ⟨fun _ => List.Pairwise.nil, fun _ member => nomatch member⟩

/-- **Attributes on attributes.** -/
theorem attributesFit_mergeEntries (below : AttributesFit refused lower)
    (above : AttributesFit refused upper) :
    AttributesFit refused (Tree.mergeEntries lower upper) := by
  refine ⟨fun name => Mapping.once_mergeEntries (Tree.textual_string name) (below.once name), ?_⟩
  refine Mapping.forall_mem_mergeEntries (fun key value => ∃ name, key = .string name ∧
    name ≠ refused ∧ FitsUnder name value) ?_ below.fits above.fits
  rintro _ _ lower upper - same ⟨name, rfl, ne, fits⟩ ⟨name', rfl, -, fits'⟩
  obtain rfl := Tree.string.inj ((Tree.same_iff_of_textual (Tree.textual_string name')).1 same)
  exact ⟨name', rfl, ne, fitsUnder_merge fits fits'⟩

theorem attributesFit_insert (fit : AttributesFit refused attributes) (ne : name ≠ refused)
    (fits : FitsUnder name value) :
    AttributesFit refused (Mapping.insert attributes (.string name) value) := by
  refine ⟨fun other => Mapping.once_insert (Tree.textual_string other) (fit.once other), ?_⟩
  intro pair member
  have rigid := Tree.rigid_of_textual (Tree.textual_string name)
  rcases Mapping.mem_insert_of_rigid rigid member with old | rfl
  · exact fit.fits pair old
  · exact ⟨name, rfl, ne, fits⟩

theorem pairwise_ne_of_once (plain : PlainNames attributes)
    (once : ∀ name, Once attributes (.string name)) : attributes.Pairwise fun a b => a.1 ≠ b.1 := by
  induction attributes with
  | nil => exact List.Pairwise.nil
  | cons first rest ih =>
    obtain ⟨key, value⟩ := first
    obtain ⟨⟨name, rfl⟩, others⟩ := plainNames_cons.1 plain
    refine List.pairwise_cons.2 ⟨fun pair member eq => ?_, ih others fun other =>
      (Mapping.once_cons.1 (once other)).2⟩
    have inside : pair.1 ∈ Mapping.keys rest := List.mem_map_of_mem member
    rw [← eq] at inside
    exact (Mapping.once_cons.1 (once name)).1 rfl inside

/-- Where one of the two words for patches is refused, different names are different attributes. -/
theorem canonicalName_inj (word : refused = "patch" ∨ refused = "patches") {other : String}
    (ne : name ≠ refused) (ne' : other ≠ refused)
    (same : canonicalName name = canonicalName other) : name = other := by
  rw [canonicalName, canonicalName] at same
  split at same <;> split at same <;> rcases word with rfl | rfl <;> simp_all

/-- **Attributes that fit can be read**, where one of the two words for patches is refused. -/
theorem AttributesFit.exists_ofMapping (fit : AttributesFit refused attributes)
    (word : refused = "patch" ∨ refused = "patches") :
    ∃ entry, Entry.ofMapping attributes = .ok entry := by
  refine (Entry.exists_ofMapping_iff fit.plainNames).2 ⟨?_, fun pair member name eq => ?_⟩
  · refine (pairwise_ne_of_once fit.plainNames fit.once).imp_of_mem fun {a b} ha hb ne same => ne ?_
    obtain ⟨name, eq, apart, -⟩ := fit.fits a ha
    obtain ⟨name', eq', apart', -⟩ := fit.fits b hb
    rw [Entry.givenName?, Entry.givenName?, eq, eq'] at same
    rw [eq, eq', canonicalName_inj word apart apart' (Option.some.inj same)]
  · obtain ⟨name', eq', -, fits⟩ := fit.fits pair member
    obtain rfl := Tree.string.inj (eq.symm.trans eq')
    rw [FitsUnder] at fits
    rw [ReadsUnder]
    cases known : Attribute.ofName? name with
    | some one =>
      rw [known] at fits
      exact fits.reads
    | none =>
      rw [known] at fits
      exact fits

/-- Plain attributes fit if they can be read and do not use the refused name. -/
theorem attributesFit_of_ofMapping {entry : Entry} (h : Entry.ofMapping attributes = .ok entry)
    (plain : PlainAttributes attributes) (refuses : .string refused ∉ Mapping.keys attributes) :
    AttributesFit refused attributes := by
  obtain ⟨apart, reads⟩ := (Entry.exists_ofMapping_iff plain.names).1 ⟨entry, h⟩
  refine ⟨fun name => ?_, fun pair member => ?_⟩
  · refine apart.imp fun {a b} ne both => ne ?_
    rw [Entry.givenName?, Entry.givenName?, both.1, both.2]
  · obtain ⟨name, eq⟩ := plain.names _ (List.mem_map_of_mem member)
    refine ⟨name, eq, ?_, ?_⟩
    · rintro rfl
      exact refuses (eq ▸ List.mem_map_of_mem member)
    · have reads := reads pair member name eq
      have named := plain.records pair member
      rw [ReadsUnder] at reads
      rw [FitsUnder]
      rw [Entry.slot?, eq] at named
      cases known : Attribute.ofName? name with
      | some one =>
        rw [known] at reads
        exact ⟨reads, named one known⟩
      | none =>
        rw [known] at reads
        exact reads

end BuildManifest
