import BuildManifest.Proofs.Manifest.Attributes
import BuildManifest.Proofs.Resolve.Root

/-!
# Sections in their canonical shape

Before manifests are merged their sections become mappings from names to attributes.  Merging such
sections, normalizing them once more and moving the core project all keep that shape, and what
they do to one attribute of one entry does not depend on anything else.

## What is here

* `Settled` — a section in its canonical shape, or none.
* `entryOf`, `valueOf` — the attributes of a name, and the value of one of them.
* `settled_layered`, `valueOf_layered` — one section on another.
* `settled_normalizeSection`, `valueOf_normalizeSection` — normalizing once more.
* `settled_projectsCoreFirst`, `valueOf_projectsCoreFirst` — the core project in front.
-/

set_option autoImplicit false

namespace BuildManifest

open Mapping (Once Distinct layered find?)

/-- No key that gives a text occurs twice. -/
def KeysOnce (attributes : Mapping) : Prop :=
  ∀ one ∈ Attribute.texts, ∀ key : Tree, key.Names one → Once attributes key

/-- Entries in their canonical shape: names, none of them an index, with attributes. -/
structure SettledEntries (entries : Mapping) : Prop where
  /-- The keys are names. -/
  names : ∀ key ∈ Mapping.keys entries, ∃ name, key = .string name ∧
    Text.isDigits name.toList = false
  /-- The values are attributes. -/
  values : ∀ entry ∈ entries, ∃ attributes, entry.2 = .mapping attributes ∧ KeysOnce attributes
  /-- No name occurs twice. -/
  distinct : Distinct entries

/-- A section in its canonical shape, or none. -/
inductive Settled : Option Tree → Prop
  | absent : Settled none
  | null : Settled (some .null)
  | entries {entries : Mapping} (settled : SettledEntries entries) :
      Settled (some (.mapping entries))

/-- The attributes of a value that has attributes. -/
def attributesOf : Option Tree → Option Mapping
  | some (.mapping attributes) => some attributes
  | _ => none

/-- The attributes that a section gives to a name. -/
def entryOf (value : Option Tree) (name : String) : Option Mapping :=
  attributesOf ((attributesOf value).bind (Mapping.get? · name))

/-- What a section gives to a key of the attributes of a name. -/
def valueOf (value : Option Tree) (name : String) (key : Tree) : Option Tree :=
  (entryOf value name).bind (find? · key)

variable {entries base top : Mapping} {value lower upper : Option Tree} {name : String}
  {one : Attribute} {key : Tree}

theorem SettledEntries.get? (settled : SettledEntries entries) (name : String) :
    Mapping.get? entries name = none ∨ ∃ attributes,
      Mapping.get? entries name = some (.mapping attributes) ∧ KeysOnce attributes := by
  cases found : Mapping.get? entries name with
  | none => exact .inl rfl
  | some value =>
    obtain ⟨attributes, eq, once⟩ := settled.values _
      (Mapping.mem_of_find? (Tree.textual_string name) found)
    obtain rfl : value = .mapping attributes := eq
    exact .inr ⟨attributes, rfl, once⟩

/-! ## One section on another -/

/-- The attributes of an entry in two layers. -/
def layeredEntry : Option Mapping → Option Mapping → Option Mapping
  | base, none => base
  | none, some top => some top
  | some base, some top => some (Tree.mergeEntries base top)

theorem layeredEntry_none_left (top : Option Mapping) : layeredEntry none top = top := by
  cases top <;> rfl

theorem keysOnce_mergeEntries (once : KeysOnce base) : KeysOnce (Tree.mergeEntries base top) :=
  fun one text key names => Mapping.once_mergeEntries names.textual (once one text key names)

theorem get?_mergeEntries (settled : SettledEntries top) (name : String) :
    Mapping.get? (Tree.mergeEntries base top) name =
      layered (Mapping.get? base name) (Mapping.get? top name) :=
  Mapping.find?_mergeEntries (Tree.textual_string name)
    (settled.distinct _ (Tree.textual_string name))

/-- An entry stands where it is found. -/
theorem SettledEntries.of_get? (names : ∀ key ∈ Mapping.keys entries, ∃ name,
      key = .string name ∧ Text.isDigits name.toList = false) (distinct : Distinct entries)
    (h : ∀ name value, Mapping.get? entries name = some value →
      ∃ attributes, value = .mapping attributes ∧ KeysOnce attributes) :
    SettledEntries entries := by
  refine ⟨names, fun entry member => ?_, distinct⟩
  obtain ⟨name, eq, -⟩ := names entry.1 (List.mem_map.2 ⟨entry, member, rfl⟩)
  refine h name entry.2 (Mapping.find?_of_mem (Tree.textual_string name)
    (distinct _ (Tree.textual_string name)) ?_)
  rw [← eq]
  exact member

theorem settledEntries_mergeEntries (lower : SettledEntries base) (upper : SettledEntries top) :
    SettledEntries (Tree.mergeEntries base top) := by
  refine .of_get? (fun key member => ?_) (Mapping.distinct_mergeEntries lower.distinct) ?_
  · rcases Mapping.mem_keys_mergeEntries member with old | new
    · exact lower.names key old
    · exact upper.names key new
  · intro name value found
    rw [get?_mergeEntries upper] at found
    rcases lower.get? name with none_ | ⟨below, some_, once⟩
    · rcases upper.get? name with none' | ⟨above, some', once'⟩
      · rw [none_, none'] at found
        cases found
      · rw [none_, some'] at found
        cases found
        exact ⟨above, rfl, once'⟩
    · rcases upper.get? name with none' | ⟨above, some', once'⟩
      · rw [some_, none'] at found
        cases found
        exact ⟨below, rfl, once⟩
      · rw [some_, some'] at found
        cases found
        exact ⟨Tree.mergeEntries below above, by rw [Tree.merge], keysOnce_mergeEntries once⟩

theorem settled_layered (below : Settled lower) (above : Settled upper) :
    Settled (layered lower upper) := by
  cases above with
  | absent =>
    cases lower <;> exact below
  | null =>
    cases below with
    | absent => exact .null
    | null => exact .null
    | entries settled => exact .entries settled
  | entries settled =>
    cases below with
    | absent => exact .entries settled
    | null => exact .entries settled
    | entries settled' =>
      rw [layered, Tree.merge]
      exact .entries (settledEntries_mergeEntries settled' settled)

theorem entryOf_layered (below : Settled lower) (above : Settled upper) (name : String) :
    entryOf (layered lower upper) name =
      layeredEntry (entryOf lower name) (entryOf upper name) := by
  cases above with
  | absent => cases lower <;> rfl
  | null => cases below <;> rfl
  | entries settled =>
    cases below with
    | absent => exact (layeredEntry_none_left _).symm
    | null => exact (layeredEntry_none_left _).symm
    | entries settled' =>
      rw [layered, Tree.merge]
      simp only [entryOf, attributesOf, Option.bind_some]
      rw [get?_mergeEntries settled]
      rcases settled'.get? name with none_ | ⟨below, some_, -⟩
      · rcases settled.get? name with none' | ⟨above, some', -⟩
        · rw [none_, none']
          rfl
        · rw [none_, some']
          rfl
      · rcases settled.get? name with none' | ⟨above, some', -⟩
        · rw [some_, none']
          rfl
        · rw [some_, some', layered, Tree.merge]
          rfl

theorem Settled.keysOnce (settled : Settled value) {attributes : Mapping}
    (h : entryOf value name = some attributes) : KeysOnce attributes := by
  cases settled with
  | absent => cases h
  | null => cases h
  | entries settled =>
    simp only [entryOf, attributesOf, Option.bind_some] at h
    rcases settled.get? name with none_ | ⟨given, some_, once⟩
    · rw [none_] at h
      cases h
    · rw [some_] at h
      cases h
      exact once

/-- **One section on another**, attribute by attribute. -/
theorem valueOf_layered (below : Settled lower) (above : Settled upper)
    (text : one ∈ Attribute.texts) (names : key.Names one) (name : String) :
    valueOf (layered lower upper) name key =
      layered (valueOf lower name key) (valueOf upper name key) := by
  rw [valueOf, valueOf, valueOf, entryOf_layered below above]
  cases found : entryOf upper name with
  | none =>
    cases entryOf lower name with
    | none => rfl
    | some attributes => cases find? attributes key <;> rfl
  | some above' =>
    have once := above.keysOnce found one text key names
    cases entryOf lower name with
    | none => cases h : find? above' key <;> simp [layeredEntry, layered, h]
    | some below' => exact Mapping.find?_mergeEntries names.textual once

/-! ## Normalizing once more -/

variable {attributes : Mapping}

/-- A text attribute has no key that normalization changes. -/
theorem ne_of_names (text : one ∈ Attribute.texts) (names : key.Names one) {other : String}
    (apart : other ∉ Attribute.texts.map Attribute.name) : Tree.string other ≠ key := by
  rintro rfl
  have eq : other = one.name := Option.some.inj names
  exact apart (eq ▸ List.mem_map.2 ⟨one, text, rfl⟩)

theorem keysOnce_erase (once : KeysOnce attributes) (name : Tree) :
    KeysOnce (Mapping.erase attributes name) :=
  fun one text key names => Mapping.once_erase (once one text key names)

theorem keysOnce_insert (once : KeysOnce attributes) (name value : Tree) :
    KeysOnce (Mapping.insert attributes name value) :=
  fun one text key names => Mapping.once_insert names.textual (once one text key names)

theorem keysOnce_normalizeAttributes (once : KeysOnce attributes) :
    KeysOnce (Tree.normalizeAttributes attributes) := by
  have folded : KeysOnce (Tree.foldPatch attributes) := by
    rw [Tree.foldPatch]
    split
    · exact once
    · dsimp only
      split
      · exact keysOnce_insert (keysOnce_erase once _) _ _
      · exact keysOnce_insert (keysOnce_erase (keysOnce_erase once _) _) _ _
  rw [Tree.normalizeAttributes, Tree.expandDownload]
  split
  · exact keysOnce_insert folded _ _
  · exact folded

/-- Folding patches changes no other attribute. -/
theorem find?_foldPatch_other (textual : key.Textual) (once : Once attributes key)
    (patch : Tree.string "patch" ≠ key) (patches : Tree.string "patches" ≠ key) :
    find? (Tree.foldPatch attributes) key = find? attributes key := by
  rw [Tree.foldPatch]
  split
  · rfl
  · dsimp only
    split
    · rw [Mapping.find?_insert_other textual patches, Mapping.find?_erase_other textual once patch]
    · rw [Mapping.find?_insert_other textual patches,
        Mapping.find?_erase_other textual (Mapping.once_erase once) patches,
        Mapping.find?_erase_other textual once patch]

theorem find?_foldPatch (once : KeysOnce attributes) (text : one ∈ Attribute.texts)
    (names : key.Names one) :
    find? (Tree.foldPatch attributes) key = find? attributes key :=
  find?_foldPatch_other names.textual (once one text key names)
    (ne_of_names text names (by decide)) (ne_of_names text names (by decide))

/-- Normalizing attributes changes none that is a text. -/
theorem find?_normalizeAttributes (once : KeysOnce attributes) (text : one ∈ Attribute.texts)
    (names : key.Names one) :
    find? (Tree.normalizeAttributes attributes) key = find? attributes key := by
  rw [Tree.normalizeAttributes, Tree.expandDownload]
  split
  · rw [Mapping.find?_insert_other names.textual
      (ne_of_names text names (by decide)), find?_foldPatch once text names]
  · exact find?_foldPatch once text names

theorem add_name (declared : List String) (draft : Tree.SectionDraft) {name : String}
    (plain : Text.isDigits name.toList = false) (value : Tree) :
    (Tree.SectionDraft.add declared draft (.string name, value)).entries =
      Mapping.insert draft.entries (.string name) (Tree.expandEntry value) := by
  rw [Tree.SectionDraft.add]
  simp only [Tree.isIndexKey, plain, Bool.false_eq_true, if_false]

/-- What a fold over named entries makes of a name. -/
theorem get?_foldl_add (declared : List String) (draft : Tree.SectionDraft)
    (names : ∀ key ∈ Mapping.keys entries, ∃ name, key = .string name ∧
      Text.isDigits name.toList = false) (name : String)
    (once : Once entries (.string name)) :
    Mapping.get? (entries.foldl (Tree.SectionDraft.add declared) draft).entries name =
      ((Mapping.get? entries name).map Tree.expandEntry).or (Mapping.get? draft.entries name) := by
  induction entries generalizing draft with
  | nil => rfl
  | cons first rest ih =>
    obtain ⟨key, value⟩ := first
    obtain ⟨given, rfl, plain⟩ := names key List.mem_cons_self
    obtain ⟨notLater, once⟩ := Mapping.once_cons.1 once
    rw [List.foldl_cons, ih _ (fun key member => names key (List.mem_cons_of_mem _ member)) once,
      Mapping.get?, Mapping.get?, add_name declared draft plain, Mapping.get?,
      Mapping.find?_cons]
    by_cases same : (Tree.string name).same (.string given) = true
    · obtain eq := (Tree.same_iff_of_textual (Tree.textual_string name)).1 same
      have absent : find? rest (.string name) = none :=
        (Mapping.find?_eq_none_iff (Tree.textual_string name)).2 (notLater eq.symm)
      rw [if_pos same, absent, ← eq, Mapping.find?_insert_self (Tree.textual_string name)]
      rfl
    · have ne : Tree.string given ≠ .string name := fun eq =>
        same ((Tree.same_iff_of_textual (Tree.textual_string name)).2 eq.symm)
      rw [if_neg same, Mapping.find?_insert_other (Tree.textual_string name) ne]
      rfl

theorem mem_keys_foldl_add (declared : List String) (draft : Tree.SectionDraft)
    (names : ∀ key ∈ Mapping.keys entries, ∃ name, key = .string name ∧
      Text.isDigits name.toList = false)
    (member : key ∈ Mapping.keys (entries.foldl (Tree.SectionDraft.add declared) draft).entries) :
    key ∈ Mapping.keys draft.entries ∨ key ∈ Mapping.keys entries := by
  induction entries generalizing draft with
  | nil => exact .inl member
  | cons first rest ih =>
    obtain ⟨present, value⟩ := first
    obtain ⟨given, rfl, plain⟩ := names present List.mem_cons_self
    rcases ih _ (fun key member => names key (List.mem_cons_of_mem _ member)) member with old | new
    · rw [add_name declared draft plain] at old
      rcases Mapping.mem_keys_insert old with old | rfl
      · exact .inl old
      · exact .inr List.mem_cons_self
    · exact .inr (List.mem_cons_of_mem _ new)

/-- Every step of a section under construction is an insertion. -/
theorem add_eq_insert (declared : List String) (draft : Tree.SectionDraft) (entry : Tree × Tree) :
    ∃ key value, (Tree.SectionDraft.add declared draft entry).entries =
      Mapping.insert draft.entries key value := by
  rw [Tree.SectionDraft.add]
  split
  · split
    · split
      · exact ⟨_, _, rfl⟩
      · exact ⟨_, _, rfl⟩
    · exact ⟨_, _, rfl⟩
  · exact ⟨_, _, rfl⟩

theorem distinct_foldl_add (declared : List String) (draft : Tree.SectionDraft)
    (entries : Mapping) (distinct : Distinct draft.entries) :
    Distinct (entries.foldl (Tree.SectionDraft.add declared) draft).entries := by
  induction entries generalizing draft with
  | nil => exact distinct
  | cons first rest ih =>
    refine ih _ ?_
    obtain ⟨key, value, eq⟩ := add_eq_insert declared draft first
    rw [eq]
    exact Mapping.distinct_insert distinct

/-- A section in its canonical shape gives each name the same attributes, normalized, when it is
normalized. -/
theorem get?_normalizeSection (settled : SettledEntries entries) (name : String) :
    Mapping.get? (entries.foldl (Tree.SectionDraft.add (Tree.declaredNames entries)) {}).entries
      name = (Mapping.get? entries name).map Tree.expandEntry := by
  rw [get?_foldl_add _ _ settled.names name (settled.distinct _ (Tree.textual_string name))]
  exact Option.or_none

theorem settledEntries_normalizeSection (settled : SettledEntries entries) :
    SettledEntries
      (entries.foldl (Tree.SectionDraft.add (Tree.declaredNames entries)) {}).entries := by
  refine .of_get? (fun key member => ?_) (distinct_foldl_add _ _ _ Mapping.distinct_nil) ?_
  · rcases mem_keys_foldl_add _ _ settled.names member with old | new
    · exact nomatch old
    · exact settled.names key new
  · intro name value found
    rw [get?_normalizeSection settled] at found
    rcases settled.get? name with none_ | ⟨attributes, some_, once⟩
    · rw [none_] at found
      cases found
    · rw [some_] at found
      cases found
      exact ⟨_, rfl, keysOnce_normalizeAttributes once⟩

theorem settled_normalizeSection (settled : Settled value) :
    Settled (value.map Tree.normalizeSection) := by
  cases settled with
  | absent => exact .absent
  | null => exact .null
  | entries settled => exact .entries (settledEntries_normalizeSection settled)

theorem entryOf_normalizeSection (settled : Settled value) (name : String) :
    entryOf (value.map Tree.normalizeSection) name =
      (entryOf value name).map Tree.normalizeAttributes := by
  cases settled with
  | absent => rfl
  | null => rfl
  | entries settled =>
    simp only [Option.map_some, Tree.normalizeSection, Tree.indexed, entryOf, attributesOf,
      Option.bind_some]
    rw [get?_normalizeSection settled]
    rcases settled.get? name with none_ | ⟨attributes, some_, -⟩
    · rw [none_]
      rfl
    · rw [some_]
      rfl

/-- **Normalizing a section once more** changes no text. -/
theorem valueOf_normalizeSection (settled : Settled value) (text : one ∈ Attribute.texts)
    (names : key.Names one) (name : String) :
    valueOf (value.map Tree.normalizeSection) name key = valueOf value name key := by
  rw [valueOf, valueOf, entryOf_normalizeSection settled]
  cases found : entryOf value name with
  | none => rfl
  | some attributes => exact find?_normalizeAttributes (settled.keysOnce found) text names

/-! ## The core project in front -/

theorem entriesCoreFirst_perm (entries : Mapping) :
    (Tree.entriesCoreFirst entries).Perm entries := by
  rw [Tree.entriesCoreFirst]
  split
  · next core found =>
    obtain ⟨isCore, before, after, rfl, none_⟩ := List.find?_eq_some_iff_append.1 found
    rw [List.eraseP_append_right _ fun entry member => by simpa using none_ entry member]
    simp only [List.eraseP_cons, isCore, cond_true]
    exact List.perm_middle.symm
  · exact List.Perm.refl _

theorem settledEntries_of_perm {others : Mapping} (perm : others.Perm entries)
    (settled : SettledEntries entries) : SettledEntries others := by
  refine ⟨fun key member => settled.names key ((perm.map _).mem_iff.1 member),
    fun entry member => settled.values entry (perm.mem_iff.1 member), fun key textual => ?_⟩
  refine (List.Perm.pairwise_iff ?_ perm).2 (settled.distinct key textual)
  exact fun apart both => apart ⟨both.2, both.1⟩

theorem get?_of_perm {others : Mapping} (perm : others.Perm entries)
    (settled : SettledEntries entries) (name : String) :
    Mapping.get? others name = Mapping.get? entries name := by
  have textual := Tree.textual_string name
  exact Mapping.find?_congr_of_mem textual
    ((settledEntries_of_perm perm settled).distinct _ textual)
    (settled.distinct _ textual) fun value => perm.mem_iff

theorem settled_projectsCoreFirst (settled : Settled value) :
    Settled (value.map Tree.projectsCoreFirst) := by
  cases settled with
  | absent => exact .absent
  | null => exact .null
  | entries settled => exact .entries (settledEntries_of_perm (entriesCoreFirst_perm _) settled)

/-- **The core project in front** has the same attributes as elsewhere. -/
theorem entryOf_projectsCoreFirst (settled : Settled value) (name : String) :
    entryOf (value.map Tree.projectsCoreFirst) name = entryOf value name := by
  cases settled with
  | absent => rfl
  | null => rfl
  | entries settled =>
    exact congrArg attributesOf (get?_of_perm (entriesCoreFirst_perm _) settled name)

end BuildManifest
