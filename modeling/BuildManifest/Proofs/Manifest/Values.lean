import BuildManifest.Proofs.Manifest.Fields
import BuildManifest.Proofs.Manifest.Sections

/-!
# The text that a manifest has for an attribute

The text of an attribute is followed from the tree that a manifest is read from, through every
step that loading takes, to the manifest in its typed form.

## What is here

* `Manifest.textOf` — the text of an attribute of an entry.
* `textOf_of_valueOf`, `textOf_of_none`, `eq_of_valueOf` — **the key it is read from**.
* `Shaped`, `Tree.at?` — trees whose section has its canonical shape, and a value in it.
* `at?_merge`, `at?_settle`, `at?_without` — the value after the steps of loading.
* `textIn` — the text of a value, and of one value over another.
* `textOf_eq_textIn` — **the text of a manifest is the text of a value of its tree**.
-/

set_option autoImplicit false

namespace BuildManifest

open Mapping (layered find?)

/-- The text that a manifest has for an attribute of an entry, if it is set. -/
def Manifest.textOf (manifest : Manifest) (kind : SectionKind) (name : String) (one : Attribute) :
    Option String :=
  ((manifest.sectionOf kind).get? name).bind fun entry => entry.textOf one

variable {kind : SectionKind} {name : String} {one : Attribute} {key other value : Tree}

/-! ## From a tree to a manifest -/

section

variable {tree : Tree} {format : Option Dialect} {manifest : Manifest}

/-- The attributes that an entry is read from, if there is one. -/
theorem entry_of_ofTree (settled : Settled (tree.field? kind.name))
    (h : Manifest.ofTree tree format = .ok manifest) (name : String) :
    (entryOf (tree.field? kind.name) name = none ∧
      (manifest.sectionOf kind).get? name = none) ∨
    ∃ attributes entry, entryOf (tree.field? kind.name) name = some attributes ∧
      (manifest.sectionOf kind).get? name = some entry ∧
      Entry.ofMapping attributes = .ok entry :=
  get?_of_ofTree settled ((Manifest.readFrom_of_ofTree h).sections kind) name

theorem exists_of_valueOf {section_ : Option Tree} (h : valueOf section_ name key = some value) :
    ∃ attributes, entryOf section_ name = some attributes ∧ find? attributes key = some value :=
  Option.bind_eq_some_iff.1 h

/-- **Where an attribute has a value, the manifest has its text.** -/
theorem textOf_of_valueOf (settled : Settled (tree.field? kind.name))
    (h : Manifest.ofTree tree format = .ok manifest) (text : one ∈ Attribute.texts)
    (names : key.Names one) (found : valueOf (tree.field? kind.name) name key = some value) :
    value.optionalScalar? = some (manifest.textOf kind name one) := by
  obtain ⟨attributes, some_, inside⟩ := exists_of_valueOf found
  rcases entry_of_ofTree settled h name with ⟨none_, -⟩ | ⟨given, entry, eq, present, read⟩
  · rw [some_] at none_
    cases none_
  · rw [some_] at eq
    cases eq
    rw [Manifest.textOf, present]
    exact Entry.textOf_of_mem text read (Mapping.mem_of_find? names.textual inside) names

/-- **Where no key of an attribute has a value, the manifest has no text.** -/
theorem textOf_of_none (settled : Settled (tree.field? kind.name))
    (h : Manifest.ofTree tree format = .ok manifest) (text : one ∈ Attribute.texts)
    (absent : ∀ key : Tree, key.Names one → valueOf (tree.field? kind.name) name key = none) :
    manifest.textOf kind name one = none := by
  rcases entry_of_ofTree settled h name with ⟨-, none_⟩ | ⟨attributes, entry, eq, present, read⟩
  · rw [Manifest.textOf, none_]
    rfl
  · rw [Manifest.textOf, present]
    refine Entry.textOf_of_not_mem text read fun pair member names => ?_
    have missing := absent pair.1 names
    rw [valueOf, eq] at missing
    exact (Mapping.find?_eq_none_iff names.textual).1 missing
      (List.mem_map.2 ⟨pair, member, rfl⟩)

/-- **No two keys of an attribute have values** in a tree that can be read. -/
theorem eq_of_valueOf {first second : Tree} (settled : Settled (tree.field? kind.name))
    (h : Manifest.ofTree tree format = .ok manifest) (text : one ∈ Attribute.texts)
    (names : key.Names one) (found : valueOf (tree.field? kind.name) name key = some first)
    (names' : other.Names one)
    (found' : valueOf (tree.field? kind.name) name other = some second) : key = other := by
  obtain ⟨attributes, some_, inside⟩ := exists_of_valueOf found
  obtain ⟨same, some', inside'⟩ := exists_of_valueOf found'
  rw [some_] at some'
  cases some'
  rcases entry_of_ofTree settled h name with ⟨none_, -⟩ | ⟨given, entry, eq, -, read⟩
  · rw [some_] at none_
    cases none_
  · rw [some_] at eq
    cases eq
    have symmetric : Std.Symm fun a b : Tree × Tree => ¬(a.1.Names one ∧ b.1.Names one) :=
      ⟨fun _ _ apart both => apart ⟨both.2, both.1⟩⟩
    refine Classical.byContradiction fun ne => ?_
    refine (Entry.pairwise_of_ofMapping text read).forall
      (Mapping.mem_of_find? names.textual inside) (Mapping.mem_of_find? names'.textual inside')
      (fun eq => ne (congrArg Prod.fst eq)) ⟨names, names'⟩

end

/-! ## Through the steps of loading -/

/-- A manifest whose section has its canonical shape. -/
structure Shaped (kind : SectionKind) (tree : Tree) : Prop where
  /-- It is a mapping without repeated keys. -/
  rooted : tree.Rooted
  /-- The section has its canonical shape. -/
  settled : Settled (tree.field? kind.name)

/-- The value under a key of the attributes of an entry. -/
def Tree.at? (tree : Tree) (kind : SectionKind) (name : String) (key : Tree) : Option Tree :=
  valueOf (tree.field? kind.name) name key

variable {base top tree : Tree}

theorem shaped_empty (kind : SectionKind) : Shaped kind (.mapping []) :=
  ⟨Tree.rooted_empty, .absent⟩

theorem shaped_merge (below : Shaped kind base) (above : Shaped kind top) :
    Shaped kind (base.merge top) := by
  refine ⟨Tree.rooted_merge below.rooted above.rooted, ?_⟩
  rw [Tree.field?_merge below.rooted above.rooted]
  exact settled_layered below.settled above.settled

theorem at?_merge (below : Shaped kind base) (above : Shaped kind top)
    (text : one ∈ Attribute.texts) (names : key.Names one) (name : String) :
    (base.merge top).at? kind name key = layered (base.at? kind name key)
      (top.at? kind name key) := by
  rw [Tree.at?, Tree.field?_merge below.rooted above.rooted]
  exact valueOf_layered below.settled above.settled text names name

theorem shaped_settle (shaped : Shaped kind tree) : Shaped kind (settle tree) := by
  refine ⟨Tree.rooted_settle shaped.rooted, ?_⟩
  cases kind with
  | projects =>
    rw [SectionKind.name, Tree.field?_settle_projects]
    exact settled_normalizeSection (settled_projectsCoreFirst shaped.settled)
  | libraries =>
    rw [SectionKind.name, Tree.field?_settle_libraries]
    exact settled_normalizeSection shaped.settled

theorem at?_settle (shaped : Shaped kind tree) (text : one ∈ Attribute.texts)
    (names : key.Names one) (name : String) :
    (settle tree).at? kind name key = tree.at? kind name key := by
  cases kind with
  | projects =>
    rw [Tree.at?, SectionKind.name, Tree.field?_settle_projects]
    have core := settled_projectsCoreFirst shaped.settled
    refine (valueOf_normalizeSection core text names name).trans ?_
    rw [valueOf, entryOf_projectsCoreFirst shaped.settled]
    rfl
  | libraries =>
    rw [Tree.at?, SectionKind.name, Tree.field?_settle_libraries]
    exact valueOf_normalizeSection shaped.settled text names name

theorem ne_name (kind : SectionKind) {name : String} (h : name ∉ Tree.entrySections) :
    name ≠ kind.name := by
  rintro rfl
  cases kind <;> exact h (by decide)

theorem shaped_without (shaped : Shaped kind tree) {name : String}
    (h : name ∉ Tree.entrySections) : Shaped kind (tree.without name) := by
  refine ⟨Tree.rooted_without shaped.rooted name, ?_⟩
  rw [Tree.field?_without_other shaped.rooted (ne_name kind h)]
  exact shaped.settled

theorem at?_without (shaped : Shaped kind tree) {other : String}
    (h : other ∉ Tree.entrySections) (name : String) (key : Tree) :
    (tree.without other).at? kind name key = tree.at? kind name key := by
  rw [Tree.at?, Tree.field?_without_other shaped.rooted (ne_name kind h)]
  rfl

/-! ## The text of a value -/

/-- The text of a value, if there is one. -/
def textIn (value : Option Tree) : Option String := value.bind Tree.scalarText?

/-- A value that is a text or nothing, if there is one. -/
def Texted (value : Option Tree) : Prop :=
  ∀ tree, value = some tree → ∃ text, tree.optionalScalar? = some text

theorem scalarText?_of_optionalScalar? {text : Option String}
    (h : tree.optionalScalar? = some text) : tree.scalarText? = text := by
  cases tree with
  | null =>
    cases h
    rfl
  | mapping => cases h
  | sequence => cases h
  | tagged => cases h
  | _ => exact Option.some.inj h

theorem texted_layered {lower upper : Option Tree} (below : Texted lower) (above : Texted upper) :
    Texted (layered lower upper) := by
  cases upper with
  | none => exact below
  | some top =>
    cases lower with
    | none => exact above
    | some base =>
      obtain ⟨text, scalar⟩ := above top rfl
      cases top with
      | null => exact below
      | mapping => cases scalar
      | _ => exact above

/-- **The text of one value over another** is the text of the upper one, if it has one. -/
theorem textIn_layered (lower : Option Tree) {upper : Option Tree} (above : Texted upper) :
    textIn (layered lower upper) = (textIn upper).or (textIn lower) := by
  cases upper with
  | none => rfl
  | some top =>
    obtain ⟨text, scalar⟩ := above top rfl
    cases lower with
    | none => exact Option.or_none.symm
    | some base =>
      cases top with
      | null => rfl
      | mapping => cases scalar
      | sequence => cases scalar
      | tagged => cases scalar
      | _ => rfl

theorem layered_eq_none_iff {lower upper : Option Tree} :
    layered lower upper = none ↔ lower = none ∧ upper = none := by
  cases lower <;> cases upper <;> simp [layered]

/-- No other key of the attribute has a value. -/
def OnlyKey (kind : SectionKind) (name : String) (one : Attribute) (key tree : Tree) : Prop :=
  ∀ other : Tree, other.Names one → other ≠ key → tree.at? kind name other = none

section

variable {format : Option Dialect} {manifest : Manifest}

theorem texted_at? (shaped : Shaped kind tree) (h : Manifest.ofTree tree format = .ok manifest)
    (text : one ∈ Attribute.texts) (names : key.Names one) (name : String) :
    Texted (tree.at? kind name key) := fun _ found =>
  ⟨_, textOf_of_valueOf shaped.settled h text names found⟩

/-- **The text of a manifest is the text of a value of its tree**: of the only key of the
attribute that has one. -/
theorem textOf_eq_textIn (shaped : Shaped kind tree)
    (h : Manifest.ofTree tree format = .ok manifest) (text : one ∈ Attribute.texts)
    (names : key.Names one) (only : OnlyKey kind name one key tree) :
    manifest.textOf kind name one = textIn (tree.at? kind name key) := by
  cases found : tree.at? kind name key with
  | none =>
    refine textOf_of_none shaped.settled h text fun other names' => ?_
    by_cases eq : other = key
    · rw [eq]
      exact found
    · exact only other names' eq
  | some value =>
    have scalar := textOf_of_valueOf shaped.settled h text names found
    exact (scalarText?_of_optionalScalar? scalar).symm

/-- Some key of an attribute is the only one that has a value. -/
theorem exists_only_key (shaped : Shaped kind tree)
    (h : Manifest.ofTree tree format = .ok manifest) (text : one ∈ Attribute.texts)
    (name : String) : ∃ key : Tree, key.Names one ∧ OnlyKey kind name one key tree := by
  by_cases given : ∃ key value, Tree.Names key one ∧ tree.at? kind name key = some value
  · obtain ⟨key, value, names, found⟩ := given
    refine ⟨key, names, fun other names' ne => ?_⟩
    cases found' : tree.at? kind name other with
    | none => rfl
    | some second =>
      exact absurd (eq_of_valueOf shaped.settled h text names' found' names found) ne
  · refine ⟨.string one.name, rfl, fun other names _ => ?_⟩
    cases found : tree.at? kind name other with
    | none => rfl
    | some value => exact absurd ⟨other, value, names, found⟩ given

end

end BuildManifest
