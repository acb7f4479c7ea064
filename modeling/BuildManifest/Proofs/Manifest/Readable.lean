import BuildManifest.Proofs.Manifest.Attributes
import BuildManifest.Proofs.Tree.Merging

/-!
# Which attributes can be read

The attributes of an entry are read one after the other.  Where their keys are plain names, reading
them succeeds exactly if no attribute is given twice, `patch` and `patches` being one, and each
value can be read.

## What is here

* `Attribute.Reads`, `ReadsUnder` — a value that can be read as an attribute, or under a name.
* `PlainNames` — keys that are texts without tags.
* `exists_ofMapping_iff` — **which attributes can be read**.
-/

set_option autoImplicit false

namespace BuildManifest

open Mapping (Once find?)

variable {attributes others rest : Mapping} {key value : Tree} {name other : String}
variable {one : Attribute}

/-! ## Names of attributes -/

/-- The name that an attribute is known by: `patch` is another word for `patches`. -/
def canonicalName (name : String) : String := if name = "patch" then "patches" else name

theorem Attribute.ofName?_eq_some_iff :
    Attribute.ofName? name = some one ↔ canonicalName name = one.name := by
  have byName : (Attribute.all.find? fun one => one.name == name) = some one ↔ name = one.name := by
    constructor
    · intro found
      have given := List.find?_some found
      exact (eq_of_beq given).symm
    · rintro rfl
      cases one <;> decide
  rw [Attribute.ofName?, canonicalName]
  by_cases patch : name = "patch"
  · rw [if_pos patch, if_pos patch]
    cases one <;> decide
  · rw [if_neg patch, if_neg patch]
    exact byName

/-- The keys are texts without tags. -/
def PlainNames (attributes : Mapping) : Prop :=
  ∀ key ∈ Mapping.keys attributes, ∃ name, key = .string name

theorem plainNames_cons : PlainNames ((key, value) :: rest) ↔
    (∃ name, key = .string name) ∧ PlainNames rest := List.forall_mem_cons

instance : (key : Tree) → Decidable (∃ name, key = .string name)
  | .string name => isTrue ⟨name, rfl⟩
  | .null | .bool _ | .number _ | .sequence _ | .mapping _ | .tagged .. => isFalse nofun

instance (attributes : Mapping) : Decidable (PlainNames attributes) :=
  inferInstanceAs (Decidable (∀ key ∈ Mapping.keys attributes, _))

/-! ## Values of attributes -/

/-- The value can be read as the attribute. -/
def Attribute.Reads : Attribute → Tree → Prop
  | .download, value => ∃ download, readDownload value = .ok download
  | .patches, value => ∃ patches, Patch.allOfTree value = .ok patches
  | .workingCopy, value => ∃ truth, readTruth value = .ok truth
  | _, value => ∃ text, readText value = .ok text

/-- The value can be read under the name. -/
def ReadsUnder (name : String) (value : Tree) : Prop :=
  match Attribute.ofName? name with
  | some one => one.Reads value
  | none => value.hasTag = false

namespace Entry

variable {entry result : Entry} {seen : List Attribute}

theorem exists_withAttribute_iff :
    (∃ next, entry.withAttribute value one = .ok next) ↔ one.Reads value := by
  cases one <;> exact exists_map_eq_ok_iff

/-- The attribute that a key gives, if it is interpreted. -/
def slot? (pair : Tree × Tree) : Option Attribute := pair.1.text?.bind Attribute.ofName?

/-- The name that a key gives an attribute, in one spelling. -/
def givenName? (pair : Tree × Tree) : Option String := pair.1.text?.map canonicalName

/-- Attributes that are not interpreted. -/
def uninterpreted (attributes : Mapping) : Mapping :=
  attributes.filter fun pair => (slot? pair).isNone

/-! ## Reading one after the other -/

/-- **Attributes can be read one after the other** exactly if every key is a name whose value can
be read and none is given again. -/
theorem exists_readAttributes_iff :
    (∃ result, readAttributes entry seen attributes = .ok result) ↔
      (∀ pair ∈ attributes, ∃ name, pair.1.text? = some name ∧ ReadsUnder name pair.2) ∧
      (∀ pair ∈ attributes, ∀ one, slot? pair = some one → one ∉ seen) ∧
      attributes.Pairwise fun a b => slot? a = none ∨ slot? a ≠ slot? b := by
  induction attributes generalizing entry seen with
  | nil => simp [readAttributes]
  | cons first rest ih =>
    obtain ⟨key, value⟩ := first
    rw [List.forall_mem_cons, List.forall_mem_cons, List.pairwise_cons]
    constructor
    · rintro ⟨result, h⟩
      rcases readAttributes_cons h with
        ⟨name, one, next, text, known, fresh, given, h⟩ | ⟨name, next, text, unknown, given, h⟩
      · have slot : slot? (key, value) = some one := by rw [slot?, text, Option.bind_some, known]
        obtain ⟨reads, unseen, apart⟩ := ih.1 ⟨result, h⟩
        refine ⟨⟨⟨name, text, ?_⟩, reads⟩,
          ⟨fun other eq => ?_, fun pair member other eq seen => ?_⟩,
          fun pair member => .inr fun eq => ?_, apart⟩
        · rw [ReadsUnder, known]
          exact exists_withAttribute_iff.1 ⟨next, given⟩
        · rw [slot] at eq
          cases eq
          exact fresh
        · exact unseen pair member other eq (List.mem_cons_of_mem _ seen)
        · exact unseen pair member one (eq.symm.trans slot) List.mem_cons_self
      · have slot : slot? (key, value) = none := by rw [slot?, text, Option.bind_some, unknown]
        obtain ⟨reads, unseen, apart⟩ := ih.1 ⟨result, h⟩
        refine ⟨⟨⟨name, text, ?_⟩, reads⟩, ⟨fun other eq => ?_, unseen⟩,
          fun pair member => .inl slot, apart⟩
        · rw [ReadsUnder, unknown]
          rw [withExtra] at given
          split at given
          · cases given
          · next untagged => exact Bool.eq_false_iff.2 untagged
        · rw [slot] at eq
          cases eq
    · rintro ⟨⟨⟨name, text, here⟩, reads⟩, ⟨fresh, unseen⟩, first, apart⟩
      cases known : Attribute.ofName? name with
      | none =>
        rw [ReadsUnder, known] at here
        have given : entry.withExtra name value =
            .ok { entry with extra := entry.extra ++ [(.string name, value)] } := by
          rw [withExtra, here]
          rfl
        obtain ⟨result, h⟩ : ∃ result, readAttributes
            { entry with extra := entry.extra ++ [(.string name, value)] } seen rest = .ok result :=
          ih.2 ⟨reads, unseen, apart⟩
        refine ⟨result, ?_⟩
        simp only [readAttributes, text, known, given]
        exact h
      | some one =>
        have slot : slot? (key, value) = some one := by rw [slot?, text, Option.bind_some, known]
        rw [ReadsUnder, known] at here
        obtain ⟨next, given⟩ : ∃ next, entry.withAttribute value one = .ok next :=
          exists_withAttribute_iff.2 here
        have unseen' : ∀ pair ∈ rest, ∀ other, slot? pair = some other → other ∉ one :: seen := by
          intro pair member other eq again
          rcases List.mem_cons.1 again with rfl | before
          · rcases first pair member with none_ | ne
            · rw [slot] at none_
              cases none_
            · exact ne (slot.trans eq.symm)
          · exact unseen pair member other eq before
        obtain ⟨result, h⟩ : ∃ result, readAttributes next (one :: seen) rest = .ok result :=
          ih.2 ⟨reads, unseen', apart⟩
        have fresh : seen.contains one = false := by simpa using fresh one slot
        refine ⟨result, ?_⟩
        simp only [readAttributes, text, known, fresh, given]
        exact h

theorem extra_withAttribute {next : Entry} (h : entry.withAttribute value one = .ok next) :
    next.extra = entry.extra := by
  cases one <;> obtain ⟨_, -, rfl⟩ := map_eq_ok_iff.1 h <;> rfl

/-- The attributes that are not interpreted, under their names. -/
def extraOf (attributes : Mapping) : Mapping :=
  (uninterpreted attributes).filterMap fun pair =>
    pair.1.text?.map fun name => (.string name, pair.2)

theorem extraOf_cons_of_some (slot : slot? (key, value) = some one) :
    extraOf ((key, value) :: rest) = extraOf rest := by
  rw [extraOf, uninterpreted, List.filter_cons_of_neg (by simp [slot])]
  rfl

theorem extraOf_cons_of_none {name : String} (text : key.text? = some name)
    (unknown : Attribute.ofName? name = none) :
    extraOf ((key, value) :: rest) = (.string name, value) :: extraOf rest := by
  have slot : slot? (key, value) = none := by rw [slot?, text, Option.bind_some, unknown]
  rw [extraOf, uninterpreted, List.filter_cons_of_pos (by simp [slot]), List.filterMap_cons_some]
  · rfl
  · rw [text]
    rfl

theorem plainNames_extraOf (attributes : Mapping) : PlainNames (extraOf attributes) := by
  intro key member
  obtain ⟨entry, inside, rfl⟩ := List.mem_map.1 member
  obtain ⟨pair, -, eq⟩ := List.mem_filterMap.1 inside
  obtain ⟨name, -, rfl⟩ := Option.map_eq_some_iff.1 eq
  exact ⟨name, rfl⟩

theorem extraOf_perm (perm : attributes.Perm others) :
    (extraOf attributes).Perm (extraOf others) := (perm.filter _).filterMap _

/-- **What is not interpreted is kept**, in its order. -/
theorem extra_eq_of_readAttributes (h : readAttributes entry seen attributes = .ok result) :
    result.extra = entry.extra ++ extraOf attributes := by
  induction attributes generalizing entry seen with
  | nil =>
    cases h
    exact (List.append_nil _).symm
  | cons first rest ih =>
    obtain ⟨key, value⟩ := first
    rcases readAttributes_cons h with
      ⟨name, one, next, text, known, -, given, h⟩ | ⟨name, next, text, unknown, given, h⟩
    · have slot : slot? (key, value) = some one := by rw [slot?, text, Option.bind_some, known]
      rw [ih h, extra_withAttribute given, extraOf_cons_of_some slot]
    · rw [ih h, extraOf_cons_of_none text unknown]
      rw [withExtra] at given
      split at given
      · cases given
      · cases given
        exact List.append_assoc _ _ _

theorem extraOf_of_plainNames (names : PlainNames attributes) :
    extraOf attributes = uninterpreted attributes := by
  induction attributes with
  | nil => rfl
  | cons first rest ih =>
    obtain ⟨key, value⟩ := first
    obtain ⟨⟨name, rfl⟩, others⟩ := plainNames_cons.1 names
    rw [uninterpreted]
    cases known : Attribute.ofName? name with
    | some one =>
      have slot : slot? (.string name, value) = some one := known
      rw [extraOf_cons_of_some slot, ih others, List.filter_cons_of_neg (by simp [slot])]
      rfl
    | none =>
      have slot : slot? (.string name, value) = none := known
      rw [extraOf_cons_of_none rfl known, ih others, List.filter_cons_of_pos (by simp [slot])]
      rfl

theorem extra_of_readAttributes (names : PlainNames attributes)
    (h : readAttributes entry seen attributes = .ok result) :
    result.extra = entry.extra ++ uninterpreted attributes := by
  rw [extra_eq_of_readAttributes h, extraOf_of_plainNames names]

/-- Of plain names, none is repeated exactly if all are different and none was seen before. -/
theorem repeatedName?_eq_none_iff (names : PlainNames attributes) (before : Mapping) :
    repeatedName? before attributes = none ↔
      (∀ pair ∈ attributes, pair.1 ∉ Mapping.keys before) ∧
      attributes.Pairwise fun a b => a.1 ≠ b.1 := by
  induction attributes generalizing before with
  | nil => simp [repeatedName?]
  | cons first rest ih =>
    obtain ⟨key, value⟩ := first
    obtain ⟨⟨name, rfl⟩, others⟩ := plainNames_cons.1 names
    have present : Mapping.contains before (.string name) = true ↔
        .string name ∈ Mapping.keys before := by
      rw [Mapping.contains, Option.isSome_iff_ne_none, Ne,
        Mapping.find?_eq_none_iff (Tree.textual_string name), Classical.not_not]
    rw [repeatedName?, List.forall_mem_cons, List.pairwise_cons]
    by_cases again : .string name ∈ Mapping.keys before
    · rw [if_pos (present.2 again)]
      exact ⟨fun eq => absurd eq (Option.some_ne_none _), fun h => absurd again h.1.1⟩
    · rw [if_neg fun h => again (present.1 h), ih others]
      simp only [Mapping.keys, List.map_cons, List.mem_cons, not_or]
      constructor
      · rintro ⟨fresh, apart⟩
        exact ⟨⟨again, fun pair member => (fresh pair member).2⟩,
          fun pair member eq => (fresh pair member).1 eq.symm, apart⟩
      · rintro ⟨⟨-, unseen⟩, first, apart⟩
        exact ⟨fun pair member => ⟨fun eq => first pair member eq.symm, unseen pair member⟩, apart⟩

/-- Two plain names are one attribute, or one name, exactly if they are given by one name. -/
theorem givenName?_ne_iff {a b : Tree × Tree} (ha : ∃ name, a.1 = .string name)
    (hb : ∃ name, b.1 = .string name) :
    (slot? a = none ∨ slot? a ≠ slot? b) ∧ (slot? a = none → slot? b = none → a.1 ≠ b.1) ↔
      givenName? a ≠ givenName? b := by
  obtain ⟨key, value⟩ := a
  obtain ⟨key', value'⟩ := b
  obtain ⟨name, rfl⟩ := ha
  obtain ⟨name', rfl⟩ := hb
  show (Attribute.ofName? name = none ∨ Attribute.ofName? name ≠ Attribute.ofName? name') ∧
    (Attribute.ofName? name = none → Attribute.ofName? name' = none →
      Tree.string name ≠ .string name') ↔ some (canonicalName name) ≠ some (canonicalName name')
  constructor
  · rintro ⟨apart, ne⟩ same
    have same := Option.some.inj same
    have slots : Attribute.ofName? name = Attribute.ofName? name' := by
      ext one
      rw [Attribute.ofName?_eq_some_iff, Attribute.ofName?_eq_some_iff, same]
    rcases apart with unknown | apart
    · have plain (text : String) (unknown : Attribute.ofName? text = none) :
          canonicalName text = text := by
        rw [canonicalName, if_neg]
        rintro rfl
        cases unknown
      have unknown' := slots.symm.trans unknown
      rw [plain name unknown, plain name' unknown'] at same
      exact ne unknown unknown' (congrArg Tree.string same)
    · exact apart slots
  · intro apart
    refine ⟨?_, fun _ _ eq => apart (by rw [Tree.string.inj eq])⟩
    cases known : Attribute.ofName? name with
    | none => exact .inl rfl
    | some one =>
      refine .inr fun known' => apart ?_
      rw [Attribute.ofName?_eq_some_iff.1 known, Attribute.ofName?_eq_some_iff.1 known'.symm]

/-- **Attributes with plain names can be read** exactly if no two of them are given by one name
and each value can be read. -/
theorem exists_ofMapping_iff (names : PlainNames attributes) :
    (∃ entry, ofMapping attributes = .ok entry) ↔
      (attributes.Pairwise fun a b => givenName? a ≠ givenName? b) ∧
      ∀ pair ∈ attributes, ∀ name, pair.1 = .string name → ReadsUnder name pair.2 := by
  have plain {pair : Tree × Tree} (member : pair ∈ attributes) : ∃ name, pair.1 = .string name :=
    names _ (List.mem_map_of_mem member)
  have parts : (∃ entry, ofMapping attributes = .ok entry) ↔
      (∃ entry, readAttributes {} [] attributes = .ok entry) ∧
        repeatedName? [] (uninterpreted attributes) = none := by
    constructor
    · rintro ⟨result, h⟩
      obtain ⟨entry, read, h⟩ := bind_eq_ok_iff.1 h
      rw [extra_of_readAttributes names read] at h
      refine ⟨⟨entry, read⟩, ?_⟩
      split at h
      · cases h
      · next none_ => exact none_
    · rintro ⟨⟨entry, read⟩, none_⟩
      refine ⟨entry, bind_eq_ok_iff.2 ⟨entry, read, ?_⟩⟩
      rw [extra_of_readAttributes names read]
      split
      · next found => exact absurd (found.symm.trans none_) (Option.some_ne_none _)
      · rfl
  have others : PlainNames (uninterpreted attributes) := fun key member => by
    obtain ⟨pair, inside, rfl⟩ := List.mem_map.1 member
    exact plain (List.mem_filter.1 inside).1
  rw [parts, exists_readAttributes_iff, repeatedName?_eq_none_iff others, uninterpreted,
    List.pairwise_filter]
  have apart : (attributes.Pairwise fun a b => givenName? a ≠ givenName? b) ↔
      (attributes.Pairwise fun a b => slot? a = none ∨ slot? a ≠ slot? b) ∧
      attributes.Pairwise fun a b =>
        (slot? a).isNone = true → (slot? b).isNone = true → a.1 ≠ b.1 := by
    rw [← List.pairwise_and_iff]
    refine List.Pairwise.iff_of_mem fun {a b} ha hb => ?_
    rw [← givenName?_ne_iff (plain ha) (plain hb), Option.isNone_iff_eq_none,
      Option.isNone_iff_eq_none]
  have reads : (∀ pair ∈ attributes, ∃ name, pair.1.text? = some name ∧ ReadsUnder name pair.2) ↔
      ∀ pair ∈ attributes, ∀ name, pair.1 = .string name → ReadsUnder name pair.2 := by
    refine forall₂_congr fun pair member => ?_
    obtain ⟨name, eq⟩ := plain member
    rw [eq]
    simp [Tree.text?, Tree.untagged]
  rw [apart, reads]
  simp only [Mapping.keys, List.map_nil, List.not_mem_nil, not_false_eq_true, implies_true,
    true_and]
  rw [and_assoc, and_comm]

end Entry

end BuildManifest
