import BuildManifest.Manifest.Entry.OfTree
import BuildManifest.Proofs.Success
import BuildManifest.Proofs.Tree.Keys

/-!
# Attributes that are texts

Six attributes of an entry are texts.  An entry that can be read gives each of them at most once,
under a key that may be tagged, and the entry has the text that stands there.

## What is here

* `Attribute.texts`, `Entry.textOf` — the attributes, and their values.
* `Download.texts`, `Download.textOf` — the same for the fields of a download.
* `Tree.Names` — a key that gives an attribute.
* `readAttributes_cons` — one step of reading.
* `textOf_of_mem`, `textOf_of_not_mem`, `pairwise_of_ofMapping` — **what an entry is read from**.
-/

set_option autoImplicit false

namespace BuildManifest

namespace Attribute

/-- The attributes that are texts. -/
def texts : List Attribute :=
  [.version, .kind, .subdir, .directoryName, .contribDestination, .destination]

theorem eq_name_of_ofName? {name : String} {one : Attribute} (text : one ∈ texts)
    (h : ofName? name = some one) : name = one.name := by
  rw [ofName?] at h
  split at h
  · cases h
    exact absurd text (by decide)
  · have given := List.find?_some h
    exact (eq_of_beq given).symm

theorem ofName?_name {one : Attribute} (text : one ∈ texts) : ofName? one.name = some one := by
  revert one
  decide

end Attribute

/-- The text that an attribute has. -/
def Entry.textOf (entry : Entry) : Attribute → Option String
  | .version => entry.version
  | .kind => entry.kind
  | .subdir => entry.subdir
  | .directoryName => entry.directoryName
  | .contribDestination => entry.contribDestination
  | .destination => entry.destination
  | _ => none

namespace Download

/-- The fields that are texts. -/
def texts : List String := ["url", "branch", "tag", "revision"]

/-- The text that a field has. -/
def textOf (download : Download) : String → Option String
  | "url" => download.url
  | "branch" => download.branch
  | "tag" => download.tag
  | "revision" => download.revision
  | _ => none

end Download

/-- The key gives the attribute, whether or not it is tagged. -/
def Tree.Names (key : Tree) (one : Attribute) : Prop := key.text? = some one.name

theorem Tree.Names.textual {key : Tree} {one : Attribute} (h : key.Names one) : key.Textual := by
  rw [Textual, h]
  rfl

namespace Entry

variable {entry next result : Entry} {one other : Attribute} {value key : Tree}
  {attributes rest : Mapping} {seen : List Attribute}

/-! ## One attribute -/

theorem optionalScalar?_of_readText {text : Option String} (h : readText value = .ok text) :
    value.optionalScalar? = some text := by
  rw [readText] at h
  split at h
  · next scalar =>
    cases h
    exact scalar
  · cases h

theorem textOf_withAttribute_self (text : one ∈ Attribute.texts)
    (h : entry.withAttribute value one = .ok next) :
    value.optionalScalar? = some (next.textOf one) := by
  cases one with
  | download => exact absurd text (by decide)
  | patches => exact absurd text (by decide)
  | workingCopy => exact absurd text (by decide)
  | _ =>
    obtain ⟨given, read, rfl⟩ := map_eq_ok_iff.1 h
    exact optionalScalar?_of_readText read

theorem textOf_withAttribute_other (ne : one ≠ other)
    (h : entry.withAttribute value one = .ok next) : next.textOf other = entry.textOf other := by
  cases one <;> obtain ⟨given, -, rfl⟩ := map_eq_ok_iff.1 h <;> cases other <;>
    first | rfl | exact absurd rfl ne

theorem textOf_withExtra {name : String} (h : entry.withExtra name value = .ok next) :
    next.textOf other = entry.textOf other := by
  rw [withExtra] at h
  split at h
  · cases h
  · cases h
    cases other <;> rfl

/-! ## All attributes -/

/-- The first attribute is one that was not given before, or one that is not interpreted. -/
theorem readAttributes_cons (h : readAttributes entry seen ((key, value) :: rest) = .ok result) :
    (∃ name one next, key.text? = some name ∧ Attribute.ofName? name = some one ∧ one ∉ seen ∧
      entry.withAttribute value one = .ok next ∧
      readAttributes next (one :: seen) rest = .ok result) ∨
    ∃ name next, key.text? = some name ∧ Attribute.ofName? name = none ∧
      entry.withExtra name value = .ok next ∧ readAttributes next seen rest = .ok result := by
  rw [readAttributes] at h
  split at h
  · cases h
  · next name text =>
    split at h
    · next one known =>
      split at h
      · cases h
      · next fresh =>
        obtain ⟨next, given, h⟩ := bind_eq_ok_iff.1 h
        exact .inl ⟨name, one, next, text, known, by simpa using fresh, given, h⟩
    · next unknown =>
      obtain ⟨next, given, h⟩ := bind_eq_ok_iff.1 h
      exact .inr ⟨name, next, text, unknown, given, h⟩

/-- An attribute that was given is not given again. -/
theorem not_names_of_seen (text : one ∈ Attribute.texts) (given : one ∈ seen)
    (h : readAttributes entry seen attributes = .ok result) :
    ∀ pair ∈ attributes, ¬pair.1.Names one := by
  induction attributes generalizing entry seen with
  | nil => exact fun _ member => nomatch member
  | cons first rest ih =>
    obtain ⟨key, value⟩ := first
    intro pair member names
    rcases readAttributes_cons h with
      ⟨name, other, next, keyText, known, fresh, -, h⟩ | ⟨name, next, keyText, unknown, -, h⟩
    · rcases List.mem_cons.1 member with rfl | later
      · rw [Tree.Names, keyText, Option.some.injEq] at names
        rw [names, Attribute.ofName?_name text] at known
        exact fresh (Option.some.inj known ▸ given)
      · exact ih (List.mem_cons_of_mem _ given) h pair later names
    · rcases List.mem_cons.1 member with rfl | later
      · rw [Tree.Names, keyText, Option.some.injEq] at names
        rw [names, Attribute.ofName?_name text] at unknown
        cases unknown
      · exact ih given h pair later names

theorem textOf_readAttributes_of_not_names (text : one ∈ Attribute.texts)
    (h : readAttributes entry seen attributes = .ok result)
    (absent : ∀ pair ∈ attributes, ¬pair.1.Names one) :
    result.textOf one = entry.textOf one := by
  induction attributes generalizing entry seen with
  | nil =>
    cases h
    rfl
  | cons first rest ih =>
    obtain ⟨key, value⟩ := first
    have later : ∀ pair ∈ rest, ¬pair.1.Names one := fun pair member =>
      absent pair (List.mem_cons_of_mem _ member)
    rcases readAttributes_cons h with
      ⟨name, other, next, keyText, known, -, given, h⟩ | ⟨name, next, keyText, -, given, h⟩
    · rw [ih h later, textOf_withAttribute_other _ given]
      rintro rfl
      refine absent _ List.mem_cons_self ?_
      rw [Tree.Names, keyText, Attribute.eq_name_of_ofName? text known]
    · rw [ih h later, textOf_withExtra given]

/-- **Where an attribute stands, the entry has the text that stands there**, and the attribute
stands nowhere else. -/
theorem textOf_readAttributes_of_names (text : one ∈ Attribute.texts)
    (h : readAttributes entry seen attributes = .ok result) (member : (key, value) ∈ attributes)
    (names : key.Names one) : value.optionalScalar? = some (result.textOf one) := by
  induction attributes generalizing entry seen with
  | nil => exact nomatch member
  | cons first rest ih =>
    obtain ⟨present, old⟩ := first
    rcases readAttributes_cons h with
      ⟨name, other, next, keyText, known, -, given, h⟩ | ⟨name, next, keyText, unknown, -, h⟩
    · rcases List.mem_cons.1 member with here | later
      · cases here
        rw [Tree.Names, keyText, Option.some.injEq] at names
        rw [names, Attribute.ofName?_name text] at known
        cases known
        rw [textOf_withAttribute_self text given, textOf_readAttributes_of_not_names text h
          (not_names_of_seen text List.mem_cons_self h)]
      · exact ih h later
    · rcases List.mem_cons.1 member with here | later
      · cases here
        rw [Tree.Names, keyText, Option.some.injEq] at names
        rw [names, Attribute.ofName?_name text] at unknown
        cases unknown
      · exact ih h later

theorem pairwise_of_readAttributes (text : one ∈ Attribute.texts)
    (h : readAttributes entry seen attributes = .ok result) :
    attributes.Pairwise fun a b => ¬(a.1.Names one ∧ b.1.Names one) := by
  induction attributes generalizing entry seen with
  | nil => exact List.Pairwise.nil
  | cons first rest ih =>
    obtain ⟨key, value⟩ := first
    rcases readAttributes_cons h with
      ⟨name, other, next, keyText, known, -, -, h⟩ | ⟨name, next, keyText, unknown, -, h⟩
    · refine List.pairwise_cons.2 ⟨?_, ih h⟩
      rintro pair member ⟨here, there⟩
      rw [Tree.Names, keyText, Option.some.injEq] at here
      rw [here, Attribute.ofName?_name text] at known
      cases known
      exact not_names_of_seen text List.mem_cons_self h pair member there
    · refine List.pairwise_cons.2 ⟨?_, ih h⟩
      rintro pair member ⟨here, -⟩
      rw [Tree.Names, keyText, Option.some.injEq] at here
      rw [here, Attribute.ofName?_name text] at unknown
      cases unknown

/-! ## Entries -/

theorem readAttributes_of_ofMapping (h : ofMapping attributes = .ok result) :
    readAttributes {} [] attributes = .ok result := by
  obtain ⟨entry, read, h⟩ := bind_eq_ok_iff.1 h
  split at h
  · cases h
  · cases h
    exact read

theorem textOf_of_mem (text : one ∈ Attribute.texts) (h : ofMapping attributes = .ok result)
    (member : (key, value) ∈ attributes) (names : key.Names one) :
    value.optionalScalar? = some (result.textOf one) :=
  textOf_readAttributes_of_names text (readAttributes_of_ofMapping h) member names

theorem textOf_of_not_mem (text : one ∈ Attribute.texts) (h : ofMapping attributes = .ok result)
    (absent : ∀ pair ∈ attributes, ¬pair.1.Names one) : result.textOf one = none := by
  rw [textOf_readAttributes_of_not_names text (readAttributes_of_ofMapping h) absent]
  cases one <;> rfl

theorem pairwise_of_ofMapping (text : one ∈ Attribute.texts)
    (h : ofMapping attributes = .ok result) :
    attributes.Pairwise fun a b => ¬(a.1.Names one ∧ b.1.Names one) :=
  pairwise_of_readAttributes text (readAttributes_of_ofMapping h)

end Entry

end BuildManifest
