import BuildManifest.Proofs.Check.Grammar
import BuildManifest.Proofs.Check.Selected
import Mathlib.Data.List.Sort

/-!
# What validation reports

Validation walks the sections once and decides at each entry what to report, from the names it has
passed.  Here the flaws of a manifest are said one by one instead, each with the place it stands
at, and without a walk: a name is repeated where exactly one earlier entry has it.  The report is
then what an account of these flaws in the order of their places gives.

## What is here

* `Place` — where a flaw can stand, with the order of the report.
* `Manifest.Flaw` — the flaws.
* `Accounts` — a list of violations that has one for each flaw, in order; **the flaws determine
  the list** (`Accounts.unique`).
* `accounts_pathViolations`, `accounts_entriesViolations`, `accounts_violations` — every part of
  the check accounts for the flaws of its part.
* `validate_accounts` — **validation fails exactly if there is a flaw, and then reports the
  flaws**.
-/

set_option autoImplicit false

namespace BuildManifest

/-! ## Places -/

/-- The attributes that name a place below the install root. -/
inductive PathAttribute where
  | subdir
  | directoryName
  | contribDestination
  | destination
  deriving DecidableEq, Repr

namespace PathAttribute

/-- Every such attribute, in the order they are reported in. -/
def all : List PathAttribute := [.subdir, .directoryName, .contribDestination, .destination]

/-- The name of the attribute. -/
def label : PathAttribute → String
  | .subdir => "subdir"
  | .directoryName => "directory_name"
  | .contribDestination => "contrib_destination"
  | .destination => "destination"

/-- What an entry sets the attribute to. -/
def value (entry : Entry) : PathAttribute → Option String
  | .subdir => entry.subdir
  | .directoryName => entry.directoryName
  | .contribDestination => entry.contribDestination
  | .destination => entry.destination

/-- The rank of the attribute among those of an entry. -/
def rank : PathAttribute → Nat
  | .subdir => 0
  | .directoryName => 1
  | .contribDestination => 2
  | .destination => 3

end PathAttribute

/-- What can be wrong with an entry. -/
inductive EntryPart where
  /-- Its name, which another entry has. -/
  | name
  /-- One of its paths. -/
  | path (key : PathAttribute)
  deriving DecidableEq, Repr

/-- Where a flaw can stand. -/
inductive Place where
  /-- At the platform version. -/
  | core
  /-- At the version of the format. -/
  | api
  /-- At the entry that has this position in its section. -/
  | entry (kind : SectionKind) (position : Nat) (part : EntryPart)
  deriving DecidableEq, Repr

namespace Place

/-- The rank of a section. -/
def rankOfSection : SectionKind → Nat
  | .projects => 0
  | .libraries => 1

/-- The name of an entry comes before its paths. -/
def rankOfPart : EntryPart → Nat
  | .name => 0
  | .path key => key.rank + 1

/-- The rank of a place, read from the left. -/
def rank : Place → List Nat
  | .core => [0]
  | .api => [1]
  | .entry kind position part => [2, rankOfSection kind, position, rankOfPart part]

/-- The places in the order they are reported in. -/
instance : LT Place := ⟨fun a b => a.rank < b.rank⟩

theorem lt_def {a b : Place} : a < b ↔ a.rank < b.rank := Iff.rfl

theorem entry_lt_entry {kind : SectionKind} {position position' : Nat} {part part' : EntryPart}
    (h : position < position' ∨ position = position' ∧ rankOfPart part < rankOfPart part') :
    Place.entry kind position part < .entry kind position' part' := by
  simpa [lt_def, rank, List.cons_lt_cons_iff] using h

end Place

/-! ## Flaws -/

/-- What is wrong with the entry at a position of a section. -/
inductive EntryFlaw (kind : SectionKind) (s : Section) (position : Nat) :
    EntryPart → Violation → Prop
  /-- It is the second one of its name. -/
  | repeated {name : String} (here : s.names[position]? = some name)
      (second : ∃! earlier, earlier < position ∧ s.names[earlier]? = some name) :
      EntryFlaw kind s position .name (.duplicateName kind name)
  /-- One of its paths leaves its root. -/
  | leaving {name path : String} {entry : Entry} {key : PathAttribute}
      (here : s.entries[position]? = some (name, entry))
      (given : key.value entry = some path) (leaves : isSafePath path = false) :
      EntryFlaw kind s position (.path key) (.unsafePath kind name key.label path)

/-- The flaws of a manifest.  Its entries are taken as they are when the defaults of their section
are filled in and libraries have lost the attribute they do not have. -/
inductive Manifest.Flaw (manifest : Manifest) (options : CheckOptions) : Place → Violation → Prop
  /-- There is no platform version. -/
  | missingCore (missing : manifest.core = none) :
      Flaw manifest options .core (.missingAttribute "core")
  /-- The platform version is spelt in no way there is. -/
  | badCore {text : String} (given : manifest.core = some text)
      (bad : ∀ version, ¬CoreVersion.Spelt text.toList version) :
      Flaw manifest options .core (.badCoreVersion text)
  /-- The version of the format is another one, and not any is accepted. -/
  | otherApi {found : Nat} (given : manifest.api = some found) (other : found ≠ options.api)
      (strict : options.force = false) :
      Flaw manifest options .api (.apiMismatch found options.api)
  /-- Something is wrong with an entry. -/
  | entry {kind : SectionKind} {position : Nat} {part : EntryPart} {violation : Violation}
      (wrong : EntryFlaw kind (manifest.completedSection kind) position part violation) :
      Flaw manifest options (.entry kind position part) violation

/-! ## Accounts -/

/-- The list has one violation for each flaw, in the order of their places. -/
def Accounts (flaw : Place → Violation → Prop) (found : List Violation) : Prop :=
  ∃ reports : List (Place × Violation), reports.Pairwise (fun a b => a.1 < b.1) ∧
    (∀ place violation, (place, violation) ∈ reports ↔ flaw place violation) ∧
    reports.map (·.2) = found

namespace Accounts

variable {flaw flaw' : Place → Violation → Prop} {found found' : List Violation}

/-- **The flaws determine the list.** -/
theorem unique (h : Accounts flaw found) (h' : Accounts flaw found') : found = found' := by
  obtain ⟨reports, ordered, same, rfl⟩ := h
  obtain ⟨reports', ordered', same', rfl⟩ := h'
  have irrefl : Std.Irrefl fun a b : Place × Violation => a.1 < b.1 :=
    ⟨fun a => List.lt_irrefl a.1.rank⟩
  have antisymm : Std.Antisymm fun a b : Place × Violation => a.1 < b.1 :=
    ⟨fun a b before after => absurd after (List.lt_asymm before)⟩
  have eq : reports = reports' :=
    ordered.eq_of_mem_iff ordered' fun one => (same one.1 one.2).trans (same' one.1 one.2).symm
  rw [eq]

theorem congr (h : Accounts flaw found) (same : ∀ place violation,
    flaw place violation ↔ flaw' place violation) : Accounts flaw' found := by
  obtain ⟨reports, ordered, members, rfl⟩ := h
  exact ⟨reports, ordered, fun place violation => (members place violation).trans
    (same place violation), rfl⟩

theorem nil (none_ : ∀ place violation, ¬flaw place violation) : Accounts flaw [] :=
  ⟨[], .nil, fun place violation => iff_of_false List.not_mem_nil (none_ place violation), rfl⟩

variable {place : Place} {flawHere : Violation → Prop}

theorem nil_at (none_ : ∀ violation, ¬flawHere violation) :
    Accounts (fun place' violation => place' = place ∧ flawHere violation) [] :=
  nil fun _ violation wrong => none_ violation wrong.2

theorem single_at {violation : Violation} (only : ∀ other, flawHere other ↔ other = violation) :
    Accounts (fun place' other => place' = place ∧ flawHere other) [violation] :=
  ⟨[(place, violation)], List.pairwise_singleton _ _, fun place' other => by
    rw [List.mem_singleton, Prod.mk.injEq, ← only], rfl⟩

theorem append (h : Accounts flaw found) (h' : Accounts flaw' found')
    (before : ∀ place violation place' violation', flaw place violation →
      flaw' place' violation' → place < place') :
    Accounts (fun place violation => flaw place violation ∨ flaw' place violation)
      (found ++ found') := by
  obtain ⟨reports, ordered, same, rfl⟩ := h
  obtain ⟨reports', ordered', same', rfl⟩ := h'
  refine ⟨reports ++ reports', List.pairwise_append.2 ⟨ordered, ordered', ?_⟩, ?_,
    List.map_append⟩
  · intro one member one' member'
    exact before _ _ _ _ ((same one.1 one.2).1 member) ((same' one'.1 one'.2).1 member')
  · intro place violation
    rw [List.mem_append, same, same']

/-- The accounts of parts whose places follow each other make up the account of the whole. -/
theorem flatMap {α : Type} {parts : List α} {flawAt : α → Place → Violation → Prop}
    {foundAt : α → List Violation} (each : ∀ part ∈ parts, Accounts (flawAt part) (foundAt part))
    (before : parts.Pairwise fun part part' => ∀ place violation place' violation',
      flawAt part place violation → flawAt part' place' violation' → place < place') :
    Accounts (fun place violation => ∃ part ∈ parts, flawAt part place violation)
      (parts.flatMap foundAt) := by
  induction parts with
  | nil => exact nil fun _ _ ⟨_, member, _⟩ => List.not_mem_nil member
  | cons first rest ih =>
    obtain ⟨here, later⟩ := List.forall_mem_cons.1 each
    obtain ⟨ahead, ordered⟩ := List.pairwise_cons.1 before
    rw [List.flatMap_cons]
    refine (here.append (ih later ordered) ?_).congr fun place violation => ?_
    · rintro place violation place' violation' wrong ⟨part, member, wrong'⟩
      exact ahead part member _ _ _ _ wrong wrong'
    · simp only [List.mem_cons, exists_eq_or_imp]

theorem eq_nil_iff (h : Accounts flaw found) :
    found = [] ↔ ∀ place violation, ¬flaw place violation := by
  refine ⟨fun none_ place violation wrong => ?_, fun none_ => h.unique (nil none_)⟩
  obtain ⟨reports, -, same, rfl⟩ := h
  rw [List.map_eq_nil_iff] at none_
  exact List.not_mem_nil (none_ ▸ (same place violation).2 wrong)

end Accounts

/-! ## The second entry of a name -/

theorem count_eq_one_iff {names : List String} {name : String} :
    names.count name = 1 ↔ ∃! position : Nat, names[position]? = some name := by
  induction names with
  | nil => simp [ExistsUnique]
  | cons first rest ih =>
    by_cases here : first = name
    · subst here
      rw [List.count_cons_self, Nat.add_eq_right, List.count_eq_zero]
      constructor
      · intro absent
        refine ⟨0, rfl, fun position found => ?_⟩
        cases position with
        | zero => rfl
        | succ position => exact absurd (List.mem_of_getElem? (l := rest) found) absent
      · rintro ⟨position, -, only⟩ member
        obtain ⟨later, found⟩ := List.getElem?_of_mem member
        exact absurd ((only (later + 1) found).trans (only 0 rfl).symm) (Nat.succ_ne_zero later)
    · rw [List.count_cons_of_ne here, ih]
      constructor
      · rintro ⟨position, found, only⟩
        refine ⟨position + 1, found, fun other found' => ?_⟩
        cases other with
        | zero => exact absurd (Option.some.inj found') here
        | succ other => rw [only other found']
      · rintro ⟨position, found, only⟩
        cases position with
        | zero => exact absurd (Option.some.inj found) here
        | succ position =>
          exact ⟨position, found, fun other found' => Nat.succ.inj (only (other + 1) found')⟩

/-- A name is repeated for the first time where one earlier entry has it. -/
theorem count_take_eq_one_iff {names : List String} {name : String} {position : Nat} :
    (names.take position).count name = 1 ↔
      ∃! earlier, earlier < position ∧ names[earlier]? = some name := by
  rw [count_eq_one_iff]
  refine existsUnique_congr fun earlier => ?_
  rw [List.getElem?_take]
  split <;> simp_all

/-! ## Entries -/

namespace EntryFlaw

variable {kind : SectionKind} {s : Section} {position : Nat} {part : EntryPart}
  {violation : Violation}

theorem lt_size (wrong : EntryFlaw kind s position part violation) :
    position < s.entries.length := by
  cases wrong with
  | repeated here second =>
    obtain ⟨inside, -⟩ := List.getElem?_eq_some_iff.1 here
    rwa [Section.names, List.length_map] at inside
  | leaving here given leaves => exact (List.getElem?_eq_some_iff.1 here).1

end EntryFlaw

namespace Manifest

variable {kind : SectionKind} {s : Section} {position : Nat} {name : String} {entry : Entry}

/-- What is wrong with one path of an entry. -/
def attributeViolations (kind : SectionKind) (name : String) (entry : Entry)
    (key : PathAttribute) : List Violation :=
  match key.value entry with
  | none => []
  | some path => if isSafePath path then [] else [.unsafePath kind name key.label path]

theorem pathViolations_eq (kind : SectionKind) (name : String) (entry : Entry) :
    pathViolations kind name entry =
      PathAttribute.all.flatMap (attributeViolations kind name entry) := by
  have go (attributes : List PathAttribute) :
      (((Entry.setAttributes (attributes.map fun key =>
        (key.label, key.value entry))).filter fun one => !isSafePath one.2).map
          fun one => .unsafePath kind name one.1 one.2) =
        attributes.flatMap (attributeViolations kind name entry) := by
    induction attributes with
    | nil => rfl
    | cons first rest ih =>
      rw [List.flatMap_cons, ← ih, attributeViolations, List.map_cons, Entry.setAttributes,
        List.filterMap_cons]
      cases first.value entry with
      | none => rfl
      | some path => cases safe : isSafePath path <;> simp [Entry.setAttributes, safe]
  exact go PathAttribute.all

theorem accounts_pathViolations (here : s.entries[position]? = some (name, entry)) :
    Accounts (fun place violation => ∃ key ∈ PathAttribute.all,
        place = .entry kind position (.path key) ∧
          EntryFlaw kind s position (.path key) violation)
      (pathViolations kind name entry) := by
  rw [pathViolations_eq]
  refine Accounts.flatMap (fun key _ => ?_) ?_
  · have only (violation : Violation) :
        EntryFlaw kind s position (.path key) violation ↔
          ∃ path, key.value entry = some path ∧ isSafePath path = false ∧
            violation = .unsafePath kind name key.label path := by
      constructor
      · rintro (_ | @⟨_, path, _, _, here', given, leaves⟩)
        cases here.symm.trans here'
        exact ⟨path, given, leaves, rfl⟩
      · rintro ⟨path, given, leaves, rfl⟩
        exact .leaving here given leaves
    simp only [only]
    rw [attributeViolations]
    cases given : key.value entry with
    | none => exact .nil_at fun violation => by simp
    | some path =>
      cases safe : isSafePath path with
      | true =>
        simp only [safe]
        exact .nil_at fun violation => by simp [safe]
      | false =>
        simp only [safe]
        exact .single_at fun violation => by simp [safe]
  · have ordered : PathAttribute.all.Pairwise fun a b => a.rank < b.rank := by decide
    refine ordered.imp fun {a b} before => ?_
    rintro _ _ _ _ ⟨rfl, -⟩ ⟨rfl, -⟩
    exact Place.entry_lt_entry (.inr ⟨rfl, Nat.succ_lt_succ before⟩)

/-- The check of an entry accounts for its flaws, if the names it has passed are those of the
entries before it. -/
theorem accounts_entryViolations {earlier : List String}
    (here : s.entries[position]? = some (name, entry))
    (passed : earlier.Perm (s.names.take position)) :
    Accounts (fun place violation => ∃ part, place = .entry kind position part ∧
      EntryFlaw kind s position part violation) (entryViolations kind earlier name entry) := by
  have named : s.names[position]? = some name := by rw [Section.names, List.getElem?_map, here]; rfl
  have ofName (violation : Violation) : EntryFlaw kind s position .name violation ↔
      earlier.count name = 1 ∧ violation = .duplicateName kind name := by
    rw [passed.count_eq, count_take_eq_one_iff]
    constructor
    · rintro @⟨_, here', second⟩
      cases named.symm.trans here'
      exact ⟨second, rfl⟩
    · rintro ⟨second, rfl⟩
      exact .repeated named second
  have ofNames : Accounts (fun place violation => place = .entry kind position .name ∧
      EntryFlaw kind s position .name violation)
      (if earlier.count name = 1 then [.duplicateName kind name] else []) := by
    simp only [ofName]
    split
    · next second => exact .single_at fun violation => and_iff_right second
    · next other => exact .nil_at fun violation wrong => other wrong.1
  rw [entryViolations]
  refine (ofNames.append (accounts_pathViolations here) ?_).congr fun place violation => ?_
  · rintro _ _ _ _ ⟨rfl, -⟩ ⟨key, -, rfl, -⟩
    exact Place.entry_lt_entry (.inr ⟨rfl, Nat.succ_pos _⟩)
  · constructor
    · rintro (⟨eq, wrong⟩ | ⟨key, -, eq, wrong⟩)
      · exact ⟨_, eq, wrong⟩
      · exact ⟨_, eq, wrong⟩
    · rintro ⟨part, eq, wrong⟩
      cases part with
      | name => exact .inl ⟨eq, wrong⟩
      | path key =>
        exact .inr ⟨key, by cases key <;> decide, eq, wrong⟩

/-- The check of the entries from some position on accounts for their flaws, if the names it has
passed are those of the entries before. -/
theorem accounts_entriesViolations (kind : SectionKind) {before after : List (String × Entry)}
    (eq : s.entries = before ++ after) :
    Accounts (fun place violation => ∃ position part, before.length ≤ position ∧
        place = .entry kind position part ∧ EntryFlaw kind s position part violation)
      (entriesViolations kind (before.map (·.1)).reverse after) := by
  induction after generalizing before with
  | nil =>
    refine .nil ?_
    rintro place violation ⟨position, part, beyond, -, wrong⟩
    have inside := wrong.lt_size
    rw [eq, List.append_nil] at inside
    omega
  | cons first rest ih =>
    obtain ⟨name, entry⟩ := first
    have here : s.entries[before.length]? = some (name, entry) := by simp [eq]
    have passed : ((before.map (·.1)).reverse).Perm (s.names.take before.length) := by
      have taken : s.names.take before.length = before.map (·.1) := by simp [Section.names, eq]
      rw [taken]
      exact List.reverse_perm _
    have later := @ih (before ++ [(name, entry)]) (by simp [eq])
    rw [List.map_append, List.reverse_append, List.length_append] at later
    rw [entriesViolations]
    refine ((accounts_entryViolations here passed).append later ?_).congr fun place violation => ?_
    · rintro _ _ _ _ ⟨part, rfl, -⟩ ⟨position, part', beyond, rfl, -⟩
      exact Place.entry_lt_entry (.inl beyond)
    · constructor
      · rintro (⟨part, at_, wrong⟩ | ⟨position, part, beyond, at_, wrong⟩)
        · exact ⟨_, part, Nat.le_refl _, at_, wrong⟩
        · exact ⟨position, part, Nat.le_of_succ_le beyond, at_, wrong⟩
      · rintro ⟨position, part, from_, at_, wrong⟩
        rcases Nat.eq_or_lt_of_le from_ with rfl | beyond
        · exact .inl ⟨part, at_, wrong⟩
        · exact .inr ⟨position, part, beyond, at_, wrong⟩

/-! ## The whole manifest -/

variable {manifest : Manifest} {options : CheckOptions}

theorem flaw_core_iff {violation : Violation} : manifest.Flaw options .core violation ↔
    manifest.core = none ∧ violation = .missingAttribute "core" ∨
      ∃ text, manifest.core = some text ∧ readCoreVersion text = none ∧
        violation = .badCoreVersion text := by
  constructor
  · rintro (missing | @⟨text, given, bad⟩)
    · exact .inl ⟨missing, rfl⟩
    · refine .inr ⟨text, given, Option.eq_none_iff_forall_ne_some.2 fun version read => ?_, rfl⟩
      exact bad version (readCoreVersion_eq_some_iff.1 read)
  · rintro (⟨missing, rfl⟩ | ⟨text, given, unread, rfl⟩)
    · exact .missingCore missing
    · refine .badCore given fun version spelt => ?_
      cases unread.symm.trans (readCoreVersion_eq_some_iff.2 spelt)

theorem accounts_coreViolations (manifest : Manifest) (options : CheckOptions) :
    Accounts (fun place violation => place = .core ∧ manifest.Flaw options .core violation)
      manifest.coreViolations := by
  simp only [flaw_core_iff]
  rw [coreViolations]
  cases given : manifest.core with
  | none => exact .single_at fun violation => by simp
  | some text =>
    cases read : readCoreVersion text with
    | none =>
      simp only [read, Option.isSome_none]
      exact .single_at fun violation => by simp [read]
    | some version =>
      simp only [read, Option.isSome_some]
      exact .nil_at fun violation => by simp [read]

theorem flaw_api_iff {violation : Violation} : manifest.Flaw options .api violation ↔
    ∃ found, manifest.api = some found ∧ found ≠ options.api ∧ options.force = false ∧
      violation = .apiMismatch found options.api := by
  constructor
  · rintro (_ | _ | @⟨found, given, other, strict⟩)
    exact ⟨found, given, other, strict, rfl⟩
  · rintro ⟨found, given, other, strict, rfl⟩
    exact .otherApi given other strict

theorem accounts_apiViolations (manifest : Manifest) (options : CheckOptions) :
    Accounts (fun place violation => place = .api ∧ manifest.Flaw options .api violation)
      (manifest.apiViolations options) := by
  simp only [flaw_api_iff]
  rw [apiViolations]
  cases given : manifest.api with
  | none => exact .nil_at fun violation => by simp
  | some found =>
    by_cases same : found = options.api
    · simp only [same, decide_true, Bool.true_or, if_true]
      exact .nil_at fun violation => by simp
    · cases force : options.force with
      | true =>
        simp only [Bool.or_true, if_true]
        exact .nil_at fun violation => by simp
      | false =>
        simp only [same, decide_false, Bool.or_false]
        exact .single_at fun violation => by simp [same]

theorem accounts_sectionViolations (manifest : Manifest) (options : CheckOptions) :
    Accounts (fun place violation => ∃ kind ∈ SectionKind.all, ∃ position part,
        place = .entry kind position part ∧
          EntryFlaw kind (manifest.completedSection kind) position part violation)
      (manifest.completed options).sectionViolations := by
  rw [sectionViolations]
  refine Accounts.flatMap (fun kind _ => ?_) ?_
  · rw [sectionOf_completed]
    exact (@accounts_entriesViolations _ kind [] _ rfl).congr (by simp)
  · have ordered : SectionKind.all.Pairwise fun a b =>
        Place.rankOfSection a < Place.rankOfSection b := by decide
    refine ordered.imp fun {a b} before => ?_
    rintro _ _ _ _ ⟨position, part, rfl, -⟩ ⟨position', part', rfl, -⟩
    simp [Place.lt_def, Place.rank, List.cons_lt_cons_iff, before]

/-- **The violations account for the flaws.** -/
theorem accounts_violations (manifest : Manifest) (options : CheckOptions) :
    Accounts (manifest.Flaw options) (manifest.violations options) := by
  have versions := (accounts_coreViolations manifest options).append
    (accounts_apiViolations manifest options) (by
      rintro _ _ _ _ ⟨rfl, -⟩ ⟨rfl, -⟩
      exact Place.lt_def.2 (by decide))
  have whole := versions.append (accounts_sectionViolations manifest options) (by
    rintro _ _ _ _ (⟨rfl, -⟩ | ⟨rfl, -⟩) ⟨kind, -, position, part, rfl, -⟩
    · simp [Place.lt_def, Place.rank, List.cons_lt_cons_iff]
    · simp [Place.lt_def, Place.rank, List.cons_lt_cons_iff])
  refine whole.congr fun place violation => ⟨?_, fun wrong => ?_⟩
  · rintro ((⟨rfl, wrong⟩ | ⟨rfl, wrong⟩) | ⟨kind, -, position, part, rfl, wrong⟩)
    · exact wrong
    · exact wrong
    · exact .entry wrong
  · cases wrong with
    | missingCore missing => exact .inl (.inl ⟨rfl, .missingCore missing⟩)
    | badCore given bad => exact .inl (.inl ⟨rfl, .badCore given bad⟩)
    | otherApi given other strict => exact .inl (.inr ⟨rfl, .otherApi given other strict⟩)
    | @entry kind position part _ wrong =>
      exact .inr ⟨kind, by cases kind <;> decide, position, part, rfl, wrong⟩

/-- **Validation without hooks fails exactly if the manifest has a flaw, and then it reports one
violation for each flaw, in order, and no other.** -/
theorem validate_accounts (manifest : Manifest) (options : CheckOptions) :
    ((∃ found, manifest.validate options [] = .error found) ↔
      ∃ place violation, manifest.Flaw options place violation) ∧
    ∀ found, manifest.validate options [] = .error found ↔
      found ≠ [] ∧ Accounts (manifest.Flaw options) found := by
  have account := accounts_violations manifest options
  have reported (found : List Violation) : manifest.validate options [] = .error found ↔
      found ≠ [] ∧ Accounts (manifest.Flaw options) found := by
    rw [validate_nil_eq_error_iff]
    constructor
    · rintro ⟨rfl, some_⟩
      exact ⟨some_, account⟩
    · rintro ⟨some_, account'⟩
      exact ⟨account'.unique account, some_⟩
  refine ⟨⟨?_, ?_⟩, reported⟩
  · rintro ⟨found, failed⟩
    obtain ⟨some_, account'⟩ := (reported found).1 failed
    rw [ne_eq, account'.eq_nil_iff] at some_
    simpa using some_
  · rintro ⟨place, violation, wrong⟩
    refine ⟨_, (reported _).2 ⟨fun none_ => ?_, account⟩⟩
    exact account.eq_nil_iff.1 none_ place violation wrong

/-- A name that occurs three times is reported once, where it occurs for the second time. -/
example : ({ core := some "8.x", projects := ⟨[("views", { subdir := some ".." }), ("token", {}),
      ("views", {}), ("token", {}), ("token", {})]⟩ } : Manifest).violations {} =
    [.unsafePath .projects "views" "subdir" "..", .duplicateName .projects "views",
      .duplicateName .projects "token"] := by decide +kernel

end Manifest

end BuildManifest
