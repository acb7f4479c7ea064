import BuildManifest.Package.Convert

/-!
# Rows written one after the other

A package is made by writing rows into tables, and a row that is written takes the place of the one
its key had.  What is in the tables in the end is therefore told by the last row of each key; and
rows are lost exactly where two of them have one key.  The keys of a package are names, and for one
of them there are two sources: a project may have the very name that the platform's package has.

## What is here

* `Writes` — tables that are read as they were written last.
* `lastRow?`, `Writes.read_foldl` — **what is read after rows were written**.
* `foldl_of_writes` — the rows that a loop writes.
* `Package.OnPlatform`, `projectName_eq_corePackage_iff` — **which projects go by the name of the
  platform's package**.
-/

set_option autoImplicit false

namespace BuildManifest

/-! ## Tables -/

section

variable {Table Key Value : Type} [DecidableEq Key] {read : Table → Key → Option Value}
  {write : Table → Key × Value → Table} {rows : List (Key × Value)} {key : Key} {value : Value}

/-- A row is read under its key once it is written, and nothing else changes. -/
def Writes (read : Table → Key → Option Value) (write : Table → Key × Value → Table) : Prop :=
  ∀ table row key, read (write table row) key = if row.1 = key then some row.2 else read table key

/-- The value of the last row of a key. -/
def lastRow? (rows : List (Key × Value)) (key : Key) : Option Value :=
  ((rows.filter fun row => row.1 = key).map Prod.snd).getLast?

theorem lastRow?_cons (row : Key × Value) : lastRow? (row :: rows) key =
    (lastRow? rows key <|> if row.1 = key then some row.2 else none) := by
  rw [lastRow?, lastRow?]
  by_cases here : row.1 = key
  · rw [List.filter_cons_of_pos (by simpa using here), List.map_cons, List.getLast?_cons,
      if_pos here]
    cases ((rows.filter fun row => row.1 = key).map Prod.snd).getLast? <;> rfl
  · rw [List.filter_cons_of_neg (by simpa using here), if_neg here]
    cases ((rows.filter fun row => row.1 = key).map Prod.snd).getLast? <;> rfl

/-- The last row of a key is one of the rows. -/
theorem mem_of_lastRow? (last : lastRow? rows key = some value) : (key, value) ∈ rows := by
  obtain ⟨row, found, rfl⟩ := List.mem_map.1 (List.mem_of_getLast? last)
  obtain ⟨member, here⟩ := List.mem_filter.1 found
  obtain rfl := of_decide_eq_true here
  exact member

theorem isSome_lastRow?_iff : (lastRow? rows key).isSome = true ↔ key ∈ rows.map Prod.fst := by
  induction rows with
  | nil => simp [lastRow?]
  | cons row rest ih =>
    rw [lastRow?_cons, List.map_cons, List.mem_cons, ← ih]
    cases lastRow? rest key with
    | some value => simp
    | none =>
      by_cases here : row.1 = key
      · simp [here]
      · have ne : key ≠ row.1 := Ne.symm here
        simp [here, ne]

theorem lastRow?_append (before after : List (Key × Value)) (key : Key) :
    lastRow? (before ++ after) key = (lastRow? after key).or (lastRow? before key) := by
  rw [lastRow?, List.filter_append, List.map_append, List.getLast?_append]
  rfl

/-- Where all rows of a key agree, the last one is each of them. -/
theorem lastRow?_of_agree (member : (key, value) ∈ rows)
    (agree : ∀ other, (key, other) ∈ rows → other = value) : lastRow? rows key = some value := by
  obtain ⟨last, found⟩ := Option.isSome_iff_exists.1
    (isSome_lastRow?_iff.2 (List.mem_map_of_mem (f := Prod.fst) member))
  rw [found, agree last (mem_of_lastRow? found)]

theorem lastRow?_eq_none_iff : lastRow? rows key = none ↔ ∀ row ∈ rows, row.1 ≠ key := by
  simp [lastRow?]

/-- **What is read after rows were written** is the last one of the key, or what was there before
them. -/
theorem Writes.read_foldl (writes : Writes read write) (rows : List (Key × Value)) (table : Table)
    (key : Key) : read (rows.foldl write table) key = (lastRow? rows key <|> read table key) := by
  induction rows generalizing table with
  | nil => rfl
  | cons row rest ih =>
    rw [List.foldl_cons, ih, writes, lastRow?_cons]
    cases lastRow? rest key with
    | some value => rfl
    | none => by_cases here : row.1 = key <;> simp [here]

/-- A row is read where all rows of its key agree. -/
theorem Writes.read_foldl_of_agree (writes : Writes read write) (table : Table)
    (member : (key, value) ∈ rows) (agree : ∀ other, (key, other) ∈ rows → other = value) :
    read (rows.foldl write table) key = some value := by
  rw [writes.read_foldl, lastRow?_of_agree member agree]
  rfl

theorem Writes.isSome_read_foldl_iff (writes : Writes read write) {table : Table} :
    (read (rows.foldl write table) key).isSome = true ↔
      key ∈ rows.map Prod.fst ∨ (read table key).isSome = true := by
  rw [writes.read_foldl, ← isSome_lastRow?_iff]
  cases lastRow? rows key <;> simp

end

section

variable {State Item Table Row : Type} {table : State → Table} {write : Table → Row → Table}
  {step : State → Item → State} {rowsOf : Item → List Row}

/-- **What is written for one item after the other** is written for all of them. -/
theorem foldl_of_writes
    (writes : ∀ state item, table (step state item) = (rowsOf item).foldl write (table state))
    (items : List Item) (state : State) :
    table (items.foldl step state) = (items.flatMap rowsOf).foldl write (table state) := by
  induction items generalizing state with
  | nil => rfl
  | cons item rest ih => rw [List.foldl_cons, ih, writes, List.flatMap_cons, List.foldl_append]

/-- Items that write nothing change nothing. -/
theorem foldl_of_keeps (table : State → Table)
    (keeps : ∀ state item, table (step state item) = table state) (items : List Item)
    (state : State) : table (items.foldl step state) = table state := by
  induction items generalizing state with
  | nil => rfl
  | cons item rest ih => rw [List.foldl_cons, ih, keeps]

end

theorem Labelled.writes_insert {α : Type} :
    Writes (Labelled.get? (α := α)) fun table row => table.insert row.1 row.2 :=
  fun table row key => table.get?_insert row.1 key row.2

/-! ## The names of packages -/

/-- The platform's major version, assumed where the manifest's does not tell it. -/
def Manifest.platformMajor (manifest : Manifest) : Nat :=
  manifest.coreMajor?.getD Package.assumedMajor

namespace Package

variable {major : Nat} {name : String} {entry : Entry}

/-- A project that goes by the name of the platform's package: the core, or from platform 8 on any
project that is called `core`. -/
def OnPlatform (major : Nat) (one : String × Entry) : Prop :=
  one.2.isCore one.1 = true ∨ lastPrefixingMajor < major ∧ one.1 = "core"

instance (major : Nat) (one : String × Entry) : Decidable (OnPlatform major one) :=
  inferInstanceAs (Decidable (_ ∨ _))

theorem projectName_of_isCore (core : entry.isCore name = true) :
    projectName major name entry = corePackage major := if_pos core

theorem projectName_of_not_isCore (other : entry.isCore name = false) :
    projectName major name entry = "drupal/" ++ name := if_neg (Bool.eq_false_iff.1 other)

/-- Only the core is called `drupal`. -/
theorem ne_coreProject (other : entry.isCore name = false) : name ≠ "drupal" := by
  rintro rfl
  cases other

/-- **Which projects go by the name of the platform's package.** -/
theorem projectName_eq_corePackage_iff :
    projectName major name entry = corePackage major ↔ OnPlatform major (name, entry) := by
  cases core : entry.isCore name with
  | true => exact iff_of_true (projectName_of_isCore core) (.inl core)
  | false =>
    have named (wanted : String) : "drupal/" ++ name = "drupal/" ++ wanted ↔ name = wanted :=
      String.append_right_inj "drupal/"
    have plain : OnPlatform major (name, entry) ↔ lastPrefixingMajor < major ∧ name = "core" := by
      simp [OnPlatform, core]
    rw [projectName_of_not_isCore core, corePackage, plain]
    split
    · next old =>
      refine iff_of_false (fun eq => ne_coreProject core ((named "drupal").1 eq)) fun new => ?_
      exact absurd new.1 (Nat.not_lt.2 old)
    · next new => exact (named "core").trans (iff_and_self.2 fun _ => Nat.not_le.1 new)

/-- Two projects go by one name if they have it, or if both go by the platform's. -/
theorem projectName_eq_iff {one other : String × Entry}
    (same : one.1 = other.1 → one = other) :
    projectName major one.1 one.2 = projectName major other.1 other.2 ↔
      one.1 = other.1 ∨ OnPlatform major one ∧ OnPlatform major other := by
  constructor
  · intro eq
    by_cases platform : OnPlatform major one
    · refine .inr ⟨platform, projectName_eq_corePackage_iff.1 ?_⟩
      rw [← eq]
      exact projectName_eq_corePackage_iff.2 platform
    · have platform' : ¬OnPlatform major other := fun there => by
        refine platform (projectName_eq_corePackage_iff.1 ?_)
        rw [eq]
        exact projectName_eq_corePackage_iff.2 there
      rw [projectName_of_not_isCore (Bool.eq_false_iff.2 fun core => platform (.inl core)),
        projectName_of_not_isCore (Bool.eq_false_iff.2 fun core => platform' (.inl core))] at eq
      exact .inl ((String.append_right_inj "drupal/").1 eq)
  · rintro (named | ⟨platform, platform'⟩)
    · rw [same named]
    · exact (projectName_eq_corePackage_iff.2 platform).trans
        (projectName_eq_corePackage_iff.2 platform').symm

end Package

end BuildManifest
