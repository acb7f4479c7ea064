import BuildManifest.Proofs.Tree.Parsed
import BuildManifest.Proofs.Tree.Paths

/-!
# Where a path leads

The steps of a path are keys and empty pairs of brackets, and what the latter stand for depends on
what is there.  In given entries a path has an address, which is a list of keys, and an assignment
puts its value there.

## What is here

* `below`, `mappingAt` — the mapping under a key, and the mapping at an address.
* `keysAlong` — the address that a path has in given entries.
* `exists_of_assign` — an assignment goes into the mapping under its first key.
* `valueAt?_assign` — **an assignment puts its value where its path leads**.
* `mem_keys_assign` — which keys there are anywhere after an assignment.
-/

set_option autoImplicit false

namespace BuildManifest

namespace Mapping

variable {entries : Mapping} {key value wanted found : Tree}

/-- What is found after an insertion was found before, or is what was inserted. -/
theorem find?_insert_cases (entries : Mapping) (key value wanted : Tree) :
    find? (insert entries key value) wanted = find? entries wanted ∨
      find? (insert entries key value) wanted = some value ∧
        (find? entries wanted = find? entries key ∨ find? entries wanted = none) := by
  induction entries with
  | nil =>
    rw [insert, find?_cons]
    split
    · exact .inr ⟨rfl, .inr rfl⟩
    · exact .inl rfl
  | cons first rest ih =>
    obtain ⟨present, old⟩ := first
    rw [insert]
    by_cases here : key.same present = true
    · rw [if_pos here, find?_cons, find?_cons, find?_cons, if_pos here]
      split
      · exact .inr ⟨rfl, .inl rfl⟩
      · exact .inl rfl
    · rw [if_neg here, find?_cons, find?_cons, find?_cons, if_neg here]
      split
      · exact .inl rfl
      · exact ih

/-- Keys stay where they are when one is inserted. -/
theorem keys_prefix_insert (entries : Mapping) (key value : Tree) :
    keys entries <+: keys (insert entries key value) := by
  rw [keys_insert]
  split
  · exact List.prefix_rfl
  · exact List.prefix_append _ _

end Mapping

namespace Ini

open BuildManifest.Mapping (find? insert keys)

variable {entries result : Mapping} {key value : Tree} {place : List Tree} {step : Segment}
  {steps : List Segment}

/-! ## Addresses -/

/-- The mapping under a key, without entries if there is none. -/
def below (entries : Mapping) (key : Tree) : Mapping :=
  ((find? entries key).map Tree.topEntries).getD []

/-- The mapping at an address, without entries if there is none. -/
def mappingAt (entries : Mapping) (place : List Tree) : Mapping := place.foldl below entries

/-- The address that a path has in given entries. -/
def keysAlong (entries : Mapping) : List Segment → List Tree
  | [] => []
  | step :: steps => step.keyIn entries :: keysAlong (below entries (step.keyIn entries)) steps

theorem below_of_find? (found : find? entries key = some value) :
    below entries key = value.topEntries := by
  rw [below, found]
  rfl

theorem below_of_absent (absent : find? entries key = none) : below entries key = [] := by
  rw [below, absent]
  rfl

theorem mappingAt_cons (entries : Mapping) (key : Tree) (place : List Tree) :
    mappingAt entries (key :: place) = mappingAt (below entries key) place := rfl

theorem mappingAt_nil (place : List Tree) : mappingAt [] place = [] := by
  induction place with
  | nil => rfl
  | cons key place ih => exact ih

theorem mappingAt_of_valueAt? {tree : Tree} (found : tree.valueAt? place = some value) :
    mappingAt tree.topEntries place = value.topEntries := by
  induction place generalizing tree with
  | nil =>
    cases found
    rfl
  | cons key place ih =>
    obtain ⟨next, here, there⟩ := Option.bind_eq_some_iff.1 found
    rw [mappingAt_cons, below_of_find? here]
    exact ih there

/-- The address of a path goes on in the mapping that its first part leads to. -/
theorem keysAlong_append (entries : Mapping) (front rest : List Segment) :
    keysAlong entries (front ++ rest) =
      keysAlong entries front ++ keysAlong (mappingAt entries (keysAlong entries front)) rest := by
  induction front generalizing entries with
  | nil => rfl
  | cons step front ih =>
    rw [List.cons_append, keysAlong, ih]
    rfl

/-- A path without empty brackets is its own address. -/
theorem keysAlong_named (entries : Mapping) (path : List Tree) :
    keysAlong entries (path.map .named) = path := by
  induction path generalizing entries with
  | nil => rfl
  | cons key path ih =>
    rw [List.map_cons, keysAlong, ih]
    rfl

theorem wellKeyed_of_mem_keysAlong (keyed : ∀ step ∈ steps, step.Keyed) :
    ∀ key ∈ keysAlong entries steps, key.wellKeyed = true := by
  induction steps generalizing entries with
  | nil => exact nofun
  | cons step steps ih =>
    obtain ⟨here, later⟩ := List.forall_mem_cons.1 keyed
    exact List.forall_mem_cons.2 ⟨here.keyIn entries, ih later⟩

theorem rigid_of_mem_keysAlong (named : ∀ key, .named key ∈ steps → key.Rigid) :
    ∀ key ∈ keysAlong entries steps, key.Rigid := by
  induction steps generalizing entries with
  | nil => exact nofun
  | cons step steps ih =>
    refine List.forall_mem_cons.2 ⟨?_, ih fun key member => named key (.tail _ member)⟩
    cases step with
    | named key => exact named key List.mem_cons_self
    | append => exact Tree.rigid_of_isIndexKey rfl

/-! ## Assignments -/

/-- An assignment further down goes into the mapping under its first key, or into a new one. -/
theorem exists_of_assign (some_ : steps ≠ [])
    (h : assign entries (step :: steps) value = .ok result) :
    ∃ inner, (∀ current, find? entries (step.keyIn entries) = some current →
        current = .mapping (below entries (step.keyIn entries))) ∧
      assign (below entries (step.keyIn entries)) steps value = .ok inner ∧
      result = insert entries (step.keyIn entries) (.mapping inner) := by
  rw [assign] at h
  · split at h
    · next absent =>
      obtain ⟨inner, assigned, rfl⟩ := map_eq_ok_iff.1 h
      rw [below_of_absent absent]
      refine ⟨inner, fun current found => ?_, assigned, rfl⟩
      cases absent.symm.trans found
    · next child found =>
      obtain ⟨inner, assigned, rfl⟩ := map_eq_ok_iff.1 h
      rw [below_of_find? found]
      exact ⟨inner, fun current here => Option.some.inj (here.symm.trans found), assigned, rfl⟩
    · cases h
  · exact some_

/-- An assignment puts something under its first key. -/
theorem exists_insert_of_assign (h : assign entries (step :: steps) value = .ok result) :
    ∃ new, result = insert entries (step.keyIn entries) new := by
  cases steps with
  | nil => exact ⟨value, (Except.ok.inj h).symm⟩
  | cons next rest =>
    obtain ⟨inner, -, -, eq⟩ := exists_of_assign (List.cons_ne_nil _ _) h
    exact ⟨_, eq⟩

/-- **An assignment puts its value where its path leads.** -/
theorem valueAt?_assign (keyed : ∀ step ∈ steps, step.Keyed) (some_ : steps ≠ [])
    (h : assign entries steps value = .ok result) :
    (Tree.mapping result).valueAt? (keysAlong entries steps) = some value := by
  have self {entries : Mapping} {key value : Tree} (keyed : key.wellKeyed = true) :
      find? (insert entries key value) key = some value := by
    rw [Mapping.find?_insert keyed keyed, if_pos (Tree.same_refl key)]
  induction steps generalizing entries result with
  | nil => exact absurd rfl some_
  | cons step rest ih =>
    obtain ⟨here, later⟩ := List.forall_mem_cons.1 keyed
    rw [keysAlong, Tree.valueAt?, Tree.topEntries]
    cases rest with
    | nil =>
      cases h
      rw [self (here.keyIn entries)]
      rfl
    | cons next rest =>
      obtain ⟨inner, -, assigned, rfl⟩ := exists_of_assign (List.cons_ne_nil _ _) h
      rw [self (here.keyIn entries)]
      exact ih later (List.cons_ne_nil _ _) assigned

/-! ## Keys anywhere -/

/-- The key is one of a mapping somewhere inside. -/
def HasKey (entries : Mapping) (key : Tree) : Prop := ∃ place, key ∈ keys (mappingAt entries place)

theorem hasKey_of_below (h : HasKey (below entries value) key) : HasKey entries key :=
  h.imp' (value :: ·) fun _ member => member

/-- **An assignment makes no keys but those of its steps**, each in a mapping that it comes by. -/
theorem mem_keys_assign (unmapped : value.isMapping = false)
    (h : assign entries steps value = .ok result) (member : HasKey result key) :
    HasKey entries key ∨ ∃ step ∈ steps, ∃ place, key = step.keyIn (mappingAt entries place) := by
  obtain ⟨place, member⟩ := member
  induction steps generalizing entries result place with
  | nil =>
    cases h
    exact .inl ⟨place, member⟩
  | cons step rest ih =>
    -- Here there is a new key, further down either what was there or the inside of what is put.
    have inserted {new : Tree} (eq : result = insert entries (step.keyIn entries) new) :
        HasKey entries key ∨ key = step.keyIn entries ∨
          ∃ place, key ∈ keys (mappingAt new.topEntries place) := by
      subst eq
      cases place with
      | nil =>
        rcases Mapping.mem_keys_insert member with old | same
        · exact .inl ⟨[], old⟩
        · exact .inr (.inl same)
      | cons first place =>
        rw [mappingAt_cons] at member
        rcases Mapping.find?_insert_cases entries (step.keyIn entries) new first with
          same | ⟨found, -⟩
        · rw [below, same, ← below] at member
          exact .inl ⟨first :: place, member⟩
        · rw [below_of_find? found] at member
          exact .inr (.inr ⟨place, member⟩)
    cases rest with
    | nil =>
      cases h
      rcases inserted rfl with old | same | ⟨place, inside⟩
      · exact .inl old
      · exact .inr ⟨step, List.mem_cons_self, [], same⟩
      · have nothing : value.topEntries = [] := by
          cases value with
          | mapping entries => cases unmapped
          | _ => rfl
        rw [nothing, mappingAt_nil] at inside
        cases inside
    | cons next rest =>
      obtain ⟨inner, -, assigned, eq⟩ := exists_of_assign (List.cons_ne_nil _ _) h
      rcases inserted eq with old | same | ⟨place, inside⟩
      · exact .inl old
      · exact .inr ⟨step, List.mem_cons_self, [], same⟩
      · rcases ih assigned place inside with old | ⟨other, later, place, same⟩
        · exact .inl (hasKey_of_below old)
        · exact .inr ⟨other, List.mem_cons_of_mem _ later, step.keyIn entries :: place, same⟩

end Ini

end BuildManifest
