import BuildManifest.Proofs.Ini.Addresses

/-!
# What the lines of a text leave standing

A line puts its value at the end of its path.  A later line takes it away only by assigning to the
same path or to the beginning of it: an empty pair of brackets always opens a new place, and a line
that leads further down stops at a value in its way.

## What is here

* `valueText` — the text of the value of a line.
* `valueAt?_assign_self`, `valueAt?_assign_other` — what one assignment puts down, and what it
  leaves alone.
* `readLines_keeps`, `valueAt?_readLines` — what every line keeps, and that what stands stays
  through lines that assign elsewhere.
* `IsLastFor`, `valueAt?_of_readIni` — **a value stands where the last line for its path put it**.
-/

set_option autoImplicit false

namespace BuildManifest.Ini

open BuildManifest.Mapping (find? insert)
open BuildManifest.Tree (Rigid)

variable {entries result : Mapping} {key value new tree : Tree} {path : List Tree}
  {steps : List Segment} {line : List Char} {before after : List (List Char)} {number : Nat}

/-! ## The parts of a line -/

/-- The text of a value: what follows the first equals sign, without the space around it. -/
def valueText (line : List Char) : List Char :=
  Text.trim ((Text.trim line).dropWhile (· != '=')).tail

theorem readValue_of_readLine {assignment : Assignment}
    (h : readLine line = .ok (some assignment)) :
    readValue (valueText line) = .ok assignment.value := by
  rw [readLine] at h
  rw [valueText]
  split at h
  · cases h
  · next first rest text =>
    split at h
    · cases h
    · split at h
      · cases h
      · next sign rest' cut =>
        obtain ⟨path, -, h⟩ := bind_eq_ok_iff.1 h
        obtain ⟨value, read, h⟩ := bind_eq_ok_iff.1 h
        cases h
        rw [cut]
        exact read

/-- A line gives no mapping. -/
theorem isMapping_of_readValue {text : List Char} (h : readValue text = .ok value) :
    value.isMapping = false := by
  have bare (text : List Char) : (bareValue text).isMapping = false := by
    rw [bareValue]
    split
    · rfl
    · split
      · rfl
      · split <;> rfl
  rw [readValue.eq_def] at h
  split at h
  · split at h
    · split at h <;> cases h
      rfl
    · cases h
      exact bare _
  · cases h
    exact bare _

/-! ## One assignment -/

/-- An empty pair of brackets stands for an index that is not taken. -/
theorem find?_index_eq_none {n : Nat} (after : nextIndex entries ≤ n) :
    find? entries (.number (.int n)) = none := by
  induction entries with
  | nil => rfl
  | cons first rest ih =>
    obtain ⟨present, old⟩ := first
    obtain ⟨here, later⟩ := Nat.max_le.1 after
    rw [Mapping.find?_cons, if_neg, ih later]
    intro same
    obtain rfl := Tree.rigid_of_isIndexKey rfl present same
    rw [indexAfter] at here
    omega

/-- The key of a step is one that is there only if the step names it. -/
theorem eq_named_of_same {step : Segment} (rigid : key.Rigid) {current : Tree}
    (found : find? entries key = some current) (same : key.same (step.keyIn entries) = true) :
    step = .named key := by
  have eq := rigid _ same
  cases step with
  | named key' => exact congrArg Segment.named eq
  | append =>
    rw [← eq, Segment.keyIn, find?_index_eq_none (Nat.le_refl _)] at found
    cases found

/-- **An assignment puts its value at the end of its path.** -/
theorem valueAt?_assign_self (keyed : ∀ key ∈ path, key.wellKeyed = true) (some_ : path ≠ [])
    (h : assign entries (path.map .named) value = .ok result) :
    (Tree.mapping result).valueAt? path = some value := by
  have put := valueAt?_assign (List.forall_mem_map.2 keyed) (mt List.map_eq_nil_iff.1 some_) h
  rwa [keysAlong_named] at put

/-- What stands under a key stays, or it is what the assignment is to, or it is a mapping that the
assignment goes into. -/
theorem find?_assign_cases {current : Tree} (keyed : key.wellKeyed = true) (rigid : key.Rigid)
    (steps_ : ∀ step ∈ steps, step.Keyed) (h : assign entries steps new = .ok result)
    (found : find? entries key = some current) :
    find? result key = some current ∨ steps = [.named key] ∨
      ∃ more child inner, steps = .named key :: more ∧ current = .mapping child ∧
        assign child more new = .ok inner ∧ find? result key = some (.mapping inner) := by
  cases steps with
  | nil =>
    cases h
    exact .inl found
  | cons step more =>
    obtain ⟨stepKeyed, -⟩ := List.forall_mem_cons.1 steps_
    -- Under the key of the step there is a new value, and what there was under every other key.
    have inserted (value : Tree) : find? (insert entries (step.keyIn entries) value) key =
        if key.same (step.keyIn entries) = true then some value else some current := by
      rw [Mapping.find?_insert keyed (stepKeyed.keyIn entries), found]
    have named (same : key.same (step.keyIn entries) = true) : step = .named key :=
      eq_named_of_same rigid found same
    cases more with
    | nil =>
      cases h
      by_cases same : key.same (step.keyIn entries) = true
      · exact .inr (.inl (by rw [named same]))
      · exact .inl (by rw [inserted, if_neg same])
    | cons next more =>
      obtain ⟨inner, under, assigned, rfl⟩ := exists_of_assign (List.cons_ne_nil _ _) h
      by_cases same : key.same (step.keyIn entries) = true
      · obtain rfl := named same
        exact .inr (.inr ⟨_, _, inner, rfl, under current found, assigned,
          by rw [inserted, if_pos same]⟩)
      · exact .inl (by rw [inserted, if_neg same])

/-- **An assignment leaves what stands elsewhere**: everything but what is at the end of its path
and below. -/
theorem valueAt?_assign_other (keyed : ∀ key ∈ path, key.wellKeyed = true)
    (rigid : ∀ key ∈ path, key.Rigid) (steps_ : ∀ step ∈ steps, step.Keyed)
    (elsewhere : ¬steps <+: path.map .named) (h : assign entries steps new = .ok result)
    (found : (Tree.mapping entries).valueAt? path = some value)
    (unmapped : value.isMapping = false) :
    (Tree.mapping result).valueAt? path = some value := by
  induction path generalizing entries steps result with
  | nil =>
    cases found
    cases unmapped
  | cons key rest ih =>
    obtain ⟨here, later⟩ := List.forall_mem_cons.1 keyed
    obtain ⟨rigidHere, rigidLater⟩ := List.forall_mem_cons.1 rigid
    obtain ⟨current, inEntries, below⟩ := Option.bind_eq_some_iff.1 found
    rw [Tree.valueAt?, Tree.topEntries]
    rcases find?_assign_cases here rigidHere steps_ h inEntries with
      same | rfl | ⟨more, child, inner, rfl, rfl, assigned, there⟩
    · rw [same]
      exact below
    · exact absurd (by simp) elsewhere
    · rw [there]
      refine ih later rigidLater (List.forall_mem_cons.1 steps_).2 (fun more => elsewhere ?_)
        assigned below
      exact List.cons_prefix_cons.2 ⟨rfl, more⟩

/-! ## Lines one after the other -/

/-- A line changes nothing, or carries out its assignment. -/
theorem applyLine_cases (h : applyLine entries line = .ok result) :
    result = entries ∨ ∃ assignment, readLine line = .ok (some assignment) ∧
      assign entries assignment.path assignment.value = .ok result := by
  obtain ⟨given, read, applied⟩ := bind_eq_ok_iff.1 h
  cases given with
  | none =>
    cases applied
    exact .inl rfl
  | some assignment => exact .inr ⟨assignment, read, applied⟩

/-- What every line keeps, all of them keep. -/
theorem readLines_keeps {P : Mapping → Prop}
    (keeps : ∀ line ∈ after, ∀ entries grown, applyLine entries line = .ok grown → P entries →
      P grown)
    (h : readLines entries number after = .ok result) (start : P entries) : P result := by
  induction after generalizing entries number with
  | nil =>
    cases h
    exact start
  | cons line rest ih =>
    obtain ⟨here, later⟩ := List.forall_mem_cons.1 keeps
    rw [readLines] at h
    split at h
    · next grown applied => exact ih later h (here entries grown applied start)
    · cases h

/-- **What stands stays through lines that assign elsewhere.** -/
theorem valueAt?_readLines (keyed : ∀ key ∈ path, key.wellKeyed = true)
    (rigid : ∀ key ∈ path, key.Rigid)
    (elsewhere : ∀ line ∈ after, ∀ assignment, readLine line = .ok (some assignment) →
      ¬assignment.path <+: path.map .named)
    (h : readLines entries number after = .ok result)
    (found : (Tree.mapping entries).valueAt? path = some value)
    (unmapped : value.isMapping = false) :
    (Tree.mapping result).valueAt? path = some value := by
  refine readLines_keeps (P := fun entries => (Tree.mapping entries).valueAt? path = some value)
    (fun line member entries grown applied found => ?_) h found
  rcases applyLine_cases applied with rfl | ⟨assignment, read, assigned⟩
  · exact found
  · exact valueAt?_assign_other keyed rigid (keyed_of_readLine read).1
      (elsewhere line member _ read) assigned found unmapped

/-- Lines are read up to one of them, then that one, then the others. -/
theorem exists_of_readLines (h : readLines entries number (before ++ line :: after) = .ok result) :
    ∃ middle grown next, readLines entries number before = .ok middle ∧
      applyLine middle line = .ok grown ∧ readLines grown next after = .ok result := by
  induction before generalizing entries number with
  | nil =>
    rw [List.nil_append, readLines] at h
    split at h
    · next grown applied => exact ⟨entries, grown, number + 1, rfl, applied, h⟩
    · cases h
  | cons first rest ih =>
    rw [List.cons_append, readLines] at h
    rw [readLines]
    split at h
    · exact ih h
    · cases h

/-- The line of a text that decides what stands at a path: it assigns there, and no line after it
assigns there or to the beginning of the path. -/
def IsLastFor (path : List Tree) (text : String) (line : List Char) : Prop :=
  ∃ before after, Text.lines text.toList = before ++ line :: after ∧
    (∃ value, readLine line = .ok (some ⟨path.map .named, value⟩)) ∧
    ∀ later ∈ after, ∀ assignment, readLine later = .ok (some assignment) →
      ¬assignment.path <+: path.map .named

/-- **A value stands where the last line for its path put it.** -/
theorem valueAt?_of_readIni {text : String} (h : readIni text = .ok tree)
    (last : IsLastFor path text line) (some_ : path ≠ []) (rigid : ∀ key ∈ path, key.Rigid) :
    ∃ value, readValue (valueText line) = .ok value ∧ tree.valueAt? path = some value := by
  obtain ⟨before, after, lines, ⟨value, given⟩, elsewhere⟩ := last
  obtain ⟨result, read, rfl⟩ := map_eq_ok_iff.1 h
  rw [lines] at read
  obtain ⟨middle, grown, next, -, applied, read⟩ := exists_of_readLines read
  have keyed : ∀ key ∈ path, key.wellKeyed = true := fun key member =>
    (keyed_of_readLine given).1 (.named key) (List.mem_map_of_mem member)
  rw [applyLine, given] at applied
  have valued := readValue_of_readLine given
  exact ⟨value, valued, valueAt?_readLines keyed rigid elsewhere read
    (valueAt?_assign_self keyed some_ applied) (isMapping_of_readValue valued)⟩

end BuildManifest.Ini
