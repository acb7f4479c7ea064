import BuildManifest.Proofs.Ini.FirstFault

/-!
# Lists that lines append to

An empty pair of brackets stands for the index after the greatest one that the mapping has, which
other lines may have named or counted up to.  So what is appended never takes the place of anything,
at whatever depth the brackets stand, and values that are appended to one mapping stand in it in the
order of their lines.

Indices have 64 bits.  Nothing can be appended behind the last of them, so the lines have to leave
room for counting on.

## What is here

* `lt_nextIndex`, `nextIndex_le` — an index after all others, and not more than that.
* `Tree.Keeps`, `keeps_assign` — **an assignment that appends takes nothing away**.
* `keys_prefix_readLines` — the keys of a mapping stay where they are.
* `LeavesRoom`, `leavesRoom_of_named` — when lines leave room, and a way to see it from the text.
* `AppendsTo`, `appends_fresh` — **appended values are new, and stand in the order of their lines**.
-/

set_option autoImplicit false

namespace BuildManifest

/-! ## What takes nothing away -/

namespace Tree

variable {lower upper : Tree}

/-- Whatever stands in the first tree stands at the same path in the second one: the same value, or
a mapping for a mapping, with the keys of that one in front. -/
def Keeps (lower upper : Tree) : Prop :=
  ∀ path found, lower.valueAt? path = some found →
    ∃ kept, upper.valueAt? path = some kept ∧
      (kept = found ∨ ∃ before after, found = .mapping before ∧ kept = .mapping after ∧
        Mapping.keys before <+: Mapping.keys after)

/-- A new value takes nothing away if it is put under a new key, or keeps what is under the key. -/
theorem keeps_insert {entries : Mapping} {key value : Tree}
    (kept : ∀ current, Mapping.find? entries key = some current → current.Keeps value) :
    (mapping entries).Keeps (.mapping (Mapping.insert entries key value)) := by
  intro path found stands
  cases path with
  | nil =>
    cases stands
    exact ⟨_, rfl, .inr ⟨_, _, rfl, rfl, Mapping.keys_prefix_insert entries key value⟩⟩
  | cons first rest =>
    obtain ⟨current, here, there⟩ := Option.bind_eq_some_iff.1 stands
    rw [valueAt?]
    rcases Mapping.find?_insert_cases entries key value first with same | ⟨found, old | new⟩
    · rw [topEntries, same]
      exact ⟨_, stands, .inl rfl⟩
    · rw [topEntries, found]
      exact kept current (old.symm.trans here) rest _ there
    · cases new.symm.trans here

end Tree

namespace Mapping

variable {entries : Mapping}

/-- A key that is among the first ones stands before one that is not. -/
theorem exists_split_of_keys {front : List Tree} {first second : Tree}
    (start : front <+: keys entries) (early : first ∈ front) (late : second ∉ front)
    (member : second ∈ keys entries) :
    ∃ before here between there after,
      entries = before ++ (first, here) :: (between ++ (second, there) :: after) := by
  obtain ⟨back, eq⟩ := start
  have later : second ∈ back := by
    rw [← eq] at member
    exact (List.mem_append.1 member).resolve_left late
  obtain ⟨head, tail, rfl, rfl, rfl⟩ := List.map_eq_append_iff.1 eq.symm
  obtain ⟨⟨first, here⟩, inside, rfl⟩ := List.mem_map.1 early
  obtain ⟨⟨second, there⟩, inside', rfl⟩ := List.mem_map.1 later
  obtain ⟨before, between, rfl⟩ := List.append_of_mem inside
  obtain ⟨between', after, rfl⟩ := List.append_of_mem inside'
  exact ⟨before, here, between ++ between', there, after, by simp⟩

end Mapping

namespace Ini

open Text
open BuildManifest.Mapping (find? insert keys)

variable {entries result grown : Mapping} {key value : Tree} {place path : List Tree}
  {step : Segment} {steps : List Segment} {line : List Char} {lines before after : List (List Char)}
  {number bound : Nat}

/-! ## The index after all others -/

/-- It is greater than every index that is there. -/
theorem lt_nextIndex {n : Int} (member : .number (.int n) ∈ keys entries) :
    n < nextIndex entries := by
  induction entries with
  | nil => cases member
  | cons first rest ih =>
    obtain ⟨key, value⟩ := first
    rw [nextIndex]
    rcases List.mem_cons.1 member with here | later
    · rw [← show _ = key from here, indexAfter]
      omega
    · have := ih later
      omega

/-- It is not greater than it has to be. -/
theorem nextIndex_le (small : ∀ n : Int, .number (.int n) ∈ keys entries → n < bound) :
    nextIndex entries ≤ bound := by
  induction entries with
  | nil => exact Nat.zero_le _
  | cons first rest ih =>
    obtain ⟨key, value⟩ := first
    refine Nat.max_le.2 ⟨?_, ih fun n member => small n (List.mem_cons_of_mem _ member)⟩
    rw [indexAfter.eq_def]
    split
    · next n =>
      have := small n List.mem_cons_self
      omega
    · exact Nat.zero_le _

/-- Empty brackets stand for an index that is not there. -/
theorem find?_keyIn_append (entries : Mapping) :
    find? entries (Segment.append.keyIn entries) = none :=
  find?_index_eq_none (Nat.le_refl _)

/-! ## One assignment -/

/-- **An assignment that appends takes nothing away.** -/
theorem keeps_assign (appends : .append ∈ steps) (h : assign entries steps value = .ok result) :
    (Tree.mapping entries).Keeps (.mapping result) := by
  induction steps generalizing entries result with
  | nil => cases appends
  | cons step rest ih =>
    cases rest with
    | nil =>
      obtain rfl := List.mem_singleton.1 appends
      cases h
      refine Tree.keeps_insert fun current found => ?_
      cases (find?_keyIn_append entries).symm.trans found
    | cons next rest =>
      obtain ⟨inner, under, assigned, rfl⟩ := exists_of_assign (List.cons_ne_nil _ _) h
      refine Tree.keeps_insert fun current found => ?_
      rcases List.mem_cons.1 appends with rfl | later
      · cases (find?_keyIn_append entries).symm.trans found
      · rw [under current found]
        exact ih later assigned

/-- **The keys of a mapping stay where they are**, unless the assignment is to its address or the
beginning of that. -/
theorem keys_prefix_assign (keyed : ∀ key ∈ place, key.wellKeyed = true)
    (rigid : ∀ key ∈ place, key.Rigid) (steps_ : ∀ step ∈ steps, step.Keyed)
    (elsewhere : ¬steps <+: place.map .named) (h : assign entries steps value = .ok result) :
    keys (mappingAt entries place) <+: keys (mappingAt result place) := by
  induction place generalizing entries steps result with
  | nil =>
    obtain ⟨step, rest, rfl⟩ := List.exists_cons_of_ne_nil fun empty : steps = [] =>
      elsewhere (empty ▸ List.nil_prefix)
    obtain ⟨new, rfl⟩ := exists_insert_of_assign h
    exact Mapping.keys_prefix_insert entries (step.keyIn entries) new
  | cons key place ih =>
    obtain ⟨here, later⟩ := List.forall_mem_cons.1 keyed
    obtain ⟨rigidHere, rigidLater⟩ := List.forall_mem_cons.1 rigid
    rw [mappingAt_cons, mappingAt_cons]
    cases found : find? entries key with
    | none =>
      rw [below_of_absent found, mappingAt_nil]
      exact List.nil_prefix
    | some current =>
      rcases find?_assign_cases here rigidHere steps_ h found with
        same | rfl | ⟨more, child, inner, rfl, rfl, assigned, there⟩
      · rw [below_of_find? found, below_of_find? same]
      · exact absurd (by simp) elsewhere
      · rw [below_of_find? found, below_of_find? there]
        refine ih later rigidLater (List.forall_mem_cons.1 steps_).2 (fun more => elsewhere ?_)
          assigned
        exact List.cons_prefix_cons.2 ⟨rfl, more⟩

/-! ## The keys that lines write -/

/-- The path of a line is that of a key. -/
theorem exists_keyText_of_readLine {assignment : Assignment}
    (h : readLine line = .ok (some assignment)) : ∃ text, KeyText assignment.path text := by
  cases trimmed : trim line with
  | nil =>
    rw [readLine_of_blank (trim_eq_nil_iff.1 trimmed)] at h
    cases h
  | cons c rest =>
    by_cases marks : c = ';' ∨ c = '#'
    · obtain ⟨lead, trail, leadSpace, -, split⟩ := exists_trim line
      rw [split, trimmed, List.cons_append, readLine_of_comment leadSpace marks] at h
      cases h
    · obtain ⟨steps, key, trail, text, value, given, -, path, -⟩ :=
        exists_assignment_of_readLine trimmed marks h
      cases given
      exact ⟨key, path⟩

theorem segmentKey_cases (text : List Char) : (∃ name, segmentKey text = .string name) ∨
    ∃ n : Nat, n < Nat.pow 2 64 ∧ segmentKey text = .number (.int n) := by
  rw [segmentKey]
  split
  · next n read =>
    split at read
    · exact .inr ⟨n, of_decide_eq_true (Option.filter_eq_some_iff.1 read).2, rfl⟩
    · cases read
  · exact .inl ⟨_, rfl⟩

/-- **A line names texts, and indices of 64 bits.** -/
theorem key_of_readLine {assignment : Assignment} (h : readLine line = .ok (some assignment))
    (member : .named key ∈ assignment.path) :
    (∃ name, key = .string name) ∨ ∃ n : Nat, n < Nat.pow 2 64 ∧ key = .number (.int n) := by
  obtain ⟨text, path⟩ := exists_keyText_of_readLine h
  generalize assignment.path = steps at member path
  obtain @⟨lead, base, gap, brackets, inners, -, -, -, -⟩ := path
  rcases List.mem_cons.1 member with here | later
  · cases here
    exact .inl ⟨_, rfl⟩
  · obtain ⟨inner, -, eq⟩ := List.mem_map.1 later
    rw [segmentOf] at eq
    split at eq <;> cases eq
    exact segmentKey_cases _

theorem rigid_of_readLine {assignment : Assignment} (h : readLine line = .ok (some assignment))
    (part : steps ⊆ assignment.path) : ∀ key ∈ keysAlong entries steps, key.Rigid := by
  refine rigid_of_mem_keysAlong fun key member => ?_
  rcases key_of_readLine h (part member) with ⟨name, rfl⟩ | ⟨n, -, rfl⟩
  · exact Tree.rigid_of_textual (Tree.textual_string name)
  · exact Tree.rigid_of_isIndexKey rfl

/-! ## Indices of 64 bits -/

/-- One line counts up by one at most, beyond the indices that it names. -/
theorem lt_of_hasKey_applyLine
    (named : ∀ assignment, readLine line = .ok (some assignment) →
      ∀ n : Int, .named (.number (.int n)) ∈ assignment.path → n < bound + 1)
    (small : ∀ n : Int, HasKey entries (.number (.int n)) → n < bound)
    (h : applyLine entries line = .ok grown) {n : Int} (has : HasKey grown (.number (.int n))) :
    n < bound + 1 := by
  rcases applyLine_cases h with rfl | ⟨assignment, read, assigned⟩
  · have := small n has
    omega
  · rcases mem_keys_assign (isMapping_of_readValue (readValue_of_readLine read)) assigned has with
      old | ⟨step, member, place, eq⟩
    · have := small n old
      omega
    · cases step with
      | named key =>
        obtain rfl : .number (.int n) = key := eq
        exact named assignment read n member
      | append =>
        have le : nextIndex (mappingAt entries place) ≤ bound :=
          nextIndex_le fun n inside => small n ⟨place, inside⟩
        cases eq
        omega

/-- No line comes upon a mapping with the last index that has 64 bits. -/
def LeavesRoom (lines : List (List Char)) : Prop :=
  ∀ before line after entries, lines = before ++ line :: after →
    readLines [] 1 before = .ok entries → ¬HasKey entries (.number (.int (Nat.pow 2 64 - 1)))

theorem not_hasKey_nil : ¬HasKey [] key := by
  rintro ⟨place, member⟩
  rw [mappingAt_nil] at member
  cases member

/-- What holds at first, and stays so with every further line, holds of all that has been read. -/
theorem readLines_induction {P : List (List Char) → Mapping → Prop} (start : P [] [])
    (step : ∀ before line after middle grown, lines = before ++ line :: after →
      readLines [] 1 before = .ok middle → applyLine middle line = .ok grown → P before middle →
      P (before ++ [line]) grown)
    (part : before <+: lines) (read : readLines [] 1 before = .ok entries) : P before entries := by
  induction before using List.reverseRecOn generalizing entries with
  | nil =>
    cases read
    exact start
  | append_singleton before line ih =>
    obtain ⟨middle, grown, next, read, applied, same⟩ := exists_of_readLines read
    cases same
    obtain ⟨after, rfl⟩ := part
    have split : before ++ [line] ++ after = before ++ line :: after := List.append_assoc _ _ _
    exact step before line after middle entries split read applied (ih ⟨_, split.symm⟩ read)

theorem LeavesRoom.lt_last (room : LeavesRoom (before ++ line :: after))
    (read : readLines [] 1 before = .ok entries) {n : Int} (fits : n < Nat.pow 2 64)
    (has : HasKey entries (.number (.int n))) : n < Nat.pow 2 64 - 1 := by
  have ne : n ≠ Nat.pow 2 64 - 1 := by
    rintro rfl
    exact room before line after entries rfl read has
  omega

/-- Where there is room, indices have 64 bits. -/
theorem LeavesRoom.lt_of_hasKey (room : LeavesRoom lines) (part : before <+: lines)
    (read : readLines [] 1 before = .ok entries) :
    ∀ n : Int, HasKey entries (.number (.int n)) → n < Nat.pow 2 64 := by
  refine readLines_induction
    (P := fun _ entries => ∀ n : Int, HasKey entries (.number (.int n)) → n < Nat.pow 2 64)
    (fun n has => absurd has not_hasKey_nil) ?_ part read
  rintro before line after middle grown rfl read applied small n has
  have named (assignment : Assignment) (given : readLine line = .ok (some assignment)) (n : Int)
      (member : .named (.number (.int n)) ∈ assignment.path) :
      n < (Nat.pow 2 64 - 1 : Nat) + 1 := by
    rcases key_of_readLine given member with ⟨name, eq⟩ | ⟨n, fits, eq⟩
    · cases eq
    · cases eq
      omega
  exact lt_of_hasKey_applyLine named (fun n has => room.lt_last read (small n has) has) applied has

/-- **A text leaves room** if there are fewer lines than there are indices after each that it
names. -/
theorem leavesRoom_of_named (short : lines.length ≤ Nat.pow 2 64)
    (named : ∀ line ∈ lines, ∀ assignment, readLine line = .ok (some assignment) →
      ∀ n : Int, .named (.number (.int n)) ∈ assignment.path → n + lines.length ≤ Nat.pow 2 64) :
    LeavesRoom lines := by
  intro before line after entries split read has
  have small := readLines_induction
    (P := fun before entries => ∀ n : Int, HasKey entries (.number (.int n)) →
      n < (Nat.pow 2 64 - lines.length + before.length : Nat))
    (fun n has => absurd has not_hasKey_nil) ?_ ⟨_, split.symm⟩ read (Nat.pow 2 64 - 1) has
  · have length := congrArg List.length split
    simp only [List.length_append, List.length_cons] at length
    omega
  · intro before line after middle grown split _ applied small n has
    have named := named line (by simp [split])
    have lt := lt_of_hasKey_applyLine (fun assignment given n member => ?_) small applied has
    · rw [List.length_append, List.length_singleton, ← Nat.add_assoc]
      omega
    · have le := named assignment given n member
      omega

/-! ## Lines that append -/

/-- The path is not assigned to, nor is the beginning of it. -/
def Untouched (path : List Tree) (lines : List (List Char)) : Prop :=
  ∀ line ∈ lines, ∀ assignment, readLine line = .ok (some assignment) →
    ¬assignment.path <+: path.map .named

/-- After given lines, a line comes by empty brackets: they are in the mapping at `place`, stand for
`index`, and have `inner` behind them, and the line ends with `value`. -/
inductive AppendsTo (before : List (List Char)) (line : List Char) :
    List Tree → Nat → List Tree → Tree → Prop
  | mk {entries : Mapping} {front rest : List Segment} {value : Tree}
      (read : readLines [] 1 before = .ok entries)
      (given : readLine line = .ok (some ⟨front ++ .append :: rest, value⟩)) :
      AppendsTo before line (keysAlong entries front)
        (nextIndex (mappingAt entries (keysAlong entries front))) (keysAlong [] rest) value

theorem keysAlong_append_brackets (entries : Mapping) (front rest : List Segment) :
    keysAlong entries (front ++ .append :: rest) = keysAlong entries front ++
      .number (.int (nextIndex (mappingAt entries (keysAlong entries front)))) ::
        keysAlong [] rest := by
  rw [keysAlong_append, keysAlong, below_of_absent (find?_keyIn_append _)]
  rfl

theorem Untouched.shorter {more : List Tree} (h : Untouched (path ++ more) lines) :
    Untouched path lines := by
  intro line member assignment read part
  refine h line member assignment read (part.trans ?_)
  rw [List.map_append]
  exact List.prefix_append _ _

theorem Untouched.right (h : Untouched path (before ++ after)) : Untouched path after :=
  fun line member => h line (List.mem_append_right _ member)

theorem Untouched.left (h : Untouched path (before ++ after)) : Untouched path before :=
  fun line member => h line (List.mem_append_left _ member)

/-- The keys of a mapping stay where they are if its address is left untouched. -/
theorem keys_prefix_readLines (keyed : ∀ key ∈ place, key.wellKeyed = true)
    (rigid : ∀ key ∈ place, key.Rigid) (untouched : Untouched place lines)
    (h : readLines entries number lines = .ok result) :
    keys (mappingAt entries place) <+: keys (mappingAt result place) := by
  refine readLines_keeps
    (P := fun grown => keys (mappingAt entries place) <+: keys (mappingAt grown place))
    (fun line member grown next applied before => before.trans ?_) h List.prefix_rfl
  rcases applyLine_cases applied with rfl | ⟨assignment, read, assigned⟩
  · exact List.prefix_rfl
  · exact keys_prefix_assign keyed rigid (keyed_of_readLine read).1
      (untouched line member _ read) assigned

namespace AppendsTo

variable {index : Nat} {inner : List Tree}

theorem exists_read (h : AppendsTo before line place index inner value) :
    ∃ entries, readLines [] 1 before = .ok entries := by
  obtain @⟨entries, front, rest, value, read, given⟩ := h
  exact ⟨entries, read⟩

theorem index_eq (h : AppendsTo before line place index inner value)
    (read : readLines [] 1 before = .ok entries) :
    index = nextIndex (mappingAt entries place) := by
  obtain @⟨entries', front, rest, value, read', given⟩ := h
  cases read.symm.trans read'
  rfl

theorem isMapping_value (h : AppendsTo before line place index inner value) :
    value.isMapping = false := by
  obtain @⟨entries, front, rest, value, read, given⟩ := h
  exact isMapping_of_readValue (readValue_of_readLine given)

theorem wellKeyed_of_mem (h : AppendsTo before line place index inner value) :
    ∀ key ∈ place ++ .number (.int index) :: inner, key.wellKeyed = true := by
  obtain @⟨entries, front, rest, value, read, given⟩ := h
  rw [← keysAlong_append_brackets]
  exact wellKeyed_of_mem_keysAlong (keyed_of_readLine given).1

theorem rigid_of_mem (h : AppendsTo before line place index inner value) :
    ∀ key ∈ place ++ .number (.int index) :: inner, key.Rigid := by
  obtain @⟨entries, front, rest, value, read, given⟩ := h
  rw [← keysAlong_append_brackets]
  exact rigid_of_readLine given (List.Subset.refl _)

theorem keeps (h : AppendsTo before line place index inner value)
    (applied : applyLine entries line = .ok grown) :
    (Tree.mapping entries).Keeps (.mapping grown) := by
  obtain @⟨entries', front, rest, value, read, given⟩ := h
  rw [applyLine, given] at applied
  exact keeps_assign (by simp) applied

/-- The value is put down below the new index. -/
theorem valueAt?_applyLine (h : AppendsTo before line place index inner value)
    (read : readLines [] 1 before = .ok entries) (applied : applyLine entries line = .ok grown) :
    (Tree.mapping grown).valueAt? (place ++ .number (.int index) :: inner) = some value := by
  obtain @⟨entries', front, rest, value, read', given⟩ := h
  cases read.symm.trans read'
  rw [applyLine, given] at applied
  rw [← keysAlong_append_brackets]
  exact valueAt?_assign (keyed_of_readLine given).1 (by simp) applied

/-- It stays there if its path is left untouched. -/
theorem valueAt?_readLines (h : AppendsTo before line place index inner value)
    (untouched : Untouched (place ++ .number (.int index) :: inner) after)
    (read : readLines [] 1 (before ++ line :: after) = .ok result) :
    (Tree.mapping result).valueAt? (place ++ .number (.int index) :: inner) = some value := by
  obtain ⟨entries, grown, next, start, applied, read⟩ := exists_of_readLines read
  exact Ini.valueAt?_readLines h.wellKeyed_of_mem h.rigid_of_mem untouched read
    (h.valueAt?_applyLine start applied) h.isMapping_value

end AppendsTo

/-- Where there is room, appending takes indices of 64 bits. -/
theorem LeavesRoom.lt_of_appendsTo {index : Nat} {inner : List Tree}
    (room : LeavesRoom (before ++ line :: after))
    (appends : AppendsTo before line place index inner value) : index < Nat.pow 2 64 := by
  obtain ⟨entries, read⟩ := appends.exists_read
  have le : index ≤ Nat.pow 2 64 - 1 := by
    rw [appends.index_eq read]
    refine nextIndex_le fun n member => ?_
    have has : HasKey entries (.number (.int n)) := ⟨place, member⟩
    exact room.lt_last read (room.lt_of_hasKey (List.prefix_append _ _) read n has) has
  exact Nat.lt_of_le_of_lt le (by decide)

/-- What stands behind a key of a mapping is found there. -/
theorem exists_of_valueAt? (rigid : key.Rigid)
    (stands : (Tree.mapping result).valueAt? (place ++ key :: path) = some value) :
    key ∈ keys (mappingAt result place) ∧
      ∃ here, find? (mappingAt result place) key = some here ∧ here.valueAt? path = some value := by
  rw [Tree.valueAt?_append] at stands
  obtain ⟨there, at_, stands⟩ := Option.bind_eq_some_iff.1 stands
  obtain ⟨here, found, below⟩ := Option.bind_eq_some_iff.1 stands
  rw [← mappingAt_of_valueAt? at_] at found
  obtain ⟨present, member, same⟩ := Mapping.exists_mem_of_find? found
  obtain rfl := rigid present same
  exact ⟨List.mem_map_of_mem member, here, found, below⟩

theorem apart_mappingAt (keyed : (Tree.mapping entries).wellKeyed = true) :
    Mapping.Apart (mappingAt entries place) := by
  induction place generalizing entries with
  | nil => exact (Tree.wellKeyed_mapping_iff.1 keyed).1
  | cons key place ih =>
    rw [mappingAt_cons]
    cases found : find? entries key with
    | none =>
      rw [below_of_absent found, mappingAt_nil]
      exact .nil
    | some child =>
      rw [below_of_find? found]
      have keyed := Tree.wellKeyed_of_find? keyed found
      cases child with
      | mapping inner => exact ih keyed
      | _ =>
        show Mapping.Apart (mappingAt [] place)
        rw [mappingAt_nil]
        exact .nil

/-- **Values appended to one mapping stand in it in the order of their lines.** -/
theorem AppendsTo.exists_split {index index' : Nat} {inner inner' : List Tree} {value' : Tree}
    {between : List (List Char)} {other : List Char}
    (early : AppendsTo before line place index inner value)
    (late : AppendsTo (before ++ line :: between) other place index' inner' value')
    (kept : Untouched (place ++ .number (.int index) :: inner) (between ++ other :: after))
    (kept' : Untouched (place ++ .number (.int index') :: inner') after)
    (h : readLines [] 1 (before ++ line :: (between ++ other :: after)) = .ok result) :
    ∃ first second third here there, mappingAt result place =
        first ++ (.number (.int index), here) ::
          (second ++ (.number (.int index'), there) :: third) ∧
      here.valueAt? inner = some value ∧ there.valueAt? inner' = some value' := by
  have rigid (n : Nat) : (Tree.number (.int n)).Rigid := Tree.rigid_of_isIndexKey rfl
  obtain ⟨entries, read⟩ := late.exists_read
  have stands := early.valueAt?_readLines kept h
  have stands' : (Tree.mapping result).valueAt? (place ++ .number (.int index') :: inner') =
      some value' := by
    refine late.valueAt?_readLines kept' ?_
    rwa [List.append_assoc, List.cons_append]
  -- The first value is there before the second one is appended, so its key is further ahead.
  have ahead : keys (mappingAt entries place) <+: keys (mappingAt result place) := by
    rw [← List.cons_append, ← List.append_assoc, readLines_append, read] at h
    refine keys_prefix_readLines (fun key member => ?_) (fun key member => ?_) kept.right.shorter h
    · exact early.wellKeyed_of_mem key (List.mem_append_left _ member)
    · exact early.rigid_of_mem key (List.mem_append_left _ member)
  obtain ⟨inside, -⟩ := exists_of_valueAt? (rigid index) (early.valueAt?_readLines kept.left read)
  have fresh : .number (.int index') ∉ keys (mappingAt entries place) := fun member => by
    have := lt_nextIndex member
    rw [← late.index_eq read] at this
    exact Int.lt_irrefl _ this
  obtain ⟨-, here, found, below⟩ := exists_of_valueAt? (rigid index) stands
  obtain ⟨member', there, found', below'⟩ := exists_of_valueAt? (rigid index') stands'
  obtain ⟨first, first', second, second', third, split⟩ :=
    Mapping.exists_split_of_keys ahead inside fresh member'
  have apart : Mapping.Apart (mappingAt result place) :=
    apart_mappingAt (wellKeyed_of_readLines rfl h)
  refine ⟨first, second, third, here, there, ?_, below, below'⟩
  obtain rfl : first' = here := Option.some.inj
    ((Mapping.find?_of_apart apart (by simp [split])).symm.trans found)
  obtain rfl : second' = there := Option.some.inj
    ((Mapping.find?_of_apart apart (by simp [split])).symm.trans found')
  exact split

/-- **Appended values are new, and stand in the order of their lines.**  Let lines be given that
leave room for counting on.

Wherever a line comes by an empty pair of brackets, these stand for an index of 64 bits that the
mapping does not have, and that is greater than all that it has.  The line puts its value down below
this index, and takes nothing away that is there.

Where two lines append to the same mapping, and what they append is not assigned to by later lines,
nor the beginning of its path, both values are there in the end, the first one ahead. -/
theorem appends_fresh {lines : List (List Char)} (room : LeavesRoom lines) :
    (∀ before line after place index inner value, lines = before ++ line :: after →
      AppendsTo before line place index inner value →
      ∃ entries, readLines [] 1 before = .ok entries ∧
        find? (mappingAt entries place) (.number (.int index)) = none ∧
        (∀ n : Int, .number (.int n) ∈ keys (mappingAt entries place) → n < index) ∧
        index < Nat.pow 2 64 ∧
        ∀ grown, applyLine entries line = .ok grown →
          (Tree.mapping grown).valueAt? (place ++ .number (.int index) :: inner) = some value ∧
          (Tree.mapping entries).Keeps (.mapping grown)) ∧
    (∀ before line between other after place index inner value index' inner' value' result,
      lines = before ++ line :: (between ++ other :: after) →
      AppendsTo before line place index inner value →
      AppendsTo (before ++ line :: between) other place index' inner' value' →
      Untouched (place ++ .number (.int index) :: inner) (between ++ other :: after) →
      Untouched (place ++ .number (.int index') :: inner') after →
      readLines [] 1 lines = .ok result →
      ∃ first second third here there, mappingAt result place =
          first ++ (.number (.int index), here) ::
            (second ++ (.number (.int index'), there) :: third) ∧
        here.valueAt? inner = some value ∧ there.valueAt? inner' = some value') := by
  constructor
  · rintro before line after place index inner value rfl appends
    obtain ⟨entries, read⟩ := appends.exists_read
    have eq := appends.index_eq read
    exact ⟨entries, read, eq ▸ find?_keyIn_append _, fun n member => eq ▸ lt_nextIndex member,
      room.lt_of_appendsTo appends,
      fun grown applied => ⟨appends.valueAt?_applyLine read applied, appends.keeps applied⟩⟩
  · rintro before line between other after place index inner value index' inner' value' result rfl
      early late kept kept' h
    exact early.exists_split late kept kept' h

/-- The second index is a text of digits with a zero in front, and the third line appends twice. -/
def listed : List (List Char) :=
  ["projects[] = views".toList, "projects['03'] = token".toList,
    "projects[][tags][] = stable".toList]

theorem appends_fresh_listed : LeavesRoom listed ∧ ∃ result first second third there,
    readLines [] 1 listed = .ok result ∧ mappingAt result [.string "projects"] =
      first ++ (.number (.int 0), .string "views") ::
        (second ++ (.number (.int 4), there) :: third) ∧
    there.valueAt? [.string "tags", .number (.int 0)] = some (.string "stable") := by
  have views : readLine "projects[] = views".toList =
      .ok (some ⟨[.named (.string "projects"), .append], .string "views"⟩) := by
    with_unfolding_all rfl
  have token : readLine "projects['03'] = token".toList = .ok (some
      ⟨[.named (.string "projects"), .named (.number (.int 3))], .string "token"⟩) := by
    with_unfolding_all rfl
  have stable : readLine "projects[][tags][] = stable".toList = .ok (some
      ⟨[.named (.string "projects"), .append, .named (.string "tags"), .append],
        .string "stable"⟩) := by
    with_unfolding_all rfl
  have early : AppendsTo [] "projects[] = views".toList [.string "projects"] 0 []
      (.string "views") := @AppendsTo.mk _ _ [] [.named (.string "projects")] [] _ rfl views
  have late : AppendsTo ["projects[] = views".toList, "projects['03'] = token".toList]
      "projects[][tags][] = stable".toList [.string "projects"] 4
      [.string "tags", .number (.int 0)] (.string "stable") :=
    @AppendsTo.mk _ _ [(.string "projects", .mapping [(.number (.int 0), .string "views"),
        (.number (.int 3), .string "token")])]
      [.named (.string "projects")] [.named (.string "tags"), .append] _
      (by with_unfolding_all rfl) stable
  have room : LeavesRoom listed := by
    refine leavesRoom_of_named (by decide) fun line member assignment read n named => ?_
    simp only [listed, List.mem_cons, List.not_mem_nil, or_false] at member
    rcases member with rfl | rfl | rfl
    · cases views.symm.trans read
      simp at named
    · cases token.symm.trans read
      obtain rfl : n = 3 := by simpa using named
      decide
    · cases stable.symm.trans read
      simp at named
  have kept : Untouched [.string "projects", .number (.int 0)]
      ["projects['03'] = token".toList, "projects[][tags][] = stable".toList] := by
    intro line member assignment read part
    simp only [List.mem_cons, List.not_mem_nil, or_false] at member
    rcases member with rfl | rfl
    · cases token.symm.trans read
      simp [List.cons_prefix_cons] at part
    · cases stable.symm.trans read
      simp [List.cons_prefix_cons] at part
  obtain ⟨result, read⟩ : ∃ result, readLines [] 1 listed = .ok result :=
    ⟨_, by with_unfolding_all rfl⟩
  obtain ⟨first, second, third, here, there, split, stands, below⟩ := (appends_fresh room).2 [] _
    ["projects['03'] = token".toList] _ [] _ _ _ _ _ _ _ result rfl early late kept nofun read
  obtain rfl : here = .string "views" := Option.some.inj stands
  exact ⟨room, result, first, second, third, there, read, split, below⟩

end Ini

end BuildManifest
