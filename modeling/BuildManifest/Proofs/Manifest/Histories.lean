import BuildManifest.Manifest.Section
import Mathlib.Data.List.Induction
import Mathlib.Data.List.Nodup

/-!
# Sections in the course of changes

A section is no mapping: a name may stand in it twice, and validation has to see both entries.  What
goes by name means the first entry of the name.  Entries are added at the end, changed in their
places and taken out, so that everything that stays keeps its order, and a name comes to stand twice
only by being added while it is there.

Those who walk through a section may treat two entries of one name differently, so the changes that
go to all entries depend on the position of an entry here.

## What is here

* `findEntry_eq_some_iff`, `updateFirst_append` — the first entry of a name is what is found and
  changed.
* `mapAt`, `retainAt` — changes of all entries.
* `Operation`, `run` — changes one after the other, from the empty section.
* `distinct_iff` — **when no name ever stands twice**.
* `run_laws` — **the laws of sections after any changes**.
-/

set_option autoImplicit false

namespace BuildManifest.Section

variable {s : Section} {name wanted : String} {entry old : Entry} {entries : List (String × Entry)}
  {before after : List (String × Entry)}

/-! ## The first entry of a name -/

/-- The section has an entry of the name, and this one is the first. -/
def IsFirst (s : Section) (name : String) (entry : Entry) : Prop :=
  ∃ before after, s.entries = before ++ (name, entry) :: after ∧ name ∉ before.map (·.1)

theorem findEntry_append (free : name ∉ before.map (·.1)) :
    findEntry (before ++ (name, entry) :: after) name = some entry := by
  induction before with
  | nil => exact if_pos rfl
  | cons first rest ih =>
    rw [List.map_cons, List.mem_cons, not_or] at free
    rw [List.cons_append, findEntry, if_neg (Ne.symm free.1), ih free.2]

theorem findEntry_eq_none_iff : findEntry entries name = none ↔ name ∉ entries.map (·.1) := by
  induction entries with
  | nil => simp [findEntry]
  | cons first rest ih =>
    obtain ⟨present, old⟩ := first
    rw [findEntry, List.map_cons, List.mem_cons, not_or]
    split
    · next here => simp [here]
    · next other => rw [ih, and_iff_right (Ne.symm other)]

/-- **What is found is the first entry of the name.** -/
theorem findEntry_eq_some_iff : findEntry entries name = some entry ↔
    ∃ before after, entries = before ++ (name, entry) :: after ∧ name ∉ before.map (·.1) := by
  constructor
  · intro found
    induction entries with
    | nil => cases found
    | cons first rest ih =>
      obtain ⟨present, old⟩ := first
      rw [findEntry] at found
      split at found
      · next here =>
        cases found
        exact ⟨[], rest, by rw [here]; rfl, List.not_mem_nil⟩
      · next other =>
        obtain ⟨before, after, rfl, free⟩ := ih found
        refine ⟨(present, old) :: before, after, rfl, ?_⟩
        rw [List.map_cons, List.mem_cons, not_or]
        exact ⟨Ne.symm other, free⟩
  · rintro ⟨before, after, rfl, free⟩
    exact findEntry_append free

theorem updateFirst_of_not_mem (change : Entry → Entry) (free : name ∉ entries.map (·.1)) :
    updateFirst name change entries = entries := by
  induction entries with
  | nil => rfl
  | cons first rest ih =>
    rw [List.map_cons, List.mem_cons, not_or] at free
    rw [updateFirst, if_neg (Ne.symm free.1), ih free.2]

/-- **What is changed is the first entry of the name**, in its place. -/
theorem updateFirst_append (change : Entry → Entry) (free : name ∉ before.map (·.1)) :
    updateFirst name change (before ++ (name, old) :: after) =
      before ++ (name, change old) :: after := by
  induction before with
  | nil => exact if_pos rfl
  | cons first rest ih =>
    rw [List.map_cons, List.mem_cons, not_or] at free
    rw [List.cons_append, updateFirst, if_neg (Ne.symm free.1), ih free.2]
    rfl

theorem get?_eq_none_iff : s.get? name = none ↔ name ∉ s.names := findEntry_eq_none_iff

theorem get?_eq_some_iff : s.get? name = some entry ↔ s.IsFirst name entry := findEntry_eq_some_iff

theorem contains_iff : s.contains name = true ↔ name ∈ s.names := by
  rw [contains, Option.isSome_iff_ne_none, Ne, get?_eq_none_iff,
    Decidable.not_not]

/-! ## Adding and replacing -/

theorem names_push (s : Section) (name : String) (entry : Entry) :
    (s.push name entry).names = s.names ++ [name] := List.map_append

theorem insert_of_not_mem (free : name ∉ s.names) : s.insert name entry = s.push name entry := by
  rw [insert, if_neg (mt contains_iff.1 free)]

/-- What is inserted replaces the first entry of its name. -/
theorem insert_of_eq_append (split : s.entries = before ++ (name, old) :: after)
    (free : name ∉ before.map (·.1)) :
    (s.insert name entry).entries = before ++ (name, entry) :: after := by
  have present : name ∈ s.names := by
    rw [names, split, List.map_append]
    exact List.mem_append_right _ List.mem_cons_self
  rw [insert, if_pos (contains_iff.2 present), update, split]
  exact updateFirst_append _ free

theorem names_insert (s : Section) (name : String) (entry : Entry) :
    (s.insert name entry).names = if name ∈ s.names then s.names else s.names ++ [name] := by
  split
  · next present => rw [insert, if_pos (contains_iff.2 present), names_update]
  · next free => rw [insert_of_not_mem free, names_push]

/-- What is inserted is found. -/
theorem get?_insert_self (s : Section) (name : String) (entry : Entry) :
    (s.insert name entry).get? name = some entry := by
  by_cases present : name ∈ s.names
  · obtain ⟨old, found⟩ := Option.isSome_iff_exists.1 (contains_iff.2 present)
    obtain ⟨before, after, split, free⟩ := get?_eq_some_iff.1 found
    exact get?_eq_some_iff.2 ⟨before, after, insert_of_eq_append split free, free⟩
  · rw [insert_of_not_mem present]
    exact get?_eq_some_iff.2 ⟨s.entries, [], rfl, present⟩

/-- **Inserting** changes the first entry of a name, or adds one at the end. -/
theorem insert_cases (s : Section) (name : String) (entry : Entry) :
    (name ∉ s.names ∧ (s.insert name entry).entries = s.entries ++ [(name, entry)]) ∨
      ∃ before old after, s.entries = before ++ (name, old) :: after ∧ name ∉ before.map (·.1) ∧
        (s.insert name entry).entries = before ++ (name, entry) :: after := by
  by_cases present : name ∈ s.names
  · obtain ⟨old, found⟩ := Option.isSome_iff_exists.1 (contains_iff.2 present)
    obtain ⟨before, after, split, free⟩ := get?_eq_some_iff.1 found
    exact .inr ⟨before, old, after, split, free, insert_of_eq_append split free⟩
  · exact .inl ⟨present, by rw [insert_of_not_mem present]; rfl⟩

/-- **Updating** changes the first entry of a name, if there is one. -/
theorem update_cases (s : Section) (name : String) (change : Entry → Entry) :
    (name ∉ s.names ∧ (s.update name change).entries = s.entries) ∨
      ∃ before old after, s.entries = before ++ (name, old) :: after ∧ name ∉ before.map (·.1) ∧
        (s.update name change).entries = before ++ (name, change old) :: after := by
  cases found : s.get? name with
  | none =>
    have free := get?_eq_none_iff.1 found
    exact .inl ⟨free, updateFirst_of_not_mem change free⟩
  | some old =>
    obtain ⟨before, after, split, free⟩ := get?_eq_some_iff.1 found
    refine .inr ⟨before, old, after, split, free, ?_⟩
    rw [update, split, updateFirst_append change free]

/-! ## Changing all entries -/

/-- Change every entry, depending on its position. -/
def mapAt (s : Section) (change : Nat → String → Entry → Entry) : Section :=
  ⟨s.entries.zipIdx.map fun one => (one.1.1, change one.2 one.1.1 one.1.2)⟩

/-- Keep the entries that pass a test, which may depend on their positions. -/
def retainAt (s : Section) (keep : Nat → String → Entry → Bool) : Section :=
  ⟨(s.entries.zipIdx.filter fun one => keep one.2 one.1.1 one.1.2).map (·.1)⟩

/-- Changes that go by names and attributes alone. -/
theorem mapAt_const (s : Section) (change : String → Entry → Entry) :
    s.mapAt (fun _ => change) = s.map change := by
  rw [mapAt, map]
  conv_rhs => rw [← List.zipIdx_map_fst 0 s.entries, List.map_map]
  rfl

/-- Tests that go by names and attributes alone. -/
theorem retainAt_const (s : Section) (keep : String → Entry → Bool) :
    s.retainAt (fun _ => keep) = s.retain keep := by
  rw [retainAt, retain]
  conv_rhs => rw [← List.zipIdx_map_fst 0 s.entries, List.filter_map]
  rfl

theorem names_mapAt (s : Section) (change : Nat → String → Entry → Entry) :
    (s.mapAt change).names = s.names := by
  rw [names, mapAt, List.map_map, names]
  conv_rhs => rw [← List.zipIdx_map_fst 0 s.entries, List.map_map]
  rfl

/-- The entries at increasing positions, which are those of the entries that pass the test. -/
def Survive (keep : Nat → String → Entry → Bool) (entries kept : List (String × Entry)) : Prop :=
  ∃ positions : List Nat, positions.Pairwise (· < ·) ∧
    (∀ position, position ∈ positions ↔
      ∃ one, entries[position]? = some one ∧ keep position one.1 one.2 = true) ∧
    kept.map some = positions.map (entries[·]?)

/-- **What passes the test stays**, in order, and nothing else does. -/
theorem survive_retainAt (s : Section) (keep : Nat → String → Entry → Bool) :
    Survive keep s.entries (s.retainAt keep).entries := by
  refine ⟨(s.entries.zipIdx.filter fun one => keep one.2 one.1.1 one.1.2).map (·.2), ?_, ?_, ?_⟩
  · have increasing : (s.entries.zipIdx.map (·.2)).Pairwise (· < ·) := by
      rw [List.zipIdx_map_snd]
      exact List.pairwise_lt_range'
    exact increasing.sublist (List.filter_sublist.map _)
  · intro position
    constructor
    · intro member
      obtain ⟨⟨one, place⟩, inside, rfl⟩ := List.mem_map.1 member
      obtain ⟨found, kept⟩ := List.mem_filter.1 inside
      exact ⟨one, List.mem_zipIdx_iff_getElem?.1 found, kept⟩
    · rintro ⟨one, found, kept⟩
      exact List.mem_map.2 ⟨(one, position),
        List.mem_filter.2 ⟨List.mem_zipIdx_iff_getElem?.2 found, kept⟩, rfl⟩
  · rw [retainAt, List.map_map, List.map_map]
    refine List.map_congr_left fun one member => ?_
    exact (List.mem_zipIdx_iff_getElem?.1 (List.mem_filter.1 member).1).symm

theorem names_retainAt_sublist (s : Section) (keep : Nat → String → Entry → Bool) :
    (s.retainAt keep).names.Sublist s.names := by
  have kept : (s.retainAt keep).entries.Sublist (s.entries.zipIdx.map (·.1)) :=
    List.filter_sublist.map _
  rw [List.zipIdx_map_fst] at kept
  exact kept.map _

/-! ## Changes one after the other -/

/-- A change of a section. -/
inductive Operation where
  /-- Add an entry at the end. -/
  | push (name : String) (entry : Entry)
  /-- Replace the first entry of a name, or add it at the end. -/
  | insert (name : String) (entry : Entry)
  /-- Change the first entry of a name. -/
  | update (name : String) (change : Entry → Entry)
  /-- Change every entry. -/
  | map (change : Nat → String → Entry → Entry)
  /-- Keep some entries. -/
  | retain (keep : Nat → String → Entry → Bool)

/-- The section after a change. -/
def Operation.apply (s : Section) : Operation → Section
  | .push name entry => s.push name entry
  | .insert name entry => s.insert name entry
  | .update name change => s.update name change
  | .map change => s.mapAt change
  | .retain keep => s.retainAt keep

/-- The section after changes of the empty one. -/
def run (history : List Operation) : Section := history.foldl Operation.apply {}

/-- The change adds no entry of a name that is there. -/
def Operation.AddsNew (s : Section) : Operation → Prop
  | .push name _ => name ∉ s.names
  | _ => True

theorem run_concat (history : List Operation) (operation : Operation) :
    run (history ++ [operation]) = operation.apply (run history) := by
  rw [run, List.foldl_append]
  rfl

theorem nodup_push_iff : (s.push name entry).names.Nodup ↔ name ∉ s.names ∧ s.names.Nodup := by
  rw [names_push, (List.perm_append_singleton name s.names).nodup_iff, List.nodup_cons]

/-- **A change keeps names apart** if it adds no entry of a name that is there. -/
theorem nodup_apply {operation : Operation} (distinct : s.names.Nodup)
    (new : operation.AddsNew s) : (operation.apply s).names.Nodup := by
  cases operation with
  | push name entry => exact nodup_push_iff.2 ⟨new, distinct⟩
  | insert name entry =>
    by_cases present : name ∈ s.names
    · rwa [Operation.apply, names_insert, if_pos present]
    · rw [Operation.apply, insert_of_not_mem present]
      exact nodup_push_iff.2 ⟨present, distinct⟩
  | update name change => rwa [Operation.apply, names_update]
  | map change => rwa [Operation.apply, names_mapAt]
  | retain keep => exact distinct.sublist (names_retainAt_sublist s keep)

/-- **No name ever stands twice** exactly if no entry is added whose name is there. -/
theorem distinct_iff {history : List Operation} :
    (∀ earlier, earlier <+: history → (run earlier).names.Nodup) ↔
      ∀ before name entry after, history = before ++ .push name entry :: after →
        name ∉ (run before).names := by
  constructor
  · rintro distinct before name entry after rfl
    have upTo : before ++ [.push name entry] <+: before ++ .push name entry :: after :=
      ⟨after, by rw [List.append_assoc, List.singleton_append]⟩
    have apart := distinct _ upTo
    rw [run_concat] at apart
    exact (nodup_push_iff.1 apart).1
  · intro new earlier part
    induction earlier using List.reverseRecOn with
    | nil => exact List.nodup_nil
    | append_singleton before operation ih =>
      rw [run_concat]
      refine nodup_apply (ih ((List.prefix_append ..).trans part)) ?_
      obtain ⟨after, split⟩ := part
      rw [List.append_assoc, List.singleton_append] at split
      cases operation with
      | push name entry => exact new before name entry after split.symm
      | _ => trivial

/-- **The laws of sections**, after any changes from the empty section on.  What is found for a name
is its first entry.  An insertion changes that entry or adds one at the end, leaves all others and
their order, and what is inserted is found; an update changes that entry alone.  What is kept are
the entries that pass the test, in their order.  And no name has ever stood twice exactly if no
entry was added whose name was there. -/
theorem run_laws (history : List Operation) :
    (∀ name, (run history).get? name = none ↔ name ∉ (run history).names) ∧
    (∀ name entry, (run history).get? name = some entry ↔ (run history).IsFirst name entry) ∧
    (∀ name entry,
      (name ∉ (run history).names ∧
        ((run history).insert name entry).entries = (run history).entries ++ [(name, entry)]) ∨
      ∃ before old after, (run history).entries = before ++ (name, old) :: after ∧
        name ∉ before.map (·.1) ∧
        ((run history).insert name entry).entries = before ++ (name, entry) :: after) ∧
    (∀ name entry, ((run history).insert name entry).get? name = some entry) ∧
    (∀ name change,
      (name ∉ (run history).names ∧
        ((run history).update name change).entries = (run history).entries) ∨
      ∃ before old after, (run history).entries = before ++ (name, old) :: after ∧
        name ∉ before.map (·.1) ∧
        ((run history).update name change).entries = before ++ (name, change old) :: after) ∧
    (∀ keep, Survive keep (run history).entries ((run history).retainAt keep).entries) ∧
    (∀ keep, (run history).retainAt (fun _ => keep) = (run history).retain keep) ∧
    (∀ change, (run history).mapAt (fun _ => change) = (run history).map change) ∧
    ((∀ earlier, earlier <+: history → (run earlier).names.Nodup) ↔
      ∀ before name entry after, history = before ++ .push name entry :: after →
        name ∉ (run before).names) :=
  ⟨fun _ => get?_eq_none_iff, fun _ _ => get?_eq_some_iff, insert_cases _, get?_insert_self _,
    update_cases _, survive_retainAt _, retainAt_const _, mapAt_const _, distinct_iff⟩

/-- The first `views` is replaced, the other one and the order stay. -/
example : run [.push "views" {}, .push "token" {}, .push "views" { version := some "1" },
      .insert "views" { version := some "2" }, .retain fun _ name _ => name == "views"] =
    ⟨[("views", { version := some "2" }), ("views", { version := some "1" })]⟩ := rfl

end BuildManifest.Section
