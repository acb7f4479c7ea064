import BuildManifest.Proofs.Tree.Apart
import BuildManifest.Tree.Normalize

/-!
# How the entries of a section are carried over

A section gets its canonical shape entry by entry.  What becomes of an entry depends on the names
that the section declares as keys and on those that have been seen so far: an entry under a name is
written out, an item of a list that is a name nobody has taken becomes an entry of that name, and
every other item stays where it is.

## What is here

* `Carries` — what becomes of one entry.
* `carried` — the entries carried over, one for each; `normalizeSection_mapping` says that they are
  then inserted one after the other.
* `pairwise_carried` — **two of them have the same key only if it is a name in digits** that is
  listed and is a key of the section.
* `taken_of_mem_carried` — an item stays only if its name is taken.
-/

set_option autoImplicit false

namespace BuildManifest.Tree

open BuildManifest.Mapping (Apart keys ofList insertAll)

variable {entries before after rest : Mapping} {entry first : Tree × Tree} {key value : Tree}
  {declared seen next : List String} {name : String}

/-! ## One entry -/

/-- The name that an entry gives as an item of a list: the text under an index. -/
def itemName? (entry : Tree × Tree) : Option String :=
  if entry.1.isIndexKey then entry.2.text? else none

theorem itemName?_eq_some_iff :
    itemName? entry = some name ↔ entry.1.isIndexKey = true ∧ entry.2.text? = some name := by
  rw [itemName?]
  split
  · next index => simp [index]
  · next named => simp [named]

/-- What becomes of an entry, given the names declared as keys and the names seen before it; and
the names seen after it. -/
inductive Carries (declared seen : List String) : Tree × Tree → Tree × Tree → List String → Prop
  /-- An entry under an index stays there, unless it is a name that is not taken. -/
  | stays {key value : Tree} (index : key.isIndexKey = true)
      (taken : ∀ name, value.text? = some name → name ∈ declared ∨ name ∈ seen) :
      Carries declared seen (key, value) (key, value) seen
  /-- A name under an index that is not taken becomes an entry of that name. -/
  | named {key value : Tree} {name : String} (index : key.isIndexKey = true)
      (text : value.text? = some name) (undeclared : name ∉ declared) (unseen : name ∉ seen) :
      Carries declared seen (key, value) (.string name, .mapping []) (name :: seen)
  /-- An entry under a name is written out. -/
  | expands {key value : Tree} (named : key.isIndexKey = false) :
      Carries declared seen (key, value) (key, expandEntry value) (key.keyText :: seen)

/-- The entry that one is carried over to, and the names seen after it. -/
def carry (declared seen : List String) (entry : Tree × Tree) : (Tree × Tree) × List String :=
  if isIndexKey entry.1 then
    match entry.2.text? with
    | some name =>
      if declared.contains name || seen.contains name then (entry, seen)
      else ((.string name, .mapping []), name :: seen)
    | none => (entry, seen)
  else ((entry.1, expandEntry entry.2), keyText entry.1 :: seen)

theorem carries_carry :
    Carries declared seen entry (carry declared seen entry).1 (carry declared seen entry).2 := by
  obtain ⟨key, value⟩ := entry
  rw [carry]
  by_cases index : key.isIndexKey = true
  · rw [if_pos index]
    cases text : value.text? with
    | none => exact .stays index fun name given => nomatch text.symm.trans given
    | some name =>
      dsimp only
      by_cases taken : name ∈ declared ∨ name ∈ seen
      · rw [if_pos (by simpa using taken)]
        refine .stays index fun other given => ?_
        rwa [Option.some.inj (given.symm.trans text)]
      · rw [if_neg (by simpa using taken)]
        exact .named index text (fun h => taken (.inl h)) fun h => taken (.inr h)
  · rw [if_neg index]
    exact .expands (Bool.eq_false_iff.2 index)

theorem carry_of_carries (carries : Carries declared seen entry first next) :
    carry declared seen entry = (first, next) := by
  cases carries with
  | @stays key value index taken =>
    rw [carry, if_pos index]
    cases text : value.text? with
    | none => rfl
    | some name => exact if_pos (by simpa using taken name text)
  | @named key value name index text undeclared unseen =>
    rw [carry, if_pos index]
    dsimp only
    rw [text]
    exact if_neg (by simpa using ⟨undeclared, unseen⟩)
  | expands named => rw [carry, if_neg (by simp [named])]

theorem add_eq_carry (draft : SectionDraft) :
    SectionDraft.add declared draft entry =
      { entries := Mapping.insert draft.entries (carry declared draft.emitted entry).1.1
          (carry declared draft.emitted entry).1.2
        emitted := (carry declared draft.emitted entry).2 } := by
  obtain ⟨key, value⟩ := entry
  rw [SectionDraft.add, carry]
  by_cases index : key.isIndexKey = true
  · simp only [if_pos index]
    cases value.text? with
    | none => rfl
    | some name =>
      by_cases taken : (declared.contains name || draft.emitted.contains name) = true
      · simp only [if_pos taken]
      · simp only [if_neg taken]
  · simp only [if_neg index]

/-- The key of an entry carried over is its own, or the name of an item that was not taken. -/
theorem Carries.key_eq_or (carries : Carries declared seen entry first next) :
    first.1 = entry.1 ∨ ∃ name, first.1 = .string name ∧ itemName? entry = some name ∧
      name ∉ declared ∧ name ∉ seen ∧ name ∈ next := by
  cases carries with
  | stays index taken => exact .inl rfl
  | @named _ _ name index text undeclared unseen =>
    exact .inr ⟨name, rfl, itemName?_eq_some_iff.2 ⟨index, text⟩, undeclared, unseen,
      List.mem_cons_self⟩
  | expands named => exact .inl rfl

theorem Carries.seen_subset (carries : Carries declared seen entry first next) : seen ⊆ next := by
  cases carries with
  | stays index taken => exact List.Subset.refl _
  | named index text undeclared unseen => exact List.subset_cons_self _ _
  | expands named => exact List.subset_cons_self _ _

/-! ## All entries -/

/-- The entries carried over, one for each. -/
def carried (declared : List String) : List String → Mapping → Mapping
  | _, [] => []
  | seen, entry :: rest =>
    (carry declared seen entry).1 :: carried declared (carry declared seen entry).2 rest

theorem carried_cons (declared seen : List String) (entry : Tree × Tree) (rest : Mapping) :
    ∃ first next, carried declared seen (entry :: rest) = first :: carried declared next rest ∧
      Carries declared seen entry first next := ⟨_, _, rfl, carries_carry⟩

theorem length_carried : (carried declared seen entries).length = entries.length := by
  induction entries generalizing seen with
  | nil => rfl
  | cons entry rest ih => rw [carried, List.length_cons, ih, List.length_cons]

theorem entries_foldl_add (draft : SectionDraft) :
    (entries.foldl (SectionDraft.add declared) draft).entries =
      insertAll draft.entries (carried declared draft.emitted entries) := by
  induction entries generalizing draft with
  | nil => rfl
  | cons entry rest ih => rw [List.foldl_cons, ih, add_eq_carry, carried, Mapping.insertAll_cons]

/-- The entries of a section in its canonical shape. -/
def canonicalEntries (entries : Mapping) : Mapping :=
  ofList (carried (declaredNames entries) [] entries)

/-- **A section in its canonical shape** holds the entries carried over, inserted one after the
other. -/
theorem normalizeSection_mapping (entries : Mapping) :
    normalizeSection (.mapping entries) = .mapping (canonicalEntries entries) :=
  congrArg mapping (entries_foldl_add {})

theorem apart_canonicalEntries (entries : Mapping) : Apart (canonicalEntries entries) :=
  Mapping.apart_ofList

theorem carried_append (declared seen : List String) (before after : Mapping) :
    ∃ next, carried declared seen (before ++ after) =
      carried declared seen before ++ carried declared next after := by
  induction before generalizing seen with
  | nil => exact ⟨seen, rfl⟩
  | cons entry rest ih =>
    obtain ⟨next, eq⟩ := ih (carry declared seen entry).2
    exact ⟨next, by rw [List.cons_append, carried, eq, carried, List.cons_append]⟩

theorem mem_carried (member : first ∈ carried declared seen entries) :
    ∃ entry ∈ entries, ∃ before after, seen ⊆ before ∧
      Carries declared before entry first after := by
  induction entries generalizing seen with
  | nil => cases member
  | cons entry rest ih =>
    obtain ⟨one, next, eq, carries⟩ := carried_cons declared seen entry rest
    rw [eq] at member
    rcases List.mem_cons.1 member with rfl | later
    · exact ⟨entry, List.mem_cons_self, seen, next, List.Subset.refl _, carries⟩
    · obtain ⟨other, inside, before, after, subset, carries'⟩ := ih later
      exact ⟨other, List.mem_cons_of_mem _ inside, before, after,
        List.Subset.trans carries.seen_subset subset, carries'⟩

/-! ## Keys that coincide -/

/-- Every key that is a name has its text among those declared. -/
def Declares (declared : List String) (entries : Mapping) : Prop :=
  ∀ key ∈ keys entries, key.isIndexKey = false → key.keyText ∈ declared

theorem declares_declaredNames (entries : Mapping) : Declares (declaredNames entries) entries := by
  intro key member named
  refine List.mem_map.2 ⟨key, List.mem_filter.2 ⟨member, ?_⟩, rfl⟩
  rw [named]
  rfl

theorem mem_declaredNames_iff :
    name ∈ declaredNames entries ↔
      ∃ key ∈ keys entries, key.isIndexKey = false ∧ key.keyText = name := by
  simp only [declaredNames, List.mem_map, List.mem_filter, Bool.not_eq_true', and_assoc]

/-- A text that is no name declared is an index. -/
theorem Declares.isDigits (declares : Declares declared entries)
    (member : .string name ∈ keys entries) (undeclared : name ∉ declared) :
    Text.isDigits name.toList = true := by
  by_contra plain
  exact undeclared (declares _ member (Bool.eq_false_iff.2 plain))

/-- **Two entries carried over have the same key** only if it is a name in digits, which is listed
and is a key of the section as well. -/
theorem pairwise_carried (seen : List String) (apart : Apart entries)
    (declares : Declares declared entries) :
    (carried declared seen entries).Pairwise fun before after =>
      after.1.same before.1 = true → ∃ name, before.1 = .string name ∧
        Text.isDigits name.toList = true ∧ .string name ∈ keys entries ∧
        ∃ entry ∈ entries, itemName? entry = some name := by
  induction entries generalizing seen with
  | nil => exact List.Pairwise.nil
  | cons entry rest ih =>
    obtain ⟨key, value⟩ := entry
    obtain ⟨first, next, eq, carries⟩ := carried_cons declared seen (key, value) rest
    obtain ⟨fresh, apart⟩ := Mapping.apart_cons.1 apart
    rw [eq]
    refine List.pairwise_cons.2 ⟨fun later member same => ?_, ?_⟩
    · obtain ⟨entry, inside, between, _, subset, carries'⟩ := mem_carried member
      have inKeys : entry.1 ∈ keys ((key, value) :: rest) :=
        List.mem_cons_of_mem _ (List.mem_map_of_mem inside)
      rcases carries.key_eq_or with own | ⟨name, eq, item, undeclared, -, seen⟩ <;>
        rcases carries'.key_eq_or with own' | ⟨name', eq', item', undeclared', unseen, -⟩
      · rw [own, own', fresh entry inside] at same
        cases same
      · rw [own, eq'] at same
        obtain rfl := (same_iff_of_textual (textual_string name')).1 same
        exact ⟨name', own, declares.isDigits List.mem_cons_self undeclared', List.mem_cons_self,
          entry, List.mem_cons_of_mem _ inside, item'⟩
      · rw [own', eq] at same
        have inKeys' := (same_iff_of_textual_right (textual_string name)).1 same ▸ inKeys
        exact ⟨name, eq, declares.isDigits inKeys' undeclared, inKeys', _, List.mem_cons_self, item⟩
      · rw [eq, eq'] at same
        cases (same_iff_of_textual (textual_string name')).1 same
        exact absurd (subset seen) unseen
    · refine (ih next apart fun key member => declares key (List.mem_cons_of_mem _ member)).imp ?_
      intro before after h same
      obtain ⟨name, eq, digits, member, entry, inside, item⟩ := h same
      exact ⟨name, eq, digits, List.mem_cons_of_mem _ member, entry,
        List.mem_cons_of_mem _ inside, item⟩

/-- Where no name in digits is both a key and listed, the entries carried over are apart. -/
theorem apart_carried (apart : Apart entries) (declares : Declares declared entries)
    (plain : ∀ name, .string name ∈ keys entries →
      (∃ entry ∈ entries, itemName? entry = some name) → Text.isDigits name.toList = false) :
    Apart (carried declared seen entries) := by
  refine (pairwise_carried _ apart declares).imp fun {before after} h => ?_
  refine Bool.eq_false_iff.2 fun same => ?_
  obtain ⟨name, -, digits, member, listed⟩ := h same
  rw [plain name member listed] at digits
  cases digits

/-- **A section loses none of the names that it declares.** -/
theorem declaredNames_subset (apart : Apart entries) :
    declaredNames entries ⊆ declaredNames (canonicalEntries entries) := by
  intro name member
  obtain ⟨key, inside, named, text⟩ := mem_declaredNames_iff.1 member
  obtain ⟨⟨key, value⟩, inside', rfl⟩ := List.mem_map.1 inside
  obtain ⟨before, after, rfl⟩ := List.append_of_mem inside'
  refine mem_declaredNames_iff.2 ⟨key, ?_, named, text⟩
  have apart := pairwise_carried [] apart (declares_declaredNames _)
  rw [canonicalEntries]
  generalize declaredNames (before ++ (key, value) :: after) = declared at apart ⊢
  obtain ⟨next, eq⟩ := carried_append declared [] before ((key, value) :: after)
  obtain ⟨first, next', eq', carries⟩ := carried_cons declared next (key, value) after
  rw [eq, eq'] at apart ⊢
  have own : first.1 = key := by
    cases carries with
    | stays index taken => rfl
    | named index text undeclared unseen =>
      rw [named] at index
      cases index
    | expands named => rfl
  obtain ⟨one, result⟩ := first
  obtain rfl : one = key := own
  refine Mapping.mem_keys_insertAll fun entry member => Bool.eq_false_iff.2 fun same => ?_
  -- Only a text in digits coincides with another key, and that is an index.
  obtain ⟨name, eq, digits, -⟩ :=
    (List.pairwise_append.1 apart).2.2 entry member _ List.mem_cons_self same
  have index := isIndexKey_of_same same
  rw [eq, named, isIndexKey, digits] at index
  cases index

/-! ## Items that stay -/

/-- **An item stays only if its name is taken**: declared, seen before, or carried over as a key. -/
theorem taken_of_mem_carried (declares : Declares declared entries)
    (member : first ∈ carried declared seen entries) (item : itemName? first = some name) :
    name ∈ declared ∨ name ∈ seen ∨ .string name ∈ keys (carried declared seen entries) := by
  induction entries generalizing seen with
  | nil => cases member
  | cons entry rest ih =>
    obtain ⟨index, text⟩ := itemName?_eq_some_iff.1 item
    obtain ⟨one, next, eq, carries⟩ := carried_cons declared seen entry rest
    rw [eq] at member ⊢
    rcases List.mem_cons.1 member with rfl | later
    · cases carries with
      | stays index taken => exact (taken name text).imp_right .inl
      | named index text' undeclared unseen => cases text
      | expands named =>
        rw [named] at index
        cases index
    · have declares' : Declares declared rest := fun key member =>
        declares key (List.mem_cons_of_mem _ member)
      rcases ih declares' later with known | seen' | key
      · exact .inl known
      · cases carries with
        | stays index taken => exact .inr (.inl seen')
        | named index text' undeclared unseen =>
          rcases List.mem_cons.1 seen' with rfl | old
          · exact .inr (.inr List.mem_cons_self)
          · exact .inr (.inl old)
        | expands named =>
          rcases List.mem_cons.1 seen' with rfl | old
          · exact .inl (declares _ List.mem_cons_self named)
          · exact .inr (.inl old)
      · exact .inr (.inr (List.mem_cons_of_mem _ key))

end BuildManifest.Tree
