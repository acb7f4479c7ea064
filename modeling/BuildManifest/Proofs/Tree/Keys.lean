import BuildManifest.Tree.Merge

/-!
# Keys that are texts

Which keys are the same is coarser than equality, and for keys that are mappings not even
symmetric.  Every key that a manifest gives a meaning is a text, perhaps with tags.  For those the
two notions coincide, and the operations on the entries of a mapping obey the usual laws, as long
as a key occurs once.

## What is here

* `Tree.Textual` — keys that are texts; `same_iff_of_textual`.
* `Mapping.Once`, `Mapping.Distinct` — a key occurs at most once, and every text does.
* `find?_insert_self`, `find?_erase_other`, … — what is found after a change of the entries.
* `mergeEntries_cons`, `find?_mergeEntries` — one step of a merge, and **what is found in it**.
-/

set_option autoImplicit false

namespace BuildManifest

namespace Tree

/-- A key that is a text, with or without tags. -/
def Textual (key : Tree) : Prop := key.text?.isSome = true

@[simp] theorem textual_string (text : String) : Textual (.string text) := rfl

theorem textual_tagged {name : String} {content : Tree} :
    Textual (.tagged name content) ↔ Textual content := Iff.rfl

/-- **A text is the same as itself only.** -/
theorem same_iff_of_textual {key other : Tree} (h : Textual key) :
    key.same other = true ↔ key = other := by
  induction key using Tree.untagged.induct generalizing other with
  | case1 name content ih =>
    cases other with
    | tagged name' content' => simp [same, ih (textual_tagged.1 h)]
    | _ => simp [same]
  | case2 key plain =>
    cases key with
    | string text => cases other <;> simp [same]
    | tagged name content => exact absurd rfl (plain name content)
    | _ => simp [Textual, text?, untagged] at h

theorem textual_of_same {key other : Tree} (h : Textual other) (same : key.same other = true) :
    Textual key := by
  induction other using Tree.untagged.induct generalizing key with
  | case1 name content ih =>
    cases key with
    | tagged name' content' =>
      simp only [Tree.same, Bool.and_eq_true] at same
      exact textual_tagged.2 (ih (textual_tagged.1 h) same.2)
    | _ => simp [Tree.same] at same
  | case2 other plain =>
    cases other with
    | string text => cases key <;> simp_all [Tree.same]
    | tagged name content => exact absurd rfl (plain name content)
    | _ => simp [Textual, text?, untagged] at h

/-- Only a text is the same as a text. -/
theorem same_iff_of_textual_right {key other : Tree} (h : Textual other) :
    key.same other = true ↔ key = other := by
  constructor
  · intro same
    exact (same_iff_of_textual (textual_of_same h same)).1 same
  · rintro rfl
    exact (same_iff_of_textual h).2 rfl

end Tree

namespace Mapping

open BuildManifest.Tree (Textual same_iff_of_textual same_iff_of_textual_right)

variable {entries : Mapping} {key wanted value : Tree}

/-- The key occurs at most once. -/
def Once (entries : Mapping) (key : Tree) : Prop :=
  entries.Pairwise fun a b => ¬(a.1 = key ∧ b.1 = key)

/-- No text occurs twice among the keys. -/
def Distinct (entries : Mapping) : Prop := ∀ key, Textual key → Once entries key

theorem distinct_nil : Distinct [] := fun _ _ => List.Pairwise.nil

theorem once_cons {present old : Tree} {rest : Mapping} :
    Once ((present, old) :: rest) key ↔
      (present = key → key ∉ keys rest) ∧ Once rest key := by
  rw [Once, List.pairwise_cons]
  refine and_congr ⟨fun h here member => ?_, fun h entry member both => ?_⟩ Iff.rfl
  · obtain ⟨entry, inside, rfl⟩ := List.mem_map.1 member
    exact h entry inside ⟨here, rfl⟩
  · exact h both.1 (List.mem_map.2 ⟨entry, member, both.2⟩)

/-! ## Finding -/

theorem mem_of_find? (textual : Textual wanted) (h : find? entries wanted = some value) :
    (wanted, value) ∈ entries := by
  induction entries with
  | nil => exact absurd h (by simp)
  | cons entry rest ih =>
    obtain ⟨present, old⟩ := entry
    rw [find?_cons] at h
    split at h
    · next same =>
      obtain rfl := (same_iff_of_textual textual).1 same
      rw [Option.some.inj h]
      exact List.mem_cons_self
    · exact List.mem_cons_of_mem _ (ih h)

theorem find?_eq_none_iff (textual : Textual wanted) :
    find? entries wanted = none ↔ wanted ∉ keys entries := by
  induction entries with
  | nil => simp [keys]
  | cons entry rest ih =>
    obtain ⟨present, old⟩ := entry
    rw [find?_cons, keys, List.map_cons, List.mem_cons, not_or, ← same_iff_of_textual textual]
    by_cases same : wanted.same present = true
    · simp [same]
    · rw [if_neg same, ih]
      exact (and_iff_right same).symm

/-- A key that occurs once is found wherever it stands. -/
theorem find?_of_mem (textual : Textual wanted) (once : Once entries wanted)
    (member : (wanted, value) ∈ entries) : find? entries wanted = some value := by
  induction entries with
  | nil => exact absurd member (by simp)
  | cons entry rest ih =>
    obtain ⟨present, old⟩ := entry
    obtain ⟨notLater, once⟩ := once_cons.1 once
    rw [find?_cons]
    rcases List.mem_cons.1 member with here | later
    · obtain ⟨rfl, rfl⟩ := Prod.mk.inj here
      rw [if_pos ((same_iff_of_textual textual).2 rfl)]
    · rw [if_neg, ih once later]
      intro same
      obtain rfl := (same_iff_of_textual textual).1 same
      exact notLater rfl (List.mem_map.2 ⟨_, later, rfl⟩)

theorem find?_congr_of_mem {others : Mapping} (textual : Textual wanted)
    (once : Once entries wanted) (onceOthers : Once others wanted)
    (h : ∀ value, (wanted, value) ∈ entries ↔ (wanted, value) ∈ others) :
    find? entries wanted = find? others wanted := by
  cases found : find? others wanted with
  | some value => exact find?_of_mem textual once ((h value).2 (mem_of_find? textual found))
  | none =>
    rw [find?_eq_none_iff textual] at found ⊢
    intro member
    obtain ⟨⟨_, value⟩, inside, rfl⟩ := List.mem_map.1 member
    exact found (List.mem_map.2 ⟨_, (h value).1 inside, rfl⟩)

/-! ## Insertion -/

@[simp] theorem find?_insert_self (textual : Textual key) :
    find? (insert entries key value) key = some value := by
  induction entries with
  | nil => simp [insert, find?_cons, (same_iff_of_textual textual).2 rfl]
  | cons entry rest ih =>
    obtain ⟨present, old⟩ := entry
    by_cases same : key.same present = true
    · simp [insert, find?_cons, same]
    · simp [insert, find?_cons, same, ih]

theorem find?_insert_other (textual : Textual wanted) (ne : key ≠ wanted) :
    find? (insert entries key value) wanted = find? entries wanted := by
  induction entries with
  | nil =>
    rw [insert, find?_cons, if_neg]
    exact fun same => ne ((same_iff_of_textual textual).1 same).symm
  | cons entry rest ih =>
    obtain ⟨present, old⟩ := entry
    rw [insert]
    split
    · next same =>
      have apart : ¬wanted.same present = true := by
        intro here
        obtain rfl := (same_iff_of_textual textual).1 here
        exact ne ((same_iff_of_textual_right textual).1 same)
      rw [find?_cons, find?_cons, if_neg apart, if_neg apart]
    · rw [find?_cons, find?_cons, ih]

/-- The last value given to a key counts. -/
theorem insert_insert (textual : Textual key) (old : Tree) :
    insert (insert entries key old) key value = insert entries key value := by
  induction entries with
  | nil => exact if_pos ((same_iff_of_textual textual).2 rfl)
  | cons entry rest ih =>
    obtain ⟨present, current⟩ := entry
    by_cases same : key.same present = true
    · rw [insert, if_pos same, insert, if_pos same, insert, if_pos same]
    · rw [insert, if_neg same, insert, if_neg same, ih, insert, if_neg same]

theorem once_of_keys_eq {others : Mapping} (eq : keys entries = keys others) :
    Once entries wanted ↔ Once others wanted := by
  have h (list : Mapping) :
      Once list wanted ↔ (keys list).Pairwise fun a b => ¬(a = wanted ∧ b = wanted) := by
    rw [Once, keys, List.pairwise_map]
  rw [h, h, eq]

theorem mem_keys_insert {one : Tree} (member : one ∈ keys (insert entries key value)) :
    one ∈ keys entries ∨ one = key := by
  rw [keys_insert] at member
  split at member
  · exact .inl member
  · exact (List.mem_append.1 member).imp_right List.mem_singleton.1

theorem value_of_mem_insert {entry : Tree × Tree} (member : entry ∈ insert entries key value) :
    entry ∈ entries ∨ entry.2 = value := by
  induction entries with
  | nil =>
    rw [List.mem_singleton.1 member]
    exact .inr rfl
  | cons first rest ih =>
    obtain ⟨present, old⟩ := first
    rw [insert] at member
    split at member
    · rcases List.mem_cons.1 member with rfl | later
      · exact .inr rfl
      · exact .inl (List.mem_cons_of_mem _ later)
    · rcases List.mem_cons.1 member with rfl | later
      · exact .inl List.mem_cons_self
      · exact (ih later).imp_left (List.mem_cons_of_mem _)

theorem once_insert (textual : Textual wanted) (once : Once entries wanted) :
    Once (insert entries key value) wanted := by
  have grown := keys_insert entries key value
  split at grown
  · exact (once_of_keys_eq grown).2 once
  · next absent =>
    have atEnd : keys (insert entries key value) = keys (entries ++ [(key, value)]) := by
      rw [grown]
      simp [keys]
    refine (once_of_keys_eq atEnd).2 ?_
    refine List.pairwise_append.2 ⟨once, List.pairwise_singleton _ _, ?_⟩
    rintro a inside b last ⟨here, added⟩
    rw [List.mem_singleton.1 last] at added
    obtain rfl : key = wanted := added
    refine absent (Option.isSome_iff_ne_none.2 fun missing => ?_)
    exact (find?_eq_none_iff textual).1 missing (List.mem_map.2 ⟨a, inside, here⟩)

theorem distinct_insert (distinct : Distinct entries) : Distinct (insert entries key value) :=
  fun wanted textual => once_insert textual (distinct wanted textual)

/-! ## Removal -/

/-- Only the order tells that the last entry moves into the gap. -/
theorem erase_perm (entries : Mapping) (key : Tree) :
    (erase entries key).Perm (entries.eraseP fun entry => key.same entry.1) := by
  induction entries with
  | nil => exact List.Perm.refl _
  | cons first rest ih =>
    obtain ⟨present, old⟩ := first
    rw [erase, List.eraseP_cons]
    by_cases same : key.same present = true
    · rw [if_pos same, same, cond_true]
      cases last : rest.getLast? with
      | none => rw [List.getLast?_eq_none_iff.1 last]
      | some moved =>
        obtain ⟨front, rfl⟩ := List.getLast?_eq_some_iff.1 last
        rw [List.dropLast_concat]
        exact (List.perm_append_singleton moved front).symm
    · rw [if_neg same, Bool.eq_false_iff.2 same, cond_false]
      exact ih.cons _

theorem once_erase (once : Once entries wanted) : Once (erase entries key) wanted := by
  refine (List.Perm.pairwise_iff ?_ (erase_perm entries key)).2 ?_
  · exact fun apart both => apart ⟨both.2, both.1⟩
  · exact List.Pairwise.sublist List.eraseP_sublist once

theorem distinct_erase (distinct : Distinct entries) : Distinct (erase entries key) :=
  fun wanted textual => once_erase (distinct wanted textual)

theorem find?_erase_self (textual : Textual key) (once : Once entries key) :
    find? (erase entries key) key = none := by
  rw [find?_eq_none_iff textual, keys, ((erase_perm entries key).map _).mem_iff]
  induction entries with
  | nil => simp
  | cons first rest ih =>
    obtain ⟨present, old⟩ := first
    obtain ⟨notLater, once⟩ := once_cons.1 once
    rw [List.eraseP_cons]
    by_cases same : key.same present = true
    · rw [same, cond_true]
      exact notLater ((same_iff_of_textual textual).1 same).symm
    · rw [Bool.eq_false_iff.2 same, cond_false, List.map_cons, List.mem_cons, not_or]
      exact ⟨fun here => same ((same_iff_of_textual textual).2 here), ih once⟩

theorem find?_erase_other (textual : Textual wanted) (once : Once entries wanted)
    (ne : key ≠ wanted) : find? (erase entries key) wanted = find? entries wanted := by
  refine find?_congr_of_mem textual (once_erase once) once fun value => ?_
  rw [(erase_perm entries key).mem_iff]
  refine List.mem_eraseP_of_neg fun same => ne ?_
  exact (same_iff_of_textual_right textual).1 same

/-! ## Entries in another order -/

/-- A key that is there may go to the front. -/
theorem perm_cons_eraseP (textual : Textual key) (found : find? entries key = some value) :
    entries.Perm ((key, value) :: entries.eraseP fun entry => key.same entry.1) := by
  induction entries with
  | nil => cases found
  | cons first rest ih =>
    obtain ⟨present, old⟩ := first
    rw [find?_cons] at found
    rw [List.eraseP_cons]
    by_cases same : key.same present = true
    · rw [if_pos same] at found
      cases found
      obtain rfl := (same_iff_of_textual textual).1 same
      rw [same, cond_true]
    · rw [if_neg same] at found
      rw [Bool.eq_false_iff.2 same, cond_false]
      exact ((ih found).cons _).trans (List.Perm.swap _ _ _)

/-- So may a key whose value is replaced. -/
theorem insert_perm_cons_eraseP {old : Tree} (textual : Textual key)
    (found : find? entries key = some old) :
    (insert entries key value).Perm
      ((key, value) :: entries.eraseP fun entry => key.same entry.1) := by
  induction entries with
  | nil => cases found
  | cons first rest ih =>
    obtain ⟨present, current⟩ := first
    rw [find?_cons] at found
    rw [insert, List.eraseP_cons]
    by_cases same : key.same present = true
    · rw [if_pos same, same, cond_true, (same_iff_of_textual textual).1 same]
    · rw [if_neg same] at found
      rw [if_neg same, Bool.eq_false_iff.2 same, cond_false]
      exact ((ih found).cons _).trans (List.Perm.swap _ _ _)

/-! ## Merging -/

/-- What is found where `top` lies on `base`, given what is found in both. -/
def layered : Option Tree → Option Tree → Option Tree
  | base, none => base
  | none, some top => some top
  | some base, some top => some (Tree.merge base top)

@[simp] theorem layered_none_left (top : Option Tree) : layered none top = top := by
  cases top <;> rfl

/-- **A merge inserts the entries of the upper layer one by one**, each laid on what is there. -/
theorem mergeEntries_cons (rest : Mapping) :
    ∃ merged, Tree.mergeEntries entries ((key, value) :: rest) =
        Tree.mergeEntries (insert entries key merged) rest ∧
      layered (find? entries key) (some value) = some merged := by
  rw [Tree.mergeEntries]
  cases find? entries key with
  | none => exact ⟨_, rfl, rfl⟩
  | some current => exact ⟨_, rfl, rfl⟩

theorem once_mergeEntries {top : Mapping} (textual : Textual wanted)
    (once : Once entries wanted) : Once (Tree.mergeEntries entries top) wanted := by
  induction top generalizing entries with
  | nil =>
    rw [Tree.mergeEntries]
    exact once
  | cons first rest ih =>
    obtain ⟨merged, step, -⟩ := mergeEntries_cons rest
    rw [step]
    exact ih (once_insert textual once)

theorem distinct_mergeEntries {top : Mapping} (distinct : Distinct entries) :
    Distinct (Tree.mergeEntries entries top) :=
  fun wanted textual => once_mergeEntries textual (distinct wanted textual)

theorem mem_keys_mergeEntries {one : Tree} {top : Mapping}
    (member : one ∈ keys (Tree.mergeEntries entries top)) :
    one ∈ keys entries ∨ one ∈ keys top := by
  induction top generalizing entries with
  | nil =>
    rw [Tree.mergeEntries] at member
    exact .inl member
  | cons first rest ih =>
    obtain ⟨merged, step, -⟩ := mergeEntries_cons rest
    rw [step] at member
    rcases ih member with inserted | later
    · rcases mem_keys_insert inserted with old | rfl
      · exact .inl old
      · exact .inr List.mem_cons_self
    · exact .inr (List.mem_cons_of_mem _ later)

theorem find?_mergeEntries_of_not_mem {top : Mapping} (textual : Textual wanted)
    (absent : wanted ∉ keys top) :
    find? (Tree.mergeEntries entries top) wanted = find? entries wanted := by
  induction top generalizing entries with
  | nil => rw [Tree.mergeEntries]
  | cons first rest ih =>
    obtain ⟨present, value⟩ := first
    rw [keys, List.map_cons, List.mem_cons, not_or] at absent
    have ne : present ≠ wanted := fun here => absent.1 here.symm
    obtain ⟨merged, step, -⟩ := mergeEntries_cons rest
    rw [step, ih absent.2, find?_insert_other textual ne]

/-- **A text is found in a merge as the layers say.** -/
theorem find?_mergeEntries {top : Mapping} (textual : Textual wanted) (once : Once top wanted) :
    find? (Tree.mergeEntries entries top) wanted =
      layered (find? entries wanted) (find? top wanted) := by
  induction top generalizing entries with
  | nil => rw [Tree.mergeEntries, find?_nil, layered]
  | cons first rest ih =>
    obtain ⟨present, value⟩ := first
    obtain ⟨notLater, once⟩ := once_cons.1 once
    obtain ⟨merged, step, value_eq⟩ := mergeEntries_cons rest
    rw [step, find?_cons]
    by_cases same : wanted.same present = true
    · obtain rfl := (same_iff_of_textual textual).1 same
      rw [if_pos same, find?_mergeEntries_of_not_mem textual (notLater rfl),
        find?_insert_self textual, value_eq]
    · have ne : present ≠ wanted := fun here => same ((same_iff_of_textual textual).2 here.symm)
      rw [if_neg same, ih once, find?_insert_other textual ne]

end Mapping

end BuildManifest
