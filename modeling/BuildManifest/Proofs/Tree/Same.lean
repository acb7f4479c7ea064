import BuildManifest.Proofs.Tree.Merging
import Mathlib.Data.Fintype.EquivFin

/-!
# Being the same key

No two keys of a mapping are the same, in a manifest and in everything inside it.  On such trees
being the same is symmetric, which for arbitrary lists of entries it is not: a mapping covers
another one of its length as soon as it repeats a key often enough.

## What is here

* `Mapping.Apart` — no key is the same as one before it.
* `Tree.wellKeyed` — no mapping inside a tree repeats a key.
* `same_refl`, `same_trans` — every tree is the same as itself, and being the same is transitive.
* `same_symm` — **on well keyed trees, being the same is symmetric**.
-/

set_option autoImplicit false

namespace BuildManifest

namespace Mapping

/-- No key is the same as one before it. -/
def Apart (entries : Mapping) : Prop :=
  entries.Pairwise fun before after => after.1.same before.1 = false

instance (entries : Mapping) : Decidable (Apart entries) :=
  inferInstanceAs (Decidable (entries.Pairwise _))

theorem apart_cons {key value : Tree} {rest : Mapping} :
    Apart ((key, value) :: rest) ↔
      (∀ after ∈ rest, after.1.same key = false) ∧ Apart rest := List.pairwise_cons

end Mapping

namespace Tree

mutual

/-- No mapping inside the tree has two keys that are the same. -/
def wellKeyed : Tree → Bool
  | .sequence items => itemsWellKeyed items
  | .mapping entries => entriesWellKeyed entries
  | .tagged _ content => wellKeyed content
  | _ => true

/-- The items are well keyed. -/
def itemsWellKeyed : List Tree → Bool
  | [] => true
  | item :: rest => wellKeyed item && itemsWellKeyed rest

/-- The keys and the values are well keyed, and no two keys are the same. -/
def entriesWellKeyed : List (Tree × Tree) → Bool
  | [] => true
  | (key, value) :: rest =>
    rest.all (fun entry => !entry.1.same key) && (wellKeyed key && wellKeyed value) &&
      entriesWellKeyed rest

end

theorem wellKeyed_sequence_iff {items : List Tree} :
    wellKeyed (.sequence items) = true ↔ ∀ item ∈ items, item.wellKeyed = true := by
  rw [wellKeyed]
  induction items with
  | nil => simp [itemsWellKeyed]
  | cons item rest ih => rw [itemsWellKeyed, Bool.and_eq_true, ih, List.forall_mem_cons]

/-- **A mapping is well keyed** if its keys are apart, and its keys and values are well keyed. -/
theorem wellKeyed_mapping_iff {entries : Mapping} :
    wellKeyed (.mapping entries) = true ↔ Mapping.Apart entries ∧
      ∀ entry ∈ entries, entry.1.wellKeyed = true ∧ entry.2.wellKeyed = true := by
  rw [wellKeyed]
  induction entries with
  | nil => simp [entriesWellKeyed, Mapping.Apart]
  | cons first rest ih =>
    rw [entriesWellKeyed, Bool.and_eq_true, Bool.and_eq_true, Bool.and_eq_true, ih,
      List.forall_mem_cons, Mapping.apart_cons, List.all_eq_true]
    simp only [Bool.not_eq_true']
    exact ⟨fun ⟨⟨apart, head⟩, later, tail⟩ => ⟨⟨apart, later⟩, head, tail⟩,
      fun ⟨⟨apart, later⟩, head, tail⟩ => ⟨⟨apart, head⟩, later, tail⟩⟩

/-! ## Being the same -/

end Tree

namespace Binary64

variable {x y z : Binary64}

theorem not_isNaN_of_isZero (zero : x.isZero = true) : x.isNaN = false := by
  simp only [isZero, isNaN, Bool.and_eq_true, beq_iff_eq] at zero ⊢
  rw [zero.1]
  rfl

theorem same_symm (h : x.same y = true) : y.same x = true := by
  simp only [same, Bool.or_eq_true, Bool.and_eq_true, beq_iff_eq] at h ⊢
  rcases h with (rfl | ⟨zero, zero'⟩) | ⟨nan, nan'⟩
  · exact .inl (.inl rfl)
  · exact .inl (.inr ⟨zero', zero⟩)
  · exact .inr ⟨nan', nan⟩

theorem same_trans (h : x.same y = true) (h' : y.same z = true) : x.same z = true := by
  have both {u : Binary64} (zero : u.isZero = true) (nan : u.isNaN = true) : False := by
    rw [not_isNaN_of_isZero zero] at nan
    cases nan
  simp only [same, Bool.or_eq_true, Bool.and_eq_true, beq_iff_eq] at h h' ⊢
  rcases h with (rfl | ⟨zero, zero'⟩) | ⟨nan, nan'⟩
  · exact h'
  · rcases h' with (rfl | ⟨-, zero''⟩) | ⟨nan, -⟩
    · exact .inl (.inr ⟨zero, zero'⟩)
    · exact .inl (.inr ⟨zero, zero''⟩)
    · exact (both zero' nan).elim
  · rcases h' with (rfl | ⟨zero, -⟩) | ⟨-, nan''⟩
    · exact .inr ⟨nan, nan'⟩
    · exact (both zero nan').elim
    · exact .inr ⟨nan, nan''⟩

end Binary64

namespace Number

variable {x y z : Number}

theorem same_symm (h : x.same y = true) : y.same x = true := by
  cases x with
  | int a => cases y <;> simp_all [same]
  | float a =>
    cases y with
    | int b => cases h
    | float b => exact Binary64.same_symm h

theorem same_trans (h : x.same y = true) (h' : y.same z = true) : x.same z = true := by
  cases y with
  | int b => cases x <;> cases z <;> simp_all [same]
  | float b =>
    cases x with
    | int a => cases h
    | float a =>
      cases z with
      | int c => cases h'
      | float c => exact Binary64.same_trans h h'

end Number

namespace Tree

theorem coveredBy_iff {entries others : List (Tree × Tree)} :
    coveredBy entries others = true ↔
      ∀ entry ∈ entries, ∃ other ∈ others, entry.1.same other.1 = true ∧
        entry.2.same other.2 = true := by
  induction entries with
  | nil => simp [coveredBy]
  | cons first rest ih => simp [coveredBy, ih]

mutual

/-- **Being the same is transitive.** -/
theorem same_trans : (a : Tree) → ∀ {b c : Tree}, a.same b = true → b.same c = true →
    a.same c = true
  | .null, b, c, h, h' => by cases b <;> cases c <;> simp_all [same]
  | .bool _, b, c, h, h' => by cases b <;> cases c <;> simp_all [same]
  | .string _, b, c, h, h' => by cases b <;> cases c <;> simp_all [same]
  | .number x, b, c, h, h' => by
    cases b with
    | number y =>
      cases c with
      | number z => exact Number.same_trans h h'
      | _ => cases h'
    | _ => cases h
  | .sequence items, b, c, h, h' => by
    cases b with
    | sequence items' =>
      cases c with
      | sequence items'' => exact sameItems_trans items h h'
      | _ => cases h'
    | _ => cases h
  | .mapping entries, b, c, h, h' => by
    cases b with
    | mapping entries' =>
      cases c with
      | mapping entries'' =>
        simp only [same, Bool.and_eq_true, beq_iff_eq] at h h' ⊢
        exact ⟨h.1.trans h'.1, coveredBy_trans entries h.2 h'.2⟩
      | _ => cases h'
    | _ => cases h
  | .tagged name content, b, c, h, h' => by
    cases b with
    | tagged name' content' =>
      cases c with
      | tagged name'' content'' =>
        simp only [same, Bool.and_eq_true, beq_iff_eq] at h h' ⊢
        exact ⟨h.1.trans h'.1, same_trans content h.2 h'.2⟩
      | _ => cases h'
    | _ => cases h

theorem sameItems_trans : (items : List Tree) → ∀ {items' items'' : List Tree},
    sameItems items items' = true → sameItems items' items'' = true →
    sameItems items items'' = true
  | [], items', items'', h, h' => by cases items' <;> cases items'' <;> simp_all [sameItems]
  | item :: rest, items', items'', h, h' => by
    cases items' with
    | nil => cases h
    | cons item' rest' =>
      cases items'' with
      | nil => cases h'
      | cons item'' rest'' =>
        simp only [sameItems, Bool.and_eq_true] at h h' ⊢
        exact ⟨same_trans item h.1 h'.1, sameItems_trans rest h.2 h'.2⟩

theorem coveredBy_trans : (entries : List (Tree × Tree)) → ∀ {others third : List (Tree × Tree)},
    coveredBy entries others = true → coveredBy others third = true →
    coveredBy entries third = true
  | [], _, _, _, _ => rfl
  | (key, value) :: rest, others, third, h, h' => by
    simp only [coveredBy, Bool.and_eq_true, List.any_eq_true] at h ⊢
    obtain ⟨⟨other, inside, sameKey, sameValue⟩, covered⟩ := h
    obtain ⟨last, inside', sameKey', sameValue'⟩ := coveredBy_iff.1 h' other inside
    exact ⟨⟨last, inside', same_trans key sameKey sameKey', same_trans value sameValue sameValue'⟩,
      coveredBy_trans rest covered h'⟩

end

mutual

/-- **Every tree is the same as itself.** -/
theorem same_refl : (tree : Tree) → tree.same tree = true
  | .null => rfl
  | .bool _ => by simp [same]
  | .number (.int _) => by simp [same, Number.same]
  | .number (.float _) => by simp [same, Number.same, Binary64.same]
  | .string _ => by simp [same]
  | .sequence items => sameItems_refl items
  | .mapping entries => by
    rw [same, beq_self_eq_true, Bool.true_and]
    exact coveredBy_iff.2 fun entry member => ⟨entry, member, same_refl_of_mem entries member⟩
  | .tagged _ content => by simp [same, same_refl content]

theorem sameItems_refl : (items : List Tree) → sameItems items items = true
  | [] => rfl
  | item :: rest => by rw [sameItems, same_refl item, sameItems_refl rest, Bool.true_and]

theorem same_refl_of_mem : (entries : List (Tree × Tree)) → ∀ {entry : Tree × Tree},
    entry ∈ entries → entry.1.same entry.1 = true ∧ entry.2.same entry.2 = true
  | (key, value) :: rest, entry, member => by
    rcases List.mem_cons.1 member with rfl | later
    · exact ⟨same_refl key, same_refl value⟩
    · exact same_refl_of_mem rest later

end

/-- Where every element of a list has a partner in another list of the same length, and no two
have the same partner, every element of the other list is a partner. -/
theorem exists_partner {α β : Type} {list : List α} {others : List β} {partner : α → β → Prop}
    (length : list.length = others.length) (covers : ∀ a ∈ list, ∃ b ∈ others, partner a b)
    (apart : list.Pairwise fun a a' => ∀ b, partner a b → ¬partner a' b) {b : β}
    (member : b ∈ others) : ∃ a ∈ list, partner a b := by
  have place (i : Fin list.length) :
      ∃ j : Fin list.length, partner list[i] (others.get (j.cast length)) := by
    obtain ⟨b, inside, h⟩ := covers _ (List.getElem_mem i.isLt)
    obtain ⟨j, lt, rfl⟩ := List.getElem_of_mem inside
    exact ⟨⟨j, length ▸ lt⟩, h⟩
  choose place partners using place
  have apart := List.pairwise_iff_getElem.1 apart
  have injective : Function.Injective place := by
    intro i j eq
    have partners' := partners j
    rw [← eq] at partners'
    rcases lt_trichotomy i j with less | same | more
    · exact (apart i j i.isLt j.isLt less _ (partners i) partners').elim
    · exact same
    · exact (apart j i j.isLt i.isLt more _ partners' (partners i)).elim
  obtain ⟨j, lt, rfl⟩ := List.getElem_of_mem member
  obtain ⟨i, eq⟩ := Finite.injective_iff_surjective.1 injective ⟨j, length ▸ lt⟩
  refine ⟨list[i], List.getElem_mem i.isLt, ?_⟩
  have partners := partners i
  rwa [eq] at partners

mutual

/-- **Being the same is symmetric** on well keyed trees. -/
theorem same_symm : (a : Tree) → a.wellKeyed = true → ∀ {b : Tree}, a.same b = true →
    b.same a = true
  | .null, _, b, h => by cases b <;> simp_all [same]
  | .bool _, _, b, h => by cases b <;> simp_all [same]
  | .string _, _, b, h => by cases b <;> simp_all [same]
  | .number x, _, b, h => by
    cases b with
    | number y => exact Number.same_symm h
    | _ => cases h
  | .sequence items, keyed, b, h => by
    cases b with
    | sequence items' => exact sameItems_symm items keyed h
    | _ => cases h
  | .mapping entries, keyed, b, h => by
    cases b with
    | mapping entries' =>
      simp only [same, Bool.and_eq_true, beq_iff_eq] at h ⊢
      have symm := entries_symm entries keyed
      have apart := (wellKeyed_mapping_iff.1 keyed).1
      refine ⟨h.1.symm, coveredBy_iff.2 fun other member => ?_⟩
      -- No two keys have one partner, for they would be the same key.
      have alone : entries.Pairwise fun a a' => ∀ b : Tree × Tree,
          a.1.same b.1 = true ∧ a.2.same b.2 = true →
          ¬(a'.1.same b.1 = true ∧ a'.2.same b.2 = true) := by
        refine apart.imp_of_mem fun {a a'} inside _ apart b first second => ?_
        have back := (symm a inside b).1 first.1
        rw [same_trans a'.1 second.1 back] at apart
        cases apart
      obtain ⟨entry, inside, sameKey, sameValue⟩ :=
        exists_partner h.1 (coveredBy_iff.1 h.2) alone member
      exact ⟨entry, inside, (symm entry inside other).1 sameKey,
        (symm entry inside other).2 sameValue⟩
    | _ => cases h
  | .tagged name content, keyed, b, h => by
    cases b with
    | tagged name' content' =>
      simp only [same, Bool.and_eq_true, beq_iff_eq] at h ⊢
      exact ⟨h.1.symm, same_symm content keyed h.2⟩
    | _ => cases h

theorem sameItems_symm : (items : List Tree) → itemsWellKeyed items = true →
    ∀ {others : List Tree}, sameItems items others = true → sameItems others items = true
  | [], _, others, h => by cases others <;> simp_all [sameItems]
  | item :: rest, keyed, others, h => by
    cases others with
    | nil => cases h
    | cons other others =>
      simp only [itemsWellKeyed, sameItems, Bool.and_eq_true] at keyed h ⊢
      exact ⟨same_symm item keyed.1 h.1, sameItems_symm rest keyed.2 h.2⟩

theorem entries_symm : (entries : List (Tree × Tree)) → entriesWellKeyed entries = true →
    ∀ entry ∈ entries, ∀ other : Tree × Tree,
      (entry.1.same other.1 = true → other.1.same entry.1 = true) ∧
      (entry.2.same other.2 = true → other.2.same entry.2 = true)
  | [], _, entry, member, _ => by cases member
  | (key, value) :: rest, keyed, entry, member, other => by
    simp only [entriesWellKeyed, Bool.and_eq_true] at keyed
    rcases List.mem_cons.1 member with rfl | later
    · exact ⟨same_symm key keyed.1.2.1, same_symm value keyed.1.2.2⟩
    · exact entries_symm rest keyed.2 entry later other

end

end Tree

end BuildManifest
