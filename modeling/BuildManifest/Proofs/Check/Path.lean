import BuildManifest.Check.Path
import BuildManifest.Proofs.Location.Path

/-!
# What it means that a path is safe

The test of a path looks for two points at its ends and between slashes.  It finds them wherever a
piece of the path is two points, so that a walk along the pieces of a safe path only goes deeper.

## What is here

* `mem_splitAt_iff` — where a text without separators is a piece of another one.
* `isSafePath_iff` — **the test in terms of pieces**.
* `FilePath.places` — the places on the way along a path.
* `prefix_of_mem_places` — **a safe path stays below every root**.
-/

set_option autoImplicit false

namespace BuildManifest

namespace Text

variable {separator : Char} {piece text : List Char}

theorem splitAt_cons_separator {before after : List Char} (free : separator ∉ before) :
    splitAt separator (before ++ separator :: after) = before :: splitAt separator after := by
  rw [splitAt_append, splitAt_of_not_mem free, List.singleton_append]

/-- **A text without separators is a piece** of a text if it is all of it, or stands at one of its
ends with a separator on the other side, or stands between two separators. -/
theorem mem_splitAt_iff (free : separator ∉ piece) :
    piece ∈ splitAt separator text ↔
      text = piece ∨ (∃ after, text = piece ++ separator :: after) ∨
      (∃ before, text = before ++ separator :: piece) ∨
      ∃ before after, text = before ++ separator :: (piece ++ separator :: after) := by
  constructor
  · intro member
    induction length : text.length using Nat.strongRecOn generalizing text with
    | ind n ih =>
      by_cases some_ : separator ∈ text
      · obtain ⟨first, rest, rfl, free'⟩ := List.eq_append_cons_of_mem some_
        rw [splitAt_cons_separator free'] at member
        rcases List.mem_cons.1 member with rfl | later
        · exact .inr (.inl ⟨rest, rfl⟩)
        · have shorter : rest.length < n := by
            rw [← length, List.length_append, List.length_cons]
            omega
          rcases ih _ shorter later rfl with
            rfl | ⟨after, rfl⟩ | ⟨before, rfl⟩ | ⟨before, after, rfl⟩
          · exact .inr (.inr (.inl ⟨first, rfl⟩))
          · exact .inr (.inr (.inr ⟨first, after, rfl⟩))
          · exact .inr (.inr (.inl ⟨first ++ separator :: before, by simp⟩))
          · exact .inr (.inr (.inr ⟨first ++ separator :: before, after, by simp⟩))
      · rw [splitAt_of_not_mem some_] at member
        exact .inl (List.mem_singleton.1 member).symm
  · rintro (rfl | ⟨after, rfl⟩ | ⟨before, rfl⟩ | ⟨before, after, rfl⟩)
    · rw [splitAt_of_not_mem free]
      exact List.mem_singleton_self _
    · rw [splitAt_cons_separator free]
      exact List.mem_cons_self
    · rw [splitAt_append, splitAt_of_not_mem free]
      exact List.mem_append_right _ (List.mem_singleton_self _)
    · rw [splitAt_append, splitAt_cons_separator free]
      exact List.mem_append_right _ List.mem_cons_self

end Text

/-- **A path is safe** if it begins neither with a slash nor with two points, and none of its pieces
is two points. -/
theorem isSafePath_iff {path : String} :
    isSafePath path = true ↔ ¬['/'] <+: path.toList ∧ ¬['.', '.'] <+: path.toList ∧
      ['.', '.'] ∉ Text.splitAt '/' path.toList := by
  have pieces : ['.', '.'] ∈ Text.splitAt '/' path.toList ↔ _ := Text.mem_splitAt_iff (by decide)
  rw [isSafePath, Bool.not_eq_true', ← Bool.not_eq_true]
  simp only [Bool.or_eq_true, not_or, List.isPrefixOf_iff_prefix, List.isSuffixOf_iff_suffix,
    Text.hasInfix_iff, and_assoc]
  refine and_congr_right fun _ => and_congr_right fun relative => ?_
  constructor
  · rintro ⟨within, last⟩ member
    rcases pieces.1 member with eq | ⟨after, eq⟩ | ⟨before, eq⟩ | ⟨before, after, eq⟩
    · exact relative (eq ▸ List.prefix_rfl)
    · exact relative ⟨'/' :: after, eq.symm⟩
    · exact last ⟨before, eq.symm⟩
    · exact within ⟨before, after, by simpa using eq⟩
  · refine fun none_ => ⟨fun ⟨before, after, eq⟩ => none_ (pieces.2 ?_),
      fun ⟨before, eq⟩ => none_ (pieces.2 ?_)⟩
    · exact .inr (.inr (.inr ⟨before, after, by simpa using eq⟩))
    · exact .inr (.inr (.inl ⟨before, eq.symm⟩))

example : isSafePath "a/b..c/..." = true ∧ isSafePath "a/.." = false := by decide

/-- A safe path is no absolute one. -/
theorem startsWith_of_isSafePath {path : String} (safe : isSafePath path = true) :
    path.startsWith "/" = false :=
  String.startsWith_string_eq_false_iff.2 (isSafePath_iff.1 safe).1

/-! ## Along a path -/

namespace FilePath

/-- Where a piece of a path leads from a place: nothing and a point stay there, two points lead
around it, and a name leads inside. -/
def move (place : List (List Char)) (piece : List Char) : List (List Char) :=
  if isIdle piece then place else if piece = ['.', '.'] then place.dropLast else place ++ [piece]

/-- The places on the way along a path, each as the names that lead to it.  An absolute path does
not start from the given root. -/
def places (root : List (List Char)) (path : String) : List (List (List Char)) :=
  (Text.splitAt '/' path.toList).scanl move (if path.startsWith "/" then [] else root)

variable {root place : List (List Char)} {pieces : List (List Char)}

theorem prefix_move {piece : List Char} (below : root <+: place) (other : piece ≠ ['.', '.']) :
    root <+: move place piece := by
  rw [move, if_neg other]
  split
  · exact below
  · exact below.trans (List.prefix_append _ _)

theorem prefix_of_mem_scanl (below : root <+: place) (others : ['.', '.'] ∉ pieces) :
    ∀ reached ∈ pieces.scanl move place, root <+: reached := by
  induction pieces generalizing place with
  | nil => simpa using below
  | cons piece rest ih =>
    rw [List.mem_cons, not_or] at others
    rw [List.scanl_cons]
    exact List.forall_mem_cons.2 ⟨below, ih (prefix_move below (Ne.symm others.1)) others.2⟩

/-- **A safe path stays below every root**, at every piece of it. -/
theorem prefix_of_mem_places {path : String} (safe : isSafePath path = true) :
    ∀ place ∈ places root path, root <+: place := by
  rw [places, startsWith_of_isSafePath safe, if_neg Bool.false_ne_true]
  exact prefix_of_mem_scanl List.prefix_rfl (isSafePath_iff.1 safe).2.2

end FilePath

end BuildManifest
