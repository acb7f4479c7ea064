import BuildManifest.Proofs.Check.Path
import BuildManifest.Proofs.Resolve.Transcripts

/-!
# Where checkouts go

Each checkout gets a path of its own in the directory for checkouts.  Checkouts at different paths
have no file in common.

## What is here

* `checkoutPath`, `stagingAt` — the paths that are handed out.
* `ends_locateCheckout` — what a reference to a checkout leads to, and what it costs.
* `eq_of_same_checkout`, `eq_of_same_checkoutPath` — **files of different checkouts have different
  paths**, and so have the checkouts.
-/

set_option autoImplicit false

namespace BuildManifest

open Load

variable {world : World} {directory : String} {k : Nat} {stack : List Location}

/-! ## The next checkout -/

/-- The path of the `k`-th checkout. -/
def checkoutPath (directory : String) (k : Nat) : String :=
  FilePath.join directory (checkoutName k)

/-- What is known of the checkouts before the `k`-th one. -/
def stagingAt (directory : String) : Nat → Staging
  | 0 => {}
  | k + 1 => { directory := some directory, used := k + 1 }

theorem ends_stagingDirectory (staged : world .stagingDirectory = .ok directory) (k : Nat) :
    Ends (.of world) ⟨stagingAt directory k, stack⟩ stagingDirectory (.ok directory)
      ⟨{ directory := some directory, used := k }, stack⟩ := by
  rw [stagingDirectory]
  refine (ends_get_iff.2 ⟨rfl, rfl⟩).bind ?_
  cases k with
  | zero =>
    refine (ends_ask_iff.2 ⟨_, staged.symm, rfl, rfl⟩).bind ?_
    exact (ends_set_iff.2 ⟨rfl, rfl⟩).bind (ends_pure directory)
  | succ k => exact ends_pure directory

theorem ends_nextCheckoutPath (staged : world .stagingDirectory = .ok directory) (k : Nat) :
    Ends (.of world) ⟨stagingAt directory k, stack⟩ nextCheckoutPath
      (.ok (checkoutPath directory k)) ⟨stagingAt directory (k + 1), stack⟩ := by
  refine (ends_stagingDirectory staged k).bind ?_
  refine (ends_get_iff.2 ⟨rfl, rfl⟩).bind ?_
  exact (ends_set_iff.2 ⟨rfl, rfl⟩).bind (ends_pure _)

/-- **The next manifest in a checkout** is found, at the cost of one checkout. -/
theorem ends_locateCheckout {makefile : String} {download : Download} {file : LocalFile}
    (staged : world .stagingDirectory = .ok directory) (safe : isSafePath makefile = true)
    (fetched : world (.checkout download (checkoutPath directory k)) =
      .ok (checkoutPath directory k))
    (present : world (.localFile (FilePath.join (checkoutPath directory k) makefile)) = .ok file)
    (includer : Location) :
    Ends (.of world) ⟨stagingAt directory k, stack⟩ (locate includer (.checkout makefile download))
        (.ok (file.text, .file file.path)) ⟨stagingAt directory (k + 1), stack⟩ ∧
      1 ≤ (transcript world ⟨stagingAt directory k, stack⟩
        (locate includer (.checkout makefile download))).checkouts := by
  rw [locate, locateCheckout, safe]
  have path : Ends (.of world) ⟨stagingAt directory k, stack⟩ nextCheckoutPath
      (.ok (checkoutPath directory k)) ⟨stagingAt directory (k + 1), stack⟩ :=
    ends_nextCheckoutPath staged k
  constructor
  · refine path.bind ?_
    refine (ends_ask_iff.2 ⟨_, fetched.symm, rfl, rfl⟩).bind ?_
    have found : Ends (.of world) ⟨stagingAt directory (k + 1), stack⟩
        (readLocal? (FilePath.join (checkoutPath directory k) makefile)
          (.checkout makefile download))
        (.ok (some (file.text, .file file.path))) ⟨stagingAt directory (k + 1), stack⟩ :=
      (ends_ask_iff.2 ⟨_, present.symm, rfl, rfl⟩).bind (ends_pure _)
    exact found.bind (ends_pure _)
  · refine Nat.le_trans ?_ (Nat.le_of_eq (checkouts_bind path).symm)
    refine Nat.le_trans ?_ (Nat.le_add_left _ _)
    exact checkouts_le_bind world _ (ask (.checkout download (checkoutPath directory k))) _

/-! ## Paths of checkouts -/

theorem toList_checkoutName (k : Nat) :
    (checkoutName k).toList = "include-".toList ++ Nat.toDigits 10 k := by
  rw [checkoutName, String.toList_append, Nat.toString_eq_repr, Nat.toList_repr]

theorem slash_not_mem_checkoutName (k : Nat) : '/' ∉ (checkoutName k).toList := by
  rw [toList_checkoutName, List.mem_append, not_or]
  refine ⟨by decide, fun member => ?_⟩
  have digit := Nat.isDigit_of_mem_toDigits (by decide) (by decide) member
  revert digit
  decide

theorem checkoutName_inj {i j : Nat} (h : (checkoutName i).toList = (checkoutName j).toList) :
    i = j := by
  rw [toList_checkoutName, toList_checkoutName] at h
  have digits := List.append_cancel_left h
  rw [← Nat.ofDigitChars_ten_toDigits (n := i), digits, Nat.ofDigitChars_ten_toDigits]

theorem startsWith_checkoutName (k : Nat) : (checkoutName k).startsWith "/" = false := by
  rw [String.startsWith_string_eq_false_iff, toList_checkoutName]
  simp

theorem isIdle_checkoutName (k : Nat) : FilePath.isIdle (checkoutName k).toList = false := by
  rw [toList_checkoutName]
  rfl

/-- The pieces of the path of a file in a checkout. -/
theorem splitAt_checkout (directory : String) : ∃ before, ∀ k makefile,
    isSafePath makefile = true →
    Text.splitAt '/' (FilePath.join (checkoutPath directory k) makefile).toList =
      before ++ (checkoutName k).toList :: Text.splitAt '/' makefile.toList := by
  obtain ⟨before, pieces⟩ := FilePath.splitAt_join directory
  refine ⟨before, fun k makefile safe => ?_⟩
  have name := startsWith_checkoutName k
  have below := startsWith_of_isSafePath safe
  obtain ⟨front, path⟩ : ∃ front, (checkoutPath directory k).toList =
    front ++ (checkoutName k).toList := FilePath.exists_toList_join directory name
  have nonempty : checkoutPath directory k ≠ "" := by
    intro empty
    rw [empty, toList_checkoutName] at path
    simp at path
  have noSlash : ¬(checkoutPath directory k).endsWith "/" = true := by
    intro slash
    obtain ⟨others, eq⟩ := FilePath.endsWith_slash_iff.1 slash
    have last := congrArg List.getLast? (path.symm.trans eq)
    rw [List.getLast?_append, List.getLast?_concat] at last
    cases char : (checkoutName k).toList.getLast? with
    | none =>
      rw [List.getLast?_eq_none_iff, toList_checkoutName] at char
      simp at char
    | some c =>
      rw [char, Option.some_or, Option.some.injEq] at last
      exact slash_not_mem_checkoutName k (last ▸ List.mem_of_getLast? char)
  rw [FilePath.toList_join below nonempty noSlash, Text.splitAt_append, checkoutPath,
    pieces (checkoutName k) name, Text.splitAt_of_not_mem (slash_not_mem_checkoutName k),
    List.append_assoc, List.singleton_append]

/-- **Files of different checkouts have different paths.** -/
theorem eq_of_same_checkout {directory one other : String} {i j : Nat}
    (safe : isSafePath one = true) (safe' : isSafePath other = true)
    (h : FilePath.same (FilePath.join (checkoutPath directory i) one)
      (FilePath.join (checkoutPath directory j) other) = true) : i = j := by
  obtain ⟨before, pieces⟩ := splitAt_checkout directory
  exact checkoutName_inj (FilePath.eq_of_same (pieces i one safe) (pieces j other safe')
    (isIdle_checkoutName i) (isIdle_checkoutName j) h)

/-- **Different checkouts have different paths.** -/
theorem eq_of_same_checkoutPath {directory : String} {i j : Nat}
    (h : FilePath.same (checkoutPath directory i) (checkoutPath directory j) = true) : i = j := by
  obtain ⟨before, pieces⟩ := FilePath.splitAt_join directory
  have path (k : Nat) : Text.splitAt '/' (checkoutPath directory k).toList =
      before ++ [(checkoutName k).toList] := by
    rw [checkoutPath, pieces _ (startsWith_checkoutName k),
      Text.splitAt_of_not_mem (slash_not_mem_checkoutName k)]
  exact checkoutName_inj (FilePath.eq_of_same (path i) (path j) (isIdle_checkoutName i)
    (isIdle_checkoutName j) h)

end BuildManifest
