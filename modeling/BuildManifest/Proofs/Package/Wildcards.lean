import BuildManifest.Proofs.Package.Requirements

/-!
# Wildcards in required versions

An `x` in a version stands for any number, and the requirement has another sign in its place.  It
is a wildcard where it is a component of its own, between points and dashes, as in `8.x-1.x`; but it
is replaced wherever it stands, also inside of a branch that is called `next`.

## What is here

* `components`, `joined` — a text taken apart at its points and dashes, and put together again.
* `replaceComponents` — the text in which only components that are wildcards are replaced.
* `LoneWildcards`, `replaceWildcards_eq_replaceComponents_iff` — every `x` is a component of its
  own, and **only then are the two the same**.
* `rewritesComponents_iff` — **which requirements have only their wildcards rewritten**.
-/

set_option autoImplicit false

namespace BuildManifest

open Package

namespace Package

variable {c d : Char} {major : Nat}

/-! ## Components -/

/-- The characters between components. -/
def isSeparator (c : Char) : Bool := c = '.' || c = '-'

/-- The parts of a text between its points and dashes. -/
def components (text : List Char) : List (List Char) := text.splitOnP isSeparator

/-- Parts with one separator after the other between them. -/
def joined : List (List Char) → List Char → List Char
  | part :: parts, separator :: separators => part ++ separator :: joined parts separators
  | parts, _ => parts.flatten

/-- The text in which another text stands for every component `x`. -/
def replaceComponents (text replacement : String) : String :=
  String.ofList (joined
    ((components text.toList).map fun part => if part = ['x'] then replacement.toList else part)
    (text.toList.filter isSeparator))

/-- Every `x` is a component of its own. -/
def LoneWildcards (text : String) : Prop :=
  ∀ part ∈ components text.toList, 'x' ∈ part → part = ['x']

instance (text : String) : Decidable (LoneWildcards text) :=
  inferInstanceAs (Decidable (∀ part ∈ _, _))

theorem joined_cons_cons (part : List Char) (parts : List (List Char)) (separators : List Char) :
    joined ((c :: part) :: parts) separators = c :: joined (part :: parts) separators := by
  cases separators <;> rfl

/-- What is done to each character but the separators is done to each component. -/
theorem map_eq_joined {change : Char → Char}
    (keeps : ∀ c, isSeparator c = true → change c = c) (text : List Char) :
    text.map change =
      joined ((components text).map (List.map change)) (text.filter isSeparator) := by
  induction text with
  | nil => rfl
  | cons c rest ih =>
    have split : components (c :: rest) =
        if isSeparator c = true then [] :: components rest
        else (components rest).modifyHead (List.cons c) :=
      List.splitOnP_cons_eq_if_modifyHead c rest
    rw [List.map_cons, ih, split]
    by_cases separator : isSeparator c = true
    · rw [if_pos separator, List.filter_cons_of_pos separator, keeps c separator]
      rfl
    · obtain ⟨part, parts, first⟩ :=
        List.exists_cons_of_ne_nil (List.splitOnP_ne_nil isSeparator rest)
      rw [if_neg separator, List.filter_cons_of_neg separator, components, first]
      exact (joined_cons_cons _ _ _).symm

/-- Parts of equal lengths are told apart in the whole. -/
theorem joined_map_inj {first second : List Char → List Char}
    (same : ∀ part, (first part).length = (second part).length) {parts : List (List Char)}
    {separators : List Char} :
    joined (parts.map first) separators = joined (parts.map second) separators ↔
      ∀ part ∈ parts, first part = second part := by
  refine ⟨fun eq => ?_, fun eq => congrArg (joined · separators) (List.map_congr_left eq)⟩
  induction parts generalizing separators with
  | nil => exact nofun
  | cons part parts ih =>
    cases separators with
    | nil =>
      obtain ⟨head, tail⟩ := List.append_inj eq (same part)
      have more : joined (parts.map first) [] = joined (parts.map second) [] := by
        cases parts <;> exact tail
      exact List.forall_mem_cons.2 ⟨head, ih more⟩
    | cons separator separators =>
      obtain ⟨head, tail⟩ := List.append_inj eq (same part)
      exact List.forall_mem_cons.2 ⟨head, ih (List.cons.inj tail).2⟩

/-! ## Replacing -/

/-- A character in which another one stands for `x`. -/
def changed (d c : Char) : Char := if c = 'x' then d else c

theorem toList_replaceWildcards {replacement : String} (single : replacement.toList = [d])
    (text : String) :
    (replaceWildcards text replacement).toList = text.toList.map (changed d) := by
  rw [replaceWildcards, String.toList_join, List.flatMap_map, List.map_eq_flatMap]
  refine List.flatMap_congr fun c _ => ?_
  rw [changed]
  split
  · exact single
  · simp

/-- A component keeps or becomes what it should exactly if an `x` in it is all of it. -/
theorem map_changed_eq_iff (other : d ≠ 'x') {part : List Char} :
    part.map (changed d) = (if part = ['x'] then [d] else part) ↔ ('x' ∈ part → part = ['x']) := by
  by_cases lone : part = ['x']
  · simp [lone, changed]
  · rw [if_neg lone, imp_iff_not lone]
    constructor
    · intro same here
      have kept := (List.map_eq_map_iff (g := id)).1 (same.trans (List.map_id part).symm) 'x' here
      exact other kept
    · intro absent
      refine (List.map_congr_left fun c member => if_neg ?_).trans (List.map_id part)
      rintro rfl
      exact absent member

/-- **Replacing every `x` replaces the wildcards and nothing else** exactly if every `x` is a
component of its own. -/
theorem replaceWildcards_eq_replaceComponents_iff {text replacement : String}
    (single : replacement.toList = [d]) (other : d ≠ 'x') :
    replaceWildcards text replacement = replaceComponents text replacement ↔
      LoneWildcards text := by
  have keeps (c : Char) (separator : isSeparator c = true) : changed d c = c := by
    refine if_neg ?_
    rintro rfl
    exact absurd separator (by decide)
  have same (part : List Char) :
      (part.map (changed d)).length = (if part = ['x'] then [d] else part).length := by
    rw [List.length_map]
    split
    · next lone => rw [lone]; rfl
    · rfl
  rw [← String.toList_inj, toList_replaceWildcards single, map_eq_joined keeps, replaceComponents,
    String.toList_ofList, single, joined_map_inj same]
  exact forall₂_congr fun part _ => map_changed_eq_iff other

example : replaceWildcards "8.x-next" "0" = "8.0-ne0t" ∧
    replaceComponents "8.x-next" "0" = "8.0-next" := by decide +kernel

/-! ## Requirements -/

/-- A version with what stands around it in a requirement: the major number of an old platform in
front, and the revision behind. -/
def decorated (major : Nat) (revision : Option String) (version : String) : String :=
  (if major ≤ lastPrefixingMajor then toString major ++ "." else "") ++ version ++
    revision.elim "" ("#" ++ ·)

theorem decorated_inj {revision : Option String} {version version' : String} :
    decorated major revision version = decorated major revision version' ↔ version = version' := by
  rw [decorated, decorated, String.append_left_inj, String.append_right_inj]

theorem projectRequirement?_eq (entry : Entry) (major : Nat) :
    projectRequirement? entry major = (requestedState? entry).map fun state =>
      decorated major state.2 (replaceWildcards state.1 "0") := by
  refine congrArg (Option.map · (requestedState? entry)) (funext fun ⟨state, revision⟩ => ?_)
  by_cases early : major ≤ lastPrefixingMajor <;> cases revision <;>
    simp [decorated, early, String.append_assoc]

/-- The version, branch or tag that a project asks for. -/
def requestedText? (one : String × Entry) : Option String :=
  if one.2.isCore one.1 then one.2.version else (requestedState? one.2).map Prod.fst

/-- The row of a project with nothing rewritten but components that are wildcards. -/
def componentRow? (major : Nat) (one : String × Entry) : Option (String × String) :=
  if one.2.isCore one.1 then
    one.2.version.map fun version => (corePackage major, replaceComponents version "*")
  else
    let requirement := (requestedState? one.2).map fun state =>
      decorated major state.2 (replaceComponents state.1 "0")
    some ("drupal/" ++ one.1, requirement.getD unknownVersion)

theorem projectRow?_eq_componentRow?_iff (one : String × Entry) :
    projectRow? major one = componentRow? major one ↔
      ∀ text ∈ requestedText? one, LoneWildcards text := by
  rw [projectRow?, componentRow?, requestedText?]
  cases core : one.2.isCore one.1 with
  | true =>
    cases one.2.version with
    | none => simp
    | some version =>
      have star : replaceWildcards version "*" = replaceComponents version "*" ↔ _ :=
        replaceWildcards_eq_replaceComponents_iff rfl (by decide : '*' ≠ 'x')
      simpa [platformRow, coreRequirement] using star
  | false =>
    cases requested : requestedState? one.2 with
    | none => simp [otherRow, projectRequirement?_eq, requested]
    | some state =>
      have zero : replaceWildcards state.1 "0" = replaceComponents state.1 "0" ↔ _ :=
        replaceWildcards_eq_replaceComponents_iff rfl (by decide : '0' ≠ 'x')
      simpa [otherRow, projectRequirement?_eq, requested, decorated_inj] using zero

end Package

namespace Manifest

/-- **Which requirements have only their wildcards rewritten.**  A package requires what its rows
say, and the row of a project is the one that has `0` for each component `x` of its version, branch
or tag, or `*` if it is the core, and everything else as it stands, exactly if there is no other `x`
than those. -/
theorem rewritesComponents_iff (manifest : Manifest) :
    manifest.toPackage.require =
        manifest.requirementRows.foldl writeRequirement Package.installers ∧
      ∀ one ∈ manifest.projects.entries,
        projectRow? manifest.platformMajor one = componentRow? manifest.platformMajor one ↔
          ∀ text ∈ requestedText? one, LoneWildcards text :=
  ⟨toPackage_require manifest, fun one _ => projectRow?_eq_componentRow?_iff one⟩

/-- The branch `8.x-1.x` becomes `8.0-1.0`, as it should, but `next` becomes `ne0t`. -/
theorem rewritesComponents_iff_branches :
    let onBranch (name branch : String) : String × Entry :=
      (name, { download := some { branch := some branch, revision := some "abc" } })
    let site : Manifest := {
      core := some "8.x"
      projects := ⟨[onBranch "views" "8.x-1.x", onBranch "devel" "next"]⟩ }
    projectRow? 8 (onBranch "views" "8.x-1.x") = componentRow? 8 (onBranch "views" "8.x-1.x") ∧
      projectRow? 8 (onBranch "devel" "next") ≠ componentRow? 8 (onBranch "devel" "next") ∧
      componentRow? 8 (onBranch "devel" "next") = some ("drupal/devel", "next#abc") ∧
      site.toPackage.require.get? "drupal/devel" = some "ne0t#abc" := by
  intro onBranch site
  have rows := (rewritesComponents_iff site).2
  rw [show site.platformMajor = 8 by decide +kernel] at rows
  have views : onBranch "views" "8.x-1.x" ∈ site.projects.entries := .head _
  have devel : onBranch "devel" "next" ∈ site.projects.entries := .tail _ (.head _)
  refine ⟨(rows _ views).2 (by decide +kernel), fun same => ?_, by decide +kernel,
    by decide +kernel⟩
  exact absurd ((rows _ devel).1 same "next" rfl) (by decide +kernel)

end Manifest

end BuildManifest
