import BuildManifest.Proofs.Resolve.Sound
import BuildManifest.Proofs.Resolve.Watch
import Mathlib.Data.List.Chain
import Mathlib.Logic.Relation

/-!
# Cycles of references

A loading that ends with a cycle tells the truth: the manifests it names do refer to each other in
that order, and the last of them is one of the others.  Where there are only finitely many places
a loading comes to an end, with such a cycle or without one.

## What is here

* `ActivePath` — a path of references from the first manifest, as far as the stack goes.
* `activePath_of_cyclicInclude` — what the error of a cycle says.
* `Acyclic` — no path of references comes back to a place.
* `loading_ends` — **loading comes to an end, keeps its stack in order and reports cycles exactly
  where there are some**.
-/

set_option autoImplicit false

namespace BuildManifest

open Load

variable {may : Answering} {before after : Session}

/-- The locations are those of a path of references from `first`, and `last` comes next on it. -/
def ActivePath (may : Answering) (first : Found) (locations : List Location) (last : Found) :
    Prop :=
  ∃ walk : List Found, locations = walk.map Prod.snd ∧ (walk ++ [last]).head? = some first ∧
    (walk ++ [last]).IsChain (Leads may)

theorem activePath_nil (found : Found) : ActivePath may found [] found :=
  ⟨[], rfl, rfl, List.isChain_singleton _⟩

theorem ActivePath.cons {first second last : Found} {locations : List Location}
    (h : ActivePath may second locations last) (leads : Leads may first second) :
    ActivePath may first (first.2 :: locations) last := by
  obtain ⟨walk, rfl, head, chain⟩ := h
  refine ⟨first :: walk, rfl, rfl, ?_⟩
  rw [List.cons_append, List.isChain_cons]
  refine ⟨fun next eq => ?_, chain⟩
  rw [head] at eq
  cases eq
  exact leads

/-- **What the error of a cycle says**: the stack is a path of references, the next place on it is
on the stack already, and these are the places that are named. -/
theorem activePath_of_cyclicInclude {policy : OverridePolicy} {nesting : Nat} {text : String}
    {location : Location} {chain : List String}
    (ends : Ends may before (loadTree policy nesting text location)
      (.error (.cyclicInclude chain)) after) :
    ∃ locations again, after.stack = before.stack ++ locations ∧
      ActivePath may (text, location) locations again ∧ after.Loading again.2 ∧
      chain = (after.stack ++ [again.2]).map Location.text := by
  induction nesting generalizing before text location with
  | zero => exact nomatch (ends_fail_iff.1 ends).1
  | succ nesting ih =>
    rcases ends_loadStep_error (honest_loadTree policy nesting) ends with
      ⟨loading, eq, rfl⟩ | ⟨fresh, ⟨own, -⟩ | ⟨found, reached, leads, stack, failed⟩⟩
    · refine ⟨[], (text, location), (List.append_nil _).symm, activePath_nil _, loading, ?_⟩
      exact ResolveError.cyclicInclude.inj eq
    · exact absurd trivial own
    · obtain ⟨locations, again, eq, path, loading, names⟩ := ih failed
      refine ⟨location :: locations, again, ?_, path.cons leads, loading, names⟩
      rw [eq, stack, List.append_assoc, List.singleton_append]

/-! ## Where there are no cycles -/

/-- No path of references from the manifest comes back to a place that it has passed. -/
def Acyclic (may : Answering) (first : Found) : Prop :=
  ∀ one other, Relation.ReflTransGen (Leads may) first one →
    Relation.TransGen (Leads may) one other → one.2.same other.2 = false

/-- From each place of a path there is a way to its last one. -/
theorem transGen_of_isChain {walk : List Found} {last one : Found}
    (chain : (walk ++ [last]).IsChain (Leads may)) (member : one ∈ walk) :
    Relation.TransGen (Leads may) one last := by
  induction walk generalizing one with
  | nil => exact nomatch member
  | cons first rest ih =>
    rw [List.cons_append, List.isChain_cons] at chain
    obtain ⟨next, chain⟩ := chain
    rcases List.mem_cons.1 member with rfl | later
    · cases rest with
      | nil => exact .single (next last rfl)
      | cons second rest => exact .head (next second rfl) (ih chain List.mem_cons_self)
    · exact ih chain later

/-- To each place of a path there is a way from its first one. -/
theorem reflTransGen_of_isChain {walk : List Found} {first one : Found}
    (chain : walk.IsChain (Leads may)) (head : walk.head? = some first) (member : one ∈ walk) :
    Relation.ReflTransGen (Leads may) first one := by
  induction walk generalizing first with
  | nil => cases head
  | cons second rest ih =>
    cases head
    obtain ⟨next, chain⟩ := List.isChain_cons.1 chain
    rcases List.mem_cons.1 member with rfl | later
    · exact .refl
    · cases rest with
      | nil => exact nomatch later
      | cons third rest => exact .head (next third rfl) (ih chain rfl later)

/-- A path that comes back to one of its places is a cycle. -/
theorem not_acyclic_of_activePath {first last : Found} {locations : List Location}
    (path : ActivePath may first locations last)
    (again : locations.any (·.same last.2) = true) : ¬Acyclic may first := by
  intro acyclic
  obtain ⟨walk, rfl, head, chain⟩ := path
  obtain ⟨location, member, same⟩ := List.any_eq_true.1 again
  obtain ⟨one, inside, rfl⟩ := List.mem_map.1 member
  have way := reflTransGen_of_isChain chain head (List.mem_append_left _ inside)
  rw [acyclic one last way (transGen_of_isChain chain inside)] at same
  cases same

/-! ## Loading from a source -/

/-- An error about how manifests are nested comes from loading what the source leads to. -/
theorem ends_loadManifest_nested {policy : OverridePolicy} {nesting : Nat} {source : Source}
    {error : ResolveError}
    (ends : Ends may before (loadManifest policy nesting source) (.error error) after)
    (nested : error.Nested) :
    ∃ found reached, Ends may before (readSource source) (.ok found) reached ∧
      Ends may reached (loadTree policy nesting found.1 found.2) (.error error) after := by
  rcases ends_bind_error_iff.1 ends with failed | ⟨found, reached, located, ends⟩
  · exact absurd nested (flat_readSource source _ _ _ failed).2
  rcases ends_bind_error_iff.1 ends with failed | ⟨read, last, loaded, ends⟩
  · exact ⟨found, reached, located, failed⟩
  · dsimp only at ends
    split at ends
    · exact nomatch (ends_pure_iff.1 ends).1
    · cases (ends_fail_iff.1 ends).1
      exact nested.elim

/-- Loading from a source comes to an end: some bound is never reached, and with a larger one it
ends in the same ways. -/
def Finishes (may : Answering) (policy : OverridePolicy) (source : Source) : Prop :=
  ∃ bound, (∀ after, ¬Ends may {} (loadManifest policy bound source) (.error .nestedTooDeeply)
      after) ∧
    ∀ nesting, bound ≤ nesting → ∀ result after,
      Ends may {} (loadManifest policy nesting source) result after ↔
        Ends may {} (loadManifest policy bound source) result after

theorem finishes_of_finite (finite : {location | Served may location}.Finite)
    (policy : OverridePolicy) (source : Source) : Finishes may policy source := by
  let places : Finset Location := insert source.ownPlace finite.toFinset
  have closed (location : Location) (served : Served may location) : location ∈ places :=
    Finset.mem_insert_of_mem (finite.mem_toFinset.2 served)
  have never : ∀ after, ¬Ends may {} (loadManifest policy (places.card + 1) source)
      (.error .nestedTooDeeply) after := by
    intro after ends
    obtain ⟨found, reached, located, failed⟩ := ends_loadManifest_nested ends trivial
    obtain ⟨stack, place⟩ := flat_readSource source _ _ _ located
    have empty : reached.stack = [] := stack
    refine never_nestedTooDeeply closed _ ?_ ?_ ?_ ?_ failed
    · rcases place with served | own
      · exact closed _ served
      · exact own ▸ Finset.mem_insert_self _ _
    · rw [Session.Apart, empty]
      exact List.Pairwise.nil
    · rw [empty]
      exact List.forall_mem_nil _
    · rw [empty, List.length_nil]
      omega
  exact ⟨places.card + 1, never, fun nesting le => ends_loadManifest_of_le le never⟩

/-- **Loading from finitely many places** comes to an end; it never has a location on its stack
twice; it leaves the stack as it was unless it fails; it reports a cycle only with the path of
references that it follows, which comes back to one of its places; and it reports none where no
path of references comes back. -/
theorem loading_ends (finite : {location | Served may location}.Finite)
    (policy : OverridePolicy) (source : Source) :
    Finishes may policy source ∧
    (∀ nesting alarm, (watchedManifest alarm policy nesting source).run {} =
      (loadManifest policy nesting source).run {}) ∧
    (∀ nesting text location before read after,
      Ends may before (loadTree policy nesting text location) (.ok read) after →
        after.stack = before.stack) ∧
    (∀ nesting chain after,
      Ends may {} (loadManifest policy nesting source) (.error (.cyclicInclude chain)) after →
        ∃ first reached again, Ends may {} (readSource source) (.ok first) reached ∧
          ActivePath may first after.stack again ∧ after.Loading again.2 ∧
          chain = (after.stack ++ [again.2]).map Location.text) ∧
    ((∀ first reached, Ends may {} (readSource source) (.ok first) reached →
        Acyclic may first) →
      ∀ nesting chain after,
        ¬Ends may {} (loadManifest policy nesting source) (.error (.cyclicInclude chain))
          after) := by
  have told (nesting : Nat) (chain : List String) (after : Session)
      (ends : Ends may {} (loadManifest policy nesting source) (.error (.cyclicInclude chain))
        after) :
      ∃ first reached again, Ends may {} (readSource source) (.ok first) reached ∧
        ActivePath may first after.stack again ∧ after.Loading again.2 ∧
        chain = (after.stack ++ [again.2]).map Location.text := by
    obtain ⟨first, reached, located, failed⟩ := ends_loadManifest_nested ends trivial
    obtain ⟨locations, again, stack, path, loading, names⟩ := activePath_of_cyclicInclude failed
    have empty : reached.stack = [] := (flat_readSource source _ _ _ located).1
    rw [empty, List.nil_append] at stack
    exact ⟨first, reached, again, located, stack ▸ path, loading, names⟩
  refine ⟨finishes_of_finite finite policy source, ?_, ?_, told, ?_⟩
  · intro nesting alarm
    exact run_watchedManifest alarm policy nesting source List.Pairwise.nil
  · intro nesting text location before read after ends
    exact (honest_loadTree policy nesting text location _ _ _ ends).1
  · intro acyclic nesting chain after ends
    obtain ⟨first, reached, again, located, path, loading, -⟩ := told nesting chain after ends
    exact not_acyclic_of_activePath path loading (acyclic first reached located)

theorem finite_served_ofFiles (files : List (String × String)) :
    {location | Served (.of (.ofFiles files)) location}.Finite := by
  refine (files.map fun file => Location.file file.1).finite_toSet.subset ?_
  rintro location served
  cases location with
  | file path =>
    obtain ⟨asked, file, given, rfl⟩ := served
    have answered : Except.ok file = World.ofFiles files (.localFile asked) := given
    rw [World.ofFiles] at answered
    split at answered
    · next text found =>
      cases answered
      obtain ⟨before, after, rfl, -⟩ := List.lookup_eq_some_iff.1 found
      simp
    · cases answered
  | remote url =>
    obtain ⟨text, given⟩ := served
    cases given
  | standardInput => exact served.elim

/-- Two manifests that refer to each other, the second one after a manifest that both include. -/
def loopFiles : List (String × String) :=
  [("/m/a", "core = 7\nincludes[] = c\nincludes[] = b\n"),
    ("/m/b", "includes[] = c\noverrides[] = a\n"),
    ("/m/c", "projects[] = views\n")]

/-- How loading from a source ends in a world of files, as far as cycles go. -/
def cycleOf (files : List (String × String)) (path : String) : Option (List String) :=
  match (((loadManifest .everything 10 (.path path)).run {}).run (.ofFiles files)).value.1 with
  | .error (.cyclicInclude chain) => some chain
  | _ => none

theorem loading_ends_loop : Finishes (.of (.ofFiles loopFiles)) .everything (.path "/m/a") ∧
    cycleOf loopFiles "/m/a" = some ["/m/a", "/m/b", "/m/a"] :=
  ⟨(loading_ends (finite_served_ofFiles loopFiles) .everything (.path "/m/a")).1,
    by decide +kernel⟩

end BuildManifest
