import BuildManifest.Proofs.Check.Path
import BuildManifest.Proofs.Resolve.Tour

/-!
# A run stays below the checkouts that it makes

What a manifest wants of a checkout is a path below its root.  A path that could lead out of there
ends the run before anything is asked for; every other path is read in the checkout, and nothing
else is.

## What is here

* `Visit.StaysBelow`, `Visit.Leaves` — the two things that come of a reference to a checkout.
* `staysBelow_or_leaves` — **one of them does**.
* `Contained` — a run whose references to checkouts stay below them, or end it.
* `stays_below` — **safe paths stay below every root, and runs below the roots of checkouts**.
-/

set_option autoImplicit false

namespace BuildManifest

open Load

variable {makefile : String} {download : Download}

/-! ## One reference -/

/-- The path is safe, and whatever file is read is the one at the path below the root of the
checkout, which was made just before. -/
structure Visit.StaysBelow (visit : Visit) (makefile : String) (download : Download) : Prop where
  /-- The path is safe. -/
  safe : isSafePath makefile = true
  /-- Every file that is read is below the root. -/
  below : ∀ before path reply after,
    visit.exchanges = before ++ ⟨.localFile path, reply⟩ :: after →
      ∃ earlier destination root,
        before = earlier ++ [⟨.checkout download destination, .ok root⟩] ∧
          path = FilePath.join root makefile

/-- The path leads out of the checkout, and nothing is asked for. -/
structure Visit.Leaves (visit : Visit) (makefile : String) : Prop where
  /-- The path is not safe. -/
  leaves : isSafePath makefile = false
  /-- Nothing is said. -/
  silent : visit.exchanges = []
  /-- The visit fails. -/
  fails : visit.result = .error (.unsafeInclude visit.reference.text)

theorem HandsOut.staging_of_mem {staging last : Staging} {log : List Exchange}
    {result : Except ResolveError String} (h : HandsOut staging log result last) :
    ∀ call ∈ log, call.request = .stagingDirectory := by
  cases h with
  | again => exact List.forall_mem_nil _
  | first => exact List.forall_mem_singleton.2 rfl
  | refused => exact List.forall_mem_singleton.2 rfl

variable {path : String} {reply : Except FetchError LocalFile} {said rest log : List Exchange}
  {result : Except ResolveError Found}

/-- The file that is read of a checkout is read below its root. -/
theorem ChecksOut.below {destination : String}
    (h : ChecksOut makefile download destination log result)
    (split : log = said ++ ⟨.localFile path, reply⟩ :: rest) :
    ∃ root, said = [⟨.checkout download destination, .ok root⟩] ∧
      path = FilePath.join root makefile := by
  cases h with
  | failed error =>
    rcases List.singleton_eq_append_iff.1 split with ⟨-, call⟩ | ⟨-, none_⟩
    · cases (List.cons.inj call).1
    · cases none_
  | read root reply' =>
    rcases List.cons_eq_append_iff.1 split with ⟨-, calls⟩ | ⟨more, rfl, read⟩
    · cases (List.cons.inj calls).1
    · rcases List.singleton_eq_append_iff.1 read with ⟨rfl, call⟩ | ⟨-, none_⟩
      · cases (List.cons.inj call).1
        exact ⟨root, rfl, rfl⟩
      · cases none_

/-- The file that is read for a reference to a checkout is read below the root of that one. -/
theorem FollowsCheckout.below {staging last : Staging}
    (h : FollowsCheckout makefile download staging log result last)
    (split : log = said ++ ⟨.localFile path, reply⟩ :: rest) :
    ∃ earlier destination root,
      said = earlier ++ [⟨.checkout download destination, .ok root⟩] ∧
        path = FilePath.join root makefile := by
  have read : ⟨.localFile path, reply⟩ ∈ log := split ▸ List.mem_append_right _ List.mem_cons_self
  cases h with
  | leaving => cases read
  | refused _ handed => cases handed.staging_of_mem _ read
  | made _ handed checked =>
    rcases List.append_eq_append_iff.1 split with ⟨more, rfl, within⟩ | ⟨more, rfl, within⟩
    · obtain ⟨root, rfl, below⟩ := checked.below within
      exact ⟨_, _, root, rfl, below⟩
    · cases more with
      | nil =>
        have atOnce : [] ++ _ = [] ++ _ := within.symm
        obtain ⟨root, nothing, -⟩ := checked.below atOnce
        cases nothing
      | cons call others =>
        cases (List.cons.inj within).1
        cases handed.staging_of_mem _ (List.mem_append_right _ List.mem_cons_self)

/-- **A reference to a checkout stays below it, or leads out of it.** -/
theorem Visit.Possible.staysBelow_or_leaves {visit : Visit} (possible : visit.Possible)
    (reference : visit.reference = .checkout makefile download) :
    visit.StaysBelow makefile download ∨ visit.Leaves makefile := by
  obtain ⟨before, after, goes⟩ := possible
  rw [reference] at goes
  have follows := followsCheckout_of_goes goes
  rcases follows.safe_or_leaves with safe | ⟨leaves, silent, fails⟩
  · exact .inl ⟨safe, fun _ _ _ _ split => follows.below split⟩
  · exact .inr ⟨leaves, silent, by rw [fails, reference]⟩

/-! ## All references of a run -/

/-- What was said in a run, which came to an error if there is one: the source is read, and then
references are followed, of which each one to a checkout stays below it or is the last one, with
the error that it leads out. -/
def Contained (source : Source) (log : List Exchange) (outcome : Option ResolveError) : Prop :=
  ∃ own visits, log = own ++ Visit.said visits ∧ Itinerary source own visits outcome ∧
    ∀ before visit after makefile download, visits = before ++ visit :: after →
      visit.reference = .checkout makefile download →
      visit.StaysBelow makefile download ∨
        visit.Leaves makefile ∧ after = [] ∧ outcome = some (.unsafeInclude visit.reference.text)

variable {α : Type} {source : Source} {loading : Load α}

theorem Tour.staysBelow_or_leaves {opened : List Found} {pending : List (Location × Reference)}
    {visits : List Visit} {outcome : Option ResolveError}
    (tour : Tour opened pending visits outcome) {before after : List Visit} {visit : Visit}
    (split : visits = before ++ visit :: after)
    (reference : visit.reference = .checkout makefile download) :
    visit.StaysBelow makefile download ∨
      visit.Leaves makefile ∧ after = [] ∧
        outcome = some (.unsafeInclude visit.reference.text) := by
  have member : visit ∈ visits := split ▸ List.mem_append_right _ List.mem_cons_self
  rcases (tour.possible visit member).staysBelow_or_leaves reference with below | leaves
  · exact .inl below
  · exact .inr ⟨leaves, tour.last_of_error split leaves.fails⟩

/-- **What follows references is contained.** -/
theorem Follows.contained (follows : Follows source loading) {session last : Session}
    {outcome : Except ResolveError α} (goes : Goes session loading log outcome last) :
    Contained source log (errorOf outcome) := by
  obtain ⟨own, visits, said, itinerary⟩ := follows _ _ _ _ goes
  refine ⟨own, visits, said, itinerary, fun before visit after makefile download split refers => ?_⟩
  generalize errorOf outcome = error at itinerary
  cases itinerary with
  | unread => simp at split
  | stopped _ tour => exact tour.staysBelow_or_leaves split refers
  | whole _ _ tour =>
    rcases tour.staysBelow_or_leaves split refers with below | ⟨-, -, goesOn⟩
    · exact .inl below
    · cases goesOn

theorem errorOf_map {β ε : Type} (f : α → β) (result : Except ε α) :
    errorOf (result.map f) = errorOf result := by
  cases result <;> rfl

/-- **Safe paths stay below every root, and runs below the roots of their checkouts.**  A path is
safe exactly if it begins neither with a slash nor with two points and has no piece that is two
points, and then every place on the way along it is below the root it starts from.  Whatever is
answered, and however deeply manifests are nested, all that a run reads for a reference to a
checkout is the file at a safe path below the root of that checkout, and a path that is not safe
ends the run with nothing asked for. -/
theorem stays_below {σ : Type} (fetcher : Fetcher σ) (options : ResolveOptions)
    (hooks : List Hook) (source : Source) (selection : Option Selection) (world : σ)
    (root : List (List Char)) (path : String) :
    (isSafePath path = true ↔ ¬['/'] <+: path.toList ∧ ¬['.', '.'] <+: path.toList ∧
      ['.', '.'] ∉ Text.splitAt '/' path.toList) ∧
    (isSafePath path = true → ∀ place ∈ FilePath.places root path, root <+: place) ∧
    (∀ told last, (fetcher.transcript (resolve options hooks source selection)).run world =
      (told, last) → Contained source told.exchanges (errorOf told.value)) ∧
    ∀ told last, (fetcher.transcript (load options source)).run world = (told, last) →
      Contained source told.exchanges (errorOf told.value) := by
  refine ⟨isSafePath_iff, FilePath.prefix_of_mem_places, fun told last ran => ?_,
    fun told last ran => ?_⟩
  · have goes := fetcher.goes_transcript (resolve options hooks source selection) world
    rw [ran] at goes
    obtain ⟨found, after, goes, value⟩ := exists_goes_of_resolve goes
    rw [value, errorOf_map]
    exact (follows_resolveManifest options hooks source selection).contained goes
  · have goes := fetcher.goes_transcript (load options source) world
    rw [ran] at goes
    obtain ⟨after, goes⟩ := exists_goes_of_load goes
    exact (follows_loadManifest source options.policy options.nesting).contained goes

/-- A site over a checkout that wants something from above another one. -/
def escapingFiles : List (String × String) :=
  [("/m/site", "core = 8.x\nincludes[0][makefile] = base\nincludes[0][download] = a\n"),
    ("/t/include-0/base", "includes[0][makefile] = lib/../../x\nincludes[0][download] = b\n")]

/-- The first checkout is made and read; the second one is not even asked for. -/
theorem stays_below_escapingFiles : ∃ told,
    ((Fetcher.ofCheckouts "/t" escapingFiles).transcript
      (resolve {} [] (.path "/m/site") none)).run () = (told, ()) ∧
    told.exchanges.map (·.request) = [.localFile "/m/site", .stagingDirectory,
      .checkout (.ofUrl "a") "/t/include-0", .localFile "/t/include-0/base"] ∧
    (errorOf told.value).map ResolveError.message =
      some "include path escapes its checkout: lib/../../x from b" ∧
    Contained (.path "/m/site") told.exchanges (errorOf told.value) ∧
    isSafePath "base" = true ∧
    ∀ place ∈ FilePath.places [['t'], ['0']] "base", [['t'], ['0']] <+: place := by
  have said : (fun told : Transcript (Except ResolveError Resolution) =>
      (told.exchanges.map (·.request), (errorOf told.value).map ResolveError.message))
      (((Fetcher.ofCheckouts "/t" escapingFiles).transcript
        (resolve {} [] (.path "/m/site") none)).run ()).1 =
      ([.localFile "/m/site", .stagingDirectory, .checkout (.ofUrl "a") "/t/include-0",
        .localFile "/t/include-0/base"],
        some "include path escapes its checkout: lib/../../x from b") := by
    decide +kernel
  obtain ⟨asked, failed⟩ := Prod.mk.inj said
  obtain ⟨-, within, resolved, -⟩ := stays_below (Fetcher.ofCheckouts "/t" escapingFiles) {} []
    (.path "/m/site") none () [['t'], ['0']] "base"
  have safe : isSafePath "base" = true := by decide +kernel
  exact ⟨_, rfl, asked, failed, resolved _ _ rfl, safe, within safe⟩

end BuildManifest
