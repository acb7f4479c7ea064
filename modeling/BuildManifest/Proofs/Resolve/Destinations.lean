import BuildManifest.Proofs.Resolve.Journey

/-!
# Where the checkouts of a run go

All checkouts of a run go into one directory, each into a place of its own there, however the
manifests that they are made for are nested.  The directory is asked for when the first checkout is
to be made, and only then.

## What is here

* `pairwise_checkoutPath` — the places are different.
* `destinations_of_resolve` — **where the checkouts of a run go**, when their directory is asked
  for, and when it is reported.
-/

set_option autoImplicit false

namespace BuildManifest

open Load

/-- **The places of checkouts are different paths.** -/
theorem pairwise_checkoutPath (directory : String) (count : Nat) :
    ((List.range count).map (checkoutPath directory)).Pairwise fun one other =>
      FilePath.same one other = false := by
  refine List.pairwise_map.2 ((List.pairwise_lt_range).imp fun {i j} less => ?_)
  refine Bool.eq_false_iff.2 fun same => ?_
  exact absurd (eq_of_same_checkoutPath same) (Nat.ne_of_lt less)

/-- The directory of the checkouts is asked for after everything that only reads. -/
theorem AllReading.exists_split {own visits before later : List Exchange} {call : Exchange}
    (reading : AllReading own) (split : own ++ visits = before ++ call :: later)
    (asks : call.request = .stagingDirectory) :
    ∃ more, before = own ++ more ∧ visits = more ++ call :: later := by
  rcases List.append_eq_append_iff.1 split with ⟨more, eq, rest⟩ | ⟨here, eq, rest⟩
  · exact ⟨more, eq, rest⟩
  · cases here with
    | nil => exact ⟨[], by rw [eq, List.append_nil, List.append_nil], rest.symm⟩
    | cons first others =>
      cases (List.cons.inj rest).1
      have reads := reading call (eq ▸ List.mem_append_right _ List.mem_cons_self)
      exact absurd asks (Request.ne_stagingDirectory_of_isReading reads)

/-- What is said when a manifest is resolved is said by the loading, and the directory that is
reported is that of its staging area. -/
theorem exists_goes_of_resolve {options : ResolveOptions} {hooks : List Hook} {source : Source}
    {selection : Option Selection} {log : List Exchange} {result : Except ResolveError Resolution}
    (goes : Dialogue.Goes (resolve options hooks source selection) log result) :
    ∃ found after, Goes {} (resolveManifest options hooks source selection) log found after ∧
      result = found.map fun manifest =>
        ⟨manifest, source.text, keptDirectory options.keepStaging after.staging⟩ := by
  obtain ⟨⟨found, kept⟩, said, _, run, done, rfl⟩ := Dialogue.goes_bind_iff.1 goes
  obtain ⟨rfl, rfl⟩ := Dialogue.goes_done_iff.1 done
  obtain ⟨after, goes, eq⟩ := exists_goes_of_staged run
  rw [List.append_nil]
  exact ⟨found, after, goes, by rw [← eq]⟩

/-- **Where the checkouts of a run go**, whatever is answered and whether or not the run succeeds.
The `k`-th checkout goes into the `k`-th place of one directory, and these places are different.
The directory is asked for at most once, and then the run has come to following a reference to a
checkout, a safe one, of a manifest that it has read.  A run that succeeds reports the directory
exactly if it is to stay and a checkout was made. -/
theorem destinations_of_resolve {σ : Type} (fetcher : Fetcher σ) {options : ResolveOptions}
    {hooks : List Hook} {source : Source} {selection : Option Selection} {world last : σ}
    {told : Transcript (Except ResolveError Resolution)}
    (ran : (fetcher.transcript (resolve options hooks source selection)).run world =
      (told, last)) :
    (∃ directory,
      destinations told.exchanges =
        (List.range (destinations told.exchanges).length).map (checkoutPath directory) ∧
      (destinations told.exchanges ≠ [] →
        ⟨.stagingDirectory, .ok directory⟩ ∈ told.exchanges) ∧
      ∀ resolution, told.value = .ok resolution → resolution.keptDirectory =
        if options.keepStaging = true ∧ destinations told.exchanges ≠ [] then some directory
        else none) ∧
    (destinations told.exchanges).Pairwise (fun one other => FilePath.same one other = false) ∧
    told.exchanges.countP (fun call => call.request = .stagingDirectory) ≤ 1 ∧
    ∀ before call later, told.exchanges = before ++ call :: later →
      call.request = .stagingDirectory →
      ∃ session includer makefile download,
        source.Refers before includer (.checkout makefile download) ∧
        isSafePath makefile = true ∧
        ComesTo {} (resolveManifest options hooks source selection) before session
          (locate includer (.checkout makefile download)) := by
  have goes := fetcher.goes_transcript (resolve options hooks source selection) world
  rw [ran] at goes
  obtain ⟨found, after, goes, value⟩ := exists_goes_of_resolve goes
  obtain ⟨own, visits, log, reading, journey⟩ := journeys_resolveManifest _ _ _ _ _ _ _ _ goes
  have course : Course {} told.exchanges found.isOk after.staging := by
    rw [log]
    exact (course_of_reading reading).append journey.course
  obtain ⟨directory, places, made, once, kept⟩ := course.destinations_of_run
  refine ⟨⟨directory, places, made, fun resolution succeeded => ?_⟩, ?_, once, ?_⟩
  · rw [value] at succeeded
    cases found with
    | error error => cases succeeded
    | ok manifest =>
      cases succeeded
      dsimp only
      rw [keptDirectory, kept rfl]
      by_cases none_ : destinations told.exchanges = [] <;> simp [none_]
  · rw [places]
    exact pairwise_checkoutPath directory _
  · intro before call later split asks
    obtain ⟨more, rfl, visited⟩ := reading.exists_split (log.symm.trans split) asks
    obtain ⟨session, includer, makefile, download, refers, safe, said, eq, comes⟩ :=
      journey.exists_checkout visited asks
    rw [List.nil_append] at eq
    exact ⟨session, includer, makefile, download, refers, safe, eq ▸ comes⟩

/-- The fetcher of some files that makes every checkout it is asked for. -/
def Fetcher.ofCheckouts (directory : String) (files : List (String × String)) : Fetcher Unit where
  answer
    | .stagingDirectory => pure (.ok directory)
    | .checkout _ destination => pure (.ok destination)
    | request => pure (World.ofFiles files request)
  hear _ := pure ()

/-- A site over a checkout that is over another one, and under a third one. -/
def nestedFiles : List (String × String) :=
  [("/m/site", "core = 8.x\nincludes[0][makefile] = base\nincludes[0][download] = a\n" ++
      "overrides[0][makefile] = local\noverrides[0][download] = c\n"),
    ("/t/include-0/base", "includes[0][makefile] = deep\nincludes[0][download] = b\n"),
    ("/t/include-1/deep", "projects[views][version] = 1.0\n"),
    ("/t/include-2/local", "projects[token][version] = 1.0\n")]

/-- The three checkouts go into three places of the directory that is reported, which is asked for
once the site is read. -/
theorem destinations_of_resolve_nestedFiles : ∃ told directory first call later,
    ((Fetcher.ofCheckouts "/t" nestedFiles).transcript
      (resolve { keepStaging := true } [] (.path "/m/site") none)).run () = (told, ()) ∧
    destinations told.exchanges = ["/t/include-0", "/t/include-1", "/t/include-2"] ∧
    destinations told.exchanges = (List.range 3).map (checkoutPath directory) ∧
    (∃ resolution, told.value = .ok resolution ∧ resolution.keptDirectory = some directory) ∧
    told.exchanges = [first] ++ call :: later ∧ call.request = .stagingDirectory ∧
    ∃ session includer makefile download, isSafePath makefile = true ∧
      ComesTo {} (resolveManifest { keepStaging := true } [] (.path "/m/site") none) [first] session
        (locate includer (.checkout makefile download)) := by
  have said : (fun told : Transcript (Except ResolveError Resolution) =>
      (told.value.isOk, told.exchanges.map fun call => (call.request.isReading,
        call.request.destination?)))
      (((Fetcher.ofCheckouts "/t" nestedFiles).transcript
        (resolve { keepStaging := true } [] (.path "/m/site") none)).run ()).1 =
      (true, [(true, none), (false, none), (false, some "/t/include-0"), (true, none),
        (false, some "/t/include-1"), (true, none), (false, some "/t/include-2"),
        (true, none)]) := by
    decide +kernel
  generalize ran : ((Fetcher.ofCheckouts "/t" nestedFiles).transcript
    (resolve { keepStaging := true } [] (.path "/m/site") none)).run () = outcome at said
  obtain ⟨told, ⟨⟩⟩ := outcome
  obtain ⟨succeeded, asked⟩ := Prod.mk.inj said
  have places : destinations told.exchanges = ["/t/include-0", "/t/include-1", "/t/include-2"] := by
    have paths := congrArg (List.filterMap Prod.snd) asked
    rwa [List.filterMap_map] at paths
  obtain ⟨first, rest, log, -, asked⟩ := List.map_eq_cons_iff.1 asked
  obtain ⟨call, later, rfl, kind, -⟩ := List.map_eq_cons_iff.1 asked
  have staging : call.request = .stagingDirectory := by
    cases request : call.request <;> simp_all [Request.isReading, Request.destination?]
  obtain ⟨⟨directory, paths, -, kept⟩, -, -, reached⟩ := destinations_of_resolve _ ran
  obtain ⟨session, includer, makefile, download, -, safe, comes⟩ :=
    reached [first] call later log staging
  refine ⟨told, directory, first, call, later, rfl, places, ?_, ?_, log, staging,
    session, includer, makefile, download, safe, comes⟩
  · rwa [places] at paths ⊢
  · cases value : told.value with
    | error error =>
      rw [value] at succeeded
      cases succeeded
    | ok resolution =>
      refine ⟨resolution, rfl, ?_⟩
      rw [kept resolution value, places]
      rfl

end BuildManifest
