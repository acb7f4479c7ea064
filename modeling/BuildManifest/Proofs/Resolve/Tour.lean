import BuildManifest.Proofs.Resolve.Destinations

/-!
# The references that a run follows

A run follows the references of the manifest it starts from in order, and when one of them leads to
a manifest, the references of that one before the others.  So what is still to be followed is a
list, and the run takes its first element at a time, until the list is empty, a reference leads
nowhere, or a manifest cannot be loaded.

## What is here

* `Visit` — one reference that was followed, with what was said for it.
* `Unusable` — why a manifest cannot be loaded although it was found.
* `Tour` — the visits that a list of references leads to, up to the end of the run.
* `tours_loadStep`, `tours_loadTree` — **loading is a tour** of the references of a manifest.
* `Itinerary`, `follows_resolveManifest` — **a run reads its source and then is such a tour**.
-/

set_option autoImplicit false

namespace BuildManifest

open Load

variable {α β : Type}

/-! ## Visits -/

/-- One reference that was followed. -/
structure Visit where
  /-- Where the manifest is that refers. -/
  includer : Location
  /-- The reference. -/
  reference : Reference
  /-- What was said for it. -/
  exchanges : List Exchange
  /-- What it came to. -/
  result : Except ResolveError Found

namespace Visit

/-- This is said, and comes of it, when the reference is followed in some session. -/
def Possible (visit : Visit) : Prop :=
  ∃ before after, Goes before (locate visit.includer visit.reference) visit.exchanges visit.result
    after

/-- What was said in several visits, one after the other. -/
def said (visits : List Visit) : List Exchange := visits.flatMap (·.exchanges)

end Visit

/-- The references of a manifest that was found, each with the place that it is of. -/
def pendingIn (found : Found) : List (Location × Reference) :=
  match parseDetected found.1 with
  | .ok read => (references read.1.normalize).map (found.2, ·)
  | .error _ => []

/-- Why a manifest cannot be loaded although it was found: too many others are being loaded, it is
one of them itself, it cannot be read, or its references cannot be. -/
inductive Unusable (found : Found) : ResolveError → Prop
  | nested : Unusable found .nestedTooDeeply
  | cyclic {stack : List Location} (within : stack.any (·.same found.2) = true) :
      Unusable found (.cyclicInclude ((stack ++ [found.2]).map Location.text))
  | unreadable {error : ParseError} (parsed : parseDetected found.1 = .error error) :
      Unusable found (.manifest found.2.text (.parse error))
  | unclear {read : Tree × Dialect} {key : String} {value : Tree} {error : ManifestError}
      (parsed : parseDetected found.1 = .ok read)
      (field : read.1.normalize.field? key = some value)
      (refers : Manifest.readReferences value = .error error) :
      Unusable found (.manifest found.2.text error)

/-- The visits that pending references lead to when some manifests are open, and the error that ends
them if there is one.  The first reference is visited; if it leads to a manifest, the references of
that one come next, and otherwise nothing does. -/
inductive Tour :
    List Found → List (Location × Reference) → List Visit → Option ResolveError → Prop
  | done (opened : List Found) : Tour opened [] [] none
  | stop {opened : List Found} {found : Found} {error : ResolveError}
      (pending : List (Location × Reference)) (isOpen : found ∈ opened)
      (unusable : Unusable found error) : Tour opened pending [] (some error)
  | failed {opened : List Found} {error : ResolveError} (visit : Visit)
      (pending : List (Location × Reference)) (possible : visit.Possible)
      (result : visit.result = .error error) :
      Tour opened ((visit.includer, visit.reference) :: pending) [visit] (some error)
  | found {opened : List Found} {pending : List (Location × Reference)} {visits : List Visit}
      {found : Found} {outcome : Option ResolveError} (visit : Visit) (possible : visit.Possible)
      (result : visit.result = .ok found)
      (rest : Tour (found :: opened) (pendingIn found ++ pending) visits outcome) :
      Tour opened ((visit.includer, visit.reference) :: pending) (visit :: visits) outcome

namespace Tour

variable {opened opened' : List Found} {pending pending' : List (Location × Reference)}
  {visits visits' : List Visit} {outcome : Option ResolveError} {error : ResolveError}

/-- More manifests may be open. -/
theorem mono (h : Tour opened pending visits outcome) (more : opened ⊆ opened') :
    Tour opened' pending visits outcome := by
  induction h generalizing opened' with
  | done => exact .done _
  | stop pending isOpen unusable => exact .stop _ (more isOpen) unusable
  | failed visit pending possible result => exact .failed visit _ possible result
  | found visit possible result _ ih =>
    exact .found visit possible result (ih (List.cons_subset_cons _ more))

/-- **Tours follow each other**, as long as none is ended by an error. -/
theorem append (h : Tour opened pending visits none) (h' : Tour opened pending' visits' outcome) :
    Tour opened (pending ++ pending') (visits ++ visits') outcome := by
  generalize whole : (none : Option ResolveError) = ended at h
  induction h with
  | done => exact h'
  | stop => cases whole
  | failed => cases whole
  | found visit possible result _ ih =>
    rw [List.cons_append, List.cons_append]
    refine .found visit possible result ?_
    rw [← List.append_assoc]
    exact ih (h'.mono (List.subset_cons_self _ _)) whole

/-- What is pending after it does not change a tour that an error ends. -/
theorem append_pending (h : Tour opened pending visits (some error))
    (pending' : List (Location × Reference)) :
    Tour opened (pending ++ pending') visits (some error) := by
  generalize ended : some error = outcome at h
  induction h with
  | done => cases ended
  | stop pending isOpen unusable =>
    cases ended
    exact .stop _ isOpen unusable
  | failed visit pending possible result =>
    cases ended
    exact .failed visit _ possible result
  | found visit possible result _ ih =>
    rw [List.cons_append]
    refine .found visit possible result ?_
    rw [← List.append_assoc]
    exact ih ended

/-- Every visit says what following its reference says. -/
theorem possible (h : Tour opened pending visits outcome) : ∀ visit ∈ visits, visit.Possible := by
  induction h with
  | done => exact List.forall_mem_nil _
  | stop => exact List.forall_mem_nil _
  | failed _ _ possible _ => exact List.forall_mem_singleton.2 possible
  | found _ possible _ _ ih => exact List.forall_mem_cons.2 ⟨possible, ih⟩

/-- **A visit that comes to an error is the last one**, and its error is that of the tour. -/
theorem last_of_error (h : Tour opened pending visits outcome) {before after : List Visit}
    {visit : Visit} (split : visits = before ++ visit :: after)
    (result : visit.result = .error error) : after = [] ∧ outcome = some error := by
  induction h generalizing before with
  | done => simp at split
  | stop => simp at split
  | failed _ _ _ result' =>
    cases before with
    | nil =>
      obtain ⟨rfl, rfl⟩ := List.cons.inj split
      rw [result] at result'
      exact ⟨rfl, congrArg some (Except.error.inj result').symm⟩
    | cons first rest => simp at split
  | found _ _ result' _ ih =>
    cases before with
    | nil =>
      obtain ⟨rfl, rfl⟩ := List.cons.inj split
      rw [result] at result'
      cases result'
    | cons first rest => exact ih (List.cons.inj split).2

end Tour

/-! ## Loadings that are tours -/

/-- The error of what failed. -/
def errorOf {ε : Type} : Except ε α → Option ε
  | .ok _ => none
  | .error error => some error

/-- The loading is a tour of these references when these manifests are open, whatever it comes
to. -/
def Tours (opened : List Found) (pending : List (Location × Reference)) (loading : Load α) : Prop :=
  ∀ before log result after, Goes before loading log result after →
    ∃ visits, log = Visit.said visits ∧ Tour opened pending visits (errorOf result)

section

variable {opened : List Found} {pending pending' : List (Location × Reference)} {first : Load α}
  {f : α → Load β}

theorem tours_pure (opened : List Found) (value : α) : Tours opened [] (pure value) := by
  intro before log result after goes
  obtain ⟨rfl, rfl, -⟩ := goes_pure_iff.1 goes
  exact ⟨[], rfl, .done opened⟩

theorem tours_fail {found : Found} {error : ResolveError} (isOpen : found ∈ opened)
    (unusable : Unusable found error) (pending : List (Location × Reference)) :
    Tours opened pending (fail error : Load α) := by
  intro before log result after goes
  obtain ⟨rfl, rfl, -⟩ := goes_fail_iff.1 goes
  exact ⟨[], rfl, .stop pending isOpen unusable⟩

/-- **A sequence is a tour if its parts are.** -/
theorem tours_bind (h : Tours opened pending first)
    (h' : ∀ before log value after, Goes before first log (.ok value) after →
      Tours opened pending' (f value)) : Tours opened (pending ++ pending') (first >>= f) := by
  intro before log result after goes
  rcases goes_bind_iff.1 goes with
    ⟨value, middle, here, later, ended, rest, rfl⟩ | ⟨error, ended, rfl⟩
  · obtain ⟨visits, rfl, tour⟩ := h _ _ _ _ ended
    obtain ⟨visits', rfl, tour'⟩ := h' _ _ _ _ ended _ _ _ _ rest
    exact ⟨visits ++ visits', List.flatMap_append.symm, tour.append tour'⟩
  · obtain ⟨visits, rfl, tour⟩ := h _ _ _ _ ended
    exact ⟨visits, rfl, tour.append_pending pending'⟩

theorem tours_step (h : Tours opened [] first)
    (h' : ∀ before log value after, Goes before first log (.ok value) after →
      Tours opened pending (f value)) : Tours opened pending (first >>= f) := tours_bind h h'

theorem tours_fail_bind {found : Found} {error : ResolveError} (isOpen : found ∈ opened)
    (unusable : Unusable found error) : Tours opened pending (fail error >>= f) := by
  refine tours_step (tours_fail isOpen unusable []) fun _ _ _ _ goes => ?_
  obtain ⟨-, eq, -⟩ := goes_fail_iff.1 goes
  cases eq

theorem tours_finish (h : Tours opened pending first) (h' : ∀ value, Tours opened [] (f value)) :
    Tours opened pending (first >>= f) := by
  have tours := tours_bind h fun _ _ value _ _ => h' value
  rwa [List.append_nil] at tours

theorem tours_warnings (opened : List Found) (list : List Warning) :
    Tours opened [] (liftM (Dialogue.warnings list) : Load Unit) := by
  intro before log result after goes
  obtain ⟨rfl, rfl, -⟩ := Load.goes_warnings_iff.1 goes
  exact ⟨[], rfl, .done opened⟩

theorem tours_enter {found : Found} (isOpen : found ∈ opened) :
    Tours opened [] (enter found.2) := by
  intro before log result after goes
  rw [enter, goes_get_bind_iff] at goes
  split at goes
  · next within => exact tours_fail isOpen (.cyclic within) [] _ _ _ _ goes
  · obtain ⟨rfl, rfl, -⟩ := goes_set_iff.1 goes
    exact ⟨[], rfl, .done opened⟩

theorem tours_leave (opened : List Found) : Tours opened [] leave := by
  intro before log result after goes
  obtain ⟨rfl, rfl, -⟩ := goes_modify_iff.1 goes
  exact ⟨[], rfl, .done opened⟩

theorem tours_loadAll {load : Reference → Load α} {location : Location} {list : List Reference}
    (h : ∀ reference ∈ list, Tours opened [(location, reference)] (load reference)) :
    Tours opened (list.map (location, ·)) (loadAll load list) := by
  induction list with
  | nil => exact tours_pure opened _
  | cons reference rest ih =>
    obtain ⟨here, later⟩ := List.forall_mem_cons.1 h
    exact tours_bind here fun _ _ _ _ _ => tours_finish (ih later) fun _ => tours_pure opened _

/-- The references under a key of an open manifest are followed. -/
theorem tours_followed {load : Reference → Load α} {found : Found} {read : Tree × Dialect}
    {key : String} (isOpen : found ∈ opened) (parsed : parseDetected found.1 = .ok read)
    (h : ∀ reference ∈ referencesIn (read.1.normalize.field? key),
      Tours opened [(found.2, reference)] (load reference)) :
    Tours opened ((referencesIn (read.1.normalize.field? key)).map (found.2, ·))
      (followed load found.2 (read.1.normalize.field? key)) := by
  cases field : read.1.normalize.field? key with
  | none => exact tours_pure opened _
  | some value =>
    rw [field] at h
    rw [followed, referencesOf]
    cases refers : Manifest.readReferences value with
    | error error => exact tours_fail_bind isOpen (.unclear parsed field refers)
    | ok list =>
      rw [referencesIn_eq refers] at h ⊢
      refine tours_step (tours_pure opened list) fun _ _ list' _ goes => ?_
      obtain ⟨-, eq, -⟩ := goes_pure_iff.1 goes
      cases eq
      rw [map_eq_pure_bind]
      exact tours_finish (tours_loadAll h) fun _ => tours_pure opened _

end

/-- What is relied on of the calls: they are tours of the references of the open manifest that they
are for. -/
def AllTours (load : String → Location → Load (Tree × Dialect)) : Prop :=
  ∀ found opened, found ∈ opened → Tours opened (pendingIn found) (load found.1 found.2)

section

variable {opened : List Found} {load : String → Location → Load (Tree × Dialect)}
  {policy : OverridePolicy} {includer : Location} {reference : Reference}

/-- A reference is visited, and then the references are of what it leads to. -/
theorem tours_loadReference (tours : AllTours load) :
    Tours opened [(includer, reference)] (loadReference load includer reference) := by
  intro before log result after goes
  rcases goes_bind_iff.1 goes with
    ⟨found, middle, here, later, located, rest, rfl⟩ | ⟨error, located, rfl⟩
  · have next := tours found (found :: opened) List.mem_cons_self
    obtain ⟨visits, rfl, tour⟩ := tours_finish next (fun _ => tours_pure _ _) _ _ _ _ rest
    let visit : Visit := ⟨includer, reference, here, .ok found⟩
    refine ⟨visit :: visits, rfl, .found visit ⟨before, middle, located⟩ rfl ?_⟩
    rwa [List.append_nil]
  · let visit : Visit := ⟨includer, reference, log, .error error⟩
    exact ⟨[visit], (List.append_nil log).symm, .failed visit [] ⟨before, after, located⟩ rfl⟩

theorem tours_loadOverride (tours : AllTours load) :
    Tours opened [(includer, reference)]
      (loadOverride (loadReference load includer) policy reference) :=
  tours_finish (tours_loadReference tours) fun _ =>
    tours_step (tours_warnings opened _) fun _ _ _ _ _ => tours_pure opened _

/-- **A step is a tour if its calls are.** -/
theorem tours_loadStep (honest : Honest .any load) (tours : AllTours load) :
    AllTours (loadStep policy load) := by
  intro found opened isOpen
  rw [loadStep_eq]
  refine tours_step (tours_enter isOpen) fun _ _ _ _ _ => ?_
  rw [pendingIn, readTree]
  cases parsed : parseDetected found.1 with
  | error error => exact tours_fail_bind isOpen (.unreadable parsed)
  | ok read =>
    refine tours_step (tours_pure opened read) fun _ _ read' _ goes => ?_
    obtain ⟨-, eq, -⟩ := goes_pure_iff.1 goes
    cases eq
    dsimp only
    rw [references, List.map_append]
    refine tours_bind (tours_followed isOpen parsed fun _ _ => tours_loadReference tours)
      fun _ _ included _ goes => ?_
    obtain ⟨-, -, consumed⟩ := honest.steady_included found.2 _ _ _ _
      (goes.ends.mono fun _ _ _ => trivial)
    -- what was included has no overrides, so that these are overrides of the manifest itself
    rw [field?_withIncludes_overrides (rooted_of_parseDetected parsed) consumed]
    refine tours_finish (tours_followed isOpen parsed fun _ _ => tours_loadOverride tours)
      fun _ => ?_
    exact tours_step (tours_leave opened) fun _ _ _ _ _ => tours_pure opened _

end

/-- **Loading is a tour** of the references of the manifest that it starts from. -/
theorem tours_loadTree (policy : OverridePolicy) (nesting : Nat) :
    AllTours (loadTree policy nesting) := by
  induction nesting with
  | zero => exact fun found opened isOpen => tours_fail isOpen .nested _
  | succ nesting ih => exact tours_loadStep (honest_loadTree policy nesting) ih

/-! ## Runs -/

/-- The visits of a run: the source is read, and they are a tour of the references of its manifest.
Once all of them are followed, what is made of the manifest is left open. -/
inductive Itinerary (source : Source) : List Exchange → List Visit → Option ResolveError → Prop
  | unread {own : List Exchange} {error : ResolveError} (read : source.Reads own (.error error)) :
      Itinerary source own [] (some error)
  | stopped {own : List Exchange} {found : Found} {visits : List Visit} {error : ResolveError}
      (read : source.Reads own (.ok found))
      (tour : Tour [found] (pendingIn found) visits (some error)) :
      Itinerary source own visits (some error)
  | whole {own : List Exchange} {found : Found} {visits : List Visit}
      (outcome : Option ResolveError) (read : source.Reads own (.ok found))
      (tour : Tour [found] (pendingIn found) visits none) : Itinerary source own visits outcome

/-- The loading reads the source, and what follows is a tour of the references of its manifest. -/
def Follows (source : Source) (loading : Load α) : Prop :=
  ∀ before log result after, Goes before loading log result after →
    ∃ own visits, log = own ++ Visit.said visits ∧ Itinerary source own visits (errorOf result)

section

variable {source : Source} {loading : Load α} {f : α → Load β}

theorem follows_loadManifest (source : Source) (policy : OverridePolicy) (nesting : Nat) :
    Follows source (loadManifest policy nesting source) := by
  intro before log result after goes
  rcases goes_bind_iff.1 goes with
    ⟨found, middle, own, rest, read, loaded, rfl⟩ | ⟨error, read, rfl⟩
  · have reads := reads_of_readSource read
    have tours := tours_loadTree policy nesting found [found] (List.mem_singleton_self found)
    rcases goes_bind_iff.1 loaded with
      ⟨merged, _, said, later, followed, built, rfl⟩ | ⟨error, followed, rfl⟩
    · obtain ⟨visits, rfl, tour⟩ := tours _ _ _ _ followed
      have silent : later = [] := Silent.log_eq_nil (by
        dsimp only
        split
        · exact silent_pure _
        · exact silent_fail _) built
      exact ⟨own, visits, by rw [silent, List.append_nil], .whole _ reads tour⟩
    · obtain ⟨visits, rfl, tour⟩ := tours _ _ _ _ followed
      exact ⟨own, visits, rfl, .stopped reads tour⟩
  · exact ⟨log, [], (List.append_nil log).symm, .unread (reads_of_readSource read)⟩

theorem Follows.bind (h : Follows source loading) (silent : ∀ value, Silent (f value)) :
    Follows source (loading >>= f) := by
  intro before log result after goes
  rcases goes_bind_iff.1 goes with
    ⟨value, middle, said, later, loaded, rest, rfl⟩ | ⟨error, loaded, rfl⟩
  · obtain ⟨own, visits, rfl, itinerary⟩ := h _ _ _ _ loaded
    rw [(silent value).log_eq_nil rest, List.append_nil]
    cases itinerary with
    | whole _ read tour => exact ⟨own, visits, rfl, .whole _ read tour⟩
  · exact h _ _ _ _ loaded

/-- **Resolving follows references in this way**: selecting and checking follow none. -/
theorem follows_resolveManifest (options : ResolveOptions) (hooks : List Hook) (source : Source)
    (selection : Option Selection) :
    Follows source (resolveManifest options hooks source selection) :=
  (follows_loadManifest source options.policy options.nesting).bind fun _ =>
    asksOnly_bind (silent_select _ _ _ _) fun _ => silent_checked _ _ _ _

end

end BuildManifest
