import BuildManifest.Proofs.Resolve.Course
import BuildManifest.Proofs.Resolve.Failures

/-!
# What requests are made for

A loading reads its source and then does nothing with the outside world but follow references, one
after the other, each of them a reference of a manifest that was read before.  So what is said in a
run falls into visits, and whatever is asked for is asked for in one of them.

## What is here

* `Source.Refers` — a reference that may be followed.
* `Journey` — visits one after the other; only the last one may fail.
* `Journey.course`, `Journey.exists_checkout` — where the checkouts of a journey go, and what their
  directory is asked for.
* `journeys_loadTree`, `journeys_resolveManifest` — **loading is a journey**, and resolving is one
  once the source is read.
-/

set_option autoImplicit false

namespace BuildManifest

open Load

/-! ## Journeys -/

namespace Source

variable {source : Source} {said log : List Exchange}

/-- The reference is one of a manifest that was found at the place and read. -/
def Refers (source : Source) (said : List Exchange) (includer : Location) (reference : Reference) :
    Prop :=
  ∃ found ∈ source.manifests said, found.2 = includer ∧ ∃ read,
    parseDetected found.1 = .ok read ∧ reference ∈ references read.1.normalize

theorem manifests_append : source.manifests (said ++ log) =
    source.manifests said ++ log.filterMap (·.found?) := by
  rw [manifests, manifests, List.filterMap_append, List.append_assoc]

theorem Refers.append {includer : Location} {reference : Reference}
    (h : source.Refers said includer reference) (log : List Exchange) :
    source.Refers (said ++ log) includer reference := by
  obtain ⟨found, member, rest⟩ := h
  exact ⟨found, manifests_append ▸ List.mem_append_left _ member, rest⟩

end Source

/-- References are followed one after the other, from what was said and a state of the staging area
to another one, and at each of them the run has come to following it.  A reference that leads
nowhere ends the journey, which then is not whole. -/
inductive Journey (source : Source)
    (comes : List Exchange → Session → Location → Reference → Prop) :
    List Exchange → Staging → List Exchange → Bool → Staging → Prop
  | stay (said : List Exchange) (staging : Staging) (whole : Bool) :
      Journey source comes said staging [] whole staging
  | visit {said log later : List Exchange} {before after : Session} {includer : Location}
      {reference : Reference} {found : Found} {whole : Bool} {last : Staging}
      (refers : source.Refers said includer reference)
      (here : comes said before includer reference)
      (goes : Goes before (locate includer reference) log (.ok found) after)
      (rest : Journey source comes (said ++ log) after.staging later whole last) :
      Journey source comes said before.staging (log ++ later) whole last
  | stop {said log : List Exchange} {before after : Session} {includer : Location}
      {reference : Reference} {error : ResolveError}
      (refers : source.Refers said includer reference)
      (here : comes said before includer reference)
      (goes : Goes before (locate includer reference) log (.error error) after) :
      Journey source comes said before.staging log false after.staging

/-- **Where the directory of the checkouts is asked for**: at the start of the visit of a reference
to a checkout that may be made. -/
theorem safe_of_asked {before after : Session} {includer : Location} {reference : Reference}
    {result : Except ResolveError Found} {said later : List Exchange} {call : Exchange}
    (goes : Goes before (locate includer reference) (said ++ call :: later) result after)
    (asks : call.request = .stagingDirectory) :
    said = [] ∧ ∃ makefile download, reference = .checkout makefile download ∧
      isSafePath makefile = true := by
  cases reference with
  | plain path =>
    have reading := (readsOnly_locatePath path includer _ _ _ _ goes).1
    have reads := reading call (List.mem_append_right _ List.mem_cons_self)
    exact absurd asks (Request.ne_stagingDirectory_of_isReading reads)
  | checkout makefile download =>
    have follows := followsCheckout_of_goes goes
    have safe : isSafePath makefile = true := by
      rcases follows.safe_or_leaves with safe | ⟨-, silent, -⟩
      · exact safe
      · simp at silent
    refine ⟨?_, makefile, download, rfl, safe⟩
    cases said with
    | nil => rfl
    | cons first rest =>
      have later := follows.not_staging_of_mem_tail call
        (List.mem_append_right rest List.mem_cons_self)
      exact absurd asks later

namespace Journey

variable {source : Source} {comes comes' : List Exchange → Session → Location → Reference → Prop}
  {said log later : List Exchange} {staging middle last : Staging} {whole : Bool}

theorem mono (h : Journey source comes said staging log whole last)
    (wider : ∀ said session includer reference, comes said session includer reference →
      comes' said session includer reference) :
    Journey source comes' said staging log whole last := by
  induction h with
  | stay => exact .stay _ _ _
  | visit refers here goes _ ih => exact .visit refers (wider _ _ _ _ here) goes ih
  | stop refers here goes => exact .stop refers (wider _ _ _ _ here) goes

/-- **Journeys follow each other**, as long as they are whole. -/
theorem append (h : Journey source comes said staging log true middle)
    (h' : Journey source comes (said ++ log) middle later whole last) :
    Journey source comes said staging (log ++ later) whole last := by
  generalize goesOn : true = open_ at h
  induction h with
  | stay said staging =>
    rw [List.append_nil] at h'
    exact h'
  | visit refers here goes _ ih =>
    rw [List.append_assoc]
    rw [← List.append_assoc] at h'
    exact .visit refers here goes (ih h' goesOn)
  | stop => cases goesOn

/-- **A journey takes a course.** -/
theorem course (h : Journey source comes said staging log whole last) :
    Course staging log whole last := by
  induction h with
  | stay => exact .done _ _
  | visit _ _ goes _ ih => exact (course_locate goes).append ih
  | stop _ _ goes => exact course_locate goes

/-- **What the directory of the checkouts is asked for**: the run has come to following a reference
to a checkout that may be made, which is one of a manifest that was read before. -/
theorem exists_checkout {asked : List Exchange} {call : Exchange}
    (h : Journey source comes said staging log whole last) (split : log = asked ++ call :: later)
    (asks : call.request = .stagingDirectory) :
    ∃ session includer makefile download,
      source.Refers (said ++ asked) includer (.checkout makefile download) ∧
      isSafePath makefile = true ∧
      comes (said ++ asked) session includer (.checkout makefile download) := by
  induction h generalizing asked with
  | stay => cases (List.append_eq_nil_iff.1 split.symm).2
  | visit refers here goes _ ih =>
    rcases List.append_eq_append_iff.1 split with ⟨more, rfl, eq⟩ | ⟨visit, rfl, eq⟩
    · rw [← List.append_assoc]
      exact ih eq
    · cases visit with
      | nil =>
        rw [List.append_nil] at ih
        have next := @ih [] eq.symm
        rwa [List.append_nil] at next
      | cons first others =>
        cases (List.cons.inj eq).1
        obtain ⟨rfl, makefile, download, rfl, safe⟩ := safe_of_asked goes asks
        rw [List.append_nil]
        exact ⟨_, _, makefile, download, refers, safe, here⟩
  | stop refers here goes =>
    subst split
    obtain ⟨rfl, makefile, download, rfl, safe⟩ := safe_of_asked goes asks
    rw [List.append_nil]
    exact ⟨_, _, makefile, download, refers, safe, here⟩

end Journey

/-! ## Loading -/

namespace Load

variable {α β : Type} {source : Source} {said : List Exchange}

/-- After more than was said the loading comes to following the reference. -/
def Comes (before : Session) (said : List Exchange) (loading : Load α) (log : List Exchange)
    (session : Session) (includer : Location) (reference : Reference) : Prop :=
  ∃ more, log = said ++ more ∧ ComesTo before loading more session (locate includer reference)

theorem Comes.bind {before session : Session} {first : Load α} {log : List Exchange}
    {includer : Location} {reference : Reference}
    (h : Comes before said first log session includer reference) (f : α → Load β) :
    Comes before said (first >>= f) log session includer reference := by
  obtain ⟨more, eq, comes⟩ := h
  exact ⟨more, eq, comes.bind f⟩

/-- After what was said the loading is a journey, whatever it comes to. -/
def Journeys (source : Source) (said : List Exchange) (loading : Load α) : Prop :=
  ∀ before log result after, Goes before loading log result after →
    Journey source (Comes before said loading) said before.staging log result.isOk after.staging

theorem Silent.journeys {loading : Load α} (silent : Silent loading) :
    Journeys source said loading := by
  intro before log result after goes
  rw [silent.log_eq_nil goes, (silent _ _ _ _ goes).2]
  exact .stay _ _ _

/-- **A sequence is a journey if its parts are.** -/
theorem journeys_bind {first : Load α} {f : α → Load β} (h : Journeys source said first)
    (h' : ∀ before log value after, Goes before first log (.ok value) after →
      Journeys source (said ++ log) (f value)) : Journeys source said (first >>= f) := by
  intro before log result after goes
  rcases goes_bind_iff.1 goes with
    ⟨value, middle, here, later, ended, rest, rfl⟩ | ⟨error, ended, rfl⟩
  · refine ((h _ _ _ _ ended).mono fun _ _ _ _ comes => comes.bind f).append
      ((h' _ _ _ _ ended _ _ _ _ rest).mono ?_)
    rintro _ session includer reference ⟨more, rfl, comes⟩
    exact ⟨here ++ more, List.append_assoc .., ended.comesTo comes⟩
  · exact (h _ _ _ _ ended).mono fun _ _ _ _ comes => comes.bind f

theorem Silent.journeys_bind {first : Load α} {f : α → Load β} (silent : Silent first)
    (h : ∀ before value after, Goes before first [] (.ok value) after →
      Journeys source said (f value)) : Journeys source said (first >>= f) := by
  refine Load.journeys_bind silent.journeys fun before log value after goes => ?_
  cases silent.log_eq_nil goes
  rw [List.append_nil]
  exact h before value after goes

theorem journeys_map {loading : Load α} (f : α → β) (h : Journeys source said loading) :
    Journeys source said (f <$> loading) := by
  rw [map_eq_pure_bind]
  exact journeys_bind h fun _ _ _ _ _ => (silent_pure _).journeys

theorem journeys_loadAll {load : Reference → Load α} {list : List Reference}
    (h : ∀ more, ∀ reference ∈ list, Journeys source (said ++ more) (load reference)) :
    Journeys source said (loadAll load list) := by
  induction list generalizing said with
  | nil => exact (silent_pure _).journeys
  | cons reference rest ih =>
    have here := h [] reference List.mem_cons_self
    rw [List.append_nil] at here
    refine journeys_bind here fun _ log _ _ _ => ?_
    refine journeys_bind (ih fun more other member => ?_) fun _ _ _ _ _ => (silent_pure _).journeys
    rw [List.append_assoc]
    exact h _ other (List.mem_cons_of_mem _ member)

theorem silent_referencesOf (location : Location) (value : Tree) :
    Silent (referencesOf location value) := by
  rw [referencesOf]
  split
  · exact silent_pure _
  · exact silent_fail _

theorem journeys_followed {load : Reference → Load α} {location : Location} {value : Option Tree}
    (h : ∀ more, ∀ reference ∈ referencesIn value,
      Journeys source (said ++ more) (load reference)) :
    Journeys source said (followed load location value) := by
  cases value with
  | none => exact (silent_pure _).journeys
  | some value =>
    refine (silent_referencesOf location value).journeys_bind fun _ list _ goes => ?_
    have read : Manifest.readReferences value = .ok list :=
      (flat_referencesOf location value _ _ _ goes.ends).2
    rw [referencesIn_eq read] at h
    exact journeys_map some (journeys_loadAll h)

theorem journeys_locate {includer : Location} {reference : Reference}
    (refers : source.Refers said includer reference) :
    Journeys source said (locate includer reference) := by
  intro before log result after goes
  have here : Comes before said (locate includer reference) said before includer reference :=
    ⟨[], (List.append_nil _).symm, comesTo_self _ _⟩
  cases result with
  | ok found =>
    have visit := Journey.visit refers here goes (.stay _ _ true)
    rwa [List.append_nil] at visit
  | error error => exact .stop refers here goes

end Load

/-- What is relied on of the calls: they are journeys from a manifest that was read. -/
def AllJourneys (source : Source) (load : String → Location → Load (Tree × Dialect)) : Prop :=
  ∀ said text location, (text, location) ∈ source.manifests said →
    Journeys source said (load text location)

section

variable {source : Source} {said : List Exchange}
  {load : String → Location → Load (Tree × Dialect)} {policy : OverridePolicy}

/-- The manifest that a reference leads to was delivered, so that it can be loaded next. -/
theorem journeys_loadReference {includer : Location} {reference : Reference}
    (journeys : AllJourneys source load) (refers : source.Refers said includer reference) :
    Journeys source said (loadReference load includer reference) := by
  refine journeys_bind (journeys_locate refers) fun _ log found _ goes => ?_
  obtain ⟨-, call, member, delivered⟩ := candid_locate includer reference _ _ _ _ goes
  have read : found ∈ source.manifests (said ++ log) :=
    Source.mem_manifests_iff.2 (.inr ⟨call, List.mem_append_right _ member, delivered⟩)
  exact journeys_bind (journeys _ _ _ read) fun _ _ _ _ _ => (silent_pure _).journeys

theorem journeys_loadOverride {includer : Location} {reference : Reference}
    (journeys : AllJourneys source load) (refers : source.Refers said includer reference) :
    Journeys source said (loadOverride (loadReference load includer) policy reference) :=
  journeys_bind (journeys_loadReference journeys refers) fun _ _ _ _ _ =>
    journeys_bind (silent_warnings _).journeys fun _ _ _ _ _ => (silent_pure _).journeys

theorem silent_enter (location : Location) : Silent (enter location) := by
  intro before log result after goes
  rw [enter, goes_get_bind_iff] at goes
  split at goes
  · exact silent_fail _ _ _ _ _ goes
  · obtain ⟨rfl, -, rfl⟩ := goes_set_iff.1 goes
    exact ⟨List.forall_mem_nil _, rfl⟩

theorem silent_leave : Silent leave := silent_modify fun _ => rfl

theorem silent_readTree (text : String) (location : Location) :
    Silent (readTree text location) := by
  rw [readTree]
  split
  · exact silent_pure _
  · exact silent_fail _

/-- **A step is a journey if its calls are.** -/
theorem journeys_loadStep (honest : Honest .any load) (journeys : AllJourneys source load) :
    AllJourneys source (loadStep policy load) := by
  intro said text location member
  rw [loadStep_eq]
  refine (silent_enter location).journeys_bind fun _ _ _ _ => ?_
  refine (silent_readTree text location).journeys_bind fun _ read _ goes => ?_
  have parsed : parseDetected text = .ok read := (flat_readTree text location _ _ _ goes.ends).2
  have refers {reference : Reference} (own : reference ∈ references read.1.normalize)
      (more : List Exchange) : source.Refers (said ++ more) location reference :=
    Source.Refers.append ⟨_, member, rfl, read, parsed, own⟩ more
  refine journeys_bind (journeys_followed fun more reference inside =>
    journeys_loadReference journeys (refers (List.mem_append_left _ inside) more))
    fun _ said' included _ goes => ?_
  obtain ⟨-, -, consumed⟩ := honest.steady_included location _ _ _ _
    (goes.ends.mono fun _ _ _ => trivial)
  -- what was included has no overrides, so that these are overrides of the manifest itself
  dsimp only
  rw [field?_withIncludes_overrides (rooted_of_parseDetected parsed) consumed]
  refine journeys_bind (journeys_followed fun more reference inside =>
    journeys_loadOverride journeys ?_) fun _ _ _ _ _ => ?_
  · rw [List.append_assoc]
    exact refers (List.mem_append_right _ inside) _
  · exact silent_leave.journeys_bind fun _ _ _ _ => (silent_pure _).journeys

end

/-- **Loading is a journey.** -/
theorem journeys_loadTree (source : Source) (policy : OverridePolicy) (nesting : Nat) :
    AllJourneys source (loadTree policy nesting) := by
  induction nesting with
  | zero => exact fun said text location member => (silent_fail _).journeys
  | succ nesting ih => exact journeys_loadStep (honest_loadTree policy nesting) ih

/-! ## Resolving -/

section

variable {source : Source}

theorem silent_select (manifest : Manifest) (force : Bool) (context : String)
    (selection : Option Selection) : Silent (select manifest force context selection) := by
  cases selection with
  | none => exact silent_pure _
  | some selection =>
    refine asksOnly_bind (silent_warnings _) fun _ => ?_
    split
    · exact silent_pure _
    · exact silent_fail _

theorem silent_checked (manifest : Manifest) (options : CheckOptions) (hooks : List Hook)
    (context : String) : Silent (checked manifest options hooks context) := by
  refine asksOnly_bind (silent_warnings _) fun _ => ?_
  split
  · exact silent_pure _
  · exact silent_fail _

/-- The loading reads the source, and what follows is a journey. -/
def JourneysFromSource {α : Type} (source : Source) (loading : Load α) : Prop :=
  ∀ before log result after, Goes before loading log result after →
    ∃ own rest, log = own ++ rest ∧ AllReading own ∧
      Journey source (Comes before [] loading) own before.staging rest result.isOk after.staging

theorem journeys_loadManifest (source : Source) (policy : OverridePolicy) (nesting : Nat) :
    JourneysFromSource source (loadManifest policy nesting source) := by
  intro before log result after goes
  rcases goes_bind_iff.1 goes with
    ⟨found, middle, own, rest, read, loaded, rfl⟩ | ⟨error, read, rfl⟩
  · obtain ⟨reading, same⟩ := readsOnly_readSource source _ _ _ _ read
    refine ⟨own, rest, rfl, reading, ?_⟩
    have known : found ∈ source.manifests own :=
      Source.mem_manifests_iff.2 (candid_readSource source _ _ _ _ read).2
    have journey := journeys_bind (journeys_loadTree source policy nesting own _ _ known)
      (fun _ _ _ _ _ => Silent.journeys ?_) _ _ _ _ loaded
    · rw [same] at journey
      refine journey.mono ?_
      rintro _ session includer reference ⟨more, rfl, comes⟩
      exact ⟨own ++ more, rfl, read.comesTo comes⟩
    · dsimp only
      split
      · exact silent_pure _
      · exact silent_fail _
  · obtain ⟨reading, same⟩ := readsOnly_readSource source _ _ _ _ read
    refine ⟨log, [], (List.append_nil _).symm, reading, ?_⟩
    rw [same]
    exact .stay _ _ _

theorem JourneysFromSource.bind {α β : Type} {loading : Load α} {f : α → Load β}
    (h : JourneysFromSource source loading) (silent : ∀ value, Silent (f value)) :
    JourneysFromSource source (loading >>= f) := by
  intro before log result after goes
  rcases goes_bind_iff.1 goes with
    ⟨value, middle, said, later, loaded, rest, rfl⟩ | ⟨error, loaded, rfl⟩
  · obtain ⟨own, visits, rfl, reading, journey⟩ := h _ _ _ _ loaded
    rw [(silent value).log_eq_nil rest, List.append_nil, (silent value _ _ _ _ rest).2]
    refine ⟨own, visits, rfl, reading, ?_⟩
    have whole := (journey.mono fun _ _ _ _ comes => comes.bind f).append (.stay _ _ result.isOk)
    rwa [List.append_nil] at whole
  · obtain ⟨own, visits, rfl, reading, journey⟩ := h _ _ _ _ loaded
    exact ⟨own, visits, rfl, reading, journey.mono fun _ _ _ _ comes => comes.bind f⟩

/-- **Resolving is reading the source and then a journey**: selecting and checking say nothing. -/
theorem journeys_resolveManifest (options : ResolveOptions) (hooks : List Hook) (source : Source)
    (selection : Option Selection) :
    JourneysFromSource source (resolveManifest options hooks source selection) :=
  (journeys_loadManifest source options.policy options.nesting).bind fun _ =>
    asksOnly_bind (silent_select _ _ _ _) fun _ => silent_checked _ _ _ _

end

end BuildManifest
