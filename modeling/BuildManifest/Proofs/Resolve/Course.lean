import BuildManifest.Proofs.Resolve.Log
import BuildManifest.Proofs.Resolve.Staging

/-!
# What is said when a reference is followed

Following a path or a URL reads.  Following a reference to a checkout takes the next destination,
for which the directory of the checkouts is made first if there is none, and then the checkout is
made and a file of it is read.  So the requests of a run, whatever they are made for, take a course
that the state of the staging area alone determines.

## What is here

* `Load.AsksOnly` — a loading that makes requests of some kind only and hands out no destination.
* `HandsOut`, `FollowsCheckout` — what taking a destination says, and what following a checkout
  says, each with what it comes to.
* `Course` — the courses that requests may take; `course_locate`: **following a reference takes
  such a course**.
* `Course.destinations_of_directory`, `Course.destinations_of_run` — where the checkouts of a course
  go, with a directory for them and from the start of a run.
-/

set_option autoImplicit false

namespace BuildManifest

open Load

/-! ## Requests -/

namespace Request

/-- The request reads something. -/
def isReading : Request → Bool
  | .localFile _ => true
  | .remoteText _ => true
  | .standardInput => true
  | .checkout _ _ => false
  | .stagingDirectory => false

/-- Where the checkout goes, if the request is for one. -/
def destination? : Request → Option String
  | .checkout _ destination => some destination
  | _ => none

variable {request : Request}

theorem destination?_of_isReading (reads : request.isReading = true) :
    request.destination? = none := by
  cases request with
  | checkout download destination => cases reads
  | _ => rfl

theorem ne_stagingDirectory_of_isReading (reads : request.isReading = true) :
    request ≠ .stagingDirectory := by
  rintro rfl
  cases reads

end Request

/-- Where the checkouts go, in order. -/
def destinations (log : List Exchange) : List String := log.filterMap (·.request.destination?)

/-- Every request reads something. -/
def AllReading (log : List Exchange) : Prop := ∀ call ∈ log, call.request.isReading = true

theorem AllReading.destinations {log : List Exchange} (reading : AllReading log) :
    destinations log = [] :=
  List.filterMap_eq_nil_iff.2 fun call member =>
    Request.destination?_of_isReading (reading call member)

/-! ## Loadings that ask for some things only -/

namespace Load

variable {α β : Type} {may : Request → Prop} {before after : Session} {log : List Exchange}

/-- The loading makes requests of this kind only and hands out no destination. -/
def AsksOnly (may : Request → Prop) (loading : Load α) : Prop :=
  ∀ before log result after, Goes before loading log result after →
    (∀ call ∈ log, may call.request) ∧ after.staging = before.staging

/-- The loading makes no request. -/
def Silent (loading : Load α) : Prop := AsksOnly (fun _ => False) loading

/-- The loading only reads. -/
def ReadsOnly (loading : Load α) : Prop :=
  AsksOnly (fun request => request.isReading = true) loading

theorem Silent.asksOnly {loading : Load α} (h : Silent loading) : AsksOnly may loading :=
  fun before log result after goes =>
    ⟨fun call member => (h before log result after goes).1 call member |>.elim,
      (h before log result after goes).2⟩

theorem Silent.log_eq_nil {loading : Load α} {result : Except ResolveError α} (h : Silent loading)
    (goes : Goes before loading log result after) : log = [] :=
  List.eq_nil_iff_forall_not_mem.2 (h _ _ _ _ goes).1

theorem asksOnly_bind {first : Load α} {f : α → Load β} (h : AsksOnly may first)
    (h' : ∀ value, AsksOnly may (f value)) : AsksOnly may (first >>= f) := by
  intro before log result after goes
  rcases goes_bind_iff.1 goes with
    ⟨value, middle, said, later, first, rest, rfl⟩ | ⟨error, first, rfl⟩
  · obtain ⟨asked, same⟩ := h _ _ _ _ first
    obtain ⟨asked', same'⟩ := h' value _ _ _ _ rest
    exact ⟨List.forall_mem_append.2 ⟨asked, asked'⟩, same'.trans same⟩
  · exact h _ _ _ _ first

theorem asksOnly_ask {request : Request} (allowed : may request) : AsksOnly may (ask request) := by
  intro before log result after goes
  obtain ⟨answer, rfl, -, rfl⟩ := goes_ask_iff.1 goes
  exact ⟨List.forall_mem_singleton.2 allowed, rfl⟩

theorem silent_pure (value : α) : Silent (pure value) := by
  intro before log result after goes
  obtain ⟨rfl, -, rfl⟩ := goes_pure_iff.1 goes
  exact ⟨List.forall_mem_nil _, rfl⟩

theorem silent_fail (error : ResolveError) : Silent (fail error : Load α) := by
  intro before log result after goes
  obtain ⟨rfl, -, rfl⟩ := goes_fail_iff.1 goes
  exact ⟨List.forall_mem_nil _, rfl⟩

theorem silent_warnings (list : List Warning) :
    Silent (liftM (Dialogue.warnings list) : Load Unit) := by
  intro before log result after goes
  obtain ⟨rfl, -, rfl⟩ := goes_warnings_iff.1 goes
  exact ⟨List.forall_mem_nil _, rfl⟩

theorem silent_modify {change : Session → Session}
    (same : ∀ session, (change session).staging = session.staging) :
    Silent (modify change : Load PUnit) := by
  intro before log result after goes
  obtain ⟨rfl, -, rfl⟩ := goes_modify_iff.1 goes
  exact ⟨List.forall_mem_nil _, same before⟩

end Load

/-! ## Reading -/

section

variable {α : Type}

/-- A file or a page that does not exist is no error yet. -/
theorem silent_unless_missing (error : FetchError) (shown : String) :
    Silent (if error.isNotFound then pure none else fail (.fetchFailed shown error) :
      Load (Option Found)) := by
  split
  · exact silent_pure _
  · exact silent_fail _

/-- A loading that asks once and then only looks at the answer. -/
theorem goes_look {request : Request} {next : request.Answer → Load α} {before after : Session}
    {log : List Exchange} {result : Except ResolveError α} (silent : ∀ answer, Silent (next answer))
    (goes : Goes before (ask request >>= next) log result after) :
    (∃ answer, log = [⟨request, answer⟩]) ∧ after.staging = before.staging := by
  obtain ⟨answer, later, rfl, rest⟩ := goes_ask_bind_iff.1 goes
  rw [(silent answer).log_eq_nil rest]
  exact ⟨⟨answer, rfl⟩, (silent answer _ _ _ _ rest).2⟩

theorem readsOnly_look {request : Request} {next : request.Answer → Load α}
    (read : request.isReading = true) (silent : ∀ answer, Silent (next answer)) :
    ReadsOnly (ask request >>= next) :=
  asksOnly_bind (asksOnly_ask read) fun answer => (silent answer).asksOnly

theorem goes_readLocal? {path : String} {reference : Reference} {before after : Session}
    {log : List Exchange} {result : Except ResolveError (Option Found)}
    (goes : Goes before (readLocal? path reference) log result after) :
    (∃ reply, log = [⟨.localFile path, reply⟩]) ∧ after.staging = before.staging := by
  rw [readLocal?] at goes
  refine goes_look (fun answer => ?_) goes
  cases answer with
  | ok file => exact silent_pure _
  | error error => exact silent_unless_missing error _

theorem readsOnly_readLocal? (path : String) (reference : Reference) :
    ReadsOnly (readLocal? path reference) :=
  readsOnly_look rfl fun answer =>
    match answer with
    | .ok _ => silent_pure _
    | .error error => silent_unless_missing error _

theorem readsOnly_readRemote? (url : Url) (reference : Reference) :
    ReadsOnly (readRemote? url reference) :=
  readsOnly_look rfl fun answer =>
    match answer with
    | .ok _ => silent_pure _
    | .error error => silent_unless_missing error _

theorem readsOnly_readRelative? (path : String) (reference : Reference) (includer : Location) :
    ReadsOnly (readRelative? path reference includer) := by
  cases includer with
  | file from_ => exact readsOnly_readLocal? _ reference
  | remote base =>
    rw [readRelative?]
    cases base.join path with
    | some url => exact readsOnly_readRemote? url reference
    | none => exact (silent_pure _).asksOnly
  | standardInput => exact (silent_pure _).asksOnly

theorem silent_required (shown : String) (found : Option Found) :
    Silent (required shown found) := by
  cases found with
  | none => exact silent_fail _
  | some found => exact silent_pure found

theorem readsOnly_locatePath (path : String) (includer : Location) :
    ReadsOnly (locatePath path includer) := by
  rw [locatePath]
  cases Url.remote? path with
  | some url =>
    exact asksOnly_bind (readsOnly_readRemote? _ _) fun found =>
      (silent_required path found).asksOnly
  | none =>
    refine asksOnly_bind (readsOnly_readRelative? _ _ _) fun found => ?_
    cases found with
    | some found => exact (silent_pure _).asksOnly
    | none =>
      exact asksOnly_bind (readsOnly_readLocal? _ _) fun found =>
        (silent_required path found).asksOnly

theorem readsOnly_readSource (source : Source) : ReadsOnly (readSource source) := by
  cases source with
  | path path =>
    exact readsOnly_look rfl fun answer =>
      match answer with
      | .ok _ => silent_pure _
      | .error _ => silent_fail _
  | standardInput =>
    exact readsOnly_look rfl fun answer =>
      match answer with
      | .ok _ => silent_pure _
      | .error _ => silent_fail _
  | remote url payload =>
    cases payload with
    | some text => exact (silent_pure _).asksOnly
    | none =>
      exact readsOnly_look rfl fun answer =>
        match answer with
        | .ok _ => silent_pure _
        | .error _ => silent_fail _

end

/-! ## Checkouts -/

/-- What taking a destination says, and what it comes to: the directory of the checkouts is made
when the first destination is taken, and the destinations are counted. -/
inductive HandsOut : Staging → List Exchange → Except ResolveError String → Staging → Prop
  | again (directory : String) (k : Nat) :
      HandsOut ⟨some directory, k⟩ [] (.ok (checkoutPath directory k)) ⟨some directory, k + 1⟩
  | first (directory : String) (k : Nat) :
      HandsOut ⟨none, k⟩ [⟨.stagingDirectory, .ok directory⟩] (.ok (checkoutPath directory k))
        ⟨some directory, k + 1⟩
  | refused (message : String) (k : Nat) :
      HandsOut ⟨none, k⟩ [⟨.stagingDirectory, .error message⟩] (.error (.io message)) ⟨none, k⟩

variable {before after : Session} {log : List Exchange}

theorem goes_stagingDirectory {result : Except ResolveError String}
    (goes : Goes before stagingDirectory log result after) :
    (∃ directory, before.staging.directory = some directory ∧ log = [] ∧
      result = .ok directory ∧ after = before) ∨
    before.staging.directory = none ∧
      ((∃ directory, log = [⟨.stagingDirectory, .ok directory⟩] ∧ result = .ok directory ∧
        after = { before with staging := { before.staging with directory := some directory } }) ∨
      ∃ message, log = [⟨.stagingDirectory, .error message⟩] ∧ result = .error (.io message) ∧
        after = before) := by
  rw [stagingDirectory, goes_get_bind_iff] at goes
  cases staged : before.staging.directory with
  | some directory =>
    rw [staged] at goes
    exact .inl ⟨directory, rfl, goes_pure_iff.1 goes⟩
  | none =>
    rw [staged] at goes
    refine .inr ⟨rfl, ?_⟩
    obtain ⟨answer, later, rfl, rest⟩ := goes_ask_bind_iff.1 goes
    cases answer with
    | error message =>
      obtain ⟨rfl, rfl, rfl⟩ := goes_fail_iff.1 rest
      exact .inr ⟨message, rfl, rfl, rfl⟩
    | ok directory =>
      dsimp only at rest
      rw [goes_set_bind_iff] at rest
      obtain ⟨rfl, rfl, rfl⟩ := goes_pure_iff.1 rest
      exact .inl ⟨directory, rfl, rfl, rfl⟩

/-- **What taking a destination says, and what it comes to.** -/
theorem handsOut_of_goes {result : Except ResolveError String}
    (goes : Goes before nextCheckoutPath log result after) :
    HandsOut before.staging log result after.staging := by
  obtain ⟨⟨directory, used⟩, stack⟩ := before
  rcases goes_bind_iff.1 goes with ⟨given, middle, said, later, made, rest, rfl⟩ |
    ⟨error, made, rfl⟩
  · rw [goes_get_bind_iff, goes_set_bind_iff] at rest
    obtain ⟨rfl, rfl, rfl⟩ := goes_pure_iff.1 rest
    rcases goes_stagingDirectory made with ⟨present, rfl, rfl, eq, rfl⟩ |
      ⟨rfl, ⟨present, rfl, eq, rfl⟩ | ⟨_, _, eq, _⟩⟩
    · cases eq
      exact .again _ _
    · cases eq
      exact .first _ _
    · cases eq
  · rcases goes_stagingDirectory made with ⟨_, _, _, eq, _⟩ |
      ⟨rfl, ⟨_, _, eq, _⟩ | ⟨message, rfl, eq, rfl⟩⟩
    · cases eq
    · cases eq
    · cases eq
      exact .refused _ _

theorem goes_readRequired {path shown : String} {reference : Reference}
    {result : Except ResolveError Found}
    (goes : Goes before (readLocal? path reference >>= required shown) log result after) :
    (∃ reply, log = [⟨.localFile path, reply⟩]) ∧ after.staging = before.staging := by
  rcases goes_bind_iff.1 goes with ⟨found, middle, said, later, read, rest, rfl⟩ | ⟨error, read, -⟩
  · have silent := silent_required shown found
    obtain ⟨⟨reply, rfl⟩, same⟩ := goes_readLocal? read
    rw [silent.log_eq_nil rest]
    exact ⟨⟨reply, rfl⟩, (silent _ _ _ _ rest).2.trans same⟩
  · exact goes_readLocal? read

/-- What is said once a reference to a checkout has its destination. -/
inductive ChecksOut (makefile : String) (download : Download) (destination : String) :
    List Exchange → Except ResolveError Found → Prop
  | failed (error : FetchError) :
      ChecksOut makefile download destination [⟨.checkout download destination, .error error⟩]
        (.error (.fetchFailed (Reference.checkout makefile download).text error))
  | read (root : String) (reply : Except FetchError LocalFile)
      (result : Except ResolveError Found) :
      ChecksOut makefile download destination [⟨.checkout download destination, .ok root⟩,
        ⟨.localFile (FilePath.join root makefile), reply⟩] result

/-- What following a reference to a checkout says, and what it comes to. -/
inductive FollowsCheckout (makefile : String) (download : Download) :
    Staging → List Exchange → Except ResolveError Found → Staging → Prop
  | leaving {staging : Staging} (leaves : isSafePath makefile = false) :
      FollowsCheckout makefile download staging []
        (.error (.unsafeInclude (Reference.checkout makefile download).text)) staging
  | refused {staging staging' : Staging} {staged : List Exchange} {error : ResolveError}
      (safe : isSafePath makefile = true)
      (handed : HandsOut staging staged (.error error) staging') :
      FollowsCheckout makefile download staging staged (.error error) staging'
  | made {staging staging' : Staging} {staged later : List Exchange} {destination : String}
      {result : Except ResolveError Found} (safe : isSafePath makefile = true)
      (handed : HandsOut staging staged (.ok destination) staging')
      (checked : ChecksOut makefile download destination later result) :
      FollowsCheckout makefile download staging (staged ++ later) result staging'

/-- **What is said when a checkout is followed.** -/
theorem followsCheckout_of_goes {makefile : String} {download : Download}
    {result : Except ResolveError Found}
    (goes : Goes before (locateCheckout makefile download) log result after) :
    FollowsCheckout makefile download before.staging log result after.staging := by
  rw [locateCheckout] at goes
  by_cases safe : isSafePath makefile = true
  · simp only [safe, Bool.not_true] at goes
    rcases goes_bind_iff.1 goes with ⟨destination, middle, staged, later, handed, rest, rfl⟩ |
      ⟨error, handed, rfl⟩
    · obtain ⟨answer, said, rfl, checked⟩ := goes_ask_bind_iff.1 rest
      cases answer with
      | error error =>
        obtain ⟨rfl, rfl, rfl⟩ := goes_fail_iff.1 checked
        exact .made safe (handsOut_of_goes handed) (.failed error)
      | ok root =>
        obtain ⟨⟨reply, rfl⟩, same⟩ := goes_readRequired checked
        rw [same]
        exact .made safe (handsOut_of_goes handed) (.read root reply result)
    · exact .refused safe (handsOut_of_goes handed)
  · rw [Bool.not_eq_true] at safe
    simp only [safe, Bool.not_false] at goes
    obtain ⟨rfl, rfl, rfl⟩ := goes_fail_iff.1 goes
    exact .leaving safe

/-! ## Courses -/

/-- The courses that the requests of a run may take, from a state of the staging area to another
one.  The first checkout is preceded by the request for their directory, and where that is refused
the run is not whole: it ends there. -/
inductive Course : Staging → List Exchange → Bool → Staging → Prop
  | done (staging : Staging) (whole : Bool) : Course staging [] whole staging
  | read {staging last : Staging} {call : Exchange} {log : List Exchange} {whole : Bool}
      (reads : call.request.isReading = true) (rest : Course staging log whole last) :
      Course staging (call :: log) whole last
  | first {directory : String} {k : Nat} {download : Download} {answer : Except FetchError String}
      {log : List Exchange} {whole : Bool} {last : Staging}
      (rest : Course ⟨some directory, k + 1⟩ log whole last) :
      Course ⟨none, k⟩ (⟨.stagingDirectory, .ok directory⟩ ::
        ⟨.checkout download (checkoutPath directory k), answer⟩ :: log) whole last
  | again {directory : String} {k : Nat} {download : Download} {answer : Except FetchError String}
      {log : List Exchange} {whole : Bool} {last : Staging}
      (rest : Course ⟨some directory, k + 1⟩ log whole last) :
      Course ⟨some directory, k⟩
        (⟨.checkout download (checkoutPath directory k), answer⟩ :: log) whole last
  | refused (message : String) (k : Nat) :
      Course ⟨none, k⟩ [⟨.stagingDirectory, .error message⟩] false ⟨none, k⟩

theorem course_of_reading {staging : Staging} {whole : Bool} (reading : AllReading log) :
    Course staging log whole staging := by
  induction log with
  | nil => exact .done _ _
  | cons call rest ih =>
    obtain ⟨reads, later⟩ := List.forall_mem_cons.1 reading
    exact .read reads (ih later)

/-- **Courses follow each other**, as long as they are whole. -/
theorem Course.append {staging middle last : Staging} {said later : List Exchange} {whole : Bool}
    (h : Course staging said true middle) (h' : Course middle later whole last) :
    Course staging (said ++ later) whole last := by
  generalize goesOn : true = open_ at h
  induction h with
  | done => exact h'
  | read reads _ ih => exact .read reads (ih h' goesOn)
  | first _ ih => exact .first (ih h' goesOn)
  | again _ ih => exact .again (ih h' goesOn)
  | refused => cases goesOn

theorem ChecksOut.exists_log {makefile destination : String} {download : Download}
    {result : Except ResolveError Found}
    (h : ChecksOut makefile download destination log result) :
    ∃ answer later, log = ⟨.checkout download destination, answer⟩ :: later ∧
      AllReading later := by
  cases h with
  | failed error => exact ⟨_, [], rfl, List.forall_mem_nil _⟩
  | read root reply => exact ⟨_, _, rfl, List.forall_mem_singleton.2 rfl⟩

theorem FollowsCheckout.course {makefile : String} {download : Download} {staging last : Staging}
    {result : Except ResolveError Found}
    (h : FollowsCheckout makefile download staging log result last) :
    Course staging log result.isOk last := by
  cases h with
  | leaving => exact .done _ _
  | refused _ handed =>
    cases handed with
    | refused message k => exact .refused message k
  | made _ handed checked =>
    obtain ⟨answer, reads, rfl, reading⟩ := checked.exists_log
    cases handed with
    | again directory k => exact .again (course_of_reading reading)
    | first directory k => exact .first (course_of_reading reading)

/-- The file that is wanted of the checkout is below its root, or nothing is asked for. -/
theorem FollowsCheckout.safe_or_leaves {makefile : String} {download : Download}
    {staging last : Staging} {result : Except ResolveError Found}
    (h : FollowsCheckout makefile download staging log result last) :
    isSafePath makefile = true ∨ isSafePath makefile = false ∧ log = [] ∧
      result = .error (.unsafeInclude (Reference.checkout makefile download).text) := by
  cases h with
  | leaving leaves => exact .inr ⟨leaves, rfl, rfl⟩
  | refused safe => exact .inl safe
  | made safe => exact .inl safe

/-- The directory of the checkouts is asked for first, if it is. -/
theorem FollowsCheckout.not_staging_of_mem_tail {makefile : String} {download : Download}
    {staging last : Staging} {result : Except ResolveError Found}
    (h : FollowsCheckout makefile download staging log result last) :
    ∀ call ∈ log.tail, call.request ≠ .stagingDirectory := by
  cases h with
  | leaving => exact List.forall_mem_nil _
  | refused _ handed =>
    cases handed with
    | refused message k => exact List.forall_mem_nil _
  | made _ handed checked =>
    obtain ⟨answer, reads, rfl, reading⟩ := checked.exists_log
    have later : ∀ call ∈ reads, call.request ≠ .stagingDirectory := fun call member =>
      Request.ne_stagingDirectory_of_isReading (reading call member)
    cases handed with
    | again directory k => exact later
    | first directory k => exact List.forall_mem_cons.2 ⟨nofun, later⟩

/-- **Following a reference takes a course.** -/
theorem course_locate {includer : Location} {reference : Reference}
    {result : Except ResolveError Found}
    (goes : Goes before (locate includer reference) log result after) :
    Course before.staging log result.isOk after.staging := by
  cases reference with
  | plain path =>
    obtain ⟨reading, same⟩ := readsOnly_locatePath path includer _ _ _ _ goes
    rw [same]
    exact course_of_reading reading
  | checkout makefile download => exact (followsCheckout_of_goes goes).course

namespace Course

variable {directory : String} {k : Nat} {whole : Bool} {last : Staging}

/-- **With a directory for them, the checkouts go into it one by one**, and no other directory is
asked for. -/
theorem destinations_of_directory (h : Course ⟨some directory, k⟩ log whole last) :
    destinations log =
        (List.range' k (destinations log).length).map (checkoutPath directory) ∧
      (∀ call ∈ log, call.request ≠ .stagingDirectory) ∧ last.directory = some directory := by
  generalize start : (⟨some directory, k⟩ : Staging) = staging at h
  induction h generalizing k with
  | done =>
    subst start
    exact ⟨rfl, List.forall_mem_nil _, rfl⟩
  | @read _ _ call log _ reads _ ih =>
    obtain ⟨paths, only, kept⟩ := ih start
    have here : destinations (call :: log) = destinations log :=
      List.filterMap_cons_none (Request.destination?_of_isReading reads)
    have other := Request.ne_stagingDirectory_of_isReading reads
    refine ⟨?_, List.forall_mem_cons.2 ⟨other, only⟩, kept⟩
    rwa [here]
  | first => cases start
  | @again _ k download answer log _ _ _ ih =>
    cases start
    obtain ⟨paths, only, kept⟩ := ih rfl
    refine ⟨?_, List.forall_mem_cons.2 ⟨nofun, only⟩, kept⟩
    have here : destinations (⟨.checkout download (checkoutPath directory k), answer⟩ :: log) =
        checkoutPath directory k :: destinations log := List.filterMap_cons_some rfl
    rw [here, List.length_cons, List.range'_succ, List.map_cons, ← paths]
  | refused => cases start

/-- Without a directory there is nothing but reading, up to where one is asked for. -/
theorem unstaged (h : Course ⟨none, k⟩ log whole last) :
    ∃ said rest, log = said ++ rest ∧ AllReading said ∧
      ((rest = [] ∧ last.directory = none) ∨
      (∃ message, rest = [⟨.stagingDirectory, .error message⟩] ∧ whole = false) ∨
      ∃ directory download answer later,
        rest = ⟨.stagingDirectory, .ok directory⟩ ::
          ⟨.checkout download (checkoutPath directory k), answer⟩ :: later ∧
        Course ⟨some directory, k + 1⟩ later whole last) := by
  generalize start : (⟨none, k⟩ : Staging) = staging at h
  induction h with
  | done =>
    subst start
    exact ⟨[], [], rfl, List.forall_mem_nil _, .inl ⟨rfl, rfl⟩⟩
  | read reads _ ih =>
    obtain ⟨said, rest, rfl, reading, tail⟩ := ih start
    exact ⟨_ :: said, rest, rfl, List.forall_mem_cons.2 ⟨reads, reading⟩, tail⟩
  | @first directory _ download answer log _ _ rest =>
    cases start
    exact ⟨[], _, rfl, List.forall_mem_nil _, .inr (.inr ⟨_, _, _, _, rfl, rest⟩)⟩
  | again => cases start
  | refused message k =>
    exact ⟨[], _, rfl, List.forall_mem_nil _, .inr (.inl ⟨message, rfl, rfl⟩)⟩

theorem countP_staging_of_forall_ne {log : List Exchange}
    (other : ∀ call ∈ log, call.request ≠ .stagingDirectory) :
    log.countP (fun call => call.request = .stagingDirectory) = 0 :=
  List.countP_eq_zero.2 fun call member => by simpa using other call member

/-- **From the start of a run**: the directory of the checkouts is asked for at most once, the
checkouts go into it one by one, and it is there in the end if a checkout was made. -/
theorem destinations_of_run (h : Course {} log whole last) :
    ∃ directory,
      destinations log =
        (List.range (destinations log).length).map (checkoutPath directory) ∧
      (destinations log ≠ [] → ⟨.stagingDirectory, .ok directory⟩ ∈ log) ∧
      log.countP (fun call => call.request = .stagingDirectory) ≤ 1 ∧
      (whole = true → last.directory = if destinations log = [] then none else some directory) := by
  obtain ⟨said, rest, rfl, reading, tail⟩ := h.unstaged
  have nothing : said.countP (fun call => call.request = .stagingDirectory) = 0 :=
    countP_staging_of_forall_ne fun call member =>
      Request.ne_stagingDirectory_of_isReading (reading call member)
  have later : destinations (said ++ rest) = destinations rest := by
    rw [destinations, List.filterMap_append]
    exact congrArg (· ++ destinations rest) reading.destinations
  rw [later, List.countP_append, nothing, Nat.zero_add]
  rcases tail with ⟨rfl, none_⟩ | ⟨message, rfl, stopped⟩ |
    ⟨directory, download, answer, log, rfl, on⟩
  · exact ⟨"", rfl, fun some_ => absurd rfl some_, Nat.zero_le _, fun _ => none_⟩
  · refine ⟨"", rfl, fun some_ => absurd rfl some_, Nat.le_refl _, fun goesOn => ?_⟩
    rw [stopped] at goesOn
    cases goesOn
  · obtain ⟨paths, only, kept⟩ := on.destinations_of_directory
    have all : destinations (⟨.stagingDirectory, .ok directory⟩ ::
        ⟨.checkout download (checkoutPath directory 0), answer⟩ :: log) =
        checkoutPath directory 0 :: destinations log := rfl
    rw [all]
    refine ⟨directory, ?_, fun _ => ?_, ?_, fun _ => ?_⟩
    · rw [List.length_cons, List.range_eq_range', List.range'_succ, List.map_cons, ← paths]
    · exact List.mem_append_right _ List.mem_cons_self
    · have once := countP_staging_of_forall_ne only
      simp [once]
    · rw [if_neg (List.cons_ne_nil _ _), kept]

end Course

end BuildManifest
