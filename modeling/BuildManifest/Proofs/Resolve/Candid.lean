import BuildManifest.Proofs.Resolve.Calls
import BuildManifest.Proofs.Resolve.Log
import BuildManifest.Proofs.Resolve.Transcripts

/-!
# What errors tell

A file or a page that does not exist is looked for elsewhere.  Every other error ends the loading
with just that error, and so does every error of a checkout.

What is proved of a loading is kept by sequences: everything that was said before the end was
passed over, and what the loading comes to tells which answer was not.

## What is here

* `Exchange.Passed`, `Exchange.Missed` — answers that a loading goes on after.
* `pathCandidates`, `Reference.Exhausted` — where a reference is looked for, and in vain.
* `Load.Candid` — what the errors of a loading tell of what was said.
* `candid_locate` — **a reference is found, or looked for everywhere**.
-/

set_option autoImplicit false

namespace BuildManifest

open Load

/-! ## Answers -/

namespace Exchange

/-- The error that a file, a page or a checkout was answered with. -/
def failure? (call : Exchange) : Option FetchError :=
  match call.request, call.answer with
  | .localFile _, .error error => some error
  | .remoteText _, .error error => some error
  | .checkout _ _, .error error => some error
  | _, _ => none

/-- The text that was answered, with its place. -/
def found? (call : Exchange) : Option Found :=
  match call.request, call.answer with
  | .localFile _, .ok file => some (file.text, .file file.path)
  | .remoteText url, .ok text => some (text, .remote url)
  | .standardInput, .ok text => some (text, .standardInput)
  | _, _ => none

/-- What was asked for does not exist. -/
def Missed (call : Exchange) : Prop :=
  call.request.isCheckout = false ∧ ∃ error, call.failure? = some error ∧ error.isNotFound = true

/-- The answer is no error, or tells that a file or a page does not exist. -/
def Passed (call : Exchange) : Prop :=
  ∀ error, call.failure? = some error → call.request.isCheckout = false ∧ error.isNotFound = true

theorem Missed.passed {call : Exchange} (h : call.Missed) : call.Passed := by
  obtain ⟨read, error, failed, missing⟩ := h
  intro other failed'
  cases failed.symm.trans failed'
  exact ⟨read, missing⟩

end Exchange

/-- Every answer was passed over. -/
def AllPassed (log : List Exchange) : Prop := ∀ call ∈ log, call.Passed

theorem allPassed_nil : AllPassed [] := List.forall_mem_nil _

/-! ## Where a reference is looked for -/

/-- What a path stands for relative to the manifest that refers to it. -/
def relativeCandidates (path : String) : Location → List Request
  | .file includer => [.localFile (FilePath.join ((FilePath.parent? includer).getD ".") path)]
  | .remote base => (base.join path).toList.map .remoteText
  | .standardInput => []

/-- Where a path or a URL is looked for, in this order. -/
def pathCandidates (path : String) (includer : Location) : List Request :=
  match Url.remote? path with
  | some url => [.remoteText url]
  | none => relativeCandidates path includer ++ [.localFile path]

/-- In the end the reference was looked for everywhere, in vain. -/
def Reference.Exhausted (includer : Location) (log : List Exchange) : Reference → Prop
  | .plain path => ∃ before calls, log = before ++ calls ∧
      calls.map (·.request) = pathCandidates path includer ∧ ∀ call ∈ calls, call.Missed
  | .checkout makefile download => ∃ before destination root call,
      log = before ++ [⟨.checkout download destination, .ok root⟩, call] ∧
      call.request = .localFile (FilePath.join root makefile) ∧ call.Missed

theorem Reference.Exhausted.after {includer : Location} {log : List Exchange}
    {reference : Reference} (h : reference.Exhausted includer log) (said : List Exchange) :
    reference.Exhausted includer (said ++ log) := by
  cases reference with
  | plain path =>
    obtain ⟨before, calls, rfl, asked, missed⟩ := h
    exact ⟨said ++ before, calls, (List.append_assoc ..).symm, asked, missed⟩
  | checkout makefile download =>
    obtain ⟨before, destination, root, call, rfl, asked, missed⟩ := h
    exact ⟨said ++ before, destination, root, call, (List.append_assoc ..).symm, asked, missed⟩

/-! ## What errors tell -/

namespace Load

variable {α β : Type} {good : List Exchange → α → Prop} {fine : List Exchange → β → Prop}
  {lost : List Exchange → String → Prop} {said log : List Exchange}
  {before after : Session}

/-- What a result tells of what was said: a value is good, the last answer is the error of a fetch
that failed, and a reference that leads nowhere is lost. -/
def Told (good : List Exchange → α → Prop) (lost : List Exchange → String → Prop)
    (log : List Exchange) : Except ResolveError α → Prop
  | .ok value => AllPassed log ∧ good log value
  | .error (.fetchFailed _ error) =>
    ∃ said call, log = said ++ [call] ∧ AllPassed said ∧ call.failure? = some error
  | .error (.missingInclude shown) => AllPassed log ∧ lost log shown
  | .error _ => AllPassed log

/-- The loading tells what was said, whatever it comes to. -/
def Candid (good : List Exchange → α → Prop) (lost : List Exchange → String → Prop)
    (loading : Load α) : Prop :=
  ∀ before log result after, Goes before loading log result after → Told good lost log result

theorem told_after {result : Except ResolveError α} (passed : AllPassed said)
    (h : Told (fun later => good (said ++ later)) (fun later => lost (said ++ later)) log result) :
    Told good lost (said ++ log) result := by
  have all {later : List Exchange} (passed' : AllPassed later) : AllPassed (said ++ later) :=
    List.forall_mem_append.2 ⟨passed, passed'⟩
  cases result with
  | ok value => exact ⟨all h.1, h.2⟩
  | error error =>
    cases error with
    | fetchFailed reference error =>
      obtain ⟨first, call, rfl, passed', failed⟩ := h
      exact ⟨said ++ first, call, (List.append_assoc ..).symm, all passed', failed⟩
    | missingInclude shown => exact ⟨all h.1, h.2⟩
    | _ => exact all h

theorem told_error {error : ResolveError} (h : Told good lost log (.error error)) :
    Told fine lost log (.error error) := by
  cases error <;> exact h

theorem candid_pure {value : α} (h : good [] value) : Candid good lost (pure value) := by
  intro before log result after goes
  obtain ⟨rfl, rfl, -⟩ := goes_pure_iff.1 goes
  exact ⟨allPassed_nil, h⟩

theorem candid_fail {error : ResolveError} (h : Told good lost [] (.error error)) :
    Candid good lost (fail error : Load α) := by
  intro before log result after goes
  obtain ⟨rfl, rfl, -⟩ := goes_fail_iff.1 goes
  exact h

theorem candid_get : Candid (fun _ _ => True) lost (get : Load Session) := by
  intro before log result after goes
  obtain ⟨rfl, rfl, -⟩ := goes_get_iff.1 goes
  exact ⟨allPassed_nil, trivial⟩

theorem candid_set (next : Session) : Candid (fun _ _ => True) lost (set next : Load PUnit) := by
  intro before log result after goes
  obtain ⟨rfl, rfl, -⟩ := goes_set_iff.1 goes
  exact ⟨allPassed_nil, trivial⟩

theorem candid_warnings (list : List Warning) :
    Candid (fun _ _ => True) lost (liftM (Dialogue.warnings list) : Load Unit) := by
  intro before log result after goes
  obtain ⟨rfl, rfl, -⟩ := goes_warnings_iff.1 goes
  exact ⟨allPassed_nil, trivial⟩

/-- A request that is no fetch has no failure that could be passed over. -/
theorem candid_ask {request : Request}
    (other : ∀ answer, (⟨request, answer⟩ : Exchange).failure? = none) :
    Candid (fun log answer => log = [⟨request, answer⟩]) lost (ask request) := by
  intro before log result after goes
  obtain ⟨answer, rfl, rfl, -⟩ := goes_ask_iff.1 goes
  refine ⟨List.forall_mem_singleton.2 fun error failed => ?_, rfl⟩
  rw [other] at failed
  cases failed

/-- **A sequence is candid if its parts are.** -/
theorem candid_bind {first : Load α} {f : α → Load β} (h : Candid good lost first)
    (h' : ∀ before said value middle, Goes before first said (.ok value) middle → good said value →
      Candid (fun later => fine (said ++ later)) (fun later => lost (said ++ later)) (f value)) :
    Candid fine lost (first >>= f) := by
  intro before log result after goes
  rcases goes_bind_iff.1 goes with
    ⟨value, middle, said, later, first, rest, rfl⟩ | ⟨error, first, rfl⟩
  · obtain ⟨passed, given⟩ := h _ _ _ _ first
    exact told_after passed (h' _ _ _ _ first given _ _ _ _ rest)
  · exact told_error (h _ _ _ _ first)

theorem Candid.mono {good' : List Exchange → α → Prop} {lost' : List Exchange → String → Prop}
    {loading : Load α} (h : Candid good lost loading)
    (better : ∀ log value, good log value → good' log value)
    (worse : ∀ log shown, lost log shown → lost' log shown) : Candid good' lost' loading := by
  intro before log result after goes
  have told := h _ _ _ _ goes
  cases result with
  | ok value => exact ⟨told.1, better _ _ told.2⟩
  | error error =>
    cases error with
    | missingInclude shown => exact ⟨told.1, worse _ _ told.2⟩
    | _ => exact told

end Load

/-! ## Looking for what a reference names -/

section

variable {good : List Exchange → Found → Prop} {lost : List Exchange → String → Prop}

/-- These requests were made in vain, or one of them was answered with what was found. -/
def Searched (requests : List Request) (log : List Exchange) (found : Option Found) : Prop :=
  log.map (·.request) = requests ∧ (found = none → ∀ call ∈ log, call.Missed) ∧
    ∀ one, found = some one → ∃ call ∈ log, call.found? = some one

theorem searched_nil : Searched [] [] none := ⟨rfl, fun _ => List.forall_mem_nil _, nofun⟩

/-- A file or a page is read, or does not exist, or ends the loading with its error. -/
theorem candid_look {request : Request} {next : request.Answer → Load (Option Found)}
    (read : request.isCheckout = false)
    (answers : ∀ answer,
      (∃ one, (⟨request, answer⟩ : Exchange).failure? = none ∧
        (⟨request, answer⟩ : Exchange).found? = some one ∧ next answer = pure (some one)) ∨
      ∃ error shown, (⟨request, answer⟩ : Exchange).failure? = some error ∧
        next answer = if error.isNotFound then pure none else fail (.fetchFailed shown error)) :
    Candid (Searched [request]) lost (ask request >>= next) := by
  intro before log result after goes
  obtain ⟨answer, later, rfl, rest⟩ := goes_ask_bind_iff.1 goes
  rcases answers answer with ⟨one, fine, found, eq⟩ | ⟨error, shown, failed, eq⟩
  · rw [eq] at rest
    obtain ⟨rfl, rfl, -⟩ := goes_pure_iff.1 rest
    have passed : (⟨request, answer⟩ : Exchange).Passed := fun error failed => by
      rw [fine] at failed
      cases failed
    refine ⟨List.forall_mem_singleton.2 passed, rfl, nofun, fun other same => ?_⟩
    cases same
    exact ⟨_, List.mem_cons_self, found⟩
  · by_cases missing : error.isNotFound = true
    · rw [eq, if_pos missing] at rest
      obtain ⟨rfl, rfl, -⟩ := goes_pure_iff.1 rest
      have missed : (⟨request, answer⟩ : Exchange).Missed := ⟨read, error, failed, missing⟩
      exact ⟨List.forall_mem_singleton.2 missed.passed, rfl,
        fun _ => List.forall_mem_singleton.2 missed, nofun⟩
    · rw [eq, if_neg missing] at rest
      obtain ⟨rfl, rfl, -⟩ := goes_fail_iff.1 rest
      exact ⟨[], _, rfl, allPassed_nil, failed⟩

theorem candid_readLocal? (path : String) (reference : Reference) :
    Candid (Searched [.localFile path]) lost (readLocal? path reference) :=
  candid_look rfl fun answer =>
    match answer with
    | .ok _ => .inl ⟨_, rfl, rfl, rfl⟩
    | .error _ => .inr ⟨_, _, rfl, rfl⟩

theorem candid_readRemote? (url : Url) (reference : Reference) :
    Candid (Searched [.remoteText url]) lost (readRemote? url reference) :=
  candid_look rfl fun answer =>
    match answer with
    | .ok _ => .inl ⟨_, rfl, rfl, rfl⟩
    | .error _ => .inr ⟨_, _, rfl, rfl⟩

theorem candid_readRelative? (path : String) (reference : Reference) (includer : Location) :
    Candid (Searched (relativeCandidates path includer)) lost
      (readRelative? path reference includer) := by
  cases includer with
  | file from_ => exact candid_readLocal? _ reference
  | remote base =>
    rw [readRelative?, relativeCandidates]
    cases base.join path with
    | some url => exact candid_readRemote? url reference
    | none => exact candid_pure searched_nil
  | standardInput => exact candid_pure searched_nil

theorem Searched.append {first second : List Request} {said later : List Exchange}
    {found : Option Found} (h : Searched first said none) (h' : Searched second later found) :
    Searched (first ++ second) (said ++ later) found := by
  refine ⟨by rw [List.map_append, h.1, h'.1], fun none_ => ?_, fun one eq => ?_⟩
  · exact List.forall_mem_append.2 ⟨h.2.1 rfl, h'.2.1 none_⟩
  · obtain ⟨call, member, given⟩ := h'.2.2 one eq
    exact ⟨call, List.mem_append_right _ member, given⟩

/-- What was searched for is found, or the reference is lost. -/
theorem candid_required {said : List Exchange} {found : Option Found} (shown : String)
    (given : ∀ one, found = some one → ∃ call ∈ said, call.found? = some one)
    (none_ : found = none → lost said shown) :
    Candid (fun later one => ∃ call ∈ said ++ later, call.found? = some one)
      (fun later => lost (said ++ later)) (required shown found) := by
  cases found with
  | none =>
    refine candid_fail ⟨allPassed_nil, ?_⟩
    show lost (said ++ []) shown
    rw [List.append_nil]
    exact none_ rfl
  | some one => exact candid_pure ((List.append_nil said).symm ▸ given one rfl)

/-- The reference has this text, and was looked for everywhere. -/
def Reference.Missing (reference : Reference) (includer : Location) (log : List Exchange)
    (shown : String) : Prop := reference.text = shown ∧ reference.Exhausted includer log

/-- **A path is looked for at every candidate** before it counts as missing. -/
theorem candid_locatePath (path : String) (includer : Location) :
    Candid (fun log found => ∃ call ∈ log, call.found? = some found)
      ((Reference.plain path).Missing includer) (locatePath path includer) := by
  have missing {log : List Exchange} {found : Option Found}
      (searched : Searched (pathCandidates path includer) log found) (none_ : found = none) :
      (Reference.plain path).Missing includer log path :=
    ⟨rfl, [], log, rfl, searched.1, searched.2.1 none_⟩
  rw [locatePath]
  cases remote : Url.remote? path with
  | some url =>
    have candidates : pathCandidates path includer = [.remoteText url] := by
      rw [pathCandidates, remote]
    rw [candidates] at missing
    exact candid_bind (candid_readRemote? _ _) fun _ _ _ _ _ searched =>
      candid_required path searched.2.2 (missing searched)
  | none =>
    have candidates : pathCandidates path includer =
        relativeCandidates path includer ++ [.localFile path] := by rw [pathCandidates, remote]
    rw [candidates] at missing
    refine candid_bind (candid_readRelative? _ _ _) fun _ said found _ _ relative => ?_
    cases found with
    | some one => exact candid_pure ((List.append_nil said).symm ▸ relative.2.2 one rfl)
    | none =>
      refine candid_bind (candid_readLocal? _ _) fun _ later found _ _ searched => ?_
      have all := relative.append searched
      have sought := candid_required path all.2.2 (missing all)
      refine sought.mono (fun log one given => ?_) fun log shown lost => ?_
      · rwa [List.append_assoc] at given
      · rwa [List.append_assoc] at lost

theorem candid_stagingDirectory : Candid (fun _ _ => True) lost stagingDirectory := by
  refine candid_bind candid_get fun _ _ session _ _ _ => ?_
  cases session.staging.directory with
  | some directory => exact candid_pure trivial
  | none =>
    refine candid_bind (candid_ask fun _ => rfl) fun _ _ answer _ _ _ => ?_
    cases answer with
    | error message => exact candid_fail allPassed_nil
    | ok directory => exact candid_bind (candid_set _) fun _ _ _ _ _ _ => candid_pure trivial

theorem candid_nextCheckoutPath : Candid (fun _ _ => True) lost nextCheckoutPath :=
  candid_bind candid_stagingDirectory fun _ _ _ _ _ _ =>
    candid_bind candid_get fun _ _ _ _ _ _ =>
      candid_bind (candid_set _) fun _ _ _ _ _ _ => candid_pure trivial

/-- A checkout is made, or ends the loading with its error. -/
theorem candid_checkout {α : Type} {good : List Exchange → α → Prop} {next : String → Load α}
    (download : Download) (destination shown : String)
    (h : ∀ root, Candid (fun later => good (⟨.checkout download destination, .ok root⟩ :: later))
      (fun later => lost (⟨.checkout download destination, .ok root⟩ :: later)) (next root)) :
    Candid good lost (do
      match ← ask (.checkout download destination) with
      | .error error => fail (.fetchFailed shown error)
      | .ok root => next root) := by
  intro before log result after goes
  obtain ⟨answer, later, rfl, rest⟩ := goes_ask_bind_iff.1 goes
  cases answer with
  | error error =>
    obtain ⟨rfl, rfl, -⟩ := goes_fail_iff.1 rest
    exact ⟨[], _, rfl, allPassed_nil, rfl⟩
  | ok root =>
    have made : AllPassed [⟨.checkout download destination, .ok root⟩] :=
      List.forall_mem_singleton.2 nofun
    exact told_after made (h root _ _ _ _ rest)

/-- **The file of a checkout is looked for** once the checkout is there. -/
theorem candid_locateCheckout (makefile : String) (download : Download) (includer : Location) :
    Candid (fun log found => ∃ call ∈ log, call.found? = some found)
      ((Reference.checkout makefile download).Missing includer)
      (locateCheckout makefile download) := by
  rw [locateCheckout]
  split
  · exact candid_fail allPassed_nil
  · refine candid_bind candid_nextCheckoutPath fun _ said destination _ _ _ => ?_
    refine candid_checkout download destination _ fun root => ?_
    refine candid_bind (candid_readLocal? _ _) fun _ later found _ _ searched => ?_
    let made : Exchange := ⟨.checkout download destination, .ok root⟩
    have given (one : Found) (eq : found = some one) :
        ∃ call ∈ said ++ made :: later, call.found? = some one := by
      obtain ⟨call, member, delivered⟩ := searched.2.2 one eq
      exact ⟨call, List.mem_append_right _ (List.mem_cons_of_mem _ member), delivered⟩
    have missing (none_ : found = none) :
        (Reference.checkout makefile download).Missing includer (said ++ made :: later)
          (Reference.checkout makefile download).text := by
      obtain ⟨call, rfl, asked⟩ := List.map_eq_singleton_iff.1 searched.1
      exact ⟨rfl, said, destination, root, call, rfl, asked,
        searched.2.1 none_ call List.mem_cons_self⟩
    refine (candid_required _ given missing).mono (fun log one given => ?_) fun log shown lost => ?_
    · rwa [List.append_assoc] at given
    · rwa [List.append_assoc] at lost

/-- **A reference is found, or looked for everywhere.** -/
theorem candid_locate (includer : Location) (reference : Reference) :
    Candid (fun log found => ∃ call ∈ log, call.found? = some found) (reference.Missing includer)
      (locate includer reference) := by
  cases reference with
  | plain path => exact candid_locatePath path includer
  | checkout makefile download => exact candid_locateCheckout makefile download includer

end

end BuildManifest
