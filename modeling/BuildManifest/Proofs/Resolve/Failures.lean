import BuildManifest.Proofs.Resolve.Calls
import BuildManifest.Proofs.Resolve.Candid
import BuildManifest.Resolve.Basic

/-!
# What becomes of answers that are errors

No failure is swallowed.  Reading the source and making a checkout must succeed, and so must
reading a file or a page, unless it does not exist.  The first answer that is another error is the
last one, and it is what the loading comes to.

## What is here

* `Lost` — a reference of a manifest that was read leads nowhere.
* `candid_loadStep`, `candid_loadTree` — **loading is candid**.
* `Source.Reads` — what reading a source says and comes to.
* `failures_of_load` — **the failures of a loading are those it tells of**.
-/

set_option autoImplicit false

namespace BuildManifest

open Load

/-! ## Following references -/

namespace Load

variable {α β : Type} {lost : List Exchange → String → Prop}

/-- What is lost after some exchanges is lost after more of them. -/
def Lasting (lost : List Exchange → String → Prop) : Prop :=
  ∀ said log shown, lost log shown → lost (said ++ log) shown

/-- **A sequence is candid if its parts are**, each of them by itself. -/
theorem candid_seq {first : Load α} {f : α → Load β} (lasting : Lasting lost)
    (h : Candid (fun _ _ => True) lost first)
    (h' : ∀ before log value after, Goes before first log (.ok value) after →
      Candid (fun _ _ => True) lost (f value)) :
    Candid (fun _ _ => True) lost (first >>= f) :=
  candid_bind h fun before log value after goes _ =>
    (h' before log value after goes).mono (fun _ _ _ => trivial) (lasting log)

theorem candid_map {loading : Load α} (f : α → β) (lasting : Lasting lost)
    (h : Candid (fun _ _ => True) lost loading) :
    Candid (fun _ _ => True) lost (f <$> loading) := by
  rw [map_eq_pure_bind]
  exact candid_seq lasting h fun _ _ _ _ _ => candid_pure trivial

theorem candid_loadAll {load : Reference → Load α} {list : List Reference}
    (lasting : Lasting lost)
    (h : ∀ reference ∈ list, Candid (fun _ _ => True) lost (load reference)) :
    Candid (fun _ _ => True) lost (loadAll load list) := by
  induction list with
  | nil => exact candid_pure trivial
  | cons reference rest ih =>
    refine candid_seq lasting (h reference List.mem_cons_self) fun _ _ _ _ _ => ?_
    refine candid_seq lasting (ih fun other member => h other (List.mem_cons_of_mem _ member)) ?_
    exact fun _ _ _ _ _ => candid_pure trivial

theorem candid_referencesOf (location : Location) (value : Tree) :
    Candid (fun _ _ => True) lost (referencesOf location value) := by
  rw [referencesOf]
  split
  · exact candid_pure trivial
  · exact candid_fail allPassed_nil

theorem candid_followed {load : Reference → Load α} {location : Location} {value : Option Tree}
    (lasting : Lasting lost)
    (h : ∀ reference ∈ referencesIn value, Candid (fun _ _ => True) lost (load reference)) :
    Candid (fun _ _ => True) lost (followed load location value) := by
  cases value with
  | none => exact candid_pure trivial
  | some value =>
    refine candid_seq lasting (candid_referencesOf _ _) fun _ _ list _ goes => ?_
    have read : Manifest.readReferences value = .ok list :=
      (flat_referencesOf location value _ _ _ goes.ends).2
    rw [referencesIn_eq read] at h
    exact candid_map some lasting (candid_loadAll lasting h)

end Load

/-! ## Loading manifests -/

/-- A manifest that was read, one of the known ones or one that was delivered, has a reference
with this text that was looked for everywhere. -/
def Lost (known : Found → Prop) (log : List Exchange) (shown : String) : Prop :=
  ∃ found read reference, (known found ∨ ∃ call ∈ log, call.found? = some found) ∧
    parseDetected found.1 = .ok read ∧ reference ∈ references read.1.normalize ∧
    reference.Missing found.2 log shown

theorem lasting_lost (known : Found → Prop) : Lasting (Lost known) := by
  rintro said log shown ⟨found, read, reference, origin, parsed, member, text, exhausted⟩
  refine ⟨found, read, reference, origin.imp_right ?_, parsed, member, text, exhausted.after said⟩
  rintro ⟨call, inside, delivered⟩
  exact ⟨call, List.mem_append_right _ inside, delivered⟩

/-- What is lost from a manifest that is known, or was delivered, is lost from what is known. -/
theorem Lost.of_origin {known : Found → Prop} {one : Found} {said log : List Exchange}
    {shown : String} (given : known one ∨ ∃ call ∈ said, call.found? = some one)
    (h : Lost (· = one) log shown) : Lost known (said ++ log) shown := by
  obtain ⟨found, read, reference, origin, parsed, member, text, exhausted⟩ := h
  refine ⟨found, read, reference, ?_, parsed, member, text, exhausted.after said⟩
  rcases origin with rfl | ⟨call, inside, delivered⟩
  · refine given.imp_right fun ⟨call, inside, delivered⟩ => ?_
    exact ⟨call, List.mem_append_left _ inside, delivered⟩
  · exact .inr ⟨call, List.mem_append_right _ inside, delivered⟩

/-- What is relied on of the calls: they tell what was said. -/
def AllCandid (load : String → Location → Load (Tree × Dialect)) : Prop :=
  ∀ text location, Candid (fun _ _ => True) (Lost (· = (text, location))) (load text location)

section

variable {load : String → Location → Load (Tree × Dialect)} {policy : OverridePolicy}

theorem candid_loadReference {text : String} {location : Location} {read : Tree × Dialect}
    {reference : Reference} (candid : AllCandid load) (parsed : parseDetected text = .ok read)
    (member : reference ∈ references read.1.normalize) :
    Candid (fun _ _ => True) (Lost (· = (text, location)))
      (loadReference load location reference) := by
  have lost (log : List Exchange) (shown : String)
      (missing : reference.Missing location log shown) :
      Lost (· = (text, location)) log shown :=
    ⟨_, read, reference, .inl rfl, parsed, member, missing⟩
  have located := (candid_locate location reference).mono (fun _ _ given => given) lost
  refine candid_bind located fun _ said found _ _ given => ?_
  refine candid_bind ((candid found.1 found.2).mono (fun _ _ fine => fine) ?_) ?_
  · exact fun log shown lost => lost.of_origin (.inr given)
  · exact fun _ _ _ _ _ _ => candid_pure trivial

theorem candid_loadOverride {text : String} {location : Location} {read : Tree × Dialect}
    {reference : Reference} (candid : AllCandid load) (parsed : parseDetected text = .ok read)
    (member : reference ∈ references read.1.normalize) :
    Candid (fun _ _ => True) (Lost (· = (text, location)))
      (loadOverride (loadReference load location) policy reference) :=
  candid_seq (lasting_lost _) (candid_loadReference candid parsed member) fun _ _ _ _ _ =>
    candid_seq (lasting_lost _) (candid_warnings _) fun _ _ _ _ _ => candid_pure trivial

theorem candid_enter {lost : List Exchange → String → Prop} (location : Location) :
    Candid (fun _ _ => True) lost (enter location) := by
  refine candid_bind candid_get fun _ _ session _ _ _ => ?_
  split
  · exact candid_fail allPassed_nil
  · exact candid_set _

theorem candid_leave {lost : List Exchange → String → Prop} :
    Candid (fun _ _ => True) lost leave := by
  intro before log result after goes
  obtain ⟨rfl, rfl, -⟩ := goes_modify_iff.1 goes
  exact ⟨allPassed_nil, trivial⟩

theorem candid_readTree {lost : List Exchange → String → Prop} (text : String)
    (location : Location) : Candid (fun _ _ => True) lost (readTree text location) := by
  rw [readTree]
  split
  · exact candid_pure trivial
  · exact candid_fail allPassed_nil

/-- **A step is candid if its calls are.** -/
theorem candid_loadStep (honest : Honest .any load) (candid : AllCandid load) :
    AllCandid (loadStep policy load) := by
  intro text location
  have lasting := lasting_lost (· = (text, location))
  rw [loadStep_eq]
  refine candid_seq lasting (candid_enter location) fun _ _ _ _ _ => ?_
  refine candid_seq lasting (candid_readTree text location) fun _ _ read _ goes => ?_
  have parsed : parseDetected text = .ok read := (flat_readTree text location _ _ _ goes.ends).2
  refine candid_seq lasting (candid_followed lasting fun reference member =>
    candid_loadReference candid parsed (List.mem_append_left _ member))
    fun _ _ included _ goes => ?_
  obtain ⟨-, -, consumed⟩ := honest.steady_included location _ _ _ _
    (goes.ends.mono fun _ _ _ => trivial)
  -- what was included has no overrides, so that these are overrides of the manifest itself
  dsimp only
  rw [field?_withIncludes_overrides (rooted_of_parseDetected parsed) consumed]
  refine candid_seq lasting (candid_followed lasting fun reference member =>
    candid_loadOverride candid parsed (List.mem_append_right _ member)) fun _ _ _ _ _ => ?_
  exact candid_seq lasting candid_leave fun _ _ _ _ _ => candid_pure trivial

end

/-- **Loading is candid.** -/
theorem candid_loadTree (policy : OverridePolicy) (nesting : Nat) :
    AllCandid (loadTree policy nesting) := by
  induction nesting with
  | zero => exact fun text location => candid_fail allPassed_nil
  | succ nesting ih => exact candid_loadStep (honest_loadTree policy nesting) ih

/-! ## Reading the source -/

namespace Source

/-- What the text of the source is fetched with, if it is fetched. -/
def request? : Source → Option Request
  | .path file => some (.localFile file)
  | .remote url none => some (.remoteText url)
  | .remote _ (some _) => none
  | .standardInput => none

/-- The manifest that comes with the source. -/
def payload? : Source → Option Found
  | .remote url (some text) => some (text, .remote url)
  | _ => none

/-- The manifests that were read, that of the source first. -/
def manifests (source : Source) (log : List Exchange) : List Found :=
  source.payload?.toList ++ log.filterMap (·.found?)

theorem mem_manifests_iff {source : Source} {log : List Exchange} {found : Found} :
    found ∈ source.manifests log ↔
      source.payload? = some found ∨ ∃ call ∈ log, call.found? = some found := by
  rw [manifests, List.mem_append, List.mem_filterMap, Option.mem_toList]

/-- What reading the source may say, and come to. -/
inductive Reads (source : Source) : List Exchange → Except ResolveError Found → Prop
  | given {found : Found} (own : source.payload? = some found) (none_ : source.request? = none) :
      Reads source [] (.ok found)
  | delivered {call : Exchange} {found : Found} (none_ : source.payload? = none)
      (fine : call.failure? = none) (found_ : call.found? = some found) :
      Reads source [call] (.ok found)
  | failed {call : Exchange} {error : FetchError} (shown : String)
      (failed : call.failure? = some error) :
      Reads source [call] (.error (.fetchFailed shown error))
  | noInput {call : Exchange} (error : InputError) (fine : call.failure? = none) :
      Reads source [call] (.error (.ofInput error))

end Source

/-- **What reading a source says and comes to**: every error of a fetch ends it. -/
theorem reads_of_readSource {source : Source} {before after : Session} {log : List Exchange}
    {result : Except ResolveError Found} (goes : Goes before (readSource source) log result after) :
    source.Reads log result := by
  cases source with
  | path path =>
    obtain ⟨answer, later, rfl, rest⟩ := goes_ask_bind_iff.1 goes
    cases answer with
    | ok file =>
      obtain ⟨rfl, rfl, -⟩ := goes_pure_iff.1 rest
      exact .delivered rfl rfl rfl
    | error error =>
      obtain ⟨rfl, rfl, -⟩ := goes_fail_iff.1 rest
      exact .failed path rfl
  | standardInput =>
    obtain ⟨answer, later, rfl, rest⟩ := goes_ask_bind_iff.1 goes
    cases answer with
    | ok text =>
      obtain ⟨rfl, rfl, -⟩ := goes_pure_iff.1 rest
      exact .delivered rfl rfl rfl
    | error error =>
      obtain ⟨rfl, rfl, -⟩ := goes_fail_iff.1 rest
      exact .noInput error rfl
  | remote url payload =>
    cases payload with
    | some text =>
      obtain ⟨rfl, rfl, -⟩ := goes_pure_iff.1 goes
      exact .given rfl rfl
    | none =>
      obtain ⟨answer, later, rfl, rest⟩ := goes_ask_bind_iff.1 goes
      cases answer with
      | ok text =>
        obtain ⟨rfl, rfl, -⟩ := goes_pure_iff.1 rest
        exact .delivered rfl rfl rfl
      | error error =>
        obtain ⟨rfl, rfl, -⟩ := goes_fail_iff.1 rest
        exact .failed url.text rfl

theorem candid_readSource (source : Source) :
    Candid (fun log found => source.payload? = some found ∨ ∃ call ∈ log, call.found? = some found)
      (Lost (source.payload? = some ·)) (readSource source) := by
  intro before log result after goes
  cases reads_of_readSource goes with
  | given own none_ => exact ⟨allPassed_nil, .inl own⟩
  | delivered _ fine found =>
    refine ⟨List.forall_mem_singleton.2 fun error failed => ?_, .inr ⟨_, List.mem_cons_self, found⟩⟩
    rw [fine] at failed
    cases failed
  | failed shown failed => exact ⟨[], _, rfl, allPassed_nil, failed⟩
  | noInput error fine =>
    have passed : AllPassed [_] := List.forall_mem_singleton.2 fun error failed => by
      rw [fine] at failed
      cases failed
    cases error <;> exact passed

/-- **Loading the manifest of a source is candid.** -/
theorem candid_loadManifest (policy : OverridePolicy) (nesting : Nat) (source : Source) :
    Candid (fun _ _ => True) (Lost (source.payload? = some ·))
      (loadManifest policy nesting source) := by
  refine candid_bind (candid_readSource source) fun _ said found _ _ origin => ?_
  refine candid_bind ((candid_loadTree policy nesting found.1 found.2).mono
    (fun _ _ fine => fine) fun log shown lost => lost.of_origin origin) fun _ _ read _ _ _ => ?_
  dsimp only
  split
  · exact candid_pure trivial
  · exact candid_fail allPassed_nil

/-- What is said in a session of its own is said by the loading. -/
theorem exists_goes_of_staged {α : Type} {keep : Bool} {loading : Load α} {log : List Exchange}
    {reached : Except ResolveError α × Option String}
    (goes : Dialogue.Goes (staged keep loading) log reached) :
    ∃ after, Goes {} loading log reached.1 after ∧
      reached.2 = keptDirectory keep after.staging := by
  obtain ⟨⟨result, last⟩, said, _, run, tail, rfl⟩ := Dialogue.goes_bind_iff.1 goes
  obtain ⟨_, _, _, warned, kept, rfl⟩ := Dialogue.goes_bind_iff.1 tail
  obtain ⟨rfl, rfl⟩ := Dialogue.goes_done_iff.1 kept
  rw [Dialogue.goes_warnings_iff.1 warned, List.append_nil, List.append_nil]
  exact ⟨last, run, rfl⟩

/-- What is said when a manifest is loaded is said by the loading. -/
theorem exists_goes_of_load {options : ResolveOptions} {source : Source} {log : List Exchange}
    {result : Except ResolveError Manifest}
    (goes : Dialogue.Goes (load options source) log result) :
    ∃ after, Goes {} (loadManifest options.policy options.nesting source) log result after := by
  obtain ⟨reached, said, _, run, done, rfl⟩ := Dialogue.goes_bind_iff.1 goes
  obtain ⟨rfl, rfl⟩ := Dialogue.goes_done_iff.1 done
  obtain ⟨after, goes, -⟩ := exists_goes_of_staged run
  rw [List.append_nil]
  exact ⟨after, goes⟩

/-- The source is read first, and only once: whatever error that fetch has is the end. -/
theorem eq_nil_of_first_failed {policy : OverridePolicy} {nesting : Nat} {source : Source}
    {before after : Session} {call : Exchange} {later : List Exchange} {error : FetchError}
    {result : Except ResolveError Manifest} (asked : source.request?.isSome = true)
    (failed : call.failure? = some error)
    (goes : Goes before (loadManifest policy nesting source) (call :: later) result after) :
    later = [] ∧ ∃ shown, result = .error (.fetchFailed shown error) := by
  rcases goes_bind_iff.1 goes with ⟨found, middle, said, rest, read, _, log⟩ | ⟨other, read, rfl⟩
  · cases reads_of_readSource read with
    | given own none_ =>
      rw [none_] at asked
      cases asked
    | delivered _ fine found_ =>
      cases (List.cons.inj log).1
      rw [fine] at failed
      cases failed
  · cases reads_of_readSource read with
    | failed shown failed' =>
      cases failed.symm.trans failed'
      exact ⟨rfl, shown, rfl⟩
    | noInput input fine =>
      rw [fine] at failed
      cases failed

namespace Load

variable {α : Type} {good : List Exchange → α → Prop} {lost : List Exchange → String → Prop}
  {said later : List Exchange} {call : Exchange} {error : FetchError}
  {result : Except ResolveError α}

/-- What is not passed over is said last, and is what the loading comes to. -/
theorem Told.eq_nil_of_failure (told : Told good lost (said ++ call :: later) result)
    (failed : call.failure? = some error)
    (final : error.isNotFound = false ∨ call.request.isCheckout = true) :
    later = [] ∧ ∃ shown, result = .error (.fetchFailed shown error) := by
  have blocked : ¬call.Passed := by
    intro passed
    obtain ⟨read, missing⟩ := passed error failed
    rcases final with final | final
    · exact nomatch final.symm.trans missing
    · exact nomatch final.symm.trans read
  have notAll : ¬AllPassed (said ++ call :: later) := fun all =>
    blocked (all call (List.mem_append_right _ List.mem_cons_self))
  cases result with
  | ok value => exact absurd told.1 notAll
  | error other =>
    cases other with
    | fetchFailed shown other =>
      obtain ⟨first, last, log, passed, failed'⟩ := told
      rcases List.eq_nil_or_concat later with rfl | ⟨rest, one, rfl⟩
      · obtain ⟨rfl, eq⟩ := List.append_inj' log rfl
        cases eq
        cases failed.symm.trans failed'
        exact ⟨rfl, shown, rfl⟩
      · -- the call is among those that were passed over
        have split : (said ++ call :: rest) ++ [one] = first ++ [last] := by
          rw [← log, List.append_assoc, List.cons_append, List.concat_eq_append]
        have front : said ++ call :: rest = first := (List.append_inj' split rfl).1
        exact absurd (passed call (front ▸ List.mem_append_right _ List.mem_cons_self)) blocked
    | missingInclude shown => exact absurd told.1 notAll
    | _ => exact absurd told notAll

end Load

/-- **The failures of a loading are those it tells of.**  A fetch that fails, unless a file or a
page that a manifest refers to is not found, is the last one, and its error is what the loading
comes to.  No other error is told of, and a reference is only said to be missing where it was
looked for everywhere. -/
theorem failures_of_load {σ : Type} (fetcher : Fetcher σ) {options : ResolveOptions}
    {source : Source} {world last : σ} {told : Transcript (Except ResolveError Manifest)}
    (ran : (fetcher.transcript (load options source)).run world = (told, last)) :
    (∀ before call after error, told.exchanges = before ++ call :: after →
      call.failure? = some error →
      error.isNotFound = false ∨ call.request.isCheckout = true ∨
        (before = [] ∧ source.request?.isSome = true) →
      after = [] ∧ ∃ shown, told.value = .error (.fetchFailed shown error)) ∧
    (∀ shown error, told.value = .error (.fetchFailed shown error) →
      ∃ before call, told.exchanges = before ++ [call] ∧ call.failure? = some error) ∧
    ∀ shown, told.value = .error (.missingInclude shown) →
      ∃ found ∈ source.manifests told.exchanges, ∃ read reference,
        parseDetected found.1 = .ok read ∧ reference ∈ references read.1.normalize ∧
        reference.text = shown ∧ reference.Exhausted found.2 told.exchanges := by
  have goes := fetcher.goes_transcript (load options source) world
  rw [ran] at goes
  obtain ⟨after, goes⟩ := exists_goes_of_load goes
  have candid := candid_loadManifest _ _ _ _ _ _ _ goes
  refine ⟨fun before call later error log failed final => ?_, fun shown error eq => ?_,
    fun shown eq => ?_⟩
  · rw [log] at goes candid
    rcases final with missing | made | ⟨rfl, asked⟩
    · exact candid.eq_nil_of_failure failed (.inl missing)
    · exact candid.eq_nil_of_failure failed (.inr made)
    · exact eq_nil_of_first_failed asked failed goes
  · rw [eq] at candid
    obtain ⟨said, call, log, -, failed⟩ := candid
    exact ⟨said, call, log, failed⟩
  · rw [eq] at candid
    obtain ⟨found, read, reference, origin, lost⟩ := candid.2
    exact ⟨found, Source.mem_manifests_iff.2 origin, read, reference, lost⟩

/-- The fetcher of some files one of which may not be read. -/
def Fetcher.denying (files : List (String × String)) (denied : String) : Fetcher Unit where
  answer
    | .localFile path =>
      pure (if path = denied then .error (.io false "denied")
        else World.ofFiles files (.localFile path))
    | request => pure (World.ofFiles files request)
  hear _ := pure ()

/-- A site over a base that is found in the working directory only, with an override. -/
def strayFiles : List (String × String) :=
  [("/m/site", "core = 7\nincludes[] = base\noverrides[] = local\n"), ("base", "api = 2\n")]

theorem failures_of_load_denied : ∃ told last before call shown,
    ((Fetcher.denying strayFiles "/m/local").transcript (load {} (.path "/m/site"))).run () =
      (told, last) ∧
    told.exchanges = before ++ [call] ∧ call.request = .localFile "/m/local" ∧
    before.map (·.request) = [.localFile "/m/site", .localFile "/m/base", .localFile "base"] ∧
    told.value = .error (.fetchFailed shown (.io false "denied")) := by
  obtain ⟨told, ran⟩ : ∃ told, ((Fetcher.denying strayFiles "/m/local").transcript
    (load {} (.path "/m/site"))).run () = (told, ()) := ⟨_, rfl⟩
  have asked : (((Fetcher.denying strayFiles "/m/local").transcript
      (load {} (.path "/m/site"))).run ()).1.exchanges.map (fun call =>
        (call.request, call.failure?)) =
      [(.localFile "/m/site", none), (.localFile "/m/base", some (.notFound "/m/base")),
        (.localFile "base", none), (.localFile "/m/local", some (.io false "denied"))] := by
    decide +kernel
  rw [ran] at asked
  obtain ⟨before, rest, log, read, denied⟩ := List.map_eq_append_iff.1
    (asked.trans (List.take_append_drop 3 _).symm)
  obtain ⟨call, rfl, eq⟩ := List.map_eq_singleton_iff.1 denied
  obtain ⟨request, failed⟩ := Prod.mk.inj eq
  obtain ⟨-, shown, value⟩ := (failures_of_load _ ran).1 before call [] _ log failed (.inl rfl)
  refine ⟨told, (), before, call, shown, ran, log, request, ?_, value⟩
  have read := congrArg (List.map Prod.fst) read
  rwa [List.map_map] at read

end BuildManifest
