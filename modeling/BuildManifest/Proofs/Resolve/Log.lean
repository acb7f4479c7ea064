import BuildManifest.Proofs.Resolve.Fetchers

/-!
# What is said in a loading

A loading asks and is answered, and what it comes to depends on all that was said.  Here the
requests and their answers are written down in order, so that a value can be held against the
answers it was made from.

## What is here

* `Dialogue.Goes`, `Load.Goes` — the dialogue, or the loading, may end so after these exchanges.
* `goes_bind_iff` — **what is said in a sequence is said in its parts**, one after the other.
* `Dialogue.After`, `Load.ComesTo` — what remains after some exchanges, and the call that is then to
  be made.
* `Fetcher.transcript`, `goes_transcript` — what is said with a fetcher.
-/

set_option autoImplicit false

namespace BuildManifest

namespace Dialogue

variable {α β : Type} {log : List Exchange} {value : α}

/-- The dialogue may end with the value after these exchanges. -/
inductive Goes : Dialogue α → List Exchange → α → Prop
  | done (value : α) : Goes (.done value) [] value
  | ask {request : Request} {next : request.Answer → Dialogue α} {log : List Exchange} {value : α}
      (answer : request.Answer) (rest : Goes (next answer) log value) :
      Goes (.ask request next) (⟨request, answer⟩ :: log) value
  | warn {warning : Warning} {next : Dialogue α} {log : List Exchange} {value : α}
      (rest : Goes next log value) : Goes (.warn warning next) log value

theorem goes_done_iff {result : α} : Goes (.done value) log result ↔ log = [] ∧ result = value := by
  constructor
  · rintro ⟨⟩
    exact ⟨rfl, rfl⟩
  · rintro ⟨rfl, rfl⟩
    exact .done _

/-- **What is said in a sequence** is said in its first part and then in what follows. -/
theorem goes_bind_iff {first : Dialogue α} {f : α → Dialogue β} {result : β} :
    Goes (first.bind f) log result ↔ ∃ value before after,
      Goes first before value ∧ Goes (f value) after result ∧ log = before ++ after := by
  induction first generalizing log with
  | done value =>
    constructor
    · intro h
      exact ⟨value, [], log, .done _, h, rfl⟩
    · rintro ⟨_, _, after, ⟨⟩, h, rfl⟩
      exact h
  | ask request next ih =>
    constructor
    · rintro ⟨⟩
      rename_i log answer rest
      obtain ⟨value, before, after, h, goes, rfl⟩ := (ih answer).1 rest
      exact ⟨value, _, after, .ask answer h, goes, rfl⟩
    · rintro ⟨value, _, after, ⟨⟩, goes, rfl⟩
      rename_i before answer rest
      exact .ask answer ((ih answer).2 ⟨value, before, after, rest, goes, rfl⟩)
  | warn warning next ih =>
    constructor
    · rintro ⟨⟩
      rename_i rest
      obtain ⟨value, before, after, h, goes, rfl⟩ := ih.1 rest
      exact ⟨value, before, after, .warn h, goes, rfl⟩
    · rintro ⟨value, before, after, ⟨⟩, goes, rfl⟩
      rename_i rest
      exact .warn (ih.2 ⟨value, before, after, rest, goes, rfl⟩)

theorem goes_request_iff {r : Request} {answer : r.Answer} :
    Goes (request r) log answer ↔ log = [⟨r, answer⟩] := by
  constructor
  · rintro ⟨⟩
    rename_i rest
    obtain ⟨rfl, rfl⟩ := goes_done_iff.1 rest
    rfl
  · rintro rfl
    exact .ask answer (.done answer)

theorem goes_warnings_iff {list : List Warning} {result : Unit} :
    Goes (warnings list) log result ↔ log = [] := by
  induction list with
  | nil => exact goes_done_iff.trans (and_iff_left rfl)
  | cons first rest ih =>
    rw [← ih]
    constructor
    · rintro ⟨⟩
      assumption
    · exact .warn

theorem Ends.mono {may may' : Answering} {dialogue : Dialogue α} (h : dialogue.Ends may value)
    (wider : ∀ request answer, may request answer → may' request answer) :
    dialogue.Ends may' value := by
  induction h with
  | done value => exact .done value
  | ask answer given _ ih => exact .ask answer (wider _ _ given) ih
  | warn _ ih => exact .warn ih

/-- What is said may be said: the answers are those that are written down. -/
theorem Goes.ends {dialogue : Dialogue α} (h : dialogue.Goes log value) :
    dialogue.Ends (fun request answer => ⟨request, answer⟩ ∈ log) value := by
  induction h with
  | done value => exact .done value
  | ask answer _ ih =>
    exact .ask answer List.mem_cons_self (ih.mono fun _ _ => List.mem_cons_of_mem _)
  | warn _ ih => exact .warn ih

/-- What may end so ends so after exchanges that may be. -/
theorem Ends.exists_goes {may : Answering} {dialogue : Dialogue α} (h : dialogue.Ends may value) :
    ∃ log, dialogue.Goes log value ∧ ∀ call ∈ log, may call.request call.answer := by
  induction h with
  | done value => exact ⟨[], .done value, List.forall_mem_nil _⟩
  | ask answer given _ ih =>
    obtain ⟨log, goes, all⟩ := ih
    exact ⟨_, .ask answer goes, List.forall_mem_cons.2 ⟨given, all⟩⟩
  | warn _ ih =>
    obtain ⟨log, goes, all⟩ := ih
    exact ⟨log, .warn goes, all⟩

end Dialogue

namespace Load

variable {α β : Type} {before after : Session} {log : List Exchange}

/-- From session `before` the loading may end with `result` in session `after`, after these
exchanges. -/
def Goes (before : Session) (loading : Load α) (log : List Exchange)
    (result : Except ResolveError α) (after : Session) : Prop :=
  Dialogue.Goes (loading.run before) log (result, after)

theorem goes_pure_iff {value : α} {result : Except ResolveError α} :
    Goes before (pure value) log result after ↔ log = [] ∧ result = .ok value ∧ after = before := by
  rw [Goes, run_pure, Dialogue.goes_done_iff, Prod.mk.injEq]

theorem goes_fail_iff {error : ResolveError} {result : Except ResolveError α} :
    Goes before (fail error) log result after ↔
      log = [] ∧ result = .error error ∧ after = before := by
  rw [Goes, run_fail, Dialogue.goes_done_iff, Prod.mk.injEq]

theorem goes_get_iff {result : Except ResolveError Session} :
    Goes before get log result after ↔ log = [] ∧ result = .ok before ∧ after = before := by
  rw [Goes, run_get, Dialogue.goes_done_iff, Prod.mk.injEq]

theorem goes_set_iff {next : Session} {result : Except ResolveError PUnit} :
    Goes before (set next) log result after ↔ log = [] ∧ result = .ok ⟨⟩ ∧ after = next := by
  rw [Goes, run_set, Dialogue.goes_done_iff, Prod.mk.injEq]

theorem goes_modify_iff {change : Session → Session} {result : Except ResolveError PUnit} :
    Goes before (modify change) log result after ↔
      log = [] ∧ result = .ok ⟨⟩ ∧ after = change before := by
  rw [Goes, run_modify, Dialogue.goes_done_iff, Prod.mk.injEq]

theorem goes_lift_iff {dialogue : Dialogue α} {result : Except ResolveError α} :
    Goes before (liftM dialogue) log result after ↔
      ∃ value, Dialogue.Goes dialogue log value ∧ result = .ok value ∧ after = before := by
  simp only [Goes, run_lift, Dialogue.goes_bind_iff, Dialogue.goes_done_iff, Prod.mk.injEq]
  constructor
  · rintro ⟨value, first, _, goes, ⟨rfl, eq⟩, rfl⟩
    exact ⟨value, by rwa [List.append_nil], eq⟩
  · rintro ⟨value, goes, eq⟩
    exact ⟨value, log, [], goes, ⟨rfl, eq⟩, (List.append_nil _).symm⟩

theorem goes_ask_iff {request : Request} {result : Except ResolveError request.Answer} :
    Goes before (ask request) log result after ↔
      ∃ answer, log = [⟨request, answer⟩] ∧ result = .ok answer ∧ after = before := by
  simp only [ask, goes_lift_iff, Dialogue.goes_request_iff]

theorem goes_warnings_iff {list : List Warning} {result : Except ResolveError Unit} :
    Goes before (liftM (Dialogue.warnings list)) log result after ↔
      log = [] ∧ result = .ok () ∧ after = before := by
  rw [goes_lift_iff]
  constructor
  · rintro ⟨value, goes, eq⟩
    exact ⟨Dialogue.goes_warnings_iff.1 goes, eq⟩
  · rintro ⟨none_, eq⟩
    exact ⟨(), Dialogue.goes_warnings_iff.2 none_, eq⟩

/-- **A sequence ends with its first error, or goes on from the session of its first part.** -/
theorem goes_bind_iff {first : Load α} {f : α → Load β} {result : Except ResolveError β} :
    Goes before (first >>= f) log result after ↔
      (∃ value middle said later, Goes before first said (.ok value) middle ∧
        Goes middle (f value) later result after ∧ log = said ++ later) ∨
      ∃ error, Goes before first log (.error error) after ∧ result = .error error := by
  rw [Goes, run_bind, Dialogue.goes_bind_iff]
  constructor
  · rintro ⟨⟨reached, middle⟩, said, later, h, rest, rfl⟩
    cases reached with
    | ok value => exact .inl ⟨value, middle, said, later, h, rest, rfl⟩
    | error error =>
      obtain ⟨rfl, eq⟩ := Dialogue.goes_done_iff.1 rest
      obtain ⟨rfl, rfl⟩ := Prod.mk.inj eq
      exact .inr ⟨error, by rwa [List.append_nil], rfl⟩
  · rintro (⟨value, middle, said, later, h, rest, rfl⟩ | ⟨error, h, rfl⟩)
    · exact ⟨(.ok value, middle), said, later, h, rest, rfl⟩
    · exact ⟨(.error error, after), log, [], h, .done _, (List.append_nil _).symm⟩

theorem goes_get_bind_iff {f : Session → Load β} {result : Except ResolveError β} :
    Goes before (get >>= f) log result after ↔ Goes before (f before) log result after := by
  rw [Goes, run_bind, run_get]
  rfl

theorem goes_set_bind_iff {next : Session} {f : PUnit → Load β} {result : Except ResolveError β} :
    Goes before (set next >>= f) log result after ↔ Goes next (f ⟨⟩) log result after := by
  rw [Goes, run_bind, run_set]
  rfl

/-- What is asked first is said first. -/
theorem goes_ask_bind_iff {request : Request} {f : request.Answer → Load β}
    {result : Except ResolveError β} : Goes before (ask request >>= f) log result after ↔
      ∃ answer later, log = ⟨request, answer⟩ :: later ∧
        Goes before (f answer) later result after := by
  rw [goes_bind_iff]
  constructor
  · rintro (⟨value, middle, said, later, asked, rest, rfl⟩ | ⟨error, asked, rfl⟩)
    · obtain ⟨answer, rfl, eq, rfl⟩ := goes_ask_iff.1 asked
      cases eq
      exact ⟨_, later, rfl, rest⟩
    · obtain ⟨answer, -, eq, -⟩ := goes_ask_iff.1 asked
      cases eq
  · rintro ⟨answer, later, rfl, rest⟩
    exact .inl ⟨answer, before, [⟨request, answer⟩], later, goes_ask_iff.2 ⟨answer, rfl, rfl, rfl⟩,
      rest, rfl⟩

end Load

/-! ## What remains -/

namespace Dialogue

variable {α β : Type} {log said later : List Exchange} {value : α}

/-- After these exchanges the second dialogue remains of the first one. -/
inductive After : Dialogue α → List Exchange → Dialogue α → Prop
  | here (dialogue : Dialogue α) : After dialogue [] dialogue
  | ask {request : Request} {next : request.Answer → Dialogue α} {log : List Exchange}
      {remains : Dialogue α} (answer : request.Answer) (rest : After (next answer) log remains) :
      After (.ask request next) (⟨request, answer⟩ :: log) remains
  | warn {warning : Warning} {next remains : Dialogue α} {log : List Exchange}
      (rest : After next log remains) : After (.warn warning next) log remains

theorem After.bind {dialogue remains : Dialogue α} (h : After dialogue log remains)
    (f : α → Dialogue β) : After (dialogue.bind f) log (remains.bind f) := by
  induction h with
  | here dialogue => exact .here _
  | ask answer _ ih => exact .ask answer ih
  | warn _ ih => exact .warn ih

/-- Once the first part of a sequence has ended, what remains is the rest. -/
theorem Goes.after_bind {first : Dialogue α} {f : α → Dialogue β} {remains : Dialogue β}
    (h : Goes first said value) (h' : After (f value) later remains) :
    After (first.bind f) (said ++ later) remains := by
  induction h with
  | done value => exact h'
  | ask answer _ ih => exact .ask answer (ih h')
  | warn _ ih => exact .warn (ih h')

end Dialogue

namespace Load

variable {α β γ : Type} {before middle last : Session} {said later : List Exchange}
  {call : Load γ}

/-- After these exchanges the loading comes to the call: what remains is to make it, in session
`middle`, and then something else. -/
def ComesTo (before : Session) (loading : Load α) (said : List Exchange) (middle : Session)
    (call : Load γ) : Prop :=
  ∃ next, Dialogue.After (loading.run before) said ((call.run middle).bind next)

theorem comesTo_self (loading : Load α) (before : Session) :
    ComesTo before loading [] before loading :=
  ⟨.done, by
    rw [Dialogue.bind_done]
    exact .here _⟩

/-- A sequence comes to what its first part comes to. -/
theorem ComesTo.bind {first : Load α} (h : ComesTo before first said middle call)
    (f : α → Load β) : ComesTo before (first >>= f) said middle call := by
  obtain ⟨next, after⟩ := h
  refine ⟨fun outcome => (next outcome).bind (resume f), ?_⟩
  rw [run_bind, ← Dialogue.bind_assoc]
  exact after.bind _

/-- A sequence comes to what the rest of it comes to, once its first part has ended. -/
theorem Goes.comesTo {first : Load α} {f : α → Load β} {value : α}
    (goes : Goes before first said (.ok value) middle)
    (h : ComesTo middle (f value) later last call) :
    ComesTo before (first >>= f) (said ++ later) last call := by
  obtain ⟨next, after⟩ := h
  refine ⟨next, ?_⟩
  rw [run_bind]
  exact Dialogue.Goes.after_bind goes after

end Load

/-! ## With a fetcher -/

namespace Fetcher

variable {σ α : Type}

/-- What is said in a dialogue when the fetcher answers, starting from a state of it. -/
def transcript (fetcher : Fetcher σ) : Dialogue α → StateM σ (Transcript α)
  | .done value => pure { value }
  | .ask request next => do
    let reply ← fetcher.answer request
    let rest ← fetcher.transcript (next reply)
    return { rest with exchanges := ⟨request, reply⟩ :: rest.exchanges }
  | .warn warning rest => do
    fetcher.hear warning
    let rest ← fetcher.transcript rest
    return { rest with warnings := warning :: rest.warnings }

/-- The transcript ends with the value that comes of the dialogue. -/
theorem value_transcript (fetcher : Fetcher σ) (dialogue : Dialogue α) :
    Transcript.value <$> fetcher.transcript dialogue =
      dialogue.perform fetcher.answer fetcher.hear := by
  induction dialogue with
  | done value => rfl
  | ask request next ih => simp [transcript, Dialogue.perform, ← ih]
  | warn warning rest ih => simp [transcript, Dialogue.perform, ← ih]

/-- **What is said with a fetcher is what may be said.** -/
theorem goes_transcript (fetcher : Fetcher σ) (dialogue : Dialogue α) (world : σ) :
    dialogue.Goes ((fetcher.transcript dialogue).run world).1.exchanges
      ((fetcher.transcript dialogue).run world).1.value := by
  induction dialogue generalizing world with
  | done value => exact .done value
  | ask request next ih => exact .ask _ (ih _ _)
  | warn warning rest ih => exact .warn (ih _)

end Fetcher

end BuildManifest
