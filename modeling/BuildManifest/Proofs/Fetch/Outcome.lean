import BuildManifest.Fetch.Dialogue

/-!
# What a dialogue may end with

A dialogue leaves the outside world open.  `Dialogue.Ends` fixes which answers may be given and
says what the dialogue may then end with.  Nothing asks that one request be answered alike twice,
so that files may change between two looks at them; a world, which does answer alike, is the
special case `ends_answering_iff`.

## What is here

* `Answering` — which answers may be given to a request.
* `World.ofFiles` — the world of some files.
* `Dialogue.Ends` — the values a dialogue may end with.
* `bind_congr_of_ends` — two continuations that agree on what a dialogue may end with make the
  same dialogue.
* `ends_perform` — actions that change a state end a dialogue with something that it may end with.
-/

set_option autoImplicit false

namespace BuildManifest

/-- Which answers may be given to a request. -/
abbrev Answering := (request : Request) → request.Answer → Prop

/-- Every answer may be given. -/
def Answering.any : Answering := fun _ _ => True

/-- The answers of a world. -/
def Answering.of (world : World) : Answering := fun request answer => answer = world request

/-- The answers of actions that change a state: the same request may be answered in several
ways. -/
def Answering.ofActions {σ : Type} (answer : (request : Request) → StateM σ request.Answer) :
    Answering := fun request reply => ∃ world, reply = ((answer request).run world).1

/-- A world of files, in which nothing else is found. -/
def World.ofFiles (files : List (String × String)) : World
  | .localFile path =>
    match files.lookup path with
    | some text => .ok ⟨text, path⟩
    | none => .error (.notFound path)
  | .remoteText url => .error (.notFound url.text)
  | .checkout download _ => .error (.notFound (download.url.getD ""))
  | .stagingDirectory => .error "no place for checkouts"
  | .standardInput => .error .empty

namespace Dialogue

variable {α β : Type}

/-- The dialogue may end with the value, given answers of the given kind. -/
inductive Ends (may : Answering) : Dialogue α → α → Prop
  | done (value : α) : Ends may (.done value) value
  | ask {request : Request} {next : request.Answer → Dialogue α} {value : α}
      (answer : request.Answer) (given : may request answer) (rest : Ends may (next answer) value) :
      Ends may (.ask request next) value
  | warn {warning : Warning} {next : Dialogue α} {value : α} (rest : Ends may next value) :
      Ends may (.warn warning next) value

theorem ends_done_iff {may : Answering} {value result : α} :
    Ends may (.done value) result ↔ result = value := by
  constructor
  · rintro ⟨⟩
    rfl
  · rintro rfl
    exact .done _

/-- **What a sequence of two dialogues may end with.** -/
theorem ends_bind_iff {may : Answering} {first : Dialogue α} {f : α → Dialogue β} {result : β} :
    Ends may (first.bind f) result ↔ ∃ value, Ends may first value ∧ Ends may (f value) result := by
  induction first with
  | done value =>
    constructor
    · intro h
      exact ⟨value, .done _, h⟩
    · rintro ⟨_, ⟨⟩, h⟩
      exact h
  | ask request next ih =>
    constructor
    · rintro ⟨⟩
      rename_i answer given rest
      obtain ⟨value, h, after⟩ := (ih answer).1 rest
      exact ⟨value, .ask answer given h, after⟩
    · rintro ⟨value, ⟨⟩, after⟩
      rename_i answer given rest
      exact .ask answer given ((ih answer).2 ⟨value, rest, after⟩)
  | warn warning next ih =>
    constructor
    · rintro ⟨⟩
      rename_i rest
      obtain ⟨value, h, after⟩ := ih.1 rest
      exact ⟨value, .warn h, after⟩
    · rintro ⟨value, ⟨⟩, after⟩
      rename_i rest
      exact .warn (ih.2 ⟨value, rest, after⟩)

theorem ends_request_iff {may : Answering} {r : Request} {answer : r.Answer} :
    Ends may (request r) answer ↔ may r answer := by
  constructor
  · rintro ⟨⟩
    rename_i given rest
    rcases ends_done_iff.1 rest with rfl
    exact given
  · intro given
    exact .ask answer given (.done answer)

theorem ends_warnings (may : Answering) (list : List Warning) : Ends may (warnings list) () := by
  induction list with
  | nil => exact .done ()
  | cons first rest ih => exact .warn ih

/-- **In a world a dialogue ends with the value of its transcript, and nothing else.** -/
theorem ends_answering_iff {world : World} {dialogue : Dialogue α} {value : α} :
    Ends (.of world) dialogue value ↔ value = (dialogue.run world).value := by
  induction dialogue with
  | done value => exact ends_done_iff
  | ask request next ih =>
    constructor
    · rintro ⟨⟩
      rename_i answer given rest
      rcases given with rfl
      exact (ih _).1 rest
    · intro h
      exact .ask (world request) rfl ((ih _).2 h)
  | warn warning next ih =>
    constructor
    · rintro ⟨⟩
      rename_i rest
      exact ih.1 rest
    · intro h
      exact .warn (ih.2 h)

/-- Two ways to go on that agree on every possible end are one dialogue. -/
theorem bind_congr_of_ends {first : Dialogue α} {f g : α → Dialogue β}
    (h : ∀ value, Ends .any first value → f value = g value) : first.bind f = first.bind g := by
  induction first with
  | done value => exact h value (.done value)
  | ask request next ih =>
    have go (answer : request.Answer) : (next answer).bind f = (next answer).bind g :=
      ih answer fun value ends => h value (.ask answer trivial ends)
    simp only [bind, go]
  | warn warning rest ih =>
    have go : rest.bind f = rest.bind g := ih fun value ends => h value (.warn ends)
    simp only [bind, go]

/-! ## Answers from actions -/

theorem perform_bind {m : Type → Type} [Monad m] [LawfulMonad m]
    (answer : (request : Request) → m request.Answer) (hear : Warning → m Unit)
    (first : Dialogue α) (f : α → Dialogue β) :
    (first.bind f).perform answer hear =
      first.perform answer hear >>= fun value => (f value).perform answer hear := by
  induction first with
  | done value => simp [bind, perform]
  | ask request next ih => simp [bind, perform, ih]
  | warn warning rest ih => simp [bind, perform, ih]

/-- **Actions end a dialogue** with something that it may end with, given their answers. -/
theorem ends_perform {σ : Type} (answer : (request : Request) → StateM σ request.Answer)
    (hear : Warning → StateM σ Unit) (dialogue : Dialogue α) (world : σ) :
    Ends (.ofActions answer) dialogue ((dialogue.perform answer hear).run world).1 := by
  induction dialogue generalizing world with
  | done value => exact .done value
  | ask request next ih => exact .ask _ ⟨world, rfl⟩ (ih _ _)
  | warn warning rest ih => exact .warn (ih _)

end Dialogue

end BuildManifest
