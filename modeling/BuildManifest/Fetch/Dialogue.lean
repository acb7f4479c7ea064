import BuildManifest.Check.Warning
import BuildManifest.Fetch.Error
import BuildManifest.Fetch.Input
import BuildManifest.Location.Basic

/-!
# Dialogues

Resolving a manifest means asking for other manifests, and what is asked for next depends on the
answers.  A dialogue is such a computation with the outside world left open: a tree of requests
that branches on the answers.  What holds on every branch holds in every world.

## What is here

* `Request`, `Request.Answer` — what is asked for, and what may be answered.
* `Dialogue` — computations that ask and warn, with their monad structure.
* `World`, `Dialogue.run` — a dialogue with given answers, and the transcript of it.
* `Dialogue.perform` — a dialogue with answers from elsewhere.
-/

set_option autoImplicit false

namespace BuildManifest

/-- A file that was read. -/
structure LocalFile where
  /-- Its text. -/
  text : String
  /-- Its canonical path. -/
  path : String
  deriving DecidableEq, Repr

/-- Something to ask the outside world for. -/
inductive Request where
  /-- A file of this machine. -/
  | localFile (path : String)
  /-- The text at a URL. -/
  | remoteText (url : Url)
  /-- A checkout at a path where nothing is yet; the answer is where its files are. -/
  | checkout (download : Download) (destination : String)
  /-- A directory for checkouts. -/
  | stagingDirectory
  /-- The standard input. -/
  | standardInput
  deriving DecidableEq, Repr

/-- What a request may be answered with. -/
def Request.Answer : Request → Type
  | .localFile _ => Except FetchError LocalFile
  | .remoteText _ => Except FetchError String
  | .checkout _ _ => Except FetchError String
  | .stagingDirectory => Except String String
  | .standardInput => Except InputError String

/-- A computation that asks the outside world. -/
inductive Dialogue (α : Type) : Type where
  /-- The end. -/
  | done (value : α)
  /-- A request, and how it goes on with each answer. -/
  | ask (request : Request) (next : request.Answer → Dialogue α)
  /-- A warning, and how it goes on. -/
  | warn (warning : Warning) (rest : Dialogue α)

namespace Dialogue

variable {α β γ : Type}

/-- Go on from the end. -/
def bind (first : Dialogue α) (then_ : α → Dialogue β) : Dialogue β :=
  match first with
  | .done value => then_ value
  | .ask request next => .ask request fun answer => bind (next answer) then_
  | .warn warning rest => .warn warning (bind rest then_)

instance : Monad Dialogue where
  pure := .done
  bind := bind

theorem bind_done (first : Dialogue α) : first.bind .done = first := by
  induction first with
  | done value => rfl
  | ask request next ih => simp only [bind]; congr 1; funext answer; exact ih answer
  | warn warning rest ih => simp only [bind, ih]

theorem bind_assoc (first : Dialogue α) (f : α → Dialogue β) (g : β → Dialogue γ) :
    (first.bind f).bind g = first.bind fun value => (f value).bind g := by
  induction first with
  | done value => rfl
  | ask request next ih => simp only [bind]; congr 1; funext answer; exact ih answer
  | warn warning rest ih => simp only [bind, ih]

instance : LawfulMonad Dialogue :=
  LawfulMonad.mk' Dialogue bind_done (fun _ _ => rfl) bind_assoc

/-- Ask and end with the answer. -/
def request (r : Request) : Dialogue r.Answer := .ask r .done

/-- Warn. -/
def warning (w : Warning) : Dialogue Unit := .warn w (.done ())

/-- Warn of several things in order. -/
def warnings : List Warning → Dialogue Unit
  | [] => .done ()
  | w :: rest => .warn w (warnings rest)

/-! ## Running -/

end Dialogue

/-- Answers to all requests. -/
abbrev World := (request : Request) → request.Answer

/-- A request with its answer. -/
structure Exchange where
  /-- The request. -/
  request : Request
  /-- The answer. -/
  answer : request.Answer

/-- What came of a dialogue. -/
structure Transcript (α : Type) where
  /-- The value it ended with. -/
  value : α
  /-- The requests and answers in order. -/
  exchanges : List Exchange := []
  /-- The warnings in order. -/
  warnings : List Warning := []

namespace Dialogue

variable {α β : Type}

/-- A dialogue with given answers. -/
def run (world : World) : Dialogue α → Transcript α
  | .done value => { value }
  | .ask request next =>
    let rest := run world (next (world request))
    { rest with exchanges := ⟨request, world request⟩ :: rest.exchanges }
  | .warn warning rest =>
    let rest := run world rest
    { rest with warnings := warning :: rest.warnings }

/-- A dialogue whose requests are answered and whose warnings are heard by actions. -/
def perform {m : Type → Type} [Monad m] (answer : (request : Request) → m request.Answer)
    (hear : Warning → m Unit) : Dialogue α → m α
  | .done value => pure value
  | .ask request next => do
    let reply ← answer request
    perform answer hear (next reply)
  | .warn warning rest => do
    hear warning
    perform answer hear rest

/-! ## Small laws -/

theorem run_bind (world : World) (first : Dialogue α) (f : α → Dialogue β) :
    (first.bind f).run world =
      { value := ((f (first.run world).value).run world).value
        exchanges :=
          (first.run world).exchanges ++ ((f (first.run world).value).run world).exchanges
        warnings :=
          (first.run world).warnings ++ ((f (first.run world).value).run world).warnings } := by
  induction first with
  | done value => simp [bind, run]
  | ask request next ih => simp [bind, run, ih]
  | warn warning rest ih => simp [bind, run, ih]

end Dialogue

end BuildManifest
