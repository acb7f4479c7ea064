import BuildManifest.Fetch.Checkout
import BuildManifest.Proofs.Success

/-!
# What is run for a checkout

The values of a download come from manifests of others, and a program takes an argument that begins
with a dash for an option.  So the values are looked at before anything is run, those that are not
used too, and what begins with a dash is refused.  Where the values stand in the commands makes no
difference to this, but tells what they are taken for: names behind `--branch` and `--detach`, and
operands behind two dashes.

## What is here

* `LooksLikeOption`, `Download.Refused` — what is refused; `checkoutUrl_eq_ok_iff` — **and what is
  not**.
* `CheckoutCommand` — the commands of a checkout, and the places of the values in them.
* `failure_eq_none_iff`, `ran_cons` — commands are run in order until one fails.
* `runCheckout_of_refused`, `runCheckout_of_not_refused` — the two ways that a checkout may go.
* `values_never_options` — **no value of a download is an option of a command**, when the second
  command is run, and what comes of it.
-/

set_option autoImplicit false

namespace BuildManifest

variable {download : Download} {destination url : String} {command : GitCommand}
  {commands : List GitCommand} {fails : GitCommand → Option CommandFailure}

/-! ## What is refused -/

/-- A text that begins with a dash. -/
def LooksLikeOption (text : String) : Prop := ∃ rest, text.toList = '-' :: rest

theorem head?_eq_dash_iff {text : String} :
    text.toList.head? = some '-' ↔ LooksLikeOption text := by
  cases chars : text.toList with
  | nil => simp [LooksLikeOption, chars]
  | cons first rest => simp [LooksLikeOption, chars]

instance (text : String) : Decidable (LooksLikeOption text) :=
  decidable_of_iff _ head?_eq_dash_iff

/-- The two dashes that end the options look like one. -/
theorem ne_dashes {text : String} (plain : ¬LooksLikeOption text) : text ≠ "--" := by
  rintro rfl
  exact plain (by decide)

/-- The values that a manifest gives for a checkout. -/
def Download.values (download : Download) : List String :=
  [download.url, download.branch, download.tag, download.revision].filterMap id

theorem Download.mem_values_iff {value : String} : value ∈ download.values ↔
    download.url = some value ∨ download.branch = some value ∨ download.tag = some value ∨
      download.revision = some value := by
  simp [values, List.mem_filterMap, eq_comm (a := some value)]

/-- There is no checkout of the download: it is of another kind, has no address, or one of its
values looks like an option. -/
inductive Download.Refused (download : Download) : Prop
  | kind {kind : DownloadKind} (given : download.kind = some kind) (other : kind ≠ .checkout "git")
  | url (absent : download.url = none)
  | option {value : String} (given : value ∈ download.values) (looks : LooksLikeOption value)

theorem checkSystem_eq_ok_iff {kind : Option DownloadKind} :
    checkSystem kind = .ok () ↔ ∀ given ∈ kind, given = .checkout "git" := by
  rcases kind with _ | _ | system
  · simp [checkSystem]
  · simp [checkSystem]
  · by_cases git : system = "git" <;> simp [checkSystem, git]

theorem checkPlain_eq_ok_iff {field : String} {value : Option String} :
    checkPlain field value = .ok () ↔ ∀ text ∈ value, ¬LooksLikeOption text := by
  cases value with
  | none => simp [checkPlain]
  | some text =>
    by_cases looks : LooksLikeOption text
    · rw [checkPlain, if_pos (head?_eq_dash_iff.2 looks)]
      simp [looks]
    · rw [checkPlain, if_neg (mt head?_eq_dash_iff.1 looks)]
      simp [looks]

theorem not_refused_iff : ¬download.Refused ↔
    (∀ given ∈ download.kind, given = .checkout "git") ∧ (∃ url, download.url = some url) ∧
      ∀ value ∈ download.values, ¬LooksLikeOption value := by
  constructor
  · intro fine
    refine ⟨fun kind given => ?_, Option.ne_none_iff_exists'.1 fun absent => fine (.url absent),
      fun value given looks => fine (.option given looks)⟩
    exact Decidable.not_not.1 fun other => fine (.kind given other)
  · rintro ⟨kind, ⟨url, address⟩, plain⟩ refused
    cases refused with
    | kind given other => exact other (kind _ given)
    | url absent => exact absurd (address.symm.trans absent) (by simp)
    | option given looks => exact plain _ given looks

/-- **A checkout goes on exactly if the download is not refused**, from its address. -/
theorem checkoutUrl_eq_ok_iff :
    checkoutUrl download = .ok url ↔ download.url = some url ∧ ¬download.Refused := by
  rw [not_refused_iff, checkoutUrl, check_bind_eq_ok_iff, checkSystem_eq_ok_iff]
  cases address : download.url with
  | none => simp
  | some given =>
    simp only [check_bind_eq_ok_iff, checkPlain_eq_ok_iff, Download.mem_values_iff, address,
      or_imp, forall_and, Option.mem_def]
    constructor
    · rintro ⟨kind, plain, branch, tag, revision, last⟩
      cases last
      exact ⟨rfl, kind, ⟨_, rfl⟩, plain, branch, tag, revision⟩
    · rintro ⟨same, kind, -, plain, branch, tag, revision⟩
      cases same
      exact ⟨kind, plain, branch, tag, revision, rfl⟩

/-! ## The commands -/

/-- The commands of a checkout, and where the values of the download and the destination stand in
them. -/
inductive CheckoutCommand (download : Download) (destination : String) : GitCommand → Prop
  | clone {url : String} (address : download.url = some url) (branch : download.branch = none)
      (tag : download.tag = none) : CheckoutCommand download destination
        { arguments := ["clone", "--quiet", "--", url, destination] }
  | cloneState {url name : String} (address : download.url = some url)
      (state : download.branch = some name ∨ download.branch = none ∧ download.tag = some name) :
      CheckoutCommand download destination
        { arguments := ["clone", "--quiet", "--branch", name, "--", url, destination] }
  | detach {revision : String} (given : download.revision = some revision) :
      CheckoutCommand download destination
        { arguments := ["checkout", "--quiet", "--detach", revision],
          directory := some destination }

/-- The arguments that are taken for options: those that begin with a dash, up to two dashes. -/
def GitCommand.options (command : GitCommand) : List String :=
  (command.arguments.takeWhile (· ≠ "--")).filter fun argument => LooksLikeOption argument

theorem checkoutCommand_clone (address : download.url = some url) :
    CheckoutCommand download destination (cloneCommand download url destination) := by
  cases branch : download.branch with
  | some name =>
    rw [cloneCommand, branch]
    exact .cloneState address (.inl branch)
  | none =>
    cases tag : download.tag with
    | some name =>
      rw [cloneCommand, branch, tag]
      exact .cloneState address (.inr ⟨branch, tag⟩)
    | none =>
      rw [cloneCommand, branch, tag]
      exact .clone address branch tag

theorem checkoutCommand_of_mem_revision (member : command ∈ revisionCommands download destination) :
    CheckoutCommand download destination command := by
  rw [revisionCommands.eq_def] at member
  split at member
  · next revision given =>
    rw [List.mem_singleton.1 member]
    exact .detach given
  · cases member

/-- **Only the words of the commands are options.** -/
theorem CheckoutCommand.mem_words (h : CheckoutCommand download destination command)
    (plain : ∀ value ∈ download.values, ¬LooksLikeOption value) :
    ∀ option ∈ command.options, option ∈ ["--quiet", "--branch", "--detach"] := by
  have word : ¬LooksLikeOption "clone" ∧ ¬LooksLikeOption "checkout" := by decide
  cases h with
  | clone address branch tag => simp [GitCommand.options, word]
  | @cloneState url name address state =>
    have ordinary : ¬LooksLikeOption name := plain name (Download.mem_values_iff.2 (by grind))
    simp [GitCommand.options, word, ordinary, ne_dashes ordinary]
  | detach given =>
    have ordinary := plain _ (Download.mem_values_iff.2 (.inr (.inr (.inr given))))
    simp [GitCommand.options, word, ordinary, ne_dashes ordinary]

/-! ## Running -/

/-- **Nothing fails exactly if every command that is run succeeds.** -/
theorem failure_eq_none_iff : (runCommands fails commands).2 = none ↔
    ∀ command ∈ (runCommands fails commands).1, fails command = none := by
  induction commands with
  | nil => exact ⟨fun _ => nofun, fun _ => rfl⟩
  | cons command rest ih =>
    rw [runCommands]
    split
    · next failure failed => simp [failed]
    · next succeeds => simp [succeeds, ih]

/-- What is run after a first command depends on whether this succeeds. -/
theorem ran_cons (fails : GitCommand → Option CommandFailure) (command : GitCommand)
    (rest : List GitCommand) :
    (runCommands fails (command :: rest)).1 =
      command :: if fails command = none then (runCommands fails rest).1 else [] := by
  rw [runCommands]
  split
  · next failure failed => simp [failed]
  · next succeeds => simp [succeeds]

theorem ran_revision (fails : GitCommand → Option CommandFailure) (download : Download)
    (destination : String) :
    (runCommands fails (revisionCommands download destination)).1 =
      revisionCommands download destination := by
  rw [revisionCommands.eq_def]
  split
  · rw [ran_cons]
    simp [runCommands]
  · rfl

theorem runCheckout_eq (h : checkoutCommands download destination = .ok (url, commands)) :
    runCheckout fails download destination = ((runCommands fails commands).1,
      match (runCommands fails commands).2 with
      | none => .ok destination
      | some failure => .error (.checkout url failure.message)) := by
  simp only [runCheckout, h]
  rcases runCommands fails commands with ⟨ran, _ | failure⟩ <;> rfl

/-- A download that is refused is refused before anything is run. -/
theorem runCheckout_of_refused (fails : GitCommand → Option CommandFailure)
    (destination : String) (refused : download.Refused) :
    ∃ error, runCheckout fails download destination = ([], .error error) := by
  cases address : checkoutUrl download with
  | ok url => exact absurd refused (checkoutUrl_eq_ok_iff.1 address).2
  | error error =>
    refine ⟨error, ?_⟩
    rw [runCheckout, checkoutCommands, address]
    rfl

/-- Any other one is cloned, and then its revision is checked out. -/
theorem runCheckout_of_not_refused (fails : GitCommand → Option CommandFailure)
    (destination : String) (fine : ¬download.Refused) :
    ∃ url, download.url = some url ∧
      (runCheckout fails download destination).1 = cloneCommand download url destination ::
        (if fails (cloneCommand download url destination) = none then
          revisionCommands download destination else []) ∧
      ((runCheckout fails download destination).2 = .ok destination ↔
        ∀ command ∈ (runCheckout fails download destination).1, fails command = none) := by
  obtain ⟨-, ⟨url, address⟩, -⟩ := not_refused_iff.1 fine
  have commands : checkoutCommands download destination = .ok
      (url, cloneCommand download url destination :: revisionCommands download destination) := by
    rw [checkoutCommands, checkoutUrl_eq_ok_iff.2 ⟨address, fine⟩]
    rfl
  have ran := ran_cons fails (cloneCommand download url destination)
    (revisionCommands download destination)
  rw [ran_revision] at ran
  rw [runCheckout_eq commands]
  refine ⟨url, address, ran, ?_⟩
  rw [← failure_eq_none_iff]
  cases (runCommands fails _).2 <;> simp

/-! ## Checkouts -/

/-- **No value of a download is an option of a command.**  Every command of a checkout is one of
those that have the values in their places; what begins with a dash in it is a word of its own,
since no value begins with one.  If the download is refused, for its kind, for want of an address or
for any of its values, used or not, then nothing is run and there is an error.  Otherwise something
is run, and the checkout succeeds exactly if all that is run does.  The revision is checked out
exactly if there is one and the clone has succeeded. -/
theorem values_never_options (fails : GitCommand → Option CommandFailure) (download : Download)
    (destination : String) :
    (∀ command ∈ (runCheckout fails download destination).1,
      CheckoutCommand download destination command ∧
        (∀ value ∈ download.values, ¬LooksLikeOption value) ∧
        ∀ option ∈ command.options, option ∈ ["--quiet", "--branch", "--detach"]) ∧
    (download.Refused → (runCheckout fails download destination).1 = [] ∧
      ∃ error, (runCheckout fails download destination).2 = .error error) ∧
    (¬download.Refused → (runCheckout fails download destination).1 ≠ [] ∧
      ((runCheckout fails download destination).2 = .ok destination ↔
        ∀ command ∈ (runCheckout fails download destination).1, fails command = none)) ∧
    ((∃ command ∈ (runCheckout fails download destination).1,
        command.arguments.head? = some "checkout") ↔
      download.revision.isSome = true ∧ ∃ command ∈ (runCheckout fails download destination).1,
        command.arguments.head? = some "clone" ∧ fails command = none) := by
  by_cases refused : download.Refused
  · obtain ⟨error, eq⟩ := runCheckout_of_refused fails destination refused
    rw [eq]
    exact ⟨nofun, fun _ => ⟨rfl, error, rfl⟩, fun fine => absurd refused fine, by simp⟩
  · obtain ⟨url, address, ran, succeeds⟩ :=
      runCheckout_of_not_refused fails destination refused
    have plain := (not_refused_iff.1 refused).2.2
    have shaped : ∀ command ∈ (runCheckout fails download destination).1,
        CheckoutCommand download destination command := by
      rw [ran]
      refine List.forall_mem_cons.2 ⟨checkoutCommand_clone address, fun command member => ?_⟩
      split at member
      · exact checkoutCommand_of_mem_revision member
      · cases member
    refine ⟨fun command member => ⟨shaped command member, plain,
        (shaped command member).mem_words plain⟩, fun bad => absurd bad refused,
      fun _ => ⟨by simp [ran], succeeds⟩, ?_⟩
    rw [ran]
    have first : (cloneCommand download url destination).arguments.head? = some "clone" := rfl
    generalize cloneCommand download url destination = clone at first
    by_cases cloned : fails clone = none
    · cases revision : download.revision <;> simp [revisionCommands, revision, cloned, first]
    · simp [cloned, first]

/-- The tag would not even be used. -/
example : runCheckout (fun _ => none)
      { url := some "https://a/b", branch := some "7.x", tag := some "-x" } "/tmp/0" =
    ([], .error (.optionLike "tag" "-x")) := by rfl

end BuildManifest
