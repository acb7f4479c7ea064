import BuildManifest.Proofs.Resolve.Run

/-!
# Where references lead

Following a reference asks for files, pages and checkouts.  It neither enters nor leaves a
manifest, its failures are its own, and what it finds is something that was served.

## What is here

* `Served` — the places at which something may be found at all.
* `Load.Flat` — a loading that leaves the stack alone, with what it gives.
* `flat_locate` — **a reference leads to a place that is served**.
-/

set_option autoImplicit false

namespace BuildManifest

/-- Something may be served at the place: a file with this canonical path, or a page. -/
def Served (may : Answering) : Location → Prop
  | .file path => ∃ asked file, may (.localFile asked) (.ok file) ∧ file.path = path
  | .remote url => ∃ text, may (.remoteText url) (.ok text)
  | .standardInput => False

/-- The error tells something about how manifests are nested. -/
def ResolveError.Nested : ResolveError → Prop
  | .cyclicInclude _ => True
  | .nestedTooDeeply => True
  | _ => False

namespace Load

variable {α β : Type} {may : Answering}

/-- A good value, or a failure that is not about nesting. -/
def Fits (good : α → Prop) : Except ResolveError α → Prop
  | .ok value => good value
  | .error error => ¬error.Nested

/-- The loading neither enters nor leaves a manifest: it gives something good or fails by itself. -/
def Flat (may : Answering) (loading : Load α) (good : α → Prop) : Prop :=
  ∀ before result after, Ends may before loading result after →
    after.stack = before.stack ∧ Fits good result

theorem flat_pure {value : α} {good : α → Prop} (h : good value) : Flat may (pure value) good := by
  intro before result after ends
  obtain ⟨rfl, rfl⟩ := ends_pure_iff.1 ends
  exact ⟨rfl, h⟩

theorem flat_fail {error : ResolveError} {good : α → Prop} (h : ¬error.Nested) :
    Flat may (fail error : Load α) good := by
  intro before result after ends
  obtain ⟨rfl, rfl⟩ := ends_fail_iff.1 ends
  exact ⟨rfl, h⟩

theorem flat_bind {first : Load α} {f : α → Load β} {good : α → Prop} {fine : β → Prop}
    (h : Flat may first good) (h' : ∀ value, good value → Flat may (f value) fine) :
    Flat may (first >>= f) fine := by
  intro before result after ends
  rcases ends_bind_iff.1 ends with ⟨value, middle, firstEnds, rest⟩ | ⟨error, firstEnds, rfl⟩
  · obtain ⟨stack, given⟩ := h _ _ _ firstEnds
    obtain ⟨stack', fits⟩ := h' value given _ _ _ rest
    exact ⟨stack'.trans stack, fits⟩
  · exact h _ _ _ firstEnds

theorem flat_ask {request : Request} : Flat may (ask request) (may request) := by
  intro before result after ends
  obtain ⟨answer, given, rfl, rfl⟩ := ends_ask_iff.1 ends
  exact ⟨rfl, given⟩

/-- What is set after a look at the session may depend on it. -/
theorem flat_edit {change : Session → Session} {f : Session → Load α} {good : α → Prop}
    (h : ∀ session, (change session).stack = session.stack)
    (h' : ∀ session, Flat may (f session) good) :
    Flat may (do let session ← get; set (change session); f session) good := by
  intro before result after ends
  simp only [ends_bind_iff, ends_get_iff, ends_set_iff, Except.ok.injEq, reduceCtorEq, false_and,
    exists_false, or_false] at ends
  obtain ⟨_, _, ⟨rfl, rfl⟩, _, _, ⟨-, rfl⟩, ends⟩ := ends
  obtain ⟨stack, fits⟩ := h' _ _ _ _ ends
  exact ⟨stack.trans (h _), fits⟩

end Load

open Load

variable {may : Answering}

/-! ## Files and pages -/

/-- What a look-up found, if anything, is served. -/
def FoundServed (may : Answering) (found : Option Found) : Prop :=
  ∀ one, found = some one → Served may one.2

theorem flat_readLocal? (path : String) (reference : Reference) :
    Flat may (readLocal? path reference) (FoundServed may) := by
  refine flat_bind flat_ask fun answer given => ?_
  cases answer with
  | ok file =>
    refine flat_pure fun one eq => ?_
    cases eq
    exact ⟨path, file, given, rfl⟩
  | error error =>
    dsimp only
    split
    · exact flat_pure fun _ eq => nomatch eq
    · exact flat_fail id

theorem flat_readRemote? (url : Url) (reference : Reference) :
    Flat may (readRemote? url reference) (FoundServed may) := by
  refine flat_bind flat_ask fun answer given => ?_
  cases answer with
  | ok text =>
    refine flat_pure fun one eq => ?_
    cases eq
    exact ⟨text, given⟩
  | error error =>
    dsimp only
    split
    · exact flat_pure fun _ eq => nomatch eq
    · exact flat_fail id

theorem flat_required (shown : String) {found : Option Found} (h : FoundServed may found) :
    Flat may (required shown found) fun one => Served may one.2 := by
  cases found with
  | none => exact flat_fail id
  | some one => exact flat_pure (h one rfl)

theorem flat_readRelative? (path : String) (reference : Reference) (includer : Location) :
    Flat may (readRelative? path reference includer) (FoundServed may) := by
  cases includer with
  | file from_ => exact flat_readLocal? _ reference
  | remote base =>
    rw [readRelative?]
    split
    · exact flat_readRemote? _ reference
    · exact flat_pure fun _ eq => nomatch eq
  | standardInput => exact flat_pure fun _ eq => nomatch eq

theorem flat_locatePath (path : String) (includer : Location) :
    Flat may (locatePath path includer) fun one => Served may one.2 := by
  rw [locatePath]
  split
  · exact flat_bind (flat_readRemote? _ _) fun found given => flat_required path given
  · refine flat_bind (flat_readRelative? _ _ _) fun found given => ?_
    cases found with
    | some one => exact flat_pure (given one rfl)
    | none => exact flat_bind (flat_readLocal? _ _) fun found given => flat_required path given

/-! ## Checkouts -/

theorem flat_stagingDirectory : Flat may stagingDirectory fun _ => True := by
  intro before result after ends
  rw [stagingDirectory, ends_bind_iff] at ends
  rcases ends with ⟨session, middle, got, ends⟩ | ⟨error, got, -⟩
  · obtain ⟨eq, rfl⟩ := ends_get_iff.1 got
    cases eq
    split at ends
    · exact flat_pure trivial _ _ _ ends
    · rcases ends_bind_iff.1 ends with ⟨answer, middle, asked, ends⟩ | ⟨error, asked, -⟩
      · obtain ⟨_, -, eq, rfl⟩ := ends_ask_iff.1 asked
        cases answer with
        | error message =>
          obtain ⟨rfl, rfl⟩ := ends_fail_iff.1 ends
          exact ⟨rfl, id⟩
        | ok directory =>
          rcases ends_bind_iff.1 ends with ⟨_, middle, changed, ends⟩ | ⟨error, changed, -⟩
          · obtain ⟨-, rfl⟩ := ends_set_iff.1 changed
            obtain ⟨rfl, rfl⟩ := ends_pure_iff.1 ends
            exact ⟨rfl, trivial⟩
          · exact nomatch (ends_set_iff.1 changed).1
      · obtain ⟨_, _, eq, _⟩ := ends_ask_iff.1 asked
        exact nomatch eq
  · exact nomatch (ends_get_iff.1 got).1

theorem flat_nextCheckoutPath : Flat may nextCheckoutPath fun _ => True := by
  refine flat_bind flat_stagingDirectory fun directory _ => ?_
  exact flat_edit (fun session => rfl) fun session => flat_pure trivial

theorem flat_locateCheckout (makefile : String) (download : Download) :
    Flat may (locateCheckout makefile download) fun one => Served may one.2 := by
  rw [locateCheckout]
  split
  · exact flat_fail id
  · refine flat_bind flat_nextCheckoutPath fun destination _ => ?_
    refine flat_bind flat_ask fun answer given => ?_
    cases answer with
    | ok root => exact flat_bind (flat_readLocal? _ _) fun found given => flat_required _ given
    | error error => exact flat_fail id

/-- **A reference leads to a place that is served**, and following it enters no manifest. -/
theorem flat_locate (includer : Location) (reference : Reference) :
    Flat may (locate includer reference) fun one => Served may one.2 := by
  cases reference with
  | plain path => exact flat_locatePath path includer
  | checkout makefile download => exact flat_locateCheckout makefile download

/-! ## Reading -/

theorem flat_referencesOf (location : Location) (value : Tree) :
    Flat may (referencesOf location value) fun references =>
      Manifest.readReferences value = .ok references := by
  rw [referencesOf]
  split
  · next references read => exact flat_pure read
  · exact flat_fail id

theorem flat_readTree (text : String) (location : Location) :
    Flat may (readTree text location) fun read => parseDetected text = .ok read := by
  rw [readTree]
  split
  · next read => exact flat_pure read
  · exact flat_fail id

/-- The place of a source that need not be served: its text may be given with it. -/
def Source.ownPlace : Source → Location
  | .remote url _ => .remote url
  | _ => .standardInput

theorem flat_readSource (source : Source) :
    Flat may (readSource source) fun found =>
      Served may found.2 ∨ found.2 = source.ownPlace := by
  cases source with
  | path path =>
    refine flat_bind flat_ask fun answer given => ?_
    cases answer with
    | ok file => exact flat_pure (.inl ⟨path, file, given, rfl⟩)
    | error error => exact flat_fail id
  | standardInput =>
    refine flat_bind flat_ask fun answer _ => ?_
    cases answer with
    | ok text => exact flat_pure (.inr rfl)
    | error error => cases error <;> exact flat_fail id
  | remote url payload =>
    cases payload with
    | some text => exact flat_pure (.inr rfl)
    | none =>
      refine flat_bind flat_ask fun answer _ => ?_
      cases answer with
      | ok text => exact flat_pure (.inr rfl)
      | error error => exact flat_fail id

end BuildManifest
