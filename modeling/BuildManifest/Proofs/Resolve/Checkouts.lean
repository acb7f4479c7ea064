import BuildManifest.Proofs.Manifest.Fields
import BuildManifest.Proofs.Resolve.Nesting
import BuildManifest.Proofs.Resolve.Staging

/-!
# Cycles through checkouts

Each checkout gets a path of its own, and a manifest in a checkout is known by where its file is.
So a manifest that refers to itself through a checkout is found at another place every time, and
that it is the same manifest is not noticed.

## What is here

* `CheckoutChain` — manifests, each found in a checkout that the one before it refers to.  A
  manifest that refers to itself through a checkout makes such a chain.
* `cyclicInclude_iff_of_checkouts` — **a chain is a cycle exactly if two of its files are one**;
  otherwise there is always one more checkout.
-/

set_option autoImplicit false

namespace BuildManifest

open Load

variable {α β : Type} {world : World} {directory : String} {k : Nat}
  {before middle after : Session}

/-! ## Up to one of the references -/

variable {load : Reference → Load α} {location : Location} {earlier rest : List Reference}
  {reference : Reference} {count : Nat} {call : Load β} {value : Option Tree} {all : List α}

theorem reaches_loadAll (ends : Ends (.of world) before (loadAll load earlier) (.ok all) middle)
    (reaches : Reaches world middle (load reference) count after call) :
    Reaches world before (loadAll load (earlier ++ reference :: rest)) count after call := by
  induction earlier generalizing before all with
  | nil =>
    obtain ⟨-, rfl⟩ := ends_pure_iff.1 ends
    exact reaches.bind _
  | cons first others ih =>
    obtain ⟨one, between, given, ends⟩ := ends_bind_ok_iff.1 ends
    obtain ⟨last, reached, later, ends⟩ := ends_bind_ok_iff.1 ends
    obtain ⟨-, rfl⟩ := ends_pure_iff.1 ends
    exact given.reaches ((ih later).bind _)

theorem reaches_followed
    (read : Manifest.readReferences (value.getD .null) = .ok (earlier ++ reference :: rest))
    (ends : Ends (.of world) before (loadAll load earlier) (.ok all) middle)
    (reaches : Reaches world middle (load reference) count after call) :
    Reaches world before (followed load location value) count after call := by
  cases value with
  | none =>
    have empty : [] = earlier ++ reference :: rest := Except.ok.inj read
    simp at empty
  | some value =>
    have list : Ends (.of world) before (referencesOf location value)
        (.ok (earlier ++ reference :: rest)) before := by
      rw [referencesOf, show Manifest.readReferences value = _ from read]
      exact ends_pure _
    exact list.reaches ((reaches_loadAll ends reaches).map some)

theorem reaches_loadReference {load : String → Location → Load (Tree × Dialect)} {found : Found}
    (located : Ends (.of world) before (locate location reference) (.ok found) middle)
    (cost : count ≤ (transcript world before (locate location reference)).checkouts) :
    Reaches world before (loadReference load location reference) count middle
      (load found.1 found.2) := by
  rw [loadReference, ← Nat.add_zero count]
  refine located.reaches_of_cost cost ?_
  exact (reaches_self (load found.1 found.2)).bind _

/-- Whatever a manifest refers to before one of its references can be loaded. -/
inductive LoadedUpTo (world : World) (policy : OverridePolicy) (load : Reference → Load Child)
    (location : Location) (own : Tree) (reference : Reference) (before middle : Session) : Prop
  | included {earlier rest : List Reference} {children : List Child}
      (read : Manifest.readReferences (own.fieldOrNull "includes") =
        .ok (earlier ++ reference :: rest))
      (loaded : Ends (.of world) before (loadAll load earlier) (.ok children) middle)
  | overriding {included : Option (List Child)} {between : Session}
      {earlier rest : List Reference} {children : List Child}
      (below : Ends (.of world) before (followed load location (own.field? "includes"))
        (.ok included) between)
      (read : Manifest.readReferences (own.fieldOrNull "overrides") =
        .ok (earlier ++ reference :: rest))
      (loaded : Ends (.of world) between (loadAll (loadOverride load policy) earlier)
        (.ok children) middle)

/-- **A step of loading comes to a reference**, if whatever stands before it can be loaded. -/
theorem reaches_loadStep {policy : OverridePolicy}
    {load : String → Location → Load (Tree × Dialect)} (honest : Honest (.of world) load)
    {text : String} {read : Tree × Dialect} (fresh : ¬before.Loading location)
    (parsed : parseDetected text = .ok read)
    (loaded : LoadedUpTo world policy (loadReference load location) location read.1.normalize
      reference (before.within location) middle)
    (reaches : Reaches world middle (loadReference load location reference) count after call) :
    Reaches world before (loadStep policy load text location) count after call := by
  have entered : Ends (.of world) before (enter location) (.ok ()) (before.within location) :=
    ends_enter_iff.2 (.inr ⟨fresh, rfl, rfl⟩)
  have reads : Ends (.of world) (before.within location) (readTree text location) (.ok read)
      (before.within location) := by
    rw [readTree, parsed]
    exact ends_pure read
  rw [loadStep_eq]
  refine entered.reaches (reads.reaches ?_)
  cases loaded with
  | included references loaded =>
    exact (reaches_followed references loaded reaches).bind _
  | @overriding included between earlier rest children below references loaded =>
    refine below.reaches ?_
    have rooted := rooted_of_parseDetected parsed
    obtain ⟨-, -, consumed⟩ := honest.steady_included location _ _ _ _ below
    dsimp only
    rw [field?_withIncludes_overrides rooted consumed]
    exact (reaches_followed references loaded (reaches.bind _)).bind _

/-! ## Chains of checkouts -/

/-- The places of a chain before one of its manifests. -/
def placesBefore (chain : Nat → Found) (k : Nat) : List Location :=
  (List.range k).map fun i => (chain i).2

/-- A manifest refers to a checkout, in which the next manifest is found, and loading comes to that
reference if enough manifests may be nested.  The numbers count the paths handed out. -/
inductive RefersTo (world : World) (policy : OverridePolicy) (depth : Nat) (directory : String)
    (stack : List Location) (used : Nat) (found : Found) : Nat → Found → Prop
  | checkout {read : Tree × Dialect} {makefile : String} {download : Download} {file : LocalFile}
      {spent : Nat} (parsed : parseDetected found.1 = .ok read)
      (loaded : ∀ nesting, depth ≤ nesting →
        LoadedUpTo world policy (loadReference (loadTree policy nesting) found.2) found.2
          read.1.normalize (.checkout makefile download)
          ⟨stagingAt directory used, stack ++ [found.2]⟩
          ⟨stagingAt directory spent, stack ++ [found.2]⟩)
      (safe : isSafePath makefile = true)
      (fetched : world (.checkout download (checkoutPath directory spent)) =
        .ok (checkoutPath directory spent))
      (present : world (.localFile (FilePath.join (checkoutPath directory spent) makefile)) =
        .ok file) :
      RefersTo world policy depth directory stack used found (spent + 1)
        (file.text, .file file.path)

/-- Manifests without end, each of which refers to a checkout with the next one. -/
structure CheckoutChain (world : World) (policy : OverridePolicy) (depth : Nat)
    (directory : String) (used : Nat → Nat) (chain : Nat → Found) : Prop where
  /-- There is a directory for checkouts. -/
  staged : world .stagingDirectory = .ok directory
  /-- No path is handed out before. -/
  start : used 0 = 0
  /-- Each manifest refers to the next one. -/
  next : ∀ k, RefersTo world policy depth directory (placesBefore chain k) (used k) (chain k)
    (used (k + 1)) (chain (k + 1))

section

variable {policy : OverridePolicy} {depth : Nat} {used : Nat → Nat} {chain : Nat → Found}

/-- The session in which a manifest of a chain is loaded. -/
def sessionAt (directory : String) (used : Nat → Nat) (chain : Nat → Found) (k : Nat) : Session :=
  ⟨stagingAt directory (used k), placesBefore chain k⟩

theorem loading_sessionAt_iff :
    (sessionAt directory used chain k).Loading (chain k).2 ↔
      ∃ i < k, (chain i).2.same (chain k).2 = true := by
  simp [Session.Loading, sessionAt, placesBefore]

/-- **From one manifest of a chain loading comes to the next one**, at the cost of a checkout. -/
theorem reaches_next (chained : CheckoutChain world policy depth directory used chain)
    (fresh : ∀ i < k, (chain i).2.same (chain k).2 = false) {nesting : Nat}
    (enough : depth ≤ nesting) :
    Reaches world (sessionAt directory used chain k)
      (loadTree policy (nesting + 1) (chain k).1 (chain k).2) 1
      (sessionAt directory used chain (k + 1))
      (loadTree policy nesting (chain (k + 1)).1 (chain (k + 1)).2) := by
  have notLoading : ¬(sessionAt directory used chain k).Loading (chain k).2 := by
    rw [loading_sessionAt_iff]
    rintro ⟨i, less, same⟩
    rw [fresh i less] at same
    cases same
  have places : placesBefore chain (k + 1) = placesBefore chain k ++ [(chain k).2] := by
    rw [placesBefore, List.range_succ, List.map_append]
    rfl
  have next := chained.next k
  rw [sessionAt, sessionAt, places]
  generalize used (k + 1) = later, chain (k + 1) = target at next ⊢
  cases next with
  | checkout parsed loaded safe fetched present =>
    refine reaches_loadStep (honest_loadTree policy nesting) notLoading parsed
      (loaded nesting enough) ?_
    obtain ⟨located, cost⟩ := ends_locateCheckout chained.staged safe fetched present (chain k).2
    exact reaches_loadReference located cost

/-- Where no place comes again there are as many checkouts as manifests may be nested. -/
theorem le_checkouts_loadTree (chained : CheckoutChain world policy depth directory used chain)
    (apart : ∀ i j, i < j → (chain i).2.same (chain j).2 = false) (n k : Nat) :
    n ≤ (transcript world (sessionAt directory used chain k)
      (loadTree policy (n + depth) (chain k).1 (chain k).2)).checkouts := by
  induction n generalizing k with
  | zero => exact Nat.zero_le _
  | succ n ih =>
    have reaches := reaches_next chained (fun i less => apart i k less)
      (show depth ≤ n + depth by omega)
    have later := ih (k + 1)
    have cost := reaches.checkouts
    rw [Nat.add_right_comm]
    omega

/-- Where a place comes again for the first time, loading fails. -/
theorem ends_loadTree_again (chained : CheckoutChain world policy depth directory used chain)
    {j : Nat} (first : ∀ l < j, ∀ i < l, (chain i).2.same (chain l).2 = false)
    (again : ∃ i < j, (chain i).2.same (chain j).2 = true) (n k : Nat) (eq : k + n = j) :
    Ends (.of world) (sessionAt directory used chain k)
      (loadTree policy (n + 1 + depth) (chain k).1 (chain k).2)
      (.error ((sessionAt directory used chain j).cycle (chain j).2))
      (sessionAt directory used chain j) := by
  induction n generalizing k with
  | zero =>
    obtain rfl : k = j := eq
    rw [Nat.zero_add, Nat.add_comm 1 depth, loadTree, loadStep_eq]
    refine ends_bind_error_iff.2 (.inl (ends_enter_iff.2 (.inl ⟨?_, rfl, rfl⟩)))
    exact loading_sessionAt_iff.2 again
  | succ n ih =>
    have reaches := reaches_next chained (first k (by omega)) (show depth ≤ n + 1 + depth by omega)
    rw [Nat.add_right_comm (n + 1) 1 depth]
    exact reaches.fails _ _ (ih (k + 1) (by omega))

/-! ## Loading from a source -/

variable {source : Source}

theorem reaches_loadManifest (chained : CheckoutChain world policy depth directory used chain)
    (opened : Ends (.of world) {} (readSource source) (.ok (chain 0)) {}) (nesting : Nat) :
    Reaches world {} (loadManifest policy nesting source) 0 (sessionAt directory used chain 0)
      (loadTree policy nesting (chain 0).1 (chain 0).2) := by
  have start : sessionAt directory used chain 0 = {} := by
    rw [sessionAt, chained.start]
    rfl
  rw [loadManifest, start]
  refine opened.reaches ?_
  exact (reaches_self (loadTree policy nesting (chain 0).1 (chain 0).2)).bind _

/-- A loading that is not nested too deeply has come to an end, and any larger bound comes to the
same one. -/
theorem transcript_loadManifest_of_le {fewer more : Nat} (le : fewer ≤ more)
    (h : (transcript world before (loadManifest policy fewer source)).value.1 ≠
      .error .nestedTooDeeply) :
    transcript world before (loadManifest policy fewer source) =
      transcript world before (loadManifest policy more source) :=
  (Dialogue.run_of_cut (cut_loadManifest policy le source before) world).resolve_left h

/-- Where no place comes again, loading does not come to an end. -/
theorem nestedTooDeeply_of_apart
    (chained : CheckoutChain world policy depth directory used chain)
    (opened : Ends (.of world) {} (readSource source) (.ok (chain 0)) {})
    (apart : ∀ i j, i < j → (chain i).2.same (chain j).2 = false) (nesting : Nat) :
    (transcript world {} (loadManifest policy nesting source)).value.1 =
        .error .nestedTooDeeply ∧
      ∃ more, nesting ≤ (transcript world {} (loadManifest policy more source)).checkouts := by
  have cost (n : Nat) :
      n ≤ (transcript world {} (loadManifest policy (n + depth) source)).checkouts := by
    have reaches := (reaches_loadManifest chained opened (n + depth)).checkouts
    have below := le_checkouts_loadTree chained apart n 0
    omega
  refine ⟨?_, nesting + depth, cost nesting⟩
  -- An end would be the end for every larger bound, at the same cost; but the cost has no bound.
  by_contra ended
  let last := (transcript world {} (loadManifest policy nesting source)).checkouts + nesting + 1
  have same := transcript_loadManifest_of_le (show nesting ≤ last + depth by omega) ended
  have more := cost last
  rw [← same] at more
  omega

end

/-! ## A manifest that refers to itself -/

/-- A manifest at some place, and then in one checkout after the other. -/
def repeated (directory makefile text : String) (location : Location) : Nat → Found
  | 0 => (text, location)
  | k + 1 => (text, .file (FilePath.join (checkoutPath directory k) makefile))

section

variable {makefile text : String} {location : Location} {download : Download}

theorem checkoutChain_repeated {read : Tree × Dialect} {rest : List Reference}
    (policy : OverridePolicy) (location : Location)
    (staged : world .stagingDirectory = .ok directory) (parsed : parseDetected text = .ok read)
    (refers : Manifest.readReferences (read.1.normalize.fieldOrNull "includes") =
      .ok (.checkout makefile download :: rest))
    (safe : isSafePath makefile = true)
    (fetched : ∀ k, world (.checkout download (checkoutPath directory k)) =
      .ok (checkoutPath directory k))
    (present : ∀ k, world (.localFile (FilePath.join (checkoutPath directory k) makefile)) =
      .ok ⟨text, FilePath.join (checkoutPath directory k) makefile⟩) :
    CheckoutChain world policy 0 directory id (repeated directory makefile text location) := by
  refine ⟨staged, rfl, fun k => ?_⟩
  have same : (repeated directory makefile text location k).1 = text := by cases k <;> rfl
  have first : Manifest.readReferences (read.1.normalize.fieldOrNull "includes") =
      .ok ([] ++ .checkout makefile download :: rest) := refers
  refine RefersTo.checkout (same.symm ▸ parsed) (fun nesting _ => ?_) safe (fetched k) (present k)
  exact .included first (ends_pure [])

/-- No place comes again, if the manifest is not in a checkout already. -/
theorem apart_repeated (safe : isSafePath makefile = true)
    (outside : ∀ k, location.same
      (.file (FilePath.join (checkoutPath directory k) makefile)) = false)
    (i j : Nat) (less : i < j) :
    (repeated directory makefile text location i).2.same
      (repeated directory makefile text location j).2 = false := by
  obtain ⟨j, rfl⟩ : ∃ n, j = n + 1 := ⟨j - 1, by omega⟩
  cases i with
  | zero => exact outside j
  | succ i =>
    refine Bool.eq_false_iff.2 fun same => ?_
    have eq := eq_of_same_checkout safe safe same
    omega

end

/-! ## When a cycle is reported -/

/-- **A cycle through checkouts** is reported exactly if two of the manifests on it are found in
one file.  Each checkout is at another path, so that this is hardly ever so, and otherwise there is
no end of checkouts. -/
theorem cyclicInclude_iff_of_checkouts {policy : OverridePolicy} {depth : Nat}
    {used : Nat → Nat} {chain : Nat → Found} {source : Source}
    (chained : CheckoutChain world policy depth directory used chain)
    (opened : Ends (.of world) {} (readSource source) (.ok (chain 0)) {}) :
    ((∃ nesting names, (transcript world {} (loadManifest policy nesting source)).value.1 =
        .error (.cyclicInclude names)) ↔
      ∃ i j, i < j ∧ (chain i).2.same (chain j).2 = true) ∧
    ((∀ i j, i < j → (chain i).2.same (chain j).2 = false) → ∀ nesting,
      (transcript world {} (loadManifest policy nesting source)).value.1 =
        .error .nestedTooDeeply ∧
      ∃ more, nesting ≤ (transcript world {} (loadManifest policy more source)).checkouts) := by
  refine ⟨⟨?_, ?_⟩, nestedTooDeeply_of_apart chained opened⟩
  · rintro ⟨nesting, names, ended⟩
    by_contra never
    have apart (i j : Nat) (less : i < j) : (chain i).2.same (chain j).2 = false :=
      Bool.eq_false_iff.2 fun same => never ⟨i, j, less, same⟩
    rw [(nestedTooDeeply_of_apart chained opened apart nesting).1] at ended
    cases ended
  · rintro ⟨i, j, less, same⟩
    have repeats : ∃ j, ∃ i < j, (chain i).2.same (chain j).2 = true := ⟨j, i, less, same⟩
    have first : ∀ l < Nat.find repeats, ∀ i < l, (chain i).2.same (chain l).2 = false := by
      intro l early i less
      exact Bool.eq_false_iff.2 fun same => Nat.find_min repeats early ⟨i, less, same⟩
    have ends := ends_loadTree_again chained first (Nat.find_spec repeats) _ 0 (Nat.zero_add _)
    have failed := (reaches_loadManifest chained opened _).fails _ _ ends
    obtain ⟨names, cycle⟩ : ∃ names, (sessionAt directory used chain (Nat.find repeats)).cycle
      (chain (Nat.find repeats)).2 = .cyclicInclude names := ⟨_, rfl⟩
    rw [cycle] at failed
    exact ⟨_, names, congrArg Prod.fst (ends_iff_transcript.1 failed)⟩

/-- A manifest that refers to itself through a checkout. -/
def mirrorText : String := "core: 8.x\nincludes: [\x7bmakefile: m, download: u\x7d]\n"

/-- A world in which this manifest is in every checkout. -/
def mirrorWorld : World
  | .localFile path => .ok ⟨mirrorText, path⟩
  | .remoteText url => .error (.notFound url.text)
  | .checkout _ destination => .ok destination
  | .stagingDirectory => .ok "/t"
  | .standardInput => .ok mirrorText

theorem cyclicInclude_iff_of_checkouts_mirror :
    (¬∃ nesting names,
      (transcript mirrorWorld {} (loadManifest .everything nesting .standardInput)).value.1 =
        .error (.cyclicInclude names)) ∧
    ∀ nesting,
      (transcript mirrorWorld {} (loadManifest .everything nesting .standardInput)).value.1 =
        .error .nestedTooDeeply ∧
      ∃ more, nesting ≤
        (transcript mirrorWorld {} (loadManifest .everything more .standardInput)).checkouts := by
  have found : ((parseDetected mirrorText).toOption.bind fun read =>
      (Manifest.readReferences (read.1.normalize.fieldOrNull "includes")).toOption) =
      some [.checkout "m" { url := some "u" }] := by decide +kernel
  obtain ⟨read, parsed, refers⟩ := Option.bind_eq_some_iff.1 found
  have safe : isSafePath "m" = true := by decide
  have chained : CheckoutChain mirrorWorld .everything 0 "/t" id
      (repeated "/t" "m" mirrorText .standardInput) :=
    checkoutChain_repeated .everything .standardInput rfl (toOption_eq_some_iff.1 parsed)
      (toOption_eq_some_iff.1 refers) safe (fun _ => rfl) fun _ => rfl
  have apart : ∀ i j, i < j → (repeated "/t" "m" mirrorText .standardInput i).2.same
      (repeated "/t" "m" mirrorText .standardInput j).2 = false :=
    apart_repeated safe fun _ => rfl
  have opened : Ends (.of mirrorWorld) {} (readSource .standardInput)
      (.ok (repeated "/t" "m" mirrorText .standardInput 0)) {} :=
    (ends_ask_iff.2 ⟨_, rfl, rfl, rfl⟩).bind (ends_pure _)
  obtain ⟨iff, endless⟩ := cyclicInclude_iff_of_checkouts chained opened
  refine ⟨fun cycle => ?_, endless apart⟩
  obtain ⟨i, j, less, same⟩ := iff.1 cycle
  rw [apart i j less] at same
  cases same

end BuildManifest
