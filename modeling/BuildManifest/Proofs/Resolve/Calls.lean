import BuildManifest.Proofs.Resolve.Consumed
import BuildManifest.Proofs.Resolve.Locate

/-!
# What a step of loading can do

Loading a manifest calls itself for whatever the manifest refers to.  Here it is said once what
such a step can end with, in terms of what the calls end with, so that a statement about loading
is an induction on how deeply manifests are nested with these laws as its step.

## What is here

* `references`, `Leads` — the references of a manifest, and the graph they make of what is served.
* `Honest` — what is relied on of the calls: they leave the stack as it was and give manifests
  without references.
* `exists_of_ends_loadStep` — **what a step that succeeds has done**.
* `honest_loadTree` — loading does that.
* `ends_loadStep_error` — **where an error of a step comes from**.
-/

set_option autoImplicit false

namespace BuildManifest

open Load

variable {α β : Type} {may : Answering} {before after : Session}

/-! ## The graph of references -/

/-- The references that stand under a key. -/
def referencesIn (value : Option Tree) : List Reference :=
  match value.map Manifest.readReferences with
  | some (.ok references) => references
  | _ => []

/-- The references of a manifest: what it includes, and what overrides it. -/
def references (own : Tree) : List Reference :=
  referencesIn (own.field? "includes") ++ referencesIn (own.field? "overrides")

/-- One text found somewhere refers to another one: a reference of it leads there. -/
def Leads (may : Answering) (source target : Found) : Prop :=
  ∃ read, parseDetected source.1 = .ok read ∧ ∃ reference ∈ references read.1.normalize,
    ∃ before after, Ends may before (locate source.2 reference) (.ok target) after

theorem Leads.served {source target : Found} (h : Leads may source target) :
    Served may target.2 := by
  obtain ⟨read, _, reference, _, before, after, ends⟩ := h
  exact (flat_locate source.2 reference _ _ _ ends).2

/-! ## Entering and leaving -/

/-- The session inside a manifest at a location. -/
def Session.within (session : Session) (location : Location) : Session :=
  { session with stack := session.stack ++ [location] }

/-- The session after the innermost manifest. -/
def Session.outside (session : Session) : Session :=
  { session with stack := session.stack.dropLast }

/-- The location is on the stack. -/
def Session.Loading (session : Session) (location : Location) : Prop :=
  session.stack.any (·.same location) = true

/-- The error of entering a manifest once more. -/
def Session.cycle (session : Session) (location : Location) : ResolveError :=
  .cyclicInclude ((session.stack ++ [location]).map Location.text)

theorem ends_enter_iff {location : Location} {result : Except ResolveError Unit} :
    Ends may before (enter location) result after ↔
      (before.Loading location ∧ result = .error (before.cycle location) ∧ after = before) ∨
      (¬before.Loading location ∧ result = .ok () ∧ after = before.within location) := by
  rw [enter, ends_bind_iff]
  simp only [ends_get_iff, Except.ok.injEq, reduceCtorEq, false_and, exists_false, or_false]
  constructor
  · rintro ⟨_, _, ⟨rfl, rfl⟩, ends⟩
    split at ends
    · next inside => exact .inl ⟨inside, ends_fail_iff.1 ends⟩
    · next outside => exact .inr ⟨outside, ends_set_iff.1 ends⟩
  · intro h
    refine ⟨before, before, ⟨rfl, rfl⟩, ?_⟩
    rcases h with ⟨inside, h⟩ | ⟨outside, h⟩
    · rw [if_pos (by exact inside)]
      exact ends_fail_iff.2 h
    · rw [if_neg (by exact outside)]
      exact ends_set_iff.2 h

theorem ends_leave_iff {result : Except ResolveError Unit} :
    Ends may before leave result after ↔ result = .ok () ∧ after = before.outside :=
  ends_modify_iff

/-! ## Following references -/

/-- Whatever the loading gives is good, and the stack is then as it was. -/
def Load.Steady (may : Answering) (loading : Load α) (good : α → Prop) : Prop :=
  ∀ before value after, Ends may before loading (.ok value) after →
    after.stack = before.stack ∧ good value

theorem Load.Flat.steady {loading : Load α} {good : α → Prop} (h : Flat may loading good) :
    Steady may loading good := fun _ _ _ ends => h _ _ _ ends

theorem steady_bind {first : Load α} {f : α → Load β} {good : α → Prop} {fine : β → Prop}
    (h : Steady may first good) (h' : ∀ value, good value → Steady may (f value) fine) :
    Steady may (first >>= f) fine := by
  intro before value after ends
  obtain ⟨one, middle, firstEnds, rest⟩ := ends_bind_ok_iff.1 ends
  obtain ⟨stack, given⟩ := h _ _ _ firstEnds
  obtain ⟨stack', fine⟩ := h' one given _ _ _ rest
  exact ⟨stack'.trans stack, fine⟩

theorem steady_pure {value : α} {good : α → Prop} (h : good value) :
    Steady may (pure value) good := (flat_pure h).steady

theorem steady_loadAll {load : Reference → Load α} {good : α → Prop} {list : List Reference}
    (h : ∀ reference ∈ list, Steady may (load reference) good) :
    Steady may (loadAll load list) fun all => ∀ one ∈ all, good one := by
  induction list with
  | nil => exact steady_pure fun _ member => nomatch member
  | cons reference rest ih =>
    refine steady_bind (h reference List.mem_cons_self) fun one given => ?_
    refine steady_bind (ih fun other member => h other (List.mem_cons_of_mem _ member)) ?_
    intro others given'
    refine steady_pure fun other member => ?_
    rcases List.mem_cons.1 member with rfl | later
    · exact given
    · exact given' other later

/-- An error of following references is one of them failing where the others left off. -/
theorem ends_loadAll_error {load : Reference → Load α} {good : α → Prop} {list : List Reference}
    {error : ResolveError} (h : ∀ reference ∈ list, Steady may (load reference) good)
    (ends : Ends may before (loadAll load list) (.error error) after) :
    ∃ reference ∈ list, ∃ middle, middle.stack = before.stack ∧
      Ends may middle (load reference) (.error error) after := by
  induction list generalizing before with
  | nil => exact nomatch (ends_pure_iff.1 ends).1
  | cons reference rest ih =>
    rcases ends_bind_error_iff.1 ends with here | ⟨one, middle, loaded, ends⟩
    · exact ⟨reference, List.mem_cons_self, before, rfl, here⟩
    · rcases ends_bind_error_iff.1 ends with later | ⟨_, _, _, ends⟩
      · obtain ⟨other, member, reached, stack, failed⟩ :=
          ih (fun other member => h other (List.mem_cons_of_mem _ member)) later
        have same := (h reference List.mem_cons_self _ _ _ loaded).1
        exact ⟨other, List.mem_cons_of_mem _ member, reached, stack.trans same, failed⟩
      · exact nomatch (ends_pure_iff.1 ends).1

theorem referencesIn_eq {value : Tree} {list : List Reference}
    (h : Manifest.readReferences value = .ok list) : referencesIn (some value) = list := by
  rw [referencesIn, Option.map_some, h]

theorem steady_followed {load : Reference → Load α} {good : α → Prop} {location : Location}
    {value : Option Tree} (h : ∀ reference ∈ referencesIn value, Steady may (load reference) good) :
    Steady may (followed load location value) fun result =>
      (result = none → value = none) ∧ ∀ all, result = some all → ∀ one ∈ all, good one := by
  cases value with
  | none => exact steady_pure ⟨fun _ => rfl, fun _ eq => nomatch eq⟩
  | some value =>
    refine steady_bind (flat_referencesOf location value).steady fun list read => ?_
    rw [referencesIn_eq read] at h
    rw [map_eq_pure_bind]
    refine steady_bind (steady_loadAll h) fun all given => ?_
    exact steady_pure ⟨fun eq => (nomatch eq), fun _ eq => Option.some.inj eq ▸ given⟩

/-- The manifests that references lead to are good. -/
theorem steady_treesOf {load : Reference → Load Child} {good : Tree → Prop} {location : Location}
    {value : Option Tree}
    (h : ∀ reference ∈ referencesIn value, Steady may (load reference) fun child => good child.1) :
    Steady may (followed load location value) fun children =>
      (treesOf children = none → value = none) ∧
        ∀ trees, treesOf children = some trees → ∀ tree ∈ trees, good tree := by
  intro before children after ends
  obtain ⟨stack, absent, given⟩ := steady_followed h _ _ _ ends
  refine ⟨stack, fun none_ => absent (Option.map_eq_none_iff.1 none_), fun trees some_ => ?_⟩
  obtain ⟨all, rfl, rfl⟩ := Option.map_eq_some_iff.1 some_
  intro tree member
  obtain ⟨child, inside, rfl⟩ := List.mem_map.1 member
  exact given all rfl child inside

/-- Following references gives as many manifests as there are references. -/
theorem length_of_ends_loadAll {load : Reference → Load α} {list : List Reference} {all : List α}
    (ends : Ends may before (loadAll load list) (.ok all) after) : all.length = list.length := by
  induction list generalizing before after all with
  | nil =>
    cases (ends_pure_iff.1 ends).1
    rfl
  | cons reference rest ih =>
    obtain ⟨one, s₁, -, ends⟩ := ends_bind_ok_iff.1 ends
    obtain ⟨others, s₂, followed, ends⟩ := ends_bind_ok_iff.1 ends
    cases (ends_pure_iff.1 ends).1
    rw [List.length_cons, List.length_cons, ih followed]

/-- Where there are references, following them gives manifests. -/
theorem ne_nil_of_ends_followed {load : Reference → Load Child} {location : Location}
    {value : Option Tree} {children : Option (List Child)}
    (ends : Ends may before (followed load location value) (.ok children) after)
    (some_ : referencesIn value ≠ []) : ∃ trees, treesOf children = some trees ∧ trees ≠ [] := by
  cases value with
  | none => exact absurd rfl some_
  | some value =>
    obtain ⟨list, middle, read, ends⟩ := ends_bind_ok_iff.1 ends
    obtain ⟨-, read⟩ := flat_referencesOf location value _ _ _ read
    rw [map_eq_pure_bind] at ends
    obtain ⟨all, last, loaded, ends⟩ := ends_bind_ok_iff.1 ends
    cases (ends_pure_iff.1 ends).1
    refine ⟨_, rfl, fun nil => some_ ?_⟩
    rw [referencesIn_eq read, ← List.length_eq_zero_iff, ← length_of_ends_loadAll loaded,
      List.map_eq_nil_iff.1 nil, List.length_nil]

/-- An error of following references is their own, or one of them failing. -/
theorem ends_followed_error {load : Reference → Load α} {good : α → Prop} {location : Location}
    {value : Option Tree} {error : ResolveError}
    (h : ∀ reference ∈ referencesIn value, Steady may (load reference) good)
    (ends : Ends may before (followed load location value) (.error error) after) :
    (¬error.Nested ∧ after.stack = before.stack) ∨
      ∃ reference ∈ referencesIn value, ∃ middle, middle.stack = before.stack ∧
        Ends may middle (load reference) (.error error) after := by
  cases value with
  | none => exact nomatch (ends_pure_iff.1 ends).1
  | some value =>
    rcases ends_bind_error_iff.1 ends with failed | ⟨list, middle, read, ends⟩
    · obtain ⟨stack, own⟩ := flat_referencesOf location value _ _ _ failed
      exact .inl ⟨own, stack⟩
    · obtain ⟨stack, eq⟩ := flat_referencesOf location value _ _ _ read
      rw [referencesIn_eq eq] at h ⊢
      rw [map_eq_pure_bind] at ends
      rcases ends_bind_error_iff.1 ends with failed | ⟨_, _, _, ends⟩
      · obtain ⟨reference, member, reached, stack', failed⟩ := ends_loadAll_error h failed
        exact .inr ⟨reference, member, reached, stack'.trans stack, failed⟩
      · exact nomatch (ends_pure_iff.1 ends).1

/-! ## Calls -/

/-- What is relied on of the calls: they leave the stack as it was, and no references. -/
def Honest (may : Answering) (load : String → Location → Load (Tree × Dialect)) : Prop :=
  ∀ text location, Steady may (load text location) fun read => Consumed read.1

variable {load : String → Location → Load (Tree × Dialect)} {policy : OverridePolicy}

theorem Honest.steady_loadReference (honest : Honest may load) (location : Location)
    (reference : Reference) :
    Steady may (loadReference load location reference) fun child => Consumed child.1 := by
  refine steady_bind (flat_locate location reference).steady fun found _ => ?_
  exact steady_bind (honest found.1 found.2) fun read consumed => steady_pure consumed

/-- An override is loaded like any other manifest that a reference leads to. -/
theorem steady_loadOverride {load : Reference → Load Child} {good : Child → Prop}
    {reference : Reference} (h : Steady may (load reference) good) :
    Steady may (loadOverride load policy reference) good := by
  have heard (list : List Warning) :
      Steady may (liftM (Dialogue.warnings list)) fun _ => True := by
    intro before value after ends
    obtain ⟨-, rfl⟩ := ends_warnings_iff.1 ends
    exact ⟨rfl, trivial⟩
  exact steady_bind h fun child given => steady_bind (heard _) fun _ _ => steady_pure given

theorem Honest.steady_loadOverride (honest : Honest may load) (location : Location)
    (reference : Reference) :
    Steady may (loadOverride (loadReference load location) policy reference)
      fun child => Consumed child.1 :=
  BuildManifest.steady_loadOverride (honest.steady_loadReference location reference)

/-- An error of a reference is its own, or the error of the call it makes. -/
theorem ends_loadReference_error {location : Location} {reference : Reference}
    {error : ResolveError}
    (ends : Ends may before (loadReference load location reference) (.error error) after) :
    (¬error.Nested ∧ after.stack = before.stack) ∨
      ∃ found reached, Ends may before (locate location reference) (.ok found) reached ∧
        reached.stack = before.stack ∧
        Ends may reached (load found.1 found.2) (.error error) after := by
  rcases ends_bind_error_iff.1 ends with failed | ⟨found, reached, located, ends⟩
  · obtain ⟨stack, own⟩ := flat_locate location reference _ _ _ failed
    exact .inl ⟨own, stack⟩
  · rcases ends_bind_error_iff.1 ends with failed | ⟨_, _, _, ends⟩
    · exact .inr ⟨found, reached, located, (flat_locate location reference _ _ _ located).1, failed⟩
    · exact nomatch (ends_pure_iff.1 ends).1

theorem ends_loadOverride_error {location : Location} {reference : Reference}
    {error : ResolveError}
    (ends : Ends may before (loadOverride (loadReference load location) policy reference)
      (.error error) after) :
    Ends may before (loadReference load location reference) (.error error) after := by
  rcases ends_bind_error_iff.1 ends with failed | ⟨_, _, _, ends⟩
  · exact failed
  · rcases ends_bind_error_iff.1 ends with failed | ⟨_, _, _, ends⟩
    · exact nomatch (ends_warnings_iff.1 failed).1
    · exact nomatch (ends_pure_iff.1 ends).1

/-- The manifests that references led to have their own references followed. -/
def Followed (value : Option Tree) (children : Option (List Child)) : Prop :=
  (treesOf children = none → value = none) ∧
    ∀ trees, treesOf children = some trees → AllConsumed trees

theorem Honest.steady_included (honest : Honest may load) (location : Location)
    (value : Option Tree) :
    Steady may (followed (loadReference load location) location value) (Followed value) :=
  steady_treesOf fun reference _ => honest.steady_loadReference location reference

theorem Honest.steady_overriding (honest : Honest may load) (location : Location)
    (value : Option Tree) :
    Steady may (followed (loadOverride (loadReference load location) policy) location value)
      (Followed value) :=
  steady_treesOf fun reference _ => honest.steady_loadOverride location reference

theorem rooted_of_parseDetected {text : String} {read : Tree × Dialect}
    (h : parseDetected text = .ok read) : read.1.normalize.Rooted := by
  obtain ⟨entries, eq, distinct⟩ := distinct_of_parseDetected h
  exact Tree.rooted_normalize ⟨entries, eq, distinct⟩

/-- **What a step that succeeds has done**: it has read the text, followed the includes and then the
overrides, and merged what they led to. -/
theorem exists_of_ends_loadStep {text : String} {location : Location} {result : Tree × Dialect}
    (ends : Ends may before (loadStep policy load text location) (.ok result) after) :
    ∃ read included overriding s₁ s₂ s₃, parseDetected text = .ok read ∧
      s₁.stack = before.stack ++ [location] ∧
      Ends may s₁ (followed (loadReference load location) location
        (read.1.normalize.field? "includes")) (.ok included) s₂ ∧
      Ends may s₂ (followed (loadOverride (loadReference load location) policy) location
        ((withIncludes read.1.normalize (treesOf included)).field? "overrides"))
          (.ok overriding) s₃ ∧
      after = s₃.outside ∧
      result.1 = withOverrides policy (withIncludes read.1.normalize (treesOf included))
        (treesOf overriding) := by
  rw [loadStep_eq] at ends
  obtain ⟨_, inside, entered, ends⟩ := ends_bind_ok_iff.1 ends
  rcases ends_enter_iff.1 entered with ⟨-, ⟨⟩, -⟩ | ⟨-, -, rfl⟩
  obtain ⟨read, s₁, parsed, ends⟩ := ends_bind_ok_iff.1 ends
  obtain ⟨stack, parsed⟩ := flat_readTree text location _ _ _ parsed
  obtain ⟨included, s₂, followed₁, ends⟩ := ends_bind_ok_iff.1 ends
  obtain ⟨overriding, s₃, followed₂, ends⟩ := ends_bind_ok_iff.1 ends
  obtain ⟨_, s₄, left, ends⟩ := ends_bind_ok_iff.1 ends
  obtain ⟨-, rfl⟩ := ends_leave_iff.1 left
  obtain ⟨eq, rfl⟩ := ends_pure_iff.1 ends
  cases eq
  exact ⟨read, included, overriding, s₁, s₂, s₃, parsed, stack, followed₁, followed₂, rfl, rfl⟩

/-- **A step gives a manifest without references, and leaves the stack as it was.** -/
theorem honest_loadStep (honest : Honest may load) : Honest may (loadStep policy load) := by
  intro text location before result after ends
  obtain ⟨read, included, overriding, s₁, s₂, s₃, parsed, stack₁, followed₁, followed₂, rfl, eq⟩ :=
    exists_of_ends_loadStep ends
  have rooted := rooted_of_parseDetected parsed
  obtain ⟨stack₂, absent, consumed⟩ := honest.steady_included location _ _ _ _ followed₁
  obtain ⟨stack₃, absent', consumed'⟩ := honest.steady_overriding location _ _ _ _ followed₂
  constructor
  · have stack : s₃.stack = before.stack ++ [location] := stack₃.trans (stack₂.trans stack₁)
    rw [Session.outside, stack, List.dropLast_concat]
  · show Consumed result.1
    rw [eq]
    exact consumed_withOverrides (rooted_withIncludes rooted consumed)
      (field?_withIncludes_includes rooted absent consumed) absent' consumed'

/-- **Loading leaves the stack as it was, and no references.** -/
theorem honest_loadTree (policy : OverridePolicy) (nesting : Nat) :
    Honest may (loadTree policy nesting) := by
  induction nesting with
  | zero => exact fun text location before result after ends => nomatch (ends_fail_iff.1 ends).1
  | succ nesting ih => exact honest_loadStep ih

/-- Where an error of a call comes from.  References to includes and to overrides are called
alike. -/
theorem ends_call_error {text : String} {location : Location} {read : Tree × Dialect}
    {reference : Reference} {error : ResolveError} (parsed : parseDetected text = .ok read)
    (member : reference ∈ references read.1.normalize)
    (failed : Ends may before (loadReference load location reference) (.error error) after) :
    (¬error.Nested ∧ after.stack = before.stack) ∨
    ∃ found reached, Leads may (text, location) found ∧ reached.stack = before.stack ∧
      Ends may reached (load found.1 found.2) (.error error) after := by
  rcases ends_loadReference_error failed with own | ⟨found, reached, located, same, failed⟩
  · exact .inl own
  · have leads : Leads may (text, location) found :=
      ⟨read, parsed, reference, member, before, reached, located⟩
    exact .inr ⟨found, reached, leads, same, failed⟩

/-- **Where an error of a step comes from**: the location is being loaded already, or the error is
the manifest's own, or a manifest that it refers to fails. -/
theorem ends_loadStep_error (honest : Honest may load) {text : String} {location : Location}
    {error : ResolveError} (ends : Ends may before (loadStep policy load text location)
      (.error error) after) :
    (before.Loading location ∧ error = before.cycle location ∧ after = before) ∨
    (¬before.Loading location ∧
      ((¬error.Nested ∧ after.stack = before.stack ++ [location]) ∨
      ∃ found reached, Leads may (text, location) found ∧
        reached.stack = before.stack ++ [location] ∧
        Ends may reached (load found.1 found.2) (.error error) after)) := by
  rw [loadStep_eq] at ends
  rcases ends_bind_error_iff.1 ends with failed | ⟨_, inside, entered, ends⟩
  · rcases ends_enter_iff.1 failed with ⟨within, eq, rfl⟩ | ⟨-, ⟨⟩, -⟩
    exact .inl ⟨within, Except.error.inj eq, rfl⟩
  rcases ends_enter_iff.1 entered with ⟨-, ⟨⟩, -⟩ | ⟨fresh, -, rfl⟩
  refine .inr ⟨fresh, ?_⟩
  rcases ends_bind_error_iff.1 ends with failed | ⟨read, s₁, parsed, ends⟩
  · obtain ⟨stack, own⟩ := flat_readTree text location _ _ _ failed
    exact .inl ⟨own, stack⟩
  obtain ⟨stack₁, parsed⟩ := flat_readTree text location _ _ _ parsed
  have rooted := rooted_of_parseDetected parsed
  rcases ends_bind_error_iff.1 ends with failed | ⟨included, s₂, followed₁, ends⟩
  · rcases ends_followed_error (fun reference _ => honest.steady_loadReference location reference)
      failed with ⟨own, stack⟩ | ⟨reference, member, middle, stack, failed⟩
    · exact .inl ⟨own, stack.trans stack₁⟩
    · have stack : middle.stack = before.stack ++ [location] := stack.trans stack₁
      exact stack ▸ ends_call_error parsed (List.mem_append_left _ member) failed
  obtain ⟨stack₂, -, consumed⟩ := honest.steady_included location _ _ _ _ followed₁
  dsimp only at ends
  rw [field?_withIncludes_overrides rooted consumed] at ends
  rcases ends_bind_error_iff.1 ends with failed | ⟨_, _, _, ends⟩
  · rcases ends_followed_error (fun reference _ => honest.steady_loadOverride location reference)
      failed with ⟨own, stack⟩ | ⟨reference, member, middle, stack, failed⟩
    · exact .inl ⟨own, stack.trans (stack₂.trans stack₁)⟩
    · have stack : middle.stack = before.stack ++ [location] :=
        stack.trans (stack₂.trans stack₁)
      have failed := ends_loadOverride_error failed
      exact stack ▸ ends_call_error parsed (List.mem_append_right _ member) failed
  · rcases ends_bind_error_iff.1 ends with failed | ⟨_, _, _, ends⟩
    · exact nomatch (ends_leave_iff.1 failed).1
    · exact nomatch (ends_pure_iff.1 ends).1

end BuildManifest
