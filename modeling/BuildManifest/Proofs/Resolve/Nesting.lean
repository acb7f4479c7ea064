import BuildManifest.Proofs.Fetch.Cut
import BuildManifest.Proofs.Resolve.Calls
import Mathlib.Data.Finset.Card
import Mathlib.Data.Set.Finite.Basic

/-!
# How deeply manifests are nested

Loading is bounded by how many manifests may be loaded at a time.  A larger bound changes nothing
unless the smaller one was reached.  And no bound beyond the number of places is reached, since a
manifest is not entered again where it is being loaded.

## What is here

* `cut_loadTree` — a smaller bound cuts a loading short.
* `Session.Apart` — no location is on the stack twice.
* `never_nestedTooDeeply` — **a bound beyond the number of places is not reached**.
-/

set_option autoImplicit false

namespace BuildManifest

open Load

variable {α β : Type} {may : Answering} {before after : Session}

/-! ## Larger bounds -/

/-- The bound was reached. -/
def TooDeep (reached : Except ResolveError α × Session) : Prop :=
  reached.1 = .error .nestedTooDeeply

/-- The first loading is the second one, cut short where its bound is reached. -/
def Load.Cut (one other : Load α) : Prop :=
  ∀ session, Dialogue.Cut TooDeep (one.run session) (other.run session)

theorem cut_refl (loading : Load α) : Load.Cut loading loading :=
  fun session => Dialogue.cut_refl _ (loading.run session)

theorem cut_bind {one other : Load α} {f g : α → Load β} (h : Load.Cut one other)
    (h' : ∀ value, Load.Cut (f value) (g value)) : Load.Cut (one >>= f) (other >>= g) := by
  intro session
  rw [run_bind, run_bind]
  refine Dialogue.cut_bind (h session) ?_ ?_
  · rintro ⟨result, middle⟩
    cases result with
    | ok value => exact h' value middle
    | error error => exact Dialogue.cut_refl _ _
  · rintro ⟨result, middle⟩ deep
    cases result with
    | ok value => cases deep
    | error error => exact ⟨_, rfl, congrArg Except.error (Except.error.inj deep)⟩

theorem cut_loadAll {load load' : Reference → Load α}
    (h : ∀ reference, Load.Cut (load reference) (load' reference)) (list : List Reference) :
    Load.Cut (loadAll load list) (loadAll load' list) := by
  induction list with
  | nil => exact cut_refl _
  | cons reference rest ih =>
    exact cut_bind (h reference) fun one => cut_bind ih fun others => cut_refl _

theorem cut_followed {load load' : Reference → Load α}
    (h : ∀ reference, Load.Cut (load reference) (load' reference)) (location : Location)
    (value : Option Tree) :
    Load.Cut (followed load location value) (followed load' location value) := by
  cases value with
  | none => exact cut_refl _
  | some value =>
    refine cut_bind (cut_refl _) fun list => ?_
    rw [map_eq_pure_bind, map_eq_pure_bind]
    exact cut_bind (cut_loadAll h list) fun all => cut_refl _

theorem cut_loadStep {load load' : String → Location → Load (Tree × Dialect)}
    (h : ∀ text location, Load.Cut (load text location) (load' text location))
    (policy : OverridePolicy) (text : String) (location : Location) :
    Load.Cut (loadStep policy load text location) (loadStep policy load' text location) := by
  have call (reference : Reference) : Load.Cut (loadReference load location reference)
      (loadReference load' location reference) :=
    cut_bind (cut_refl _) fun found => cut_bind (h found.1 found.2) fun read => cut_refl _
  have override (reference : Reference) :
      Load.Cut (loadOverride (loadReference load location) policy reference)
        (loadOverride (loadReference load' location) policy reference) :=
    cut_bind (call reference) fun child => cut_refl _
  rw [loadStep_eq, loadStep_eq]
  refine cut_bind (cut_refl _) fun _ => cut_bind (cut_refl _) fun read => ?_
  refine cut_bind (cut_followed call location _) fun included => ?_
  exact cut_bind (cut_followed override location _) fun overriding => cut_refl _

/-- **A smaller bound cuts a loading short**, and does nothing else to it. -/
theorem cut_loadTree (policy : OverridePolicy) {fewer more : Nat} (le : fewer ≤ more)
    (text : String) (location : Location) :
    Load.Cut (loadTree policy fewer text location) (loadTree policy more text location) := by
  induction fewer generalizing more text location with
  | zero =>
    intro session
    rw [loadTree, run_fail]
    refine .stopped ?_ _
    rfl
  | succ fewer ih =>
    obtain ⟨more, rfl⟩ : ∃ n, more = n + 1 := ⟨more - 1, by omega⟩
    exact cut_loadStep (fun text location => ih (Nat.le_of_succ_le_succ le) text location)
      policy text location

theorem cut_loadManifest (policy : OverridePolicy) {fewer more : Nat} (le : fewer ≤ more)
    (source : Source) :
    Load.Cut (loadManifest policy fewer source) (loadManifest policy more source) :=
  cut_bind (cut_refl _) fun found =>
    cut_bind (cut_loadTree policy le found.1 found.2) fun _ => cut_refl _

/-- A bound that is not reached may be any larger. -/
theorem ends_loadManifest_of_le {policy : OverridePolicy} {fewer more : Nat} (le : fewer ≤ more)
    {source : Source} (never : ∀ after,
      ¬Ends may before (loadManifest policy fewer source) (.error .nestedTooDeeply) after)
    (result : Except ResolveError Manifest) (after : Session) :
    Ends may before (loadManifest policy more source) result after ↔
      Ends may before (loadManifest policy fewer source) result after := by
  refine Dialogue.ends_of_cut (cut_loadManifest policy le source before) ?_ _
  rintro ⟨reached, middle⟩ ends deep
  exact never middle ((show reached = .error .nestedTooDeeply from deep) ▸ ends)

/-! ## Bounds that are not reached -/

theorem same_self (location : Location) : location.same location = true := by
  cases location <;> simp [Location.same, FilePath.same]

/-- No location is on the stack twice. -/
def Session.Apart (session : Session) : Prop :=
  session.stack.Pairwise fun a b => a.same b = false

theorem Session.Apart.nodup {session : Session} (h : session.Apart) : session.stack.Nodup := by
  refine List.Pairwise.imp (fun {a b} apart eq => ?_) h
  rw [eq, same_self] at apart
  cases apart

/-- A location that may be entered is apart from those on the stack. -/
theorem Session.Apart.append {session : Session} (h : session.Apart) {location : Location}
    (fresh : ¬session.Loading location) :
    (session.stack ++ [location]).Pairwise fun a b => a.same b = false := by
  refine List.pairwise_append.2 ⟨h, List.pairwise_singleton _ _, fun a inside b last => ?_⟩
  rw [List.mem_singleton.1 last]
  exact Bool.eq_false_iff.2 fun same => fresh (List.any_eq_true.2 ⟨a, inside, same⟩)

/-- Where the stack lies within finitely many places, as many manifests as there are places left
are enough. -/
theorem never_nestedTooDeeply {places : Finset Location}
    (closed : ∀ location, Served may location → location ∈ places) {policy : OverridePolicy}
    (nesting : Nat) {text : String} {location : Location} (here : location ∈ places)
    (apart : before.Apart) (inside : ∀ one ∈ before.stack, one ∈ places)
    (enough : places.card < nesting + before.stack.length) :
    ¬Ends may before (loadTree policy nesting text location) (.error .nestedTooDeeply) after := by
  induction nesting generalizing before text location with
  | zero =>
    have fits : before.stack.length ≤ places.card := by
      rw [← List.toFinset_card_of_nodup apart.nodup]
      exact Finset.card_le_card fun one member => inside one (List.mem_toFinset.1 member)
    omega
  | succ nesting ih =>
    intro ends
    rcases ends_loadStep_error (honest_loadTree policy nesting) ends with
      ⟨-, eq, -⟩ | ⟨fresh, ⟨own, -⟩ | ⟨found, reached, leads, stack, failed⟩⟩
    · cases eq
    · exact own trivial
    · refine ih (closed _ leads.served) ?_ ?_ ?_ failed
      · rw [Session.Apart, stack]
        exact apart.append fresh
      · intro one member
        rw [stack] at member
        rcases List.mem_append.1 member with early | last
        · exact inside one early
        · exact List.mem_singleton.1 last ▸ here
      · rw [stack, List.length_append, List.length_singleton]
        omega

end BuildManifest
