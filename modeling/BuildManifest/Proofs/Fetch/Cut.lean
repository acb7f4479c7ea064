import BuildManifest.Proofs.Fetch.Outcome

/-!
# Dialogues cut short

A dialogue with a bound asks the same as one with a larger bound until it gives up.  That is an
order on dialogues: the smaller one is the larger one, cut short in some places by values that say
so.

## What is here

* `Dialogue.Cut` — the order.
* `cut_bind` — sequences are cut short where their parts are.
* `ends_of_cut` — **a dialogue that never gives up is not cut short**.
* `run_of_cut` — in a world, a dialogue gives up or is not cut short.
-/

set_option autoImplicit false

namespace BuildManifest.Dialogue

variable {α β : Type} {may : Answering}

/-- The first dialogue is the second one, cut short by values that satisfy `stop`. -/
inductive Cut (stop : α → Prop) : Dialogue α → Dialogue α → Prop
  | done (value : α) : Cut stop (.done value) (.done value)
  | stopped {value : α} (given : stop value) (other : Dialogue α) : Cut stop (.done value) other
  | ask (request : Request) {f g : request.Answer → Dialogue α}
      (next : ∀ answer, Cut stop (f answer) (g answer)) : Cut stop (.ask request f) (.ask request g)
  | warn (warning : Warning) {one other : Dialogue α} (rest : Cut stop one other) :
      Cut stop (.warn warning one) (.warn warning other)

theorem cut_refl (stop : α → Prop) (dialogue : Dialogue α) : Cut stop dialogue dialogue := by
  induction dialogue with
  | done value => exact .done value
  | ask request next ih => exact .ask request ih
  | warn warning rest ih => exact .warn warning ih

/-- **Sequences are cut short where their parts are**, if giving up is passed on. -/
theorem cut_bind {stop : α → Prop} {halt : β → Prop} {one other : Dialogue α}
    {f g : α → Dialogue β} (h : Cut stop one other) (h' : ∀ value, Cut halt (f value) (g value))
    (pass : ∀ value, stop value → ∃ last, f value = .done last ∧ halt last) :
    Cut halt (one.bind f) (other.bind g) := by
  induction h with
  | done value => exact h' value
  | stopped given other =>
    obtain ⟨last, eq, halts⟩ := pass _ given
    simp only [bind, eq]
    exact .stopped halts _
  | ask request next ih => exact .ask request ih
  | warn warning rest ih => exact .warn warning ih

/-- **A dialogue that never gives up is not cut short.** -/
theorem ends_of_cut {stop : α → Prop} {one other : Dialogue α} (h : Cut stop one other)
    (never : ∀ value, Ends may one value → ¬stop value) (value : α) :
    Ends may other value ↔ Ends may one value := by
  induction h with
  | done value => exact Iff.rfl
  | stopped given other => exact absurd given (never _ (.done _))
  | ask request next ih =>
    have go (answer : request.Answer) (given : may request answer) :=
      ih answer fun value ends => never value (.ask answer given ends)
    constructor
    · rintro ⟨⟩
      rename_i answer given rest
      exact .ask answer given ((go answer given).1 rest)
    · rintro ⟨⟩
      rename_i answer given rest
      exact .ask answer given ((go answer given).2 rest)
  | warn warning rest ih =>
    have go := ih fun value ends => never value (.warn ends)
    constructor
    · rintro ⟨⟩
      rename_i rest
      exact .warn (go.1 rest)
    · rintro ⟨⟩
      rename_i rest
      exact .warn (go.2 rest)

/-- In a world a dialogue gives up, or it is not cut short. -/
theorem run_of_cut {stop : α → Prop} {one other : Dialogue α} (h : Cut stop one other)
    (world : World) : stop (one.run world).value ∨ one.run world = other.run world := by
  induction h with
  | done value => exact .inr rfl
  | stopped given other => exact .inl given
  | ask request next ih =>
    rcases ih (world request) with stops | eq
    · exact .inl stops
    · refine .inr ?_
      rw [run, run, eq]
  | warn warning rest ih =>
    rcases ih with stops | eq
    · exact .inl stops
    · refine .inr ?_
      rw [run, run, eq]

end BuildManifest.Dialogue
