import Iperf.Transition.Core

/-!
# What a run adds up to

Two accounts that are kept along a run, each settled by a fact about one step: a
condition that some events bring about and none undoes, and a potential that some
events draw on and others raise.
-/

namespace Iperf.Transition

universe u v

variable {σ : Type u} {ε : Type v}

/-- What only certain events bring about, and nothing undoes, holds at the end of a run
exactly if it held before or one of them has occurred. -/
theorem run_latched {next : Step σ ε} (always latched : σ → Prop) (sets : ε → Prop)
    (kept : ∀ ⦃source event target⦄, always source → next source event = some target →
      always target)
    (latches : ∀ ⦃source event target⦄, always source → next source event = some target →
      (latched target ↔ latched source ∨ sets event))
    {source target : σ} {events : List ε} (everywhere : always source)
    (finished : run next source events = some target) :
    latched target ↔ latched source ∨ ∃ event ∈ events, sets event := by
  induction events generalizing source with
  | nil =>
      rw [run_nil] at finished
      cases finished
      simp only [List.not_mem_nil, false_and, exists_false, or_false]
  | cons event events ih =>
      rcases (run_cons_eq_some_iff next source target event events).mp finished with
        ⟨middle, step, rest⟩
      rw [ih (kept everywhere step) rest, latches everywhere step]
      simp only [List.mem_cons, or_and_right, exists_or, exists_eq_left, or_assoc]

/-- Each event that earns raises the potential by at most `budget`, and each that spends
uses up some of it, so the budget of a run pays for all that is spent in it. -/
theorem run_potential {next : Step σ ε} (always : σ → Prop) (potential : σ → Nat)
    (spends earns : ε → Bool) (budget : Nat)
    (kept : ∀ ⦃source event target⦄, always source → next source event = some target →
      always target)
    (settles : ∀ ⦃source event target⦄, always source → next source event = some target →
      potential target + (if spends event then 1 else 0) ≤
        potential source + if earns event then budget else 0)
    {source target : σ} {events : List ε} (everywhere : always source)
    (finished : run next source events = some target) :
    potential target + events.countP spends ≤ potential source + budget * events.countP earns := by
  induction events generalizing source with
  | nil =>
      rw [run_nil] at finished
      cases finished
      exact Nat.le_refl _
  | cons event events ih =>
      rcases (run_cons_eq_some_iff next source target event events).mp finished with
        ⟨middle, step, rest⟩
      have later := ih (kept everywhere step) rest
      have now := settles everywhere step
      have earned : budget * (events.countP earns + if earns event then 1 else 0) =
          budget * events.countP earns + if earns event then budget else 0 := by
        split
        · exact Nat.mul_succ budget _
        · rfl
      rw [List.countP_cons, List.countP_cons, earned]
      omega

end Iperf.Transition
