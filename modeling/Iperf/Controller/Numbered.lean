import Iperf.Controller.Exchange

/-!
# The ids of the results

A result is kept under the id of the stream whose handle was awaited, and the
handles are kept under values of the stream counter.  So however often the counter
has wrapped, a result map has at most as many entries as the counter has values.
-/

namespace Iperf

open Channel Transition

namespace Controller

variable {controller next : Controller}

/-- Results are kept under values of the stream counter, and the cookie that is
announced is that of the test. -/
structure Numbered (controller : Controller) : Prop where
  results : ∀ id ∈ controller.streamResults, id < UInt16.size
  joining : ∀ id index, controller.pc = .joining id index → id < UInt16.size
  asking : ∀ cookie, controller.pc = .announcing (.createStreams cookie) →
    cookie = controller.perf.cookie

theorem new_numbered (build : Build) (perf : Perf) : (new build perf).Numbered where
  results := fun id held => absurd held (AList.notMem_empty id)
  joining := by
    rintro id index ⟨⟩
  asking := by
    rintro cookie ⟨⟩

/-- A handle is kept under a value of the stream counter. -/
theorem Registered.id_lt (registered : controller.Registered) {id index : Nat}
    (found : controller.workers.lookup id = some index) : id < UInt16.size := by
  rw [← (registered.position id index found).2]
  exact Nat.mod_lt index (by decide)

/-- A controller asks for streams with the cookie of its test. -/
theorem Move.asking (move : Move controller next) {cookie : String}
    (pc : next.pc = .announcing (.createStreams cookie)) : cookie = next.perf.cookie := by
  cases move with
  | createStreams before role =>
      cases pc
      rfl
  | recvCreate stream mailbox total before role head needed =>
      simp only at pc
      split at pc <;> cases pc
  | greeted total stream before =>
      simp only at pc
      split at pc <;> cases pc
  | recvStray | join =>
      simp only [afterTerminatedPc] at pc
      split at pc <;> cases pc
  | recvTerminate | shutdown =>
      simp only [setStatePc] at pc
      split at pc <;> cases pc
  | close next closes =>
      have after := closes.after
      rw [pc] at after
      exact after.elim
  | finish next ends =>
      rcases ends.pc with ⟨ending, ended⟩
      rw [pc] at ended
      cases ended
  | _ => cases pc

theorem Numbered.step (numbered : controller.Numbered) (registered : controller.Registered)
    {event : ControllerEvent} (step : controller.controllerStep event = some next) :
    next.Numbered := by
  have whole := move_of_controllerStep step
  cases (resultMove_of_step step).gains with
  | loop kept silent move =>
      constructor
      · rw [kept.results]
        exact numbered.results
      · intro id index pc
        have source := move.source
        rw [pc] at source
        exact registered.id_lt source.1
      · exact fun _ pc => whole.asking pc
  | past silent past =>
      constructor
      · rw [past.results]
        exact numbered.results
      · exact fun id index waits => absurd waits (past.pc id index)
      · exact fun _ pc => whole.asking pc
  | result id index result awaited ended joins results tasks noPc =>
      have small : id < UInt16.size := by
        rcases awaited with ⟨pc, -⟩ | ⟨found, -⟩
        · exact numbered.joining id index pc
        · exact registered.id_lt found
      constructor
      · intro other held
        rw [results, AList.mem_insert] at held
        rcases held with same | earlier
        · rw [same]
          exact small
        · exact numbered.results other earlier
      · exact fun id index waits => absurd waits (noPc id index)
      · exact fun _ pc => whole.asking pc

theorem Numbered.rests (numbered : controller.Numbered) (rests : controller.Rests next) :
    next.Numbered := by
  have aside := rests.aside
  constructor
  · rw [aside.results]
    exact numbered.results
  · rw [aside.pc]
    exact numbered.joining
  · rw [aside.pc, aside.perf]
    exact numbered.asking

end Controller

end Iperf
