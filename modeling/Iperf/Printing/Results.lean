import Iperf.Printing.Tasks

/-!
# The results at the end of a test

A controller takes its sender of the stats channel to forward the results: those of
its own streams first, then those of the peer.  Nothing is forwarded earlier, and no
result of its own is forwarded twice.
-/

namespace Iperf

open Channel

/-- Marked as the peer's. -/
abbrev AllPeer (lines : List StreamStats) : Prop :=
  ∀ line ∈ lines, line.isPeer = true

namespace Controller

variable {controller next : Controller}

theorem allPeer_markPeer (results : Results) : AllPeer (markPeer results) := by
  intro line lineMem
  rcases List.mem_map.mp lineMem with ⟨entry, -, rfl⟩
  rfl

/-- The forwarded results are some of the controller's own and then some of its peer's,
and `left` of its own are left. -/
structure Divided (left : List StreamStats) (controller : Controller) : Prop where
  split : ∃ locals peers, controller.forwarded = locals ++ peers ∧ AllPeer peers ∧
    (locals ++ left).Perm controller.summaries ∧ (peers = [] ∨ left = [])

/-- How far the forwarding is. -/
structure Handed (controller : Controller) : Prop where
  early : (∀ localStats remoteStats, controller.pc ≠ .forwarding localStats remoteStats) →
    controller.alive = true → controller.forwarded = [] ∧ controller.statsSender = true
  midway : ∀ localStats remoteStats, controller.pc = .forwarding localStats remoteStats →
    controller.Divided localStats ∧ AllPeer remoteStats
  atEnd : ∃ left, controller.Divided left

/-- Nothing is divided before something is forwarded. -/
theorem divided_of_nil (none : controller.forwarded = []) :
    controller.Divided controller.summaries where
  split := by
    rw [none]
    refine ⟨[], [], rfl, ?_, List.Perm.refl _, .inl rfl⟩
    rintro line ⟨⟩

theorem handed_of_early (notForwarding : ∀ localStats remoteStats,
      controller.pc ≠ .forwarding localStats remoteStats)
    (none : controller.forwarded = []) (sender : controller.statsSender = true) :
    controller.Handed where
  early := fun _ _ => ⟨none, sender⟩
  midway := fun localStats remoteStats pc => absurd pc (notForwarding localStats remoteStats)
  atEnd := ⟨_, divided_of_nil none⟩

theorem new_handed (build : Build) (perf : Perf) : (new build perf).Handed :=
  handed_of_early (by rintro _ _ ⟨⟩) rfl rfl

/-- The controller ends with what it has forwarded. -/
theorem Handed.ended (handed : controller.Handed) {ending : Ending}
    (pc : next.pc = .ended ending) (forwarded : next.forwarded = controller.forwarded)
    (results : next.streamResults = controller.streamResults) : next.Handed where
  early := by
    intro _ running
    rw [alive, pc] at running
    cases running
  midway := by
    intro localStats remoteStats other
    rw [pc] at other
    cases other
  atEnd := by
    rcases handed.atEnd with ⟨left, divided⟩
    refine ⟨left, ⟨?_⟩⟩
    rw [forwarded, summaries, results]
    exact divided.split

/-- Not at the end yet, and nothing has been forwarded. -/
def Underway (controller : Controller) : Prop :=
  controller.forwarded = [] ∧ controller.statsSender = true

theorem Handed.underway (handed : controller.Handed) {pc : Pc} (stage : controller.pc = pc)
    (notForwarding : ∀ localStats remoteStats, pc ≠ .forwarding localStats remoteStats)
    (running : ∀ ending, pc ≠ .ended ending) : controller.Underway := by
  apply handed.early
  · rw [stage]
    exact notForwarding
  · rw [alive_iff, stage]
    exact running

/-- The controller takes its sender. -/
theorem Underway.forwardResults (underway : controller.Underway) {remote : List StreamStats}
    (peers : AllPeer remote) : (controller.forwardResults remote).Handed := by
  rcases underway with ⟨none, sender⟩
  rw [forwardResults_eq sender]
  constructor
  · intro other _
    exact absurd rfl (other _ _)
  · intro localStats remoteStats pc
    cases pc
    refine ⟨⟨[], [], none, ?_, List.Perm.refl _, .inl rfl⟩, peers⟩
    rintro line ⟨⟩
  · exact ⟨_, divided_of_nil none⟩

/-- What a step of the controller sends. -/
inductive SendsResult (controller : Controller) (event : ControllerEvent) (next : Controller) :
    Prop where
  | silent (offered : controller.offers (.controller event) = none)
      (kept : next.forwarded = controller.forwarded)
  | line (line : StreamStats) (forwarding : controller.isForwarding = true)
      (offered : controller.offers (.controller event) = some line)
      (sent : next.forwarded = controller.forwarded ++ [line])

private theorem handed_of_forward {index : Nat} {delivered : Bool} (handed : controller.Handed)
    (step : controller.controllerStep (.forward index delivered) = some next) :
    next.Handed ∧ SendsResult controller (.forward index delivered) next := by
  simp only [controllerStep] at step
  split at step
  · rename_i localStats remoteStats pc
    rcases handed.midway localStats remoteStats pc with ⟨⟨locals, peers, whole, marked, perm, last⟩,
      remote⟩
    have forwarding : controller.isForwarding = true := by simp only [isForwarding, pc]
    cases delivered with
    | false =>
        simp only [forwardOne, Bool.false_eq_true, if_false] at step
        split at step
        · cases step
        · cases step
          exact ⟨handed.ended rfl rfl rfl, .silent rfl rfl⟩
    | true =>
        cases localStats with
        | nil =>
            simp only [forwardOne, if_true] at step
            split at step
            · cases step
            · rename_i line chosen
              cases step
              have divided : Divided [] { controller with
                  forwarded := controller.forwarded ++ [line]
                  pc := .forwarding [] (remoteStats.eraseIdx index) } := by
                refine ⟨locals, peers ++ [line], ?_, ?_, perm, .inr rfl⟩
                · rw [whole, List.append_assoc]
                · intro other otherMem
                  rcases List.mem_append.mp otherMem with before | now
                  · exact marked other before
                  · rw [List.mem_singleton.mp now]
                    exact remote line (List.mem_of_getElem? chosen)
              constructor
              · constructor
                · exact fun other _ => absurd rfl (other _ _)
                · rintro _ _ ⟨⟩
                  exact ⟨divided, fun other otherMem =>
                    remote other (List.mem_of_mem_eraseIdx otherMem)⟩
                · exact ⟨_, divided⟩
              · exact .line line forwarding (by simp only [offers, pc, chosen]) rfl
        | cons first rest =>
            simp only [forwardOne, if_true] at step
            split at step
            · cases step
            · rename_i line chosen
              cases step
              have none : peers = [] := last.resolve_right (List.cons_ne_nil first rest)
              have divided : Divided ((first :: rest).eraseIdx index) { controller with
                  forwarded := controller.forwarded ++ [line]
                  pc := .forwarding ((first :: rest).eraseIdx index) remoteStats } := by
                refine ⟨locals ++ [line], [], ?_, ?_, ?_, .inl rfl⟩
                · rw [whole, none, List.append_nil, List.append_nil]
                · rintro other ⟨⟩
                · rw [List.append_assoc, List.singleton_append]
                  exact ((perm_of_getElem? chosen).symm.append_left locals).trans perm
              constructor
              · constructor
                · exact fun other _ => absurd rfl (other _ _)
                · rintro _ _ ⟨⟩
                  exact ⟨divided, remote⟩
                · exact ⟨_, divided⟩
              · exact .line line forwarding (by simp only [offers, pc, chosen]) rfl
  · cases step

/-- Only `forward` sends a line. -/
theorem offers_of_controller {event : ControllerEvent}
    (other : ∀ index, event ≠ .forward index true) :
    controller.offers (.controller event) = none := by
  cases event with
  | forward index delivered =>
      cases delivered with
      | true => exact absurd rfl (other index)
      | false => rfl
  | _ => rfl

/-- A step of the controller, and what it sends. -/
theorem Handed.step (handed : controller.Handed) {event : ControllerEvent}
    (step : controller.controllerStep event = some next) :
    next.Handed ∧ SendsResult controller event next := by
  by_cases forwards : ∃ index delivered, event = .forward index delivered
  · rcases forwards with ⟨index, delivered, rfl⟩
    exact handed_of_forward handed step
  have silent : controller.offers (.controller event) = none :=
    offers_of_controller fun index same => forwards ⟨index, true, same⟩
  cases resultMove_of_step step with
  | loop _ _ before after kept _ move =>
      have underway := handed.underway rfl
        (by rintro _ _ pc; rw [pc] at before; exact before trivial)
        (by rintro _ pc; rw [pc] at before; exact before trivial)
      constructor
      · apply handed_of_early
        · rintro _ _ pc
          rw [pc] at after
          exact after trivial
        · exact kept.forwarded.trans underway.1
        · exact (move.sender before after).trans underway.2
      · exact .silent silent kept.forwarded
  | stop _ exchange pc _ =>
      have underway := handed.underway pc (by simp) (by simp)
      exact ⟨handed_of_early (by rintro _ _ ⟨⟩) underway.1 underway.2, .silent silent rfl⟩
  | fail _ _ ending pc state kept _ workers tasks looping blamed =>
      exact ⟨handed.ended pc kept.forwarded kept.results, .silent silent kept.forwarded⟩
  | join id index result pc ended =>
      have underway := handed.underway pc (by simp) (by simp)
      have looping : ∀ localStats remoteStats,
          afterTerminatedPc controller.perf.role controller.workers ≠
            .forwarding localStats remoteStats := by
        intro localStats remoteStats
        rw [afterTerminatedPc]
        split <;> rintro ⟨⟩
      exact ⟨handed_of_early looping underway.1 underway.2, .silent silent rfl⟩
  | collect id index result exchange pc found ended =>
      have underway := handed.underway pc (by simp) (by simp)
      exact ⟨handed_of_early (by simp [pc]) underway.1 underway.2, .silent silent rfl⟩
  | drop _ id exchange pc _ =>
      have underway := handed.underway pc (by simp) (by simp)
      exact ⟨handed_of_early (by simp [pc]) underway.1 underway.2, .silent silent rfl⟩
  | collected exchange pc none =>
      have underway := handed.underway pc (by simp) (by simp)
      cases exchange with
      | false =>
          simp only [afterCollect, Bool.false_eq_true, if_false]
          refine ⟨underway.forwardResults (by rintro line ⟨⟩), .silent silent ?_⟩
          rw [forwardResults_eq underway.2]
      | true =>
          simp only [afterCollect, if_true]
          split <;>
            exact ⟨handed_of_early (by simp) underway.1 underway.2, .silent silent rfl⟩
  | send pc =>
      have underway := handed.underway pc (by simp) (by simp)
      exact ⟨handed_of_early (by simp) underway.1 underway.2, .silent silent rfl⟩
  | answer remote pc =>
      have underway := handed.underway pc (by simp) (by simp)
      let sent := { controller with
        resultsSent := controller.resultsSent ++ [controller.streamResults] }
      have same : sent.Underway := underway
      refine ⟨same.forwardResults (allPeer_markPeer remote), .silent silent ?_⟩
      rw [forwardResults_eq same.2]
  | read remote role pc =>
      have underway := handed.underway pc (by simp) (by simp)
      refine ⟨underway.forwardResults (allPeer_markPeer remote), .silent silent ?_⟩
      rw [forwardResults_eq underway.2]
  | take remote role pc =>
      have underway := handed.underway pc (by simp) (by simp)
      exact ⟨handed_of_early (by simp) underway.1 underway.2, .silent silent rfl⟩
  | forward index stats localStats remoteStats localLeft remoteLeft pc chosen =>
      exact absurd ⟨index, true, rfl⟩ forwards
  | abandoned index localStats remoteStats pc => exact absurd ⟨index, false, rfl⟩ forwards
  | done pc => exact ⟨handed.ended rfl rfl rfl, .silent silent rfl⟩

/-- Nothing that others do touches the results. -/
theorem Handed.aside (handed : controller.Handed) (aside : controller.Aside next) :
    next.Handed := by
  constructor
  · rw [aside.pc, alive, aside.pc, aside.forwarded, aside.sender]
    exact handed.early
  · intro localStats remoteStats pc
    rw [aside.pc] at pc
    rcases handed.midway localStats remoteStats pc with ⟨divided, remote⟩
    refine ⟨⟨?_⟩, remote⟩
    rw [aside.forwarded, summaries, aside.results]
    exact divided.split
  · rcases handed.atEnd with ⟨left, divided⟩
    refine ⟨left, ⟨?_⟩⟩
    rw [aside.forwarded, summaries, aside.results]
    exact divided.split

end Controller

end Iperf
