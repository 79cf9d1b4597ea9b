import Iperf.StreamWorker.Partition

/-!
# The byte limit

The loop compares the limit with what has been moved by `<`, so that a stream
that has moved exactly the limit goes on to one more read or write.  It keeps
the limit just as long as something else ends it there.
-/

namespace Iperf

open Channel Transition

namespace DataStream

/-- The most a stream may have moved at its end: the transfer that reaches the
limit may go past it. -/
def mostMoved (limit blockSize : Nat) : Nat :=
  if limit = 0 then 0 else limit + blockSize - 1

/-- A block more stays within it below the limit. -/
theorem add_le_mostMoved {limit blockSize total count : Nat} (below : total < limit)
    (bounded : count ≤ blockSize) : total + count ≤ mostMoved limit blockSize := by
  have some : limit ≠ 0 := Nat.ne_zero_of_lt below
  rw [mostMoved, if_neg some]
  omega

/-- Nothing is transferred once the limit has been reached, and the summary shows
it. -/
structure Respects (limit : Nat) (stream : DataStream) : Prop where
  transfers : ∀ progress, stream.worker.pc = .transferring progress →
    progress.totalBytesTransferred < limit
  summary : ∀ summary, stream.worker.pc = .returned (.ok summary) →
    summary.bytesTransferred ≤ mostMoved limit stream.worker.params.blockSize

/-- A stream that has moved exactly the limit when it comes to the head of its loop
finds the time up or a signal that ends it. -/
def EndsAtLimit (limit : Nat) (stream : DataStream) : StreamEvent → Prop
  | .work (.head now) => stream.moved.sum = limit →
      ∀ progress, stream.worker.pc = .head progress →
        stream.worker.params.duration * nanosPerSec < now - progress.startTime ∨
          ¬((stream.worker.recv stream.channel).1 = .pending ∨
            (stream.worker.recv stream.channel).1 = .message .startLoad)
  | _ => True

/-- What keeps a stream within its limit: it moves on only from below it. -/
def Within (limit : Nat) (stream : DataStream) : Prop :=
  match stream.worker.pc with
  | .waiting => True
  | .transferring progress => progress.totalBytesTransferred < limit
  | .head progress | .reporting progress _ _ | .leaving progress | .closing progress _
  | .summarizing progress =>
      progress.totalBytesTransferred ≤ mostMoved limit stream.worker.params.blockSize
  | .returned (.ok summary) =>
      summary.bytesTransferred ≤ mostMoved limit stream.worker.params.blockSize
  | .returned (.error _) => True

variable {build : Build} {limit : Nat} {stream next : DataStream}

theorem Within.respects (within : stream.Within limit) : stream.Respects limit := by
  constructor
  · intro progress stage
    simp only [Within, stage] at within
    exact within
  · intro summary stage
    simp only [Within, stage] at within
    exact within

/-- The kept accounts and the parameters of a run. -/
structure Limited (limit : Nat) (stream : DataStream) : Prop where
  accounts : stream.worker.Accounts stream.moved stream.clock
  maxLength : stream.worker.params.maxLength = some limit

theorem Limited.step (limited : stream.Limited limit) {event : StreamEvent}
    (step : stream.step build event = some next) : next.Limited limit := by
  constructor
  · exact accounts_step limited.accounts step
  · rw [params_of_step step]
    exact limited.maxLength

/-- The counts add up to the total of the loop. -/
theorem Limited.total {progress : Progress} (limited : stream.Limited limit)
    (stage : stream.worker.pc = .head progress) :
    progress.totalBytesTransferred = stream.moved.sum := by
  have accounts := limited.accounts
  simp only [StreamWorker.Accounts, stage] at accounts
  exact accounts.moved

/-- A step of the worker stays within the limit if it does not go on from exactly
there. -/
theorem Works.within {event : WorkerEvent} (works : Works build stream next event)
    (limited : stream.Limited limit) (within : stream.Within limit)
    (ends : stream.EndsAtLimit limit (.work event)) : next.Within limit := by
  have params := works.params
  have bounded := works.allowed.2
  cases works.entry with
  | start startTime intervalStart stage result kept =>
      simp only [Within, result]
      exact Nat.zero_le _
  | fail _ error result kept => simp only [Within, result]
  | enter now progress stage continues result kept =>
      have total := limited.total stage
      simp only [Within, result]
      have reached : progress.totalBytesTransferred ≤ limit := by
        have below := continues.below
        rw [limited.maxLength, Option.any_some, decide_eq_true_eq] at below
        exact Nat.le_of_not_lt below
      apply Nat.lt_of_le_of_ne reached
      intro exactly
      rcases ends (total.symm.trans exactly) progress stage with timeUp | signal
      · exact continues.onTime timeUp
      · exact signal continues.quiet
  | stop now progress stage result kept =>
      simp only [Within, stage] at within
      simp only [Within, result, params]
      exact within
  | gone now info progress stage result kept =>
      simp only [Within, stage] at within
      simp only [Within, result]
      exact add_le_mostMoved within (Nat.zero_le _)
  | carry outcome now info progress stage goesOn early result kept =>
      simp only [Within, stage] at within
      simp only [Within, result, params]
      exact add_le_mostMoved within (counts_sum_le bounded)
  | due outcome now info progress lastCwnd stats stage goesOn late covers result kept =>
      simp only [Within, stage] at within
      simp only [Within, result, params]
      exact add_le_mostMoved within (counts_sum_le bounded)
  | report progress now stats stage result sent =>
      simp only [Within, stage] at within
      simp only [Within, result, params]
      exact within
  | close now info progress stats stage covers result kept =>
      simp only [Within, stage] at within
      simp only [Within, result, params]
      exact within
  | finish progress stats stage result sent =>
      simp only [Within, stage] at within
      simp only [Within, result, params]
      exact within
  | summarize now info progress stats stage duration bytes result kept =>
      simp only [Within, stage] at within
      simp only [Within, result, params, bytes]
      exact within

/-- A stream that goes on from exactly the limit transfers there. -/
theorem Works.endsAtLimit {event : WorkerEvent} (works : Works build stream next event)
    (limited : stream.Limited limit) (respects : next.Respects limit) :
    stream.EndsAtLimit limit (.work event) := by
  cases event with
  | head now =>
      intro exactly progress stage
      by_contra goesOn
      rw [not_or, not_not] at goesOn
      have continues : stream.worker.Continues stream.channel now progress := by
        constructor
        · exact goesOn.1
        · rw [limited.maxLength, Option.any_some, decide_eq_true_eq, limited.total stage, exactly]
          exact Nat.lt_irrefl limit
        · exact goesOn.2
      rcases @StreamWorker.step_of_continues build stream.channel stream.worker now progress
        stage continues with ⟨worker, moves, transferring⟩
      rw [works.moves, Option.some.injEq] at moves
      rw [← moves] at transferring
      have below := respects.transfers progress transferring
      rw [limited.total stage, exactly] at below
      exact Nat.lt_irrefl limit below
  | _ => trivial

/-- A stream keeps its byte limit all along a run if and only if, whenever its
counts add up to exactly the limit at the head of its loop, something else ends
the loop. -/
theorem respects_limit_iff {id : Nat} {params : Parameters} {isSending : Bool}
    {channel : Publisher} {clock : Nat} {events : List StreamEvent} {last : DataStream}
    (limited : params.maxLength = some limit)
    (finished : run (DataStream.step build) (.new id params isSending channel clock) events =
      some last) :
    (∀ before after state, events = before ++ after →
      run (DataStream.step build) (.new id params isSending channel clock) before =
        some state → state.Respects limit) ↔
      Guarded (DataStream.step build) (EndsAtLimit limit)
        (.new id params isSending channel clock) events := by
  apply holds_iff_guarded (Limited limit) (Within limit) (Respects limit) _ _ _ _ _ _ finished
  · intro source event target limited step
    exact limited.step step
  · intro source event target limited within ends step
    cases event with
    | publish signal =>
        cases step
        exact within
    | close =>
        cases step
        exact within
    | work event => exact (works_of_step step).within limited within ends
  · intro state limited within
    exact within.respects
  · intro source event target limited step respects
    cases event with
    | publish signal => trivial
    | close => trivial
    | work event => exact (works_of_step step).endsAtLimit limited respects
  · exact ⟨⟨rfl, rfl⟩, limited⟩
  · trivial

/-- Ten bytes are asked for, and the block is ten bytes long. -/
def tenBytes : Parameters :=
  { Parameters.fromOpts {} with blockSize := 10, maxLength := some 10 }

/-- The loop goes on with the limit reached. -/
def twoBlocks : List StreamEvent :=
  [.publish .startLoad, .work (.signal 0 0), .work (.head 0),
    .work (.transfer (.moved 10) 1000 none), .work (.head 2000),
    .work (.transfer (.moved 10) 3000 none), .work (.head 4000), .work (.leave 5000 none),
    .work (.sent true), .work (.summarize 6000 none)]

/-- A stream of blocks as long as the limit moves two of them. -/
theorem limit_exceeded :
    ∃ stream summary,
      Reachable (DataStream.step ⟨true, true⟩) (.new 0 tenBytes true .new 0) stream ∧
        stream.worker.pc = .returned (.ok summary) ∧ summary.bytesTransferred = 20 ∧
        ¬ stream.Respects 10 := by
  let reached := run (DataStream.step ⟨true, true⟩) (.new 0 tenBytes true .new 0) twoBlocks
  have ends : reached.isSome = true := rfl
  let stream := reached.get ends
  have returned : stream.worker.pc = .returned (.ok (stream.worker.summary ⟨true, true⟩
      ⟨0, 0, 20, 20, none, 0⟩ 6000 none)) := rfl
  have blockSize : stream.worker.params.blockSize = 10 := rfl
  refine ⟨stream, _, ⟨twoBlocks, (Option.some_get ends).symm⟩, returned, rfl, ?_⟩
  intro respects
  have bounded : 20 ≤ mostMoved 10 stream.worker.params.blockSize :=
    respects.summary _ returned
  rw [blockSize] at bounded
  exact absurd bounded (by decide)

/-- Whether a stream ends at its limit can be read off at the head of its loop. -/
instance EndsAtLimit.decidable (limit : Nat) (stream : DataStream) :
    (event : StreamEvent) → Decidable (stream.EndsAtLimit limit event)
  | .work (.head now) =>
      match pc : stream.worker.pc with
      | .head progress =>
          decidable_of_iff (stream.moved.sum = limit →
              stream.worker.params.duration * nanosPerSec < now - progress.startTime ∨
                ¬((stream.worker.recv stream.channel).1 = .pending ∨
                  (stream.worker.recv stream.channel).1 = .message .startLoad))
            (by simp [EndsAtLimit, pc])
      | .waiting | .transferring _ | .reporting _ _ _ | .leaving _ | .closing _ _
      | .summarizing _ | .returned _ => .isTrue (by simp [EndsAtLimit, pc])
  | .publish _ | .close | .work (.signal _ _) | .work (.transfer _ _ _) | .work (.sent _)
  | .work (.leave _ _) | .work (.summarize _ _) => .isTrue trivial

/-- The last block comes up to the limit, and the time is over by then. -/
def lastBlock : List StreamEvent :=
  [.publish .startLoad, .work (.signal 0 0), .work (.head 0),
    .work (.transfer (.moved 4) 1000 none), .work (.head 2000),
    .work (.transfer (.moved 6) 10000000001 none), .work (.sent true),
    .work (.head 10000000002), .work (.leave 10000000003 none), .work (.sent true),
    .work (.summarize 10000000004 none)]

theorem respects_limit_ten :
    ∃ last summary, run (DataStream.step ⟨true, true⟩) (.new 0 tenBytes true .new 0) lastBlock =
        some last ∧
      last.moved = [4, 6] ∧ last.worker.pc = .returned (.ok summary) ∧
      summary.bytesTransferred = 10 ∧
      ∀ before after state, lastBlock = before ++ after →
        run (DataStream.step ⟨true, true⟩) (.new 0 tenBytes true .new 0) before = some state →
          state.Respects 10 := by
  have ends : (run (DataStream.step ⟨true, true⟩) (.new 0 tenBytes true .new 0)
      lastBlock).isSome = true := rfl
  have finished := (Option.some_get ends).symm
  have guarded : Guarded (DataStream.step ⟨true, true⟩) (EndsAtLimit 10)
      (.new 0 tenBytes true .new 0) lastBlock := by
    decide +kernel
  exact ⟨_, _, finished, rfl, rfl, rfl, (respects_limit_iff rfl finished).mpr guarded⟩

end DataStream

end Iperf
