import Mathlib.Data.List.Infix
import Iperf.Message

/-!
# The life-cycle of a test

What the states of a test are for, independent of any code that moves between
them: streams are created, the load runs, results are exchanged, and at any
point after the start the test may be terminated instead.  `Walk` pairs a state
with the announcements that lead to it.
-/

namespace Iperf.LifeCycle

/-- One step of the life-cycle of the test that `cookie` identifies. -/
inductive Follows (cookie : String) : State → State → Prop where
  | create : Follows cookie .start (.createStreams cookie)
  | run : Follows cookie (.createStreams cookie) .running
  | exchange : Follows cookie .running .exchangeResults
  | abortCreate : Follows cookie (.createStreams cookie) .terminate
  | abortRun : Follows cookie .running .terminate

/-- A state together with the states announced on the way to it. -/
inductive Walk (cookie : String) : State → List State → Prop where
  | start : Walk cookie .start []
  | step {source target : State} {log : List State} (walk : Walk cookie source log)
      (follows : Follows cookie source target) : Walk cookie target (log ++ [target])

/-- The announcements of a test that is never terminated. -/
def announcements (cookie : String) : List State :=
  [.createStreams cookie, .running, .exchangeResults]

/-- A prefix of the announcements, or a proper prefix and a final `Terminate`. -/
def InOrder (cookie : String) (log : List State) : Prop :=
  log <+: announcements cookie ∨
    ∃ before, before <+: announcements cookie ∧ before ≠ announcements cookie ∧
      log = before ++ [.terminate]

variable {cookie : String} {log : List State}

theorem Walk.of_start (walk : Walk cookie .start log) : log = [] := by
  cases walk with
  | start => rfl
  | step _ follows => cases follows

theorem Walk.of_createStreams {other : String}
    (walk : Walk cookie (.createStreams other) log) :
    other = cookie ∧ log = [.createStreams cookie] := by
  cases walk with
  | step walk follows =>
      cases follows
      rw [walk.of_start]
      exact ⟨rfl, rfl⟩

theorem Walk.of_running (walk : Walk cookie .running log) :
    log = [.createStreams cookie, .running] := by
  cases walk with
  | step walk follows =>
      cases follows
      rw [walk.of_createStreams.2]
      rfl

theorem Walk.of_exchangeResults (walk : Walk cookie .exchangeResults log) :
    log = announcements cookie := by
  cases walk with
  | step walk follows =>
      cases follows
      rw [walk.of_running]
      rfl

theorem Walk.of_terminate (walk : Walk cookie .terminate log) :
    log = [.createStreams cookie, .terminate] ∨
      log = [.createStreams cookie, .running, .terminate] := by
  cases walk with
  | step walk follows =>
      cases follows with
      | abortCreate =>
          rw [walk.of_createStreams.2]
          exact .inl rfl
      | abortRun =>
          rw [walk.of_running]
          exact .inr rfl

/-- Every walk announces its states in order. -/
theorem Walk.inOrder {state : State} (walk : Walk cookie state log) :
    InOrder cookie log := by
  cases state with
  | start =>
      rw [walk.of_start]
      exact .inl (List.nil_prefix)
  | createStreams other =>
      rw [walk.of_createStreams.2]
      exact .inl ⟨[.running, .exchangeResults], rfl⟩
  | running =>
      rw [walk.of_running]
      exact .inl ⟨[.exchangeResults], rfl⟩
  | exchangeResults =>
      rw [walk.of_exchangeResults]
      exact .inl (List.prefix_refl _)
  | terminate =>
      rcases walk.of_terminate with early | late
      · rw [early]
        exact .inr ⟨[.createStreams cookie], ⟨[.running, .exchangeResults], rfl⟩,
          by simp [announcements], rfl⟩
      · rw [late]
        exact .inr ⟨[.createStreams cookie, .running], ⟨[.exchangeResults], rfl⟩,
          by simp [announcements], rfl⟩

/-- Only the start is followed by `CreateStreams`, with the test's own cookie. -/
theorem Follows.of_createStreams {source : State} {other : String}
    (follows : Follows cookie source (.createStreams other)) :
    source = .start ∧ other = cookie := by
  cases follows
  exact ⟨rfl, rfl⟩

theorem Follows.target_ne_start {source target : State}
    (follows : Follows cookie source target) : target ≠ .start := by
  cases follows <;> simp

/-! ## What the other side hears -/

/-- A prefix of the announcements that `Terminate` may cut short. -/
def Scripted (cookie : String) (log : List State) : Prop :=
  ∃ before, before <+: announcements cookie ∧ (log = before ∨ log = before ++ [.terminate])

theorem Scripted.of_append {earlier later : List State}
    (scripted : Scripted cookie (earlier ++ later)) : Scripted cookie earlier := by
  rcases scripted with ⟨before, script, same | cut⟩
  · exact ⟨earlier, (same ▸ List.prefix_append earlier later).trans script, .inl rfl⟩
  · have part : earlier <+: before ++ [.terminate] := cut ▸ List.prefix_append earlier later
    rcases List.prefix_concat_iff.mp part with whole | shorter
    · exact ⟨before, script, .inr whole⟩
    · exact ⟨earlier, shorter.trans script, .inl rfl⟩

/-- Where the last state is no `Terminate`, all is according to the script. -/
theorem Scripted.uncut {earlier : List State} {state : State}
    (scripted : Scripted cookie (earlier ++ [state])) (goesOn : state ≠ .terminate) :
    earlier ++ [state] <+: announcements cookie := by
  rcases scripted with ⟨before, script, same | cut⟩
  · exact same ▸ script
  · exact absurd (List.singleton_inj.mp (List.append_inj' cut rfl).2) goesOn

theorem Scripted.createStreams {earlier : List State} {other : String}
    (scripted : Scripted cookie (earlier ++ [.createStreams other])) : earlier = [] := by
  have script := scripted.uncut (by simp)
  cases earlier with
  | nil => rfl
  | cons first rest =>
      rw [announcements, List.cons_append, List.cons_prefix_cons] at script
      have asked := script.2.subset (List.mem_append_right _ (List.mem_singleton_self _))
      simp at asked

theorem Scripted.running {earlier : List State}
    (scripted : Scripted cookie (earlier ++ [.running])) :
    earlier = [.createStreams cookie] := by
  have script := scripted.uncut (by simp)
  cases earlier with
  | nil => simp [announcements] at script
  | cons first rest =>
      rw [announcements, List.cons_append, List.cons_prefix_cons] at script
      rcases script with ⟨rfl, script⟩
      cases rest with
      | nil => rfl
      | cons second rest =>
          rw [List.cons_append, List.cons_prefix_cons] at script
          have loaded := script.2.subset (List.mem_append_right _ (List.mem_singleton_self _))
          simp at loaded

theorem Scripted.count_le_one (scripted : Scripted cookie log) : log.count .running ≤ 1 := by
  rcases scripted with ⟨before, script, rfl | rfl⟩
  · exact script.sublist.count_le _
  · rw [List.count_append]
    exact script.sublist.count_le _

/-- The load only runs after the streams have been asked for. -/
theorem Scripted.created (scripted : Scripted cookie log) (running : .running ∈ log) :
    .createStreams cookie ∈ log ∧ ∀ earlier other, log ≠ earlier ++ [.createStreams other] := by
  rcases List.append_of_mem running with ⟨earlier, later, rfl⟩
  have split : earlier ++ .running :: later = (earlier ++ [.running]) ++ later := by
    rw [List.append_assoc, List.singleton_append]
  constructor
  · rw [split] at scripted
    rw [scripted.of_append.running]
    exact List.mem_cons_self
  · intro before other same
    rw [same] at scripted running
    rw [scripted.createStreams] at running
    simp at running

/-! ## The last announcement -/

theorem InOrder.scripted (inOrder : InOrder cookie log) : Scripted cookie log := by
  rcases inOrder with script | ⟨before, script, -, cut⟩
  · exact ⟨log, script, .inl rfl⟩
  · exact ⟨before, script, .inr cut⟩

/-- Before the exchange there are two announcements at most. -/
theorem prefix_of_ne {before : List State} (script : before <+: announcements cookie)
    (short : before ≠ announcements cookie) : before <+: [.createStreams cookie, .running] := by
  have split : announcements cookie = [.createStreams cookie, .running] ++ [.exchangeResults] :=
    rfl
  rw [split] at script short
  rcases List.prefix_concat_iff.mp script with whole | shorter
  · exact absurd whole short
  · exact shorter

/-- Nothing is announced after `ExchangeResults` or `Terminate`. -/
theorem InOrder.nothing_after {earlier later : List State} {state : State}
    (inOrder : InOrder cookie (earlier ++ state :: later))
    (last : state = .exchangeResults ∨ state = .terminate) : later = [] := by
  by_contra more
  -- What comes before the last announcement is creating streams and running.
  have early : earlier ++ state :: later.dropLast <+: [.createStreams cookie, .running] := by
    have shape : earlier ++ state :: later =
        (earlier ++ state :: later.dropLast) ++ [later.getLast more] := by
      rw [List.append_assoc, List.cons_append, List.dropLast_append_getLast]
    rw [shape] at inOrder
    rcases inOrder with script | ⟨before, script, short, cut⟩
    · apply prefix_of_ne ((List.prefix_append _ _).trans script)
      intro whole
      have length := script.length_le
      rw [whole, List.length_append, List.length_singleton] at length
      exact absurd length (Nat.not_succ_le_self _)
    · rw [(List.append_inj' cut rfl).1]
      exact prefix_of_ne script short
  have stateMem := early.subset (List.mem_append_right earlier List.mem_cons_self)
  rcases last with rfl | rfl
  · simp at stateMem
  · simp at stateMem

end Iperf.LifeCycle
