import Mathlib.Order.Basic

/-!
# Labelled partial transitions

A system is an option-valued step on states and events.  The event names the
party that moves and carries every answer of the environment, so one list of
events is one interleaving.  A step that is not enabled yields `none`, and a
run fails as soon as one of its steps does.

The module packages the two inductions every safety proof needs: along all
runs, and along the runs whose steps meet a guard in the state they leave.
-/

namespace Iperf.Transition

universe u v

/-- A partial transition driven by events. -/
abbrev Step (σ : Type u) (ε : Type v) := σ → ε → Option σ

variable {σ : Type u} {ε : Type v}

/-- Take the events in order.  A step that is not enabled ends the run without
a result. -/
def run (next : Step σ ε) (source : σ) : List ε → Option σ
  | [] => some source
  | event :: events => (next source event).bind fun middle => run next middle events

@[simp]
theorem run_nil (next : Step σ ε) (source : σ) : run next source [] = some source :=
  rfl

theorem run_cons_eq_some_iff (next : Step σ ε) (source target : σ) (event : ε)
    (events : List ε) :
    run next source (event :: events) = some target ↔
      ∃ middle, next source event = some middle ∧ run next middle events = some target := by
  simp only [run]
  exact Option.bind_eq_some_iff

theorem run_cons_of_step {next : Step σ ε} {source middle : σ} {event : ε}
    (step : next source event = some middle) (events : List ε) :
    run next source (event :: events) = run next middle events := by
  simp only [run, step, Option.bind_some]

/-- A run splits at every point of its event list. -/
theorem run_append (next : Step σ ε) (source : σ) (first second : List ε) :
    run next source (first ++ second) =
      (run next source first).bind fun middle => run next middle second := by
  induction first generalizing source with
  | nil => rfl
  | cons event events ih =>
      simp only [List.cons_append, run, Option.bind_assoc]
      exact congrArg _ (funext ih)

theorem run_append_of_run {next : Step σ ε} {source middle target : σ}
    {first second : List ε} (before : run next source first = some middle)
    (after : run next middle second = some target) :
    run next source (first ++ second) = some target := by
  rw [run_append, before]
  exact after

theorem run_singleton (next : Step σ ε) (source : σ) (event : ε) :
    run next source [event] = next source event := by
  simp [run]

/-- Some finite run leads from `source` to `target`. -/
def Reachable (next : Step σ ε) (source target : σ) : Prop :=
  ∃ events, run next source events = some target

namespace Reachable

theorem refl (next : Step σ ε) (source : σ) : Reachable next source source :=
  ⟨[], rfl⟩

theorem tail {next : Step σ ε} {source middle target : σ} {event : ε}
    (reachable : Reachable next source middle)
    (step : next middle event = some target) : Reachable next source target := by
  obtain ⟨events, before⟩ := reachable
  refine ⟨events ++ [event], run_append_of_run before ?_⟩
  rw [run_singleton, step]

theorem trans {next : Step σ ε} {source middle target : σ}
    (first : Reachable next source middle) (second : Reachable next middle target) :
    Reachable next source target := by
  obtain ⟨before, beforeRun⟩ := first
  obtain ⟨after, afterRun⟩ := second
  exact ⟨before ++ after, run_append_of_run beforeRun afterRun⟩

end Reachable

/-- Some finite run of events that are all allowed leads from `source` to `target`. -/
def ReachableBy (allowed : ε → Prop) (next : Step σ ε) (source target : σ) : Prop :=
  ∃ events, (∀ event ∈ events, allowed event) ∧ run next source events = some target

namespace ReachableBy

variable {allowed : ε → Prop} {next : Step σ ε} {source middle target : σ}

theorem refl (allowed : ε → Prop) (next : Step σ ε) (source : σ) :
    ReachableBy allowed next source source :=
  ⟨[], fun _ eventMem => absurd eventMem List.not_mem_nil, rfl⟩

theorem of_step {event : ε} (allows : allowed event) (step : next source event = some target) :
    ReachableBy allowed next source target := by
  refine ⟨[event], ?_, (run_singleton _ _ _).trans step⟩
  intro other otherMem
  rw [List.mem_singleton.mp otherMem]
  exact allows

theorem trans (first : ReachableBy allowed next source middle)
    (second : ReachableBy allowed next middle target) :
    ReachableBy allowed next source target := by
  rcases first with ⟨before, beforeAllowed, beforeRun⟩
  rcases second with ⟨after, afterAllowed, afterRun⟩
  refine ⟨before ++ after, ?_, run_append_of_run beforeRun afterRun⟩
  intro event eventMem
  rcases List.mem_append.mp eventMem with earlier | later
  · exact beforeAllowed event earlier
  · exact afterAllowed event later

theorem tail {event : ε} (reachable : ReachableBy allowed next source middle)
    (allows : allowed event) (step : next middle event = some target) :
    ReachableBy allowed next source target :=
  reachable.trans (of_step allows step)

end ReachableBy

/-! ## Guarded runs -/

/-- Every event of the list meets the guard in the state it is taken in. -/
def Guarded (next : Step σ ε) (guard : σ → ε → Prop) : σ → List ε → Prop
  | _, [] => True
  | source, event :: events =>
      guard source event ∧
        ∀ middle, next source event = some middle → Guarded next guard middle events

/-- Whether a run is guarded is found out by running it. -/
instance Guarded.decidable (next : Step σ ε) (guard : σ → ε → Prop)
    [∀ state event, Decidable (guard state event)] (source : σ) :
    (events : List ε) → Decidable (Guarded next guard source events)
  | [] => .isTrue trivial
  | event :: events =>
      match step : next source event with
      | none => decidable_of_iff (guard source event) (by simp [Guarded, step])
      | some middle =>
          have := Guarded.decidable next guard middle events
          decidable_of_iff (guard source event ∧ Guarded next guard middle events)
            (by simp [Guarded, step])

/-- A guard that every event meets everywhere. -/
theorem guarded_of_forall {next : Step σ ε} {guard : σ → ε → Prop} {events : List ε}
    (meets : ∀ event ∈ events, ∀ state, guard state event) (source : σ) :
    Guarded next guard source events := by
  induction events generalizing source with
  | nil => trivial
  | cons event events ih =>
      rw [List.forall_mem_cons] at meets
      exact ⟨meets.1 source, fun middle _ => ih meets.2 middle⟩

theorem guarded_true (next : Step σ ε) (source : σ) (events : List ε) :
    Guarded next (fun _ _ => True) source events :=
  guarded_of_forall (fun _ _ _ => trivial) source

theorem Guarded.and {next : Step σ ε} {first second : σ → ε → Prop} {source : σ}
    {events : List ε} (firstGuarded : Guarded next first source events)
    (secondGuarded : Guarded next second source events) :
    Guarded next (fun state event => first state event ∧ second state event) source events := by
  induction events generalizing source with
  | nil => trivial
  | cons event events ih =>
      exact ⟨⟨firstGuarded.1, secondGuarded.1⟩,
        fun middle step => ih (firstGuarded.2 middle step) (secondGuarded.2 middle step)⟩

/-- A guarded run is guarded at its start. -/
theorem Guarded.take {next : Step σ ε} {guard : σ → ε → Prop} {source middle : σ}
    {before after : List ε} (guarded : Guarded next guard source (before ++ after))
    (reached : run next source before = some middle) : Guarded next guard source before := by
  induction before generalizing source with
  | nil => trivial
  | cons event before ih =>
      rcases (run_cons_eq_some_iff next source middle event before).mp reached with
        ⟨target, step, rest⟩
      constructor
      · exact guarded.1
      · intro other otherStep
        rw [step] at otherStep
        cases otherStep
        exact ih (guarded.2 target step) rest

/-- What holds at the source and is kept by every guarded step holds at the
end of every guarded run. -/
theorem run_invariant {next : Step σ ε} {guard : σ → ε → Prop} (inv : σ → Prop)
    (preserved : ∀ ⦃source event target⦄, inv source → guard source event →
      next source event = some target → inv target)
    {source target : σ} {events : List ε} (initial : inv source)
    (guarded : Guarded next guard source events)
    (finished : run next source events = some target) : inv target := by
  induction events generalizing source with
  | nil =>
      rw [run_nil] at finished
      exact Option.some.inj finished ▸ initial
  | cons event events ih =>
      obtain ⟨middle, step, rest⟩ :=
        (run_cons_eq_some_iff next source target event events).mp finished
      exact ih (preserved initial guarded.1 step) (guarded.2 middle step) rest

/-- The invariant rule over all runs. -/
theorem Reachable.invariant {next : Step σ ε} (inv : σ → Prop)
    (preserved : ∀ ⦃source event target⦄, inv source →
      next source event = some target → inv target)
    {source target : σ} (initial : inv source)
    (reachable : Reachable next source target) : inv target := by
  obtain ⟨events, finished⟩ := reachable
  have guarded := guarded_true next source events
  exact run_invariant inv (fun _ _ _ holds _ step => preserved holds step) initial guarded
    finished

/-- The invariant rule for runs that are judged by their last state: `fits`
can only be lost along a run, so where it holds at the end it held all along,
and each step may assume it of the state it enters. -/
theorem run_invariant_while {next : Step σ ε} {guard : σ → ε → Prop} (fits inv : σ → Prop)
    (earlier : ∀ ⦃source event target⦄, next source event = some target →
      fits target → fits source)
    (preserved : ∀ ⦃source event target⦄, inv source → fits source → fits target →
      guard source event → next source event = some target → inv target)
    {source target : σ} {events : List ε} (initial : inv source)
    (guarded : Guarded next guard source events)
    (finished : run next source events = some target) (fitting : fits target) :
    inv target := by
  have conditional : fits target → inv target :=
    run_invariant (fun state => fits state → inv state)
      (fun _ _ _ holds allowed step fitsTarget =>
        preserved (holds (earlier step fitsTarget)) (earlier step fitsTarget)
          fitsTarget allowed step)
      (fun _ => initial) guarded finished
  exact conditional fitting

theorem Reachable.invariant_while {next : Step σ ε} (fits inv : σ → Prop)
    (earlier : ∀ ⦃source event target⦄, next source event = some target →
      fits target → fits source)
    (preserved : ∀ ⦃source event target⦄, inv source → fits source → fits target →
      next source event = some target → inv target)
    {source target : σ} (initial : inv source)
    (reachable : Reachable next source target) (fitting : fits target) : inv target := by
  obtain ⟨events, finished⟩ := reachable
  have guarded := guarded_true next source events
  exact run_invariant_while fits inv earlier
    (fun _ _ _ holds fitsSource fitsTarget _ step =>
      preserved holds fitsSource fitsTarget step)
    initial guarded finished fitting

/-- Where the guard keeps an invariant that gives a property, and every step that
misses the guard loses the property, the property holds all along a run if and
only if the run is guarded. -/
theorem holds_iff_guarded {next : Step σ ε} {guard : σ → ε → Prop} (always inv holds : σ → Prop)
    (kept : ∀ ⦃source event target⦄, always source → next source event = some target →
      always target)
    (preserved : ∀ ⦃source event target⦄, always source → inv source → guard source event →
      next source event = some target → inv target)
    (sufficient : ∀ ⦃state⦄, always state → inv state → holds state)
    (detected : ∀ ⦃source event target⦄, always source → next source event = some target →
      holds target → guard source event)
    {source target : σ} {events : List ε} (everywhere : always source) (initial : inv source)
    (finished : run next source events = some target) :
    (∀ before after state, events = before ++ after → run next source before = some state →
      holds state) ↔ Guarded next guard source events := by
  constructor
  · intro holdsAll
    clear initial
    induction events generalizing source with
    | nil => trivial
    | cons event events ih =>
        rcases (run_cons_eq_some_iff next source target event events).mp finished with
          ⟨middle, step, rest⟩
        constructor
        · apply detected everywhere step
          exact holdsAll [event] events middle rfl (by rw [run_singleton, step])
        · intro other otherStep
          rw [step] at otherStep
          cases otherStep
          apply ih (kept everywhere step) rest
          rintro before after state rfl reached
          exact holdsAll (event :: before) after state rfl
            ((run_cons_of_step step before).trans reached)
  · rintro guarded before after state rfl reached
    have start := guarded.take reached
    apply sufficient
    · exact Reachable.invariant always kept everywhere ⟨before, reached⟩
    · exact (run_invariant (fun state => always state ∧ inv state)
        (fun _ _ _ both allowed step =>
          ⟨kept both.1 step, preserved both.1 both.2 allowed step⟩)
        ⟨everywhere, initial⟩ start reached).2

/-! ## Noted runs -/

/-- What is noted along a run, one step after the other. -/
def noted {α : Type*} (next : Step σ ε) (note : α → σ → ε → α) (seen : α) (source : σ) :
    List ε → α
  | [] => seen
  | event :: events =>
      match next source event with
      | none => seen
      | some middle => noted next note (note seen source event) middle events

/-- The invariant rule for what is true of a state and of all that has been
noted on the way to it. -/
theorem run_invariant_noted {α : Type*} {next : Step σ ε} {guard : σ → ε → Prop}
    {note : α → σ → ε → α} (inv : α → σ → Prop)
    (preserved : ∀ ⦃seen source event target⦄, inv seen source → guard source event →
      next source event = some target → inv (note seen source event) target)
    {seen : α} {source target : σ} {events : List ε} (initial : inv seen source)
    (guarded : Guarded next guard source events)
    (finished : run next source events = some target) :
    inv (noted next note seen source events) target := by
  induction events generalizing seen source with
  | nil =>
      rw [run_nil] at finished
      exact Option.some.inj finished ▸ initial
  | cons event events ih =>
      rcases (run_cons_eq_some_iff next source target event events).mp finished with
        ⟨middle, step, rest⟩
      simp only [noted, step]
      exact ih (preserved initial guarded.1 step) (guarded.2 middle step) rest

/-! ## Erasure -/

/-- Where every step is either repeated by the other system or invisible to it,
the other system takes the visible events of a run in the same order.  The
events in `own` are never left out, and those that are repeated meet `allowed`. -/
theorem run_erasure {τ : Type*} {next : Step σ ε} {other : Step τ ε}
    {guard : σ → ε → Prop} (own : ε → Bool) (allowed : ε → Prop) (related : σ → τ → Prop)
    (matched : ∀ ⦃source event target image⦄, related source image →
      guard source event → next source event = some target →
      (allowed event ∧ ∃ image', other image event = some image' ∧ related target image') ∨
        (own event = false ∧ related target image))
    {source target : σ} {image : τ} {events : List ε} (initial : related source image)
    (guarded : Guarded next guard source events)
    (finished : run next source events = some target) :
    ∃ events' image', events'.Sublist events ∧ (∀ event ∈ events', allowed event) ∧
      events'.filter own = events.filter own ∧
      run other image events' = some image' ∧ related target image' := by
  induction events generalizing source image with
  | nil =>
      rw [run_nil] at finished
      refine ⟨[], image, List.Sublist.refl [], ?_, rfl, rfl, Option.some.inj finished ▸ initial⟩
      exact fun event eventMem => absurd eventMem List.not_mem_nil
  | cons event events ih =>
      obtain ⟨middle, step, rest⟩ :=
        (run_cons_eq_some_iff next source target event events).mp finished
      rcases matched initial guarded.1 step with ⟨fine, image', moved, middleRelated⟩ |
        ⟨invisible, middleRelated⟩
      · obtain ⟨later, last, sublist, all, same, ran, targetRelated⟩ :=
          ih middleRelated (guarded.2 middle step) rest
        refine ⟨event :: later, last, sublist.cons_cons event, ?_, ?_, ?_, targetRelated⟩
        · intro member memberMem
          rcases List.mem_cons.mp memberMem with rfl | laterMem
          · exact fine
          · exact all member laterMem
        · rw [List.filter_cons, List.filter_cons, same]
        · rw [run_cons_of_step moved]
          exact ran
      · obtain ⟨later, last, sublist, all, same, ran, targetRelated⟩ :=
          ih middleRelated (guarded.2 middle step) rest
        refine ⟨later, last, sublist.cons event, all, ?_, ran, targetRelated⟩
        rw [same, List.filter_cons, invisible]
        rfl

end Iperf.Transition
