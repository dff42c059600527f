import Lcompat.Completion.Model

/-!
# How many waits a completion releases

`complete` sets the flag instead of counting, and the waits leave it set. Since the last
initialisation no wait is released without a completion, and the first completion releases every
wait, so that completions are not used up.
-/

namespace Lcompat.Completion

open Lcompat.Logic

variable {Party : Type} [DecidableEq Party]

/-- What is noted of a completion. -/
inductive CompletionNote where
  /-- `init_completion` was called. -/
  | init
  /-- `complete` was called. -/
  | complete
  /-- A wait has found `done` set. -/
  | released
  deriving DecidableEq

/-- How often something was noted since the last initialisation. The newest note comes first. -/
def sinceInit (note : CompletionNote) (notes : List CompletionNote) : Nat :=
  (notes.takeWhile (· ≠ .init)).count note

/-- A wait looks at `done` at its next step. -/
def PartyPc.looks : PartyPc → Bool
  | .waiting .load | .timed (.check _) | .timed (.loop _) => true
  | .idle | .waiting .yield | .timed (.start _) | .timed (.clock _) | .timed (.yield _)
  | .timed (.compare _) | .timed (.remain _) => false

/-- What is noted of a step. -/
def completionNotes (p : Pool Party UInt32 PartyPc) (a : Party × Command) : List CompletionNote :=
  match a.2 with
  | .init => [.init]
  | .complete => [.complete]
  | .wait | .waitTimeout _ => []
  | .go _ => if (p.threads a.1).looks && p.shared ≠ 0 then [.released] else []

/-- Nobody waits any longer: a look at `done` ends each of the waits. -/
structure Opened (done : UInt32) : Prop where
  /-- `wait_for_completion` returns. -/
  wait : waitForCompletion done .load = .ret ()
  /-- `wait_for_completion_timeout` returns at once, and not 0. -/
  check : ∀ timeout now, ∃ left, left ≠ 0 ∧
    waitForCompletionTimeout done now (.check timeout) = .ret left
  /-- It leaves its loop. -/
  loop : ∀ deadline now,
    waitForCompletionTimeout done now (.loop deadline) = .goto (.compare deadline)

/-- A flag that is set ends every wait. -/
theorem opened_of_ne_zero {done : UInt32} (set : done ≠ 0) : Opened done := by
  refine ⟨if_pos set, fun timeout now => ⟨if timeout ≠ 0 then timeout else 1, ?_, if_pos set⟩, ?_⟩
  · split
    · assumption
    · decide
  · intro deadline now
    exact congrArg Next.goto (if_pos set)

/-- The flag is set if and only if there was a completion since the last initialisation, without
which no wait is released. -/
structure Sticky (s : Pool Party UInt32 PartyPc × List CompletionNote) : Prop where
  /-- The flag tells whether there was a completion. -/
  done : s.1.shared ≠ 0 ↔ 0 < sinceInit .complete s.2
  /-- A wait that was released was released by one. -/
  released : 0 < sinceInit .released s.2 → 0 < sinceInit .complete s.2

/-- A step of a party. -/
theorem exec_spec {done done' : UInt32} {pc pc' : PartyPc} {command : Command}
    (ran : exec done pc command = some (done', pc')) :
    (command = .init ∧ done' = 0) ∨ (command = .complete ∧ done' = 1) ∨
      (command ≠ .init ∧ command ≠ .complete ∧ done' = done) := by
  cases command with
  | init =>
    cases pc with
    | idle => exact .inl ⟨rfl, (Prod.mk.inj (Option.some.inj ran)).1.symm⟩
    | waiting | timed => cases ran
  | complete =>
    cases pc with
    | idle => exact .inr (.inl ⟨rfl, (Prod.mk.inj (Option.some.inj ran)).1.symm⟩)
    | waiting | timed => cases ran
  | wait | waitTimeout =>
    cases pc with
    | idle => exact .inr (.inr ⟨by simp, by simp, (Prod.mk.inj (Option.some.inj ran)).1.symm⟩)
    | waiting | timed => cases ran
  | go now =>
    refine .inr (.inr ⟨by simp, by simp, ?_⟩)
    cases pc with
    | idle => cases ran
    | waiting pc =>
      simp only [exec] at ran
      split at ran <;> exact (Prod.mk.inj (Option.some.inj ran)).1.symm
    | timed pc =>
      simp only [exec] at ran
      split at ran <;> exact (Prod.mk.inj (Option.some.inj ran)).1.symm

/-- Every step keeps the flag sticky. -/
theorem Sticky.step {s s' : Pool Party UInt32 PartyPc × List CompletionNote}
    {a : Party × Command} (sticky : Sticky s)
    (stepped : ((system Party).record completionNotes).step s a = some s') : Sticky s' := by
  obtain ⟨moved, noted⟩ := System.record_step_eq_some.mp stepped
  obtain ⟨done, pc, ran, same⟩ := Pool.step_eq_some.mp moved
  obtain ⟨after, notes⟩ := s'
  simp only at same noted
  obtain rfl := same
  obtain ⟨t, command⟩ := a
  obtain ⟨rfl, zero⟩ | ⟨rfl, one⟩ | ⟨notInit, notComplete, kept⟩ := exec_spec ran
  · obtain rfl : notes = .init :: s.2 := noted
    exact ⟨by simp [zero, sinceInit], by simp [sinceInit]⟩
  · obtain rfl : notes = .complete :: s.2 := noted
    exact ⟨by simp [one, sinceInit], by simp [sinceInit]⟩
  · have notes_ : completionNotes s.1 (t, command) = [] ∨
        (completionNotes s.1 (t, command) = [.released] ∧ s.1.shared ≠ 0) := by
      cases command with
      | init => exact absurd rfl notInit
      | complete => exact absurd rfl notComplete
      | wait | waitTimeout => exact .inl rfl
      | go now =>
        by_cases looks : ((s.1.threads t).looks && s.1.shared ≠ 0) = true
        · exact .inr ⟨if_pos looks, by simpa using (Bool.and_eq_true_iff.mp looks).2⟩
        · exact .inl (if_neg looks)
    rcases notes_ with none | ⟨released, set⟩
    · rw [none] at noted
      obtain rfl : notes = s.2 := noted
      exact ⟨kept ▸ sticky.done, sticky.released⟩
    · rw [released] at noted
      obtain rfl : notes = .released :: s.2 := noted
      have completes : sinceInit .complete (.released :: s.2) = sinceInit .complete s.2 := by
        simp [sinceInit]
      refine ⟨?_, fun _ => ?_⟩
      · rw [completes, kept]
        exact sticky.done
      · rw [completes]
        exact sticky.done.mp set

/-- The flag is sticky in every state that is reached. -/
theorem sticky_of_reachable {s : Pool Party UInt32 PartyPc × List CompletionNote}
    (reach : ((system Party).record completionNotes).Reachable s) : Sticky s := by
  refine reach.invariant Sticky ?_ fun t a u sticky _ stepped => sticky.step stepped
  rintro ⟨p, notes⟩ ⟨⟨zero, -⟩, rfl⟩
  have zero : p.shared = 0 := zero
  exact ⟨by simp [zero, sinceInit], by simp [sinceInit]⟩

/-- Since the last initialisation, no wait is released without a completion, and from the first
completion on nobody waits any longer. -/
theorem completions_release {s : Pool Party UInt32 PartyPc × List CompletionNote}
    (reach : ((system Party).record completionNotes).Reachable s) :
    (0 < sinceInit .released s.2 → 0 < sinceInit .complete s.2) ∧
      (0 < sinceInit .complete s.2 → Opened s.1.shared) := by
  have sticky := sticky_of_reachable reach
  exact ⟨sticky.released, fun some_ => opened_of_ne_zero (sticky.done.mpr some_)⟩

/-- Two parties outside the functions of a completion. -/
def twoParties : Pool Bool UInt32 PartyPc := ⟨0, fun _ => .idle⟩

/-- One party calls `complete`, and the other one waits twice. -/
def completedOnce : List (Bool × Command) :=
  [(true, .complete), (false, .wait), (false, .go 0), (false, .waitTimeout 5), (false, .go 0)]

/-- One completion releases both waits. -/
theorem completedOnce_releases : ∃ s, ((system Bool).record completionNotes).run (twoParties, [])
      completedOnce = some s ∧ sinceInit .released s.2 = 2 ∧ sinceInit .complete s.2 = 1 ∧
        Opened s.1.shared := by
  have ran : ∃ s, ((system Bool).record completionNotes).run (twoParties, [])
      completedOnce = some s ∧ sinceInit .released s.2 = 2 ∧ sinceInit .complete s.2 = 1 :=
    ⟨_, rfl, by decide, by decide⟩
  obtain ⟨s, executed, released, completed⟩ := ran
  have fresh : ((system Bool).record completionNotes).init (twoParties, []) :=
    ⟨⟨rfl, fun _ => rfl⟩, rfl⟩
  have opened := (completions_release (System.reachable_of_run fresh executed)).2
  exact ⟨s, executed, released, completed, opened (by omega)⟩

/-- More waits are released than there were completions. -/
theorem completions_not_counted : ¬∀ s : Pool Bool UInt32 PartyPc × List CompletionNote,
    ((system Bool).record completionNotes).Reachable s →
      sinceInit .released s.2 ≤ sinceInit .complete s.2 ∧
        (sinceInit .released s.2 < sinceInit .complete s.2 → Opened s.1.shared) := by
  intro always
  have ran : ∃ s, ((system Bool).record completionNotes).run (twoParties, [])
      completedOnce = some s ∧ sinceInit .released s.2 = 2 ∧ sinceInit .complete s.2 = 1 :=
    ⟨_, rfl, by decide, by decide⟩
  obtain ⟨s, executed, released, completed⟩ := ran
  have fresh : ((system Bool).record completionNotes).init (twoParties, []) :=
    ⟨⟨rfl, fun _ => rfl⟩, rfl⟩
  have counted := (always s (System.reachable_of_run fresh executed)).1
  omega

end Lcompat.Completion
