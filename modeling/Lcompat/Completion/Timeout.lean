import Lcompat.Completion.Model

/-!
# What a wait with a timeout returns

One call of `wait_for_completion_timeout`, while other tasks may set `done` between any two of its
steps. The clock is read once for the deadline, once in every round of the loop and up to twice
behind it. The value is right when `done` is not set at the moment the clock reaches the deadline
in the loop, and the two readings behind the loop are on one side of it.
-/

namespace Lcompat.Completion

open Lcompat.Logic

/-- What the clock shows: it never goes back, and its whole advance is below `LONG_MAX`. -/
structure Clock where
  /-- The first reading, which may be just below the wrap-around. -/
  first : UInt64
  /-- How far a reading is behind the first one. -/
  advance : Nat → Nat
  /-- The first reading is the first. -/
  zero : advance 0 = 0
  /-- The readings do not decrease. -/
  mono : Monotone advance
  /-- The advance stays below `LONG_MAX`. -/
  bounded : ∀ k, advance k < 2 ^ 63 - 1

/-- What `lcompat_jiffies_refresh` returns at a reading. -/
def Clock.now (clock : Clock) (k : Nat) : UInt64 := clock.first + UInt64.ofNat (clock.advance k)

/-- One call, the flag, and how often the call has read the clock. -/
structure TimedWait where
  /-- The next step of the call, or what it has returned. -/
  next : Next TimeoutPc UInt64
  /-- `done`. -/
  done : UInt32
  /-- The number of readings. -/
  readings : Nat

/-- What happens next. -/
inductive TimedLabel where
  /-- The call takes its next step. -/
  | go
  /-- Another task calls `complete`. -/
  | complete
  deriving DecidableEq

/-- A step reads the clock. -/
def TimeoutPc.readsClock : TimeoutPc → Bool
  | .start _ | .clock _ | .compare _ | .remain _ => true
  | .check _ | .loop _ | .yield _ => false

/-- The next step of a call. -/
def timedStep (clock : Clock) (s : TimedWait) : TimedLabel → Option TimedWait
  | .complete => some { s with done := 1 }
  | .go =>
    match s.next with
    | .ret _ => none
    | .goto pc => some
        { s with
          next := waitForCompletionTimeout s.done (clock.now s.readings) pc
          readings := if pc.readsClock then s.readings + 1 else s.readings }

/-- A call that begins, with the flag as it is. -/
def timedCall (timeout : UInt64) (done : UInt32) : TimedWait where
  next := .goto (.check timeout)
  done := done
  readings := 0

/-- Every interleaving of a call with the completions of other tasks. -/
def timedSystem (clock : Clock) (timeout : UInt64) : System TimedWait TimedLabel where
  init s := ∃ done, s = timedCall timeout done
  step := timedStep clock

/-- One reading of the clock. -/
structure ClockNote where
  /-- How far the clock had advanced since the first reading. -/
  advance : Nat
  /-- `done` was set. -/
  done : Bool
  deriving DecidableEq

/-- The reading of a step, if it reads the clock. -/
def clockNotes (clock : Clock) (s : TimedWait) : TimedLabel → List ClockNote
  | .complete => []
  | .go =>
    match s.next with
    | .ret _ => []
    | .goto pc =>
      if pc.readsClock then [⟨clock.advance s.readings, s.done ≠ 0⟩] else []

/-- What a call has returned is right: 0 only if `done` was unset when the clock had reached the
deadline, and a value from 1 to the timeout otherwise. -/
def ReturnsRight (timeout : UInt64) (s : TimedWait × List ClockNote) : Prop :=
  ∀ value, s.1.next = .ret value →
    (value = 0 → ∃ note ∈ s.2, timeout.toNat ≤ note.advance ∧ note.done = false) ∧
      (value ≠ 0 → 1 ≤ value ∧ value ≤ timeout)

/-- A reading in the loop reaches the deadline only while `done` is unset, and the last reading
behind the loop is before the deadline. -/
def Timely (clock : Clock) (timeout : UInt64) (s : TimedWait × List ClockNote) :
    TimedLabel → Prop
  | .complete => True
  | .go =>
    match s.1.next with
    | .goto (.clock _) => timeout.toNat ≤ clock.advance s.1.readings → s.1.done = 0
    | .goto (.remain _) => clock.advance s.1.readings < timeout.toNat
    | _ => True

variable {clock : Clock} {timeout : UInt64}

/-- The deadline of a call. -/
def Clock.deadline (clock : Clock) (timeout : UInt64) : UInt64 := clock.now 0 + timeout

/-- Comparing with the deadline compares the advance of the clock with the timeout. -/
theorem timeAfterEq_deadline (most : timeout.toNat < 2 ^ 63) (k : Nat) :
    timeAfterEq (clock.now k) (clock.deadline timeout) = true ↔
      timeout.toNat ≤ clock.advance k := by
  have bounded := clock.bounded k
  have first := clock.first.toNat_lt
  have zero := clock.zero
  simp only [timeAfterEq, Clock.deadline, Clock.now, zero, decide_eq_true_eq,
    UInt64.lt_iff_toNat_lt, UInt64.toNat_sub, UInt64.toNat_add, UInt64.toNat_ofNat',
    UInt64.reduceToNat]
  omega

/-- What remains at a reading, where the difference wraps around behind the deadline. -/
theorem Clock.remain_toNat (clock : Clock) (most : timeout.toNat < 2 ^ 63) (k : Nat) :
    (clock.deadline timeout - clock.now k).toNat =
      if clock.advance k ≤ timeout.toNat then timeout.toNat - clock.advance k
      else 2 ^ 64 - (clock.advance k - timeout.toNat) := by
  have bounded := clock.bounded k
  have first := clock.first.toNat_lt
  have zero := clock.zero
  simp only [Clock.deadline, Clock.now, zero, UInt64.toNat_sub, UInt64.toNat_add,
    UInt64.toNat_ofNat']
  split <;> omega

/-- What the local variables hold at a step: the timeout until the clock is read for the first
time, and the deadline from then on. Behind the loop `done` is set. -/
def TimeoutPc.Holds (clock : Clock) (timeout : UInt64) (s : TimedWait) : TimeoutPc → Prop
  | .check t | .start t => t = timeout ∧ s.readings = 0
  | .loop deadline | .clock deadline | .yield deadline => deadline = clock.deadline timeout
  | .compare deadline | .remain deadline => deadline = clock.deadline timeout ∧ s.done ≠ 0

/-- What holds of a call: its local variables are right, and every reading was before the deadline
until it returned, with a value that is right. -/
structure Timing (clock : Clock) (timeout : UInt64) (s : TimedWait × List ClockNote) : Prop where
  /-- The local variables are right. -/
  holds : ∀ pc, s.1.next = .goto pc → pc.Holds clock timeout s.1
  /-- The readings were before the deadline. -/
  before : ∀ pc, s.1.next = .goto pc → ∀ note ∈ s.2, note.advance < timeout.toNat
  /-- What was returned is right. -/
  returned : ReturnsRight timeout s

/-- A call that begins. -/
theorem timing_timedCall (done : UInt32) :
    Timing clock timeout (timedCall timeout done, []) := by
  refine ⟨fun pc at_ => ?_, fun pc at_ note noted => ?_, fun value at_ => ?_⟩
  · obtain rfl := Next.goto.inj at_
    exact ⟨rfl, rfl⟩
  · cases noted
  · cases at_

/-- A completion by another task changes nothing of what holds. -/
theorem Timing.complete {s : TimedWait × List ClockNote} (timing : Timing clock timeout s) :
    Timing clock timeout ({ s.1 with done := 1 }, s.2) := by
  refine ⟨fun pc at_ => ?_, timing.before, timing.returned⟩
  have holds := timing.holds pc at_
  cases pc with
  | check | start | loop | clock | yield => exact holds
  | compare | remain =>
    have set : (1 : UInt32) ≠ 0 := by decide
    exact ⟨holds.1, set⟩

/-- A step of a call at a place, and what it notes. -/
theorem timedStep_go {s s' : TimedWait × List ClockNote}
    (stepped : ((timedSystem clock timeout).record (clockNotes clock)).step s .go = some s') :
    ∃ pc, s.1.next = .goto pc ∧
      s'.1.next = waitForCompletionTimeout s.1.done (clock.now s.1.readings) pc ∧
      s'.1.done = s.1.done ∧
      s'.1.readings = (if pc.readsClock then s.1.readings + 1 else s.1.readings) ∧
      s'.2 =
        (if pc.readsClock then [⟨clock.advance s.1.readings, s.1.done ≠ 0⟩] else []) ++ s.2 := by
  obtain ⟨moved, noted⟩ := System.record_step_eq_some.mp stepped
  obtain ⟨⟨next, done, readings⟩, notes⟩ := s
  cases next with
  | ret value => cases moved
  | goto pc =>
    have moved := Option.some.inj moved
    exact ⟨pc, rfl, moved ▸ rfl, moved ▸ rfl, moved ▸ rfl, noted⟩

/-- A step that goes on at a place and keeps the readings before the deadline. -/
theorem Timing.goes {s' : TimedWait × List ClockNote} {pc : TimeoutPc}
    (next : s'.1.next = .goto pc) (holds : pc.Holds clock timeout s'.1)
    (before : ∀ note ∈ s'.2, note.advance < timeout.toNat) : Timing clock timeout s' := by
  refine ⟨fun pc' at_ => ?_, fun _ _ => before, fun value at_ => ?_⟩
  · obtain rfl := Next.goto.inj (at_.symm.trans next)
    exact holds
  · cases next.symm.trans at_

/-- A value from 1 to the timeout is right. -/
theorem returnsRight_of_between {s' : TimedWait × List ClockNote} {value : UInt64}
    (next : s'.1.next = .ret value) (least : 1 ≤ value.toNat)
    (most : value.toNat ≤ timeout.toNat) : ReturnsRight timeout s' := by
  intro value' at_
  obtain rfl := Next.ret.inj (next.symm.trans at_)
  refine ⟨fun zero => ?_, fun _ => ⟨?_, ?_⟩⟩
  · rw [zero, UInt64.toNat_zero] at least
    omega
  · rw [UInt64.le_iff_toNat_le]
    exact least
  · rw [UInt64.le_iff_toNat_le]
    exact most

/-- The value 0 is right if and only if `done` was unset at a reading at or behind the deadline. -/
theorem returnsRight_zero {s' : TimedWait × List ClockNote} (next : s'.1.next = .ret 0) :
    ReturnsRight timeout s' ↔ ∃ note ∈ s'.2, timeout.toNat ≤ note.advance ∧ note.done = false := by
  constructor
  · intro right
    exact (right 0 next).1 rfl
  · intro late value at_
    obtain rfl := Next.ret.inj (next.symm.trans at_)
    exact ⟨fun _ => late, fun nonzero => absurd rfl nonzero⟩

/-- A step keeps what holds of a call if what it returns is right. -/
theorem Timing.go (some_ : 1 ≤ timeout.toNat) (most : timeout.toNat < 2 ^ 63)
    {s s' : TimedWait × List ClockNote} (timing : Timing clock timeout s)
    (stepped : ((timedSystem clock timeout).record (clockNotes clock)).step s .go = some s')
    (right : ReturnsRight timeout s') : Timing clock timeout s' := by
  obtain ⟨pc, at_, next, done, readings, notes⟩ := timedStep_go stepped
  have holds := timing.holds pc at_
  have before := timing.before pc at_
  refine ⟨fun pc' at' => ?_, fun pc' at' => ?_, right⟩
  · rw [next] at at'
    cases pc with
    | check t =>
      simp only [waitForCompletionTimeout] at at'
      split at at'
      · cases at'
      · split at at'
        · cases at'
        · obtain rfl := Next.goto.inj at'
          exact ⟨holds.1, readings.trans holds.2⟩
    | start t =>
      obtain rfl := Next.goto.inj at'
      obtain ⟨rfl, none⟩ := holds
      rw [none]
      rfl
    | loop d =>
      obtain rfl := Next.goto.inj at'
      split
      · exact ⟨holds, done.trans_ne ‹_›⟩
      · exact holds
    | clock d =>
      simp only [waitForCompletionTimeout] at at'
      split at at'
      · cases at'
      · obtain rfl := Next.goto.inj at'
        exact holds
    | yield d =>
      obtain rfl := Next.goto.inj at'
      exact holds
    | compare d =>
      simp only [waitForCompletionTimeout] at at'
      split at at'
      · cases at'
      · obtain rfl := Next.goto.inj at'
        exact ⟨holds.1, done.trans_ne holds.2⟩
    | remain d => cases at'
  · rw [next] at at'
    rw [notes]
    cases pc with
    | check | loop | yield => exact before
    | start t =>
      refine List.forall_mem_cons.mpr ⟨?_, before⟩
      have first := clock.zero
      rw [holds.2, first]
      exact some_
    | clock d | compare d =>
      have deadline : d = clock.deadline timeout := by first | exact holds | exact holds.1
      subst deadline
      refine List.forall_mem_cons.mpr ⟨?_, before⟩
      have notReached : ¬timeout.toNat ≤ clock.advance s.1.readings := by
        intro reached
        have after := (timeAfterEq_deadline most s.1.readings).mpr reached
        simp only [waitForCompletionTimeout, after, if_true] at at'
        cases at'
      exact Nat.lt_of_not_le notReached
    | remain d => cases at'

/-- What a step returns is right if and only if the step is timely. -/
theorem Timing.returnsRight_iff (some_ : 1 ≤ timeout.toNat) (most : timeout.toNat < 2 ^ 63)
    {s s' : TimedWait × List ClockNote} (timing : Timing clock timeout s)
    (stepped : ((timedSystem clock timeout).record (clockNotes clock)).step s .go = some s') :
    ReturnsRight timeout s' ↔ Timely clock timeout s .go := by
  obtain ⟨pc, at_, next, done, readings, notes⟩ := timedStep_go stepped
  have holds := timing.holds pc at_
  have before := timing.before pc at_
  have goes : ∀ {pc'}, s'.1.next = .goto pc' → ReturnsRight timeout s' := fun gone value at' => by
    cases gone.symm.trans at'
  rw [Timely, at_]
  cases pc with
  | check t =>
    obtain ⟨rfl, -⟩ := holds
    refine iff_of_true ?_ trivial
    have nonzero : t ≠ 0 := by
      rintro rfl
      cases some_
    simp only [waitForCompletionTimeout, if_pos nonzero, if_neg nonzero] at next
    split at next
    · exact returnsRight_of_between next some_ le_rfl
    · exact goes next
  | start | loop | yield => exact iff_of_true (goes next) trivial
  | clock d =>
    obtain rfl : d = clock.deadline timeout := holds
    simp only [waitForCompletionTimeout] at next
    by_cases reached : timeout.toNat ≤ clock.advance s.1.readings
    · rw [if_pos ((timeAfterEq_deadline most _).mpr reached)] at next
      rw [returnsRight_zero next, notes]
      constructor
      · rintro ⟨note, noted, late, unset⟩ -
        obtain rfl | older := List.mem_cons.mp noted
        · simpa using unset
        · have early := before note older
          omega
      · intro unset
        exact ⟨_, List.mem_cons_self, reached, by simp [unset reached]⟩
    · rw [if_neg fun after => reached ((timeAfterEq_deadline most _).mp after)] at next
      exact iff_of_true (goes next) fun late => absurd late reached
  | compare d =>
    refine iff_of_true ?_ trivial
    simp only [waitForCompletionTimeout] at next
    split at next
    · exact returnsRight_of_between next (by decide) some_
    · exact goes next
  | remain d =>
    obtain ⟨rfl, set⟩ := holds
    have left := clock.remain_toNat most s.1.readings
    by_cases early : clock.advance s.1.readings < timeout.toNat
    · rw [if_pos early.le] at left
      exact iff_of_true (returnsRight_of_between next (by omega) (by omega)) early
    · refine iff_of_false (fun right => ?_) early
      obtain ⟨zero, between⟩ := right _ next
      by_cases nothing : clock.deadline timeout - clock.now s.1.readings = 0
      · obtain ⟨note, noted, late, unset⟩ := zero nothing
        rw [notes] at noted
        obtain rfl | older := List.mem_cons.mp noted
        · exact set (by simpa using unset)
        · have before := before note older
          omega
      · have atMost := UInt64.le_iff_toNat_le.mp (between nothing).2
        have bounded := clock.bounded s.1.readings
        have nonzero : (clock.deadline timeout - clock.now s.1.readings).toNat ≠ 0 :=
          fun zero => nothing (UInt64.toNat_inj.mp zero)
        split at left <;> omega

/-- What a call returns is right throughout a run if and only if every step is timely. -/
theorem returnsRight_iff_timely (clock : Clock) {timeout : UInt64} (some_ : 1 ≤ timeout)
    (most : timeout.toNat ≤ 2 ^ 63 - 1) (done : UInt32) {labels : List TimedLabel}
    {s : TimedWait × List ClockNote}
    (ran : ((timedSystem clock timeout).record (clockNotes clock)).run
      (timedCall timeout done, []) labels = some s) :
    ((timedSystem clock timeout).record (clockNotes clock)).Throughout (ReturnsRight timeout)
        (timedCall timeout done, []) labels ↔
      ((timedSystem clock timeout).record (clockNotes clock)).Along (Timely clock timeout)
        (timedCall timeout done, []) labels := by
  have some_ : 1 ≤ timeout.toNat := UInt64.le_iff_toNat_le.mp some_
  have most : timeout.toNat < 2 ^ 63 := by omega
  refine System.throughout_iff_along (fun t (timing : Timing clock timeout t) => timing.returned)
    ?_ ?_ (timing_timedCall done) (System.along_of_forall (fun _ _ => trivial) _ _) ran
  · intro t a u timing _ timely stepped
    cases a with
    | go =>
      exact timing.go some_ most stepped ((timing.returnsRight_iff some_ most stepped).mpr timely)
    | complete =>
      obtain ⟨moved, noted⟩ := System.record_step_eq_some.mp stepped
      obtain ⟨wait, notes⟩ := u
      obtain rfl : { t.1 with done := 1 } = wait := Option.some.inj moved
      obtain rfl : notes = t.2 := noted
      exact timing.complete
  · intro t a u timing _ stepped right
    cases a with
    | go => exact (timing.returnsRight_iff some_ most stepped).mp right
    | complete => trivial

/-- A clock that advances by one with each of three readings, from the last value before the
wrap-around. -/
def tickingClock : Clock where
  first := 0xffffffffffffffff
  advance k := min k 3
  zero := rfl
  mono _ _ le := min_le_min_right 3 le
  bounded k := (min_le_right k 3).trans_lt (by decide)

/-- The call reads the clock, another task completes, and the call leaves its loop. -/
def completedBehindStart : List TimedLabel := [.go, .go, .complete, .go, .go, .go]

/-- With a timeout of three jiffies the clock stays before the deadline, and what the call returns
is right. -/
theorem completedBehindStart_right :
    ((timedSystem tickingClock 3).record (clockNotes tickingClock)).Throughout (ReturnsRight 3)
      (timedCall 3 0, []) completedBehindStart := by
  have ran : ∃ s, ((timedSystem tickingClock 3).record (clockNotes tickingClock)).run
      (timedCall 3 0, []) completedBehindStart = some s := ⟨_, rfl⟩
  obtain ⟨s, ran⟩ := ran
  apply (returnsRight_iff_timely tickingClock (by decide) (by decide) 0 ran).mpr
  have early : tickingClock.advance 2 < UInt64.toNat 3 := by decide
  exact System.along_cons trivial rfl <| System.along_cons trivial rfl <|
    System.along_cons trivial rfl <| System.along_cons trivial rfl <|
    System.along_cons trivial rfl <| System.along_cons early rfl trivial

/-- With a timeout of two jiffies the clock reaches the deadline between the two readings behind the
loop, and the call returns 0 although `done` was set before the deadline. -/
theorem completedBehindStart_wrong :
    ∃ s, ((timedSystem tickingClock 2).record (clockNotes tickingClock)).run
        (timedCall 2 0, []) completedBehindStart = some s ∧
      s.1.next = .ret 0 ∧ ¬ReturnsRight 2 s := by
  refine ⟨_, rfl, rfl, fun right => ?_⟩
  obtain ⟨note, noted, late, unset⟩ := (right 0 rfl).1 rfl
  revert late unset
  revert note
  decide

end Lcompat.Completion
