import Lcompat.Logic.Pool

/-!
# Completions

`completion.h`: a flag that `complete` sets and `init_completion` clears, and two functions that
wait until it is set. Nothing but `init_completion` clears it. The wait queue is empty, so waiting
is looking at the flag again and again; one step is one look at it or at the clock.
-/

namespace Lcompat.Completion

open Lcompat.Logic

/-- `time_after_eq` on jiffies: the difference is not negative as a signed word. -/
def timeAfterEq (a b : UInt64) : Bool := a - b < 0x8000000000000000

/-- Steps of `wait_for_completion`. -/
inductive WaitPc where
  /-- Look at `done`. -/
  | load
  /-- `schedule`. -/
  | yield
  deriving DecidableEq

/-- `wait_for_completion`: `wait_event` on `done`. -/
def waitForCompletion (done : UInt32) : WaitPc → Next WaitPc Unit
  | .load => if done ≠ 0 then .ret () else .goto .yield
  | .yield => .goto .load

/-- Steps of `wait_for_completion_timeout`. -/
inductive TimeoutPc where
  /-- Look at `done` for the first time. -/
  | check (timeout : UInt64)
  /-- Read the clock for `deadline`. -/
  | start (timeout : UInt64)
  /-- Look at `done` in the loop. -/
  | loop (deadline : UInt64)
  /-- Read the clock in the loop. -/
  | clock (deadline : UInt64)
  /-- `schedule`. -/
  | yield (deadline : UInt64)
  /-- Read the clock behind the loop. -/
  | compare (deadline : UInt64)
  /-- Read it once more for the result. -/
  | remain (deadline : UInt64)
  deriving DecidableEq

/-- `wait_for_completion_timeout`, with what `lcompat_jiffies_refresh` returns at this step. -/
def waitForCompletionTimeout (done : UInt32) (now : UInt64) : TimeoutPc → Next TimeoutPc UInt64
  | .check timeout =>
    if done ≠ 0 then .ret (if timeout ≠ 0 then timeout else 1)
    else if timeout = 0 then .ret 0 else .goto (.start timeout)
  | .start timeout => .goto (.loop (now + timeout))
  | .loop deadline => .goto (if done ≠ 0 then .compare deadline else .clock deadline)
  | .clock deadline => if timeAfterEq now deadline then .ret 0 else .goto (.yield deadline)
  | .yield deadline => .goto (.loop deadline)
  | .compare deadline => if timeAfterEq now deadline then .ret 1 else .goto (.remain deadline)
  | .remain deadline => .ret (deadline - now)

/-- Where a party is. -/
inductive PartyPc where
  /-- Outside the functions of the completion. -/
  | idle
  /-- In `wait_for_completion`. -/
  | waiting (pc : WaitPc)
  /-- In `wait_for_completion_timeout`. -/
  | timed (pc : TimeoutPc)
  deriving DecidableEq

/-- What a party does next. -/
inductive Command where
  /-- Call `init_completion` or `reinit_completion`. -/
  | init
  /-- Call `complete`. -/
  | complete
  /-- Call `wait_for_completion`. -/
  | wait
  /-- Call `wait_for_completion_timeout`. -/
  | waitTimeout (timeout : UInt64)
  /-- Take the next step of the function it is in, at this time. -/
  | go (now : UInt64)
  deriving DecidableEq

/-- The next step of a party. -/
def exec (done : UInt32) (pc : PartyPc) (command : Command) : Option (UInt32 × PartyPc) :=
  match pc, command with
  | .idle, .init => some (0, .idle)
  | .idle, .complete => some (1, .idle)
  | .idle, .wait => some (done, .waiting .load)
  | .idle, .waitTimeout timeout => some (done, .timed (.check timeout))
  | .waiting pc, .go _ =>
    match waitForCompletion done pc with
    | .goto pc => some (done, .waiting pc)
    | .ret () => some (done, .idle)
  | .timed pc, .go now =>
    match waitForCompletionTimeout done now pc with
    | .goto pc => some (done, .timed pc)
    | .ret _ => some (done, .idle)
  | _, _ => none

/-- Every interleaving of the calls of some parties, after `init_completion`. -/
def system (Party : Type) [DecidableEq Party] :
    System (Pool Party UInt32 PartyPc) (Party × Command) :=
  Pool.system exec fun p => p.shared = 0 ∧ ∀ t, p.threads t = .idle

end Lcompat.Completion
