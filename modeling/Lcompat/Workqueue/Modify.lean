import Lcompat.Workqueue.Delayed

/-!
# Changing a delay

`mod_delayed_work` is another name of `lcompat_queue_delayed_work`, which claims an item only
while its state word is idle. A call on an item whose delay is running, that is queued or that is
being executed is refused and leaves the old deadline where it is, and a delay of more than
`2 ^ 63` jiffies is over at once for `time_before`. The results are about the runs in which each
call finds the item idle and asks for no longer delay: after such a call the item is pending until
the deadline, and its function is not executed before.
-/

set_option linter.unusedSectionVars false

namespace Lcompat.Workqueue

open Lcompat.Logic

/-- What a task does next, where the client calls nothing but `mod_delayed_work`. -/
inductive Attempt where
  /-- Call `mod_delayed_work`. -/
  | modify (delay : UInt64)
  /-- Begin as a timer task that was created. -/
  | begin
  /-- Take the next step of the function it is in, where a task can be created or not. -/
  | go (created : Bool)
  deriving DecidableEq

/-- A task takes a step after some jiffies. -/
structure Tick (Id : Type) where
  /-- The task. -/
  task : Id
  /-- The jiffies since the last step. -/
  elapsed : Nat
  /-- What it does. -/
  attempt : Attempt

/-- The move of a task while some jiffies have passed; the counter has 64 bits. -/
def Attempt.move (clock : Nat) : Attempt → Move
  | .modify delay => .queue delay
  | .begin => .begin
  | .go created => .go ⟨created, UInt64.ofNat clock⟩

/-- The parties and the clock, with what is remembered of the calls of the client. -/
structure Rearming (Id Queue Item : Type) where
  /-- The parties. -/
  parties : Parties Id Queue Item
  /-- The jiffies that have passed. -/
  clock : Nat
  /-- The clock when the client called `mod_delayed_work`. -/
  issued : Nat
  /-- The clock when the call stored `expires`. -/
  armedAt : Nat
  /-- The deadline of the last call that created a timer task, until the function is executed. -/
  deadline : Option Nat

/-- The clock when the last call began, after the step of a party. -/
def Party.issued {Queue Item : Type} (clock before : Nat) : Party Queue Item → Nat
  | .client (.outside _) => clock
  | _ => before

/-- The clock when `expires` was stored, after the step of a party. -/
def Party.armedAt {Queue Item : Type} (clock before : Nat) : Party Queue Item → Nat
  | .client (.queueing _ _ .storeExpires) => clock
  | _ => before

variable {Queue Item : Type} [DecidableEq Queue] [DecidableEq Item]

/-- The fields of an item that say when its delay is over, and by which timer tasks. -/
def WorkStruct.delay {Queue : Type} (work : WorkStruct Queue) : Bool × UInt32 × UInt64 × Nat :=
  (work.active, work.generation, work.expires, work.timersUnstarted)

section Frames

variable {q systemWq : Queue} {w : Item} {m : Memory Queue Item}

omit [DecidableEq Queue] in
/-- Changing an item elsewhere leaves its delay as it is. -/
theorem delay_setWork (v : Item) {change : WorkStruct Queue → WorkStruct Queue}
    (same : ∀ work, (change work).delay = work.delay) :
    ((m.setWork v change).works w).delay = (m.works w).delay := by
  by_cases here : w = v
  · subst here
    rw [Memory.setWork_works_self, same]
  · rw [m.setWork_works_of_ne v here change]

/-- `lcompat_queue_work` leaves delays as they are. -/
theorem queueWork_delay (v : Item) (env : Env) (pc : QueuePc) :
    ((queueWork q v env m pc).1.works w).delay = (m.works w).delay := by
  cases pc with
  | ensure pc =>
    have same : ((workqueueEnsureWorker q env m pc).1.works w).delay = (m.works w).delay := by
      rw [workqueueEnsureWorker_works]
    rcases went : workqueueEnsureWorker q env m pc with ⟨m', pc' | ready⟩ <;>
      rw [went] at same <;>
      simpa only [queueWork, went] using same
  | load => rfl
  | cas running =>
    simp only [queueWork]
    split
    · dsimp only
      exact delay_setWork v fun _ => by rfl
    · rfl
  | append =>
    simp only [queueWork]
    rw [delay_setWork v fun _ => by rfl]
    rfl
  | wake pc =>
    have same : ((workqueueWake q m pc).1.works w).delay = (m.works w).delay := by
      rw [workqueueWake_works]
    rcases went : workqueueWake q m pc with ⟨m', pc' | done⟩ <;>
      rw [went] at same <;>
      simpa only [queueWork, went] using same

/-- The worker leaves delays as they are. -/
theorem workqueueWorker_delay (pc : WorkerPc Item) :
    ((workqueueWorker q m pc).1.works w).delay = (m.works w).delay := by
  cases pc with
  | pop =>
    rcases popped : (m.list q).pop with ⟨list, _ | v⟩ <;>
      simp only [workqueueWorker, workqueuePopLocked, popped] <;>
      rfl
  | block =>
    simp only [workqueueWorker]
    split <;> rfl
  | load v | call v | inFunc v => rfl
  | cas v running =>
    simp only [workqueueWorker]
    split
    · dsimp only
      exact delay_setWork v fun _ => by rfl
    · rfl
  | setRunning v | clearRunning v | clearState v =>
    simp only [workqueueWorker]
    exact delay_setWork v fun _ => by rfl
  | close v =>
    have closed : ((m.setWork v fun work =>
        if work.state.queued then work else { work with wq := none }).works w).delay =
          (m.works w).delay :=
      delay_setWork v fun _ => by split <;> rfl
    exact closed

end Frames

/-- The deadline after the step of a party. -/
def Party.deadline (w : Item) (attempt : Attempt) (armedAt : Nat) (before : Option Nat) :
    Party Queue Item → Option Nat
  | .client (.queueing _ delay .create) =>
    if attempt = .go true then some (armedAt + delay.toNat) else before
  | .worker (.call v) => if v = w then none else before
  | _ => before

variable {Id : Type} [DecidableEq Id]

/-- A task takes a step. -/
def Rearming.step [Fintype Item] (q systemWq : Queue) (w : Item) (s : Rearming Id Queue Item)
    (a : Tick Id) : Option (Rearming Id Queue Item) :=
  let clock := s.clock + a.elapsed
  let party := s.parties.threads a.task
  (Pool.step (partyExec q systemWq w) s.parties (a.task, a.attempt.move clock)).map fun parties =>
    { parties, clock
      issued := party.issued clock s.issued
      armedAt := party.armedAt clock s.armedAt
      deadline := party.deadline w a.attempt s.armedAt s.deadline }

/-- Every interleaving of the parties with a clock. -/
def rearming [Fintype Item] (q systemWq : Queue) (w : Item) :
    System (Rearming Id Queue Item) (Tick Id) where
  init s := Begun q w s.parties ∧ s.deadline = none
  step := Rearming.step q systemWq w

/-- The condition on a step of a party: a call finds the item idle, and the delay is one that
`time_before` can compare. -/
def Party.Rearmable (w : Item) (m : Memory Queue Item) : Party Queue Item → Prop
  | .client (.queueing _ delay .casState) =>
    (m.works w).state = ⟨false, false⟩ ∧ delay.toNat ≤ 2 ^ 63
  | _ => True

/-- The condition on a step. -/
def Rearmable (w : Item) (s : Rearming Id Queue Item) (a : Tick Id) : Prop :=
  (s.parties.threads a.task).Rearmable w s.parties.shared

/-- What changing a delay is for, as far as one step shows. -/
structure Rearmed (w : Item) (s : Rearming Id Queue Item) (a : Tick Id)
    (s' : Rearming Id Queue Item) : Prop where
  /-- A call with a delay that returns, unless there was no timer task, leaves the item pending
  until the delay is over. -/
  pending : ∀ afterCancel delay pc last,
    s.parties.threads a.task = .client (.queueing afterCancel delay pc) → delay ≠ 0 →
      s'.parties.threads a.task = .client (.outside last) → last ≠ .failed →
        (s'.parties.shared.works w).state.queued = true ∧
          (s'.parties.shared.works w).active = true ∧ ∃ now, s.issued ≤ now ∧ now ≤ s'.clock ∧
            (s'.parties.shared.works w).expires = UInt64.ofNat now + delay
  /-- The function is not executed before the deadline. -/
  started : s.parties.threads a.task = .worker (.call w) →
    ∀ deadline, s.deadline = some deadline → deadline ≤ s'.clock

/-- A timer task waits for the delay that an item has. -/
def Party.Awaits (work : WorkStruct Queue) : Party Queue Item → Prop
  | .timer .loadGeneration => True
  | .timer (.loadExpires generation) => generation = work.generation
  | .timer (.loadWq generation expires) => generation = work.generation ∧ expires = work.expires
  | .timer (.loopActive vars) | .timer (.loopGeneration vars) | .timer (.loopTime vars) =>
    vars.generation = work.generation ∧ vars.expires = work.expires
  | _ => False

/-- A deadline that is in the future is that of the item, and the scheduler or a timer task waits
for it. -/
structure Awaited (w : Item) (p : Parties Id Queue Item) (deadline clock : Nat) : Prop where
  /-- `time_before` can compare the deadline. -/
  near : deadline ≤ clock + 2 ^ 63
  /-- The delay is running. -/
  active : (p.shared.works w).active = true
  /-- It is over at the deadline. -/
  expires : (p.shared.works w).expires = UInt64.ofNat deadline
  /-- Somebody waits. -/
  keeper : 0 < (p.shared.works w).timersUnstarted ∨
    ∃ t, (p.threads t).Awaits (p.shared.works w)

/-- What is known in a call with a delay. -/
def QueueDelayedPc.Knows (s : Rearming Id Queue Item) (w : Item) (delay : UInt64) :
    QueueDelayedPc → Prop
  | .queueNow _ => delay = 0
  | .casState => s.issued ≤ s.clock
  | .storeWq | .storeExpires => s.issued ≤ s.clock ∧ delay.toNat ≤ 2 ^ 63
  | .storeActive => s.issued ≤ s.armedAt ∧ s.armedAt ≤ s.clock ∧ delay.toNat ≤ 2 ^ 63 ∧
    (s.parties.shared.works w).expires = UInt64.ofNat s.armedAt + delay
  | .incGeneration | .create => s.issued ≤ s.armedAt ∧ s.armedAt ≤ s.clock ∧
    delay.toNat ≤ 2 ^ 63 ∧ (s.parties.shared.works w).active = true ∧
      (s.parties.shared.works w).expires = UInt64.ofNat s.armedAt + delay
  | .undoActive | .undoState => True
  | .undoGeneration => ∀ deadline, s.deadline = some deadline → deadline ≤ s.clock

/-- What is known of a party while the client does not cancel. -/
def Party.Knows (s : Rearming Id Queue Item) (w : Item) : Party Queue Item → Prop
  | .client (.outside last) => last ≠ .cancelled
  | .client (.queueing afterCancel delay pc) => afterCancel = false ∧ pc.Knows s w delay
  | .client (.cancelling _ _) => False
  | .worker _ | .timer _ | .idle => True

/-- The order that fresh calls keep. -/
structure RearmingInv (q : Queue) (w : Item) (s : Rearming Id Queue Item) : Prop where
  /-- The parties are in order. -/
  parties : ∃ l, DelayedInv q w s.parties l
  /-- Every party knows what it knows. -/
  knows : ∀ t, (s.parties.threads t).Knows s w
  /-- A deadline that is in the future is waited for. -/
  awaited : ∀ deadline, s.deadline = some deadline → s.clock < deadline →
    Awaited w s.parties deadline s.clock

section Waiting

variable {q systemWq : Queue} {w : Item} {p : Parties Id Queue Item} {l : Ledger Item}
  {deadline clock : Nat} {t : Id}

/-- `time_before` says that a deadline in the future is in the future. -/
theorem timeBefore_ofNat (early : clock < deadline) (near : deadline ≤ clock + 2 ^ 63) :
    timeBefore (UInt64.ofNat clock) (UInt64.ofNat deadline) = true := by
  have half : (2 ^ 63 : UInt64).toNat = 2 ^ 63 := by decide +kernel
  rw [timeBefore, decide_eq_true_eq, UInt64.le_iff_toNat_le, half, UInt64.toNat_sub,
    UInt64.toNat_ofNat', UInt64.toNat_ofNat']
  omega

/-- A timer task that waits keeps the item `QUEUED` for its delay. -/
theorem Party.Awaits.hand {party : Party Queue Item} {work : WorkStruct Queue}
    (awaits : party.Awaits work) : party.hand w = .armed w := by
  cases party with
  | timer pc =>
    cases pc with
    | queue q' pc => exact awaits.elim
    | checkActive vars | checkGeneration vars | clearActive vars | casState vars =>
      exact awaits.elim
    | reset => exact awaits.elim
    | _ => rfl
  | _ => exact awaits.elim

/-- Whoever waits for the delay has the item in hand. -/
theorem Awaited.hand (awaited : Awaited w p deadline clock) :
    ∃ o, hands w p o = .armed w ∧
      ∀ t, o = some t → (p.threads t).Awaits (p.shared.works w) := by
  rcases awaited.keeper with unstarted | ⟨t, awaits⟩
  · refine ⟨none, ?_, fun t same => by cases same⟩
    simp [hands, Nat.ne_of_gt unstarted]
  · refine ⟨some t, awaits.hand, fun u same => ?_⟩
    obtain rfl := Option.some.inj same
    exact awaits

/-- A party that has the item in hand waits for the delay. -/
theorem Awaited.awaits (awaited : Awaited w p deadline clock) (inv : DelayedInv q w p l)
    (holds : ((p.threads t).hand w).Holds w) : (p.threads t).Awaits (p.shared.works w) := by
  obtain ⟨o, armed, waits⟩ := awaited.hand
  by_contra other
  have apart : o ≠ some t := fun same => other (waits t same)
  refine inv.ledger.one_holder o (some t) w apart ⟨?_, holds⟩
  rw [armed]
  rfl

/-- The worker does not have the item marked while its delay is waited for. -/
theorem Awaited.not_running (awaited : Awaited w p deadline clock) (inv : DelayedInv q w p l) :
    (p.threads t).hand w ≠ .running w := by
  obtain ⟨o, armed, -⟩ := awaited.hand
  intro running
  have marked := inv.ledger.executing (some t) w running
  have unmarked := ((inv.ledger.waiting o w).2 armed).1
  rw [marked] at unmarked
  cases unmarked

/-- A deadline is waited for as long as the delay stays and the keeper goes on waiting. -/
theorem Awaited.keep {m' : Memory Queue Item} {next : Party Queue Item} {clock' : Nat}
    (awaited : Awaited w p deadline clock) (later : clock ≤ clock')
    (same : (m'.works w).delay = (p.shared.works w).delay)
    (waits : (p.threads t).Awaits (p.shared.works w) → next.Awaits (p.shared.works w)) :
    Awaited w ⟨m', Function.update p.threads t next⟩ deadline clock' := by
  obtain ⟨near, active, expires, keeper⟩ := awaited
  simp only [WorkStruct.delay, Prod.mk.injEq] at same
  obtain ⟨sameActive, sameGeneration, sameExpires, sameUnstarted⟩ := same
  have transfer : ∀ party : Party Queue Item,
      party.Awaits (p.shared.works w) → party.Awaits (m'.works w) := by
    intro party
    cases party with
    | timer pc => cases pc <;> simp only [Party.Awaits, sameGeneration, sameExpires, imp_self]
    | _ => exact id
  refine ⟨by omega, sameActive.trans active, sameExpires.trans expires, ?_⟩
  rcases keeper with unstarted | ⟨u, awaits⟩
  · exact .inl (by rw [sameUnstarted]; exact unstarted)
  · refine .inr ⟨u, transfer _ ?_⟩
    by_cases here : u = t
    · subst here
      simpa using waits awaits
    · simpa [Function.update_of_ne here] using awaits

end Waiting

section Stepping

variable {q systemWq : Queue} {w : Item} {p : Parties Id Queue Item} {l : Ledger Item}
  {s s' : Rearming Id Queue Item} {a : Tick Id} {deadline clock clock' : Nat} {t : Id}

/-- The steps of `lcompat_queue_delayed_work` that leave the delay as it is. -/
theorem queueDelayedWork_delay {m : Memory Queue Item} (delay : UInt64) (env : Env)
    {pc : QueueDelayedPc} (unarmed : pc.hand w ≠ .armed w) (done : pc ≠ .undoGeneration) :
    ((queueDelayedWork q w delay env m pc).1.works w).delay = (m.works w).delay := by
  cases pc with
  | queueNow pc =>
    have same := queueWork_delay (q := q) (w := w) (m := m) w env pc
    rcases went : queueWork q w env m pc with ⟨m', pc' | accepted⟩ <;>
      rw [went] at same <;>
      simpa only [queueDelayedWork, went] using same
  | casState =>
    simp only [queueDelayedWork]
    split
    · dsimp only
      exact delay_setWork w fun _ => by rfl
    · rfl
  | storeWq =>
    simp only [queueDelayedWork]
    exact delay_setWork w fun _ => by rfl
  | undoGeneration => exact absurd rfl done
  | storeExpires | storeActive | incGeneration | create | undoActive | undoState =>
    exact absurd rfl unarmed

/-- The steps of a timer task that leave the delay as it is. -/
theorem delayedWorkWorker_delay (systemWq : Queue) (w : Item) (m : Memory Queue Item)
    (env : Env) {pc : TimerPc Queue}
    (other : ∀ vars, pc ≠ .clearActive vars) :
    ((delayedWorkWorker systemWq w env m pc).1.works w).delay = (m.works w).delay := by
  cases pc with
  | clearActive vars => exact absurd rfl (other vars)
  | reset =>
    simp only [delayedWorkWorker]
    exact delay_setWork w fun _ => by rfl
  | casState vars =>
    simp only [delayedWorkWorker]
    split
    · dsimp only
      exact delay_setWork w fun _ => by rfl
    · rfl
  | queue q' pc =>
    have same := queueWork_delay (q := q') (w := w) (m := m) w env pc
    rcases went : queueWork q' w env m pc with ⟨m', pc' | accepted⟩ <;>
      rw [went] at same <;>
      simpa only [delayedWorkWorker, went] using same
  | loadGeneration | loadExpires _ | loadWq _ _ | loopActive _ | loopGeneration _ | loopTime _
  | checkActive _ | checkGeneration _ => rfl

/-- A timer task that waits goes on waiting while the deadline is in the future. -/
theorem Awaited.waits (systemWq : Queue) (awaited : Awaited w p deadline clock)
    (later : clock ≤ clock')
    (early : clock' < deadline) (created : Bool) {pc : TimerPc Queue}
    (awaits : (Party.timer pc : Party Queue Item).Awaits (p.shared.works w)) :
    ∃ pc', delayedWorkWorker systemWq w ⟨created, UInt64.ofNat clock'⟩ p.shared pc =
        (p.shared, .goto pc') ∧
      (Party.timer pc' : Party Queue Item).Awaits (p.shared.works w) := by
  have near := awaited.near
  have before := timeBefore_ofNat early (by omega)
  cases pc with
  | loadGeneration => exact ⟨_, rfl, rfl⟩
  | loadExpires generation => exact ⟨_, rfl, awaits, rfl⟩
  | loadWq generation expires => exact ⟨_, rfl, awaits⟩
  | loopActive vars =>
    refine ⟨.loopGeneration vars, ?_, awaits⟩
    simp only [delayedWorkWorker, awaited.active, if_true]
  | loopGeneration vars =>
    refine ⟨.loopTime vars, ?_, awaits⟩
    simp only [delayedWorkWorker, awaits.1, if_true]
  | loopTime vars =>
    refine ⟨.loopActive vars, ?_, awaits⟩
    simp only [delayedWorkWorker, awaits.2, awaited.expires, before, if_true]
  | checkActive vars | checkGeneration vars | clearActive vars | casState vars =>
    exact awaits.elim
  | reset => exact awaits.elim
  | queue q' pc => exact awaits.elim

/-- While the client does not cancel, every step is timely. -/
theorem Party.Knows.timely [Fintype Item] {party : Party Queue Item} (knows : party.Knows s w) :
    party.Timely q w p := by
  cases party with
  | client c =>
    cases c with
    | outside last => trivial
    | queueing afterCancel delay pc =>
      obtain ⟨rfl, -⟩ := knows
      trivial
    | cancelling afterCancel pc => exact knows.elim
  | worker pc | timer pc | idle => trivial

/-- A step of a task is a step of its party. -/
theorem Rearming.step_eq_some [Fintype Item]
    (stepped : Rearming.step q systemWq w s a = some s') :
    ∃ m' next, partyExec q systemWq w s.parties.shared (s.parties.threads a.task)
        (a.attempt.move (s.clock + a.elapsed)) = some (m', next) ∧
      s' =
        { parties := ⟨m', Function.update s.parties.threads a.task next⟩
          clock := s.clock + a.elapsed
          issued := (s.parties.threads a.task).issued (s.clock + a.elapsed) s.issued
          armedAt := (s.parties.threads a.task).armedAt (s.clock + a.elapsed) s.armedAt
          deadline := (s.parties.threads a.task).deadline w a.attempt s.armedAt s.deadline } := by
  obtain ⟨p', went, rfl⟩ := Option.map_eq_some_iff.mp stepped
  obtain ⟨m', next, ran, rfl⟩ := Pool.step_eq_some.mp went
  exact ⟨m', next, ran, rfl⟩

/-- A deadline is the one before, or that of a call that creates its timer task. -/
theorem Party.deadline_eq_some {attempt : Attempt} {armedAt : Nat} {before : Option Nat}
    {party : Party Queue Item} (set : party.deadline w attempt armedAt before = some deadline) :
    before = some deadline ∨ ∃ afterCancel delay,
      party = .client (.queueing afterCancel delay .create) ∧ attempt = .go true ∧
        deadline = armedAt + delay.toNat := by
  unfold Party.deadline at set
  split at set
  · next afterCancel delay =>
    split at set
    · next created =>
      obtain rfl := Option.some.inj set
      exact .inr ⟨afterCancel, delay, rfl, created, rfl⟩
    · exact .inl set
  · split at set
    · cases set
    · exact .inl set
  · exact .inl set

/-- A deadline in the future is still waited for after a step of a party. -/
theorem Awaited.step [Fintype Item] (awaited : Awaited w s.parties deadline s.clock)
    (inv : DelayedInv q w s.parties l) (knows : ∀ t, (s.parties.threads t).Knows s w)
    (watched : s.deadline = some deadline) {attempt : Attempt}
    (later : s.clock ≤ clock') (early : clock' < deadline) {m' : Memory Queue Item}
    {next : Party Queue Item} (ran : partyExec q systemWq w s.parties.shared (s.parties.threads t)
      (attempt.move clock') = some (m', next)) :
    Awaited w ⟨m', Function.update s.parties.threads t next⟩ deadline clock' := by
  have known := knows t
  cases here : s.parties.threads t with
  | client c =>
    rw [here] at ran known
    have idle : ∀ work : WorkStruct Queue, (s.parties.threads t).Awaits work → False := by
      intro work awaits
      rw [here] at awaits
      exact awaits
    cases c with
    | outside last =>
      cases attempt with
      | modify delay =>
        obtain ⟨rfl, rfl⟩ : s.parties.shared = m' ∧ _ = next := by
          simpa [partyExec, Attempt.move] using ran
        exact awaited.keep later rfl fun awaits => (idle _ awaits).elim
      | begin | go created => simp [partyExec, Attempt.move] at ran
    | queueing afterCancel delay pc =>
      cases attempt with
      | go created =>
        have unarmed : pc.hand w ≠ .armed w := by
          intro armed
          refine idle _ (awaited.awaits inv (t := t) ?_)
          rw [here, show (Party.client (.queueing afterCancel delay pc) :
            Party Queue Item).hand w = pc.hand w from rfl, armed]
          rfl
        have done : pc ≠ .undoGeneration := by
          rintro rfl
          have past := known.2 deadline watched
          omega
        have same := queueDelayedWork_delay (q := q) (m := s.parties.shared) delay
          ⟨created, UInt64.ofNat clock'⟩ unarmed done
        rcases went : queueDelayedWork q w delay ⟨created, UInt64.ofNat clock'⟩
          s.parties.shared pc with ⟨m'', pc' | accepted⟩ <;>
          simp only [partyExec, Attempt.move, went, Option.some.injEq, Prod.mk.injEq] at ran <;>
          obtain ⟨rfl, rfl⟩ := ran <;>
          rw [went] at same <;>
          exact awaited.keep later same fun awaits => (idle _ awaits).elim
      | modify _ | begin => simp [partyExec, Attempt.move] at ran
    | cancelling afterCancel pc => exact known.elim
  | worker pc =>
    rw [here] at ran
    cases attempt with
    | go created =>
      obtain ⟨rfl, rfl⟩ : _ = m' ∧ _ = next := by simpa [partyExec, Attempt.move] using ran
      refine awaited.keep later (workqueueWorker_delay pc) fun awaits => ?_
      rw [here] at awaits
      exact awaits.elim
    | modify _ | begin => simp [partyExec, Attempt.move] at ran
  | timer pc =>
    rw [here] at ran
    cases attempt with
    | go created =>
      by_cases awaits : (Party.timer pc : Party Queue Item).Awaits (s.parties.shared.works w)
      · obtain ⟨pc', went, onward⟩ :=
          awaited.waits systemWq later early created awaits
        simp only [partyExec, Attempt.move, went, Option.some.injEq, Prod.mk.injEq] at ran
        obtain ⟨rfl, rfl⟩ := ran
        exact awaited.keep later rfl fun _ => onward
      · have other : ∀ vars, pc ≠ .clearActive vars := by
          rintro vars rfl
          have waits := awaited.awaits inv (t := t) (by rw [here]; rfl)
          rw [here] at waits
          exact awaits waits
        have same := delayedWorkWorker_delay systemWq w s.parties.shared
          ⟨created, UInt64.ofNat clock'⟩ other
        rcases went : delayedWorkWorker systemWq w ⟨created, UInt64.ofNat clock'⟩
          s.parties.shared pc with ⟨m'', pc' | done⟩ <;>
          simp only [partyExec, Attempt.move, went, Option.some.injEq, Prod.mk.injEq] at ran <;>
          obtain ⟨rfl, rfl⟩ := ran <;>
          rw [went] at same <;>
          exact awaited.keep later same fun waits => absurd (here ▸ waits) awaits
    | modify _ | begin => simp [partyExec, Attempt.move] at ran
  | idle =>
    rw [here] at ran
    cases attempt with
    | begin =>
      obtain ⟨waiting, rfl, rfl⟩ :
          0 < (s.parties.shared.works w).timersUnstarted ∧ _ = m' ∧ _ = next := by
        simpa [partyExec, Attempt.move] using ran
      have near := awaited.near
      refine ⟨by omega, ?_, ?_, .inr ⟨t, ?_⟩⟩
      · simpa using awaited.active
      · simpa using awaited.expires
      · dsimp only
        rw [Function.update_self]
        trivial
    | modify _ | go _ => simp [partyExec, Attempt.move] at ran

/-- What a queueing call came to is not a cancel. -/
theorem answer_ne_cancelled (afterCancel : Bool) (pc : QueueDelayedPc) (accepted : Bool) :
    answer afterCancel pc accepted ≠ .cancelled := by
  cases accepted with
  | true => simp [answer]
  | false =>
    simp only [answer]
    split <;> simp

/-- What is known in a call stays known while others move. -/
theorem QueueDelayedPc.Knows.keep {delay : UInt64} {pc : QueueDelayedPc}
    (known : pc.Knows s w delay) (issued : s'.issued = s.issued)
    (armedAt : s'.armedAt = s.armedAt) (later : s.clock ≤ s'.clock)
    (expires : (s'.parties.shared.works w).expires = (s.parties.shared.works w).expires)
    (active : pc.hand w = .armed w →
      (s'.parties.shared.works w).active = (s.parties.shared.works w).active)
    (deadlines : ∀ deadline, s'.deadline = some deadline → s.deadline = some deadline) :
    pc.Knows s' w delay := by
  cases pc with
  | queueNow pc => exact known
  | casState =>
    have before : s.issued ≤ s.clock := known
    show s'.issued ≤ s'.clock
    omega
  | storeWq | storeExpires =>
    obtain ⟨before, near⟩ := known
    exact ⟨by omega, near⟩
  | storeActive =>
    obtain ⟨before, after, near, stored⟩ := known
    refine ⟨by omega, by omega, near, ?_⟩
    rw [expires, armedAt, stored]
  | incGeneration | create =>
    obtain ⟨before, after, near, running, stored⟩ := known
    refine ⟨by omega, by omega, near, (active rfl).trans running, ?_⟩
    rw [expires, armedAt, stored]
  | undoActive | undoState => trivial
  | undoGeneration =>
    intro deadline set
    have past := known deadline (deadlines deadline set)
    omega

/-- A party that is not the client leaves `expires` as it is, and `active` unless it is a timer
task whose delay is over. -/
theorem partyExec_expires [Fintype Item] {m m' : Memory Queue Item}
    {party next : Party Queue Item} {move : Move} (other : party.isClient = false)
    (ran : partyExec q systemWq w m party move = some (m', next)) :
    (m'.works w).expires = (m.works w).expires ∧
      ((∀ vars, party ≠ .timer (.clearActive vars)) →
        (m'.works w).active = (m.works w).active) := by
  have split_delay : (m'.works w).delay = (m.works w).delay →
      (m'.works w).expires = (m.works w).expires ∧
        ((∀ vars, party ≠ .timer (.clearActive vars)) →
          (m'.works w).active = (m.works w).active) := by
    intro same
    simp only [WorkStruct.delay, Prod.mk.injEq] at same
    exact ⟨same.2.2.1, fun _ => same.1⟩
  cases party with
  | client c => simp [Party.isClient] at other
  | worker pc =>
    cases move with
    | go env =>
      obtain ⟨rfl, rfl⟩ : _ = m' ∧ _ = next := by simpa [partyExec] using ran
      exact split_delay (workqueueWorker_delay pc)
    | queue _ | cancel | begin => simp [partyExec] at ran
  | timer pc =>
    cases move with
    | go env =>
      by_cases clearing : ∃ vars, pc = .clearActive vars
      · obtain ⟨vars, rfl⟩ := clearing
        obtain ⟨rfl, rfl⟩ : m.setWork w _ = m' ∧ _ = next := by
          simpa [partyExec, delayedWorkWorker] using ran
        exact ⟨by simp, fun absent => absurd rfl (absent vars)⟩
      · have same := delayedWorkWorker_delay systemWq w m env
          (show ∀ vars, pc ≠ .clearActive vars from fun vars cleared => clearing ⟨vars, cleared⟩)
        rcases went : delayedWorkWorker systemWq w env m pc with ⟨m'', pc' | done⟩ <;>
          simp only [partyExec, went, Option.some.injEq, Prod.mk.injEq] at ran <;>
          obtain ⟨rfl, rfl⟩ := ran <;>
          rw [went] at same <;>
          exact split_delay same
    | queue _ | cancel | begin => simp [partyExec] at ran
  | idle =>
    cases move with
    | begin =>
      obtain ⟨-, rfl, rfl⟩ : 0 < (m.works w).timersUnstarted ∧ _ = m' ∧ _ = next := by
        simpa [partyExec] using ran
      exact ⟨by simp, fun _ => by simp⟩
    | queue _ | cancel | go _ => simp [partyExec] at ran

/-- The parties that do not move know what they knew. -/
theorem RearmingInv.knows_other [Fintype Item] (inv : RearmingInv q w s)
    (stepped : Rearming.step q systemWq w s a = some s') {u : Id} (apart : u ≠ a.task) :
    (s.parties.threads u).Knows s' w := by
  obtain ⟨m', next, ran, rfl⟩ := Rearming.step_eq_some stepped
  obtain ⟨l, ordered⟩ := inv.parties
  have known := inv.knows u
  cases here : s.parties.threads u with
  | client c =>
    rw [here] at known
    have other : (s.parties.threads a.task).isClient = false :=
      ordered.other here (Ne.symm apart)
    obtain ⟨expires, active⟩ := partyExec_expires other ran
    cases c with
    | outside last => exact known
    | cancelling afterCancel pc => exact known.elim
    | queueing afterCancel delay pc =>
      obtain ⟨same, known⟩ := known
      refine ⟨same, known.keep ?_ ?_ (Nat.le_add_right _ _) expires ?_ ?_⟩
      · cases party : s.parties.threads a.task <;> simp [party, Party.isClient] at other <;> rfl
      · cases party : s.parties.threads a.task <;> simp [party, Party.isClient] at other <;> rfl
      · intro armed
        refine active fun vars clearing => ?_
        refine ordered.ledger.one_holder (some u) (some a.task) w
          (fun same => apart (Option.some.inj same)) ⟨?_, ?_⟩
        · simp only [hands, here, Party.hand, armed]
          rfl
        · simp only [hands, clearing, Party.hand]
          rfl
      · intro deadline set
        rcases Party.deadline_eq_some set with before | ⟨afterCancel, delay, client, -⟩
        · exact before
        · simp [client, Party.isClient] at other
  | worker pc | timer pc | idle => trivial

/-- The party that moves knows what it should know next. -/
theorem RearmingInv.knows_moved [Fintype Item] (inv : RearmingInv q w s) (fresh : Rearmable w s a)
    (stepped : Rearming.step q systemWq w s a = some s') :
    (s'.parties.threads a.task).Knows s' w := by
  obtain ⟨m', next, ran, rfl⟩ := Rearming.step_eq_some stepped
  obtain ⟨task, elapsed, attempt⟩ := a
  obtain ⟨l, ordered⟩ := inv.parties
  have known := inv.knows task
  dsimp only at ran ⊢
  rw [Function.update_self]
  cases here : s.parties.threads task with
  | client c =>
    rw [here] at ran known
    cases c with
    | outside last =>
      cases attempt with
      | modify delay =>
        obtain ⟨rfl, rfl⟩ : s.parties.shared = m' ∧ _ = next := by
          simpa [partyExec, Attempt.move] using ran
        refine ⟨decide_eq_false known, ?_⟩
        by_cases now : delay = 0
        · rw [QueueDelayedPc.start, if_pos now]
          exact now
        · rw [QueueDelayedPc.start, if_neg now]
          exact Nat.le_refl _
      | begin | go created => simp [partyExec, Attempt.move] at ran
    | queueing afterCancel delay pc =>
      obtain ⟨rfl, known⟩ := known
      cases attempt with
      | go created =>
        cases pc with
        | queueNow pc =>
          rcases went : queueWork q w ⟨created, UInt64.ofNat (s.clock + elapsed)⟩
            s.parties.shared pc with ⟨m'', pc' | accepted⟩ <;>
            simp only [partyExec, Attempt.move, queueDelayedWork, went, Option.some.injEq,
              Prod.mk.injEq] at ran <;>
            obtain ⟨rfl, rfl⟩ := ran
          · exact ⟨rfl, known⟩
          · exact answer_ne_cancelled false _ _
        | casState =>
          have before : s.issued ≤ s.clock := known
          have found : (s.parties.shared.works w).state = ⟨false, false⟩ ∧
              delay.toNat ≤ 2 ^ 63 := by
            simp only [Rearmable, here] at fresh
            exact fresh
          simp only [partyExec, Attempt.move, queueDelayedWork, found.1, if_true,
            Option.some.injEq, Prod.mk.injEq] at ran
          obtain ⟨rfl, rfl⟩ := ran
          exact ⟨rfl, Nat.le_add_right_of_le before, found.2⟩
        | storeWq =>
          simp only [partyExec, Attempt.move, queueDelayedWork, Option.some.injEq,
            Prod.mk.injEq] at ran
          obtain ⟨rfl, rfl⟩ := ran
          exact ⟨rfl, Nat.le_add_right_of_le known.1, known.2⟩
        | storeExpires =>
          simp only [partyExec, Attempt.move, queueDelayedWork, Option.some.injEq,
            Prod.mk.injEq] at ran
          obtain ⟨rfl, rfl⟩ := ran
          refine ⟨rfl, Nat.le_add_right_of_le known.1, Nat.le_refl _, known.2, ?_⟩
          rw [Memory.setWork_works_self]
          rfl
        | storeActive =>
          obtain ⟨before, after, near, stored⟩ := known
          simp only [partyExec, Attempt.move, queueDelayedWork, Option.some.injEq,
            Prod.mk.injEq] at ran
          obtain ⟨rfl, rfl⟩ := ran
          refine ⟨rfl, before, Nat.le_add_right_of_le after, near, ?_, ?_⟩
          · rw [Memory.setWork_works_self]
          · rw [Memory.setWork_works_self]
            exact stored
        | incGeneration =>
          obtain ⟨before, after, near, running, stored⟩ := known
          simp only [partyExec, Attempt.move, queueDelayedWork, Option.some.injEq,
            Prod.mk.injEq] at ran
          obtain ⟨rfl, rfl⟩ := ran
          refine ⟨rfl, before, Nat.le_add_right_of_le after, near, ?_, ?_⟩
          · rw [Memory.setWork_works_self]
            exact running
          · rw [Memory.setWork_works_self]
            exact stored
        | create =>
          cases created with
          | true =>
            simp only [partyExec, Attempt.move, queueDelayedWork, if_true, Option.some.injEq,
              Prod.mk.injEq] at ran
            obtain ⟨rfl, rfl⟩ := ran
            exact answer_ne_cancelled false _ _
          | false =>
            simp only [partyExec, Attempt.move, queueDelayedWork, Bool.false_eq_true, if_false,
              Option.some.injEq, Prod.mk.injEq] at ran
            obtain ⟨rfl, rfl⟩ := ran
            exact ⟨rfl, trivial⟩
        | undoActive =>
          simp only [partyExec, Attempt.move, queueDelayedWork, Option.some.injEq,
            Prod.mk.injEq] at ran
          obtain ⟨rfl, rfl⟩ := ran
          exact ⟨rfl, trivial⟩
        | undoState =>
          simp only [partyExec, Attempt.move, queueDelayedWork, Option.some.injEq,
            Prod.mk.injEq] at ran
          obtain ⟨rfl, rfl⟩ := ran
          refine ⟨rfl, fun deadline set => ?_⟩
          -- the client has the item in hand, so nobody waits for an earlier deadline
          by_contra early
          have soon : s.clock < deadline := by
            dsimp only at early
            omega
          have awaits := (inv.awaited deadline set soon).awaits ordered (t := task)
            (by rw [here]; rfl)
          rw [here] at awaits
          exact awaits
        | undoGeneration =>
          simp only [partyExec, Attempt.move, queueDelayedWork, Option.some.injEq,
            Prod.mk.injEq] at ran
          obtain ⟨rfl, rfl⟩ := ran
          exact answer_ne_cancelled false _ _
      | modify _ | begin => simp [partyExec, Attempt.move] at ran
    | cancelling afterCancel pc => exact known.elim
  | worker pc =>
    rw [here] at ran
    cases attempt with
    | go created =>
      obtain ⟨rfl, rfl⟩ : _ = m' ∧ _ = next := by simpa [partyExec, Attempt.move] using ran
      trivial
    | modify _ | begin => simp [partyExec, Attempt.move] at ran
  | timer pc =>
    rw [here] at ran
    cases attempt with
    | go created =>
      rcases went : delayedWorkWorker systemWq w ⟨created, UInt64.ofNat (s.clock + elapsed)⟩
        s.parties.shared pc with ⟨m'', pc' | done⟩ <;>
        simp only [partyExec, Attempt.move, went, Option.some.injEq, Prod.mk.injEq] at ran <;>
        obtain ⟨rfl, rfl⟩ := ran <;>
        trivial
    | modify _ | begin => simp [partyExec, Attempt.move] at ran
  | idle =>
    rw [here] at ran
    cases attempt with
    | begin =>
      obtain ⟨-, rfl, rfl⟩ :
          0 < (s.parties.shared.works w).timersUnstarted ∧ _ = m' ∧ _ = next := by
        simpa [partyExec, Attempt.move] using ran
      trivial
    | modify _ | go _ => simp [partyExec, Attempt.move] at ran

/-- A call that creates its timer task has set the deadline. -/
theorem RearmingInv.set [Fintype Item] (inv : RearmingInv q w s)
    {afterCancel : Bool} {delay : UInt64}
    (here : s.parties.threads a.task = .client (.queueing afterCancel delay .create))
    (created : a.attempt = .go true) (stepped : Rearming.step q systemWq w s a = some s') :
    Awaited w s'.parties (s.armedAt + delay.toNat) s'.clock := by
  obtain ⟨m', next, ran, rfl⟩ := Rearming.step_eq_some stepped
  have known := inv.knows a.task
  rw [here] at known ran
  obtain ⟨-, before, after, near, running, stored⟩ := known
  rw [created] at ran
  simp only [partyExec, Attempt.move, queueDelayedWork, if_true, Option.some.injEq,
    Prod.mk.injEq] at ran
  obtain ⟨rfl, rfl⟩ := ran
  refine ⟨by dsimp only; omega, ?_, ?_, .inl ?_⟩
  · simpa using running
  · simp only [Memory.setWork_works_self, stored, UInt64.ofNat_add, UInt64.ofNat_toNat]
  · simp

/-- Every step keeps the order when its call is fresh. -/
theorem RearmingInv.step [Fintype Item] (inv : RearmingInv q w s) (fresh : Rearmable w s a)
    (stepped : Rearming.step q systemWq w s a = some s') : RearmingInv q w s' := by
  obtain ⟨m', next, ran, same⟩ := Rearming.step_eq_some stepped
  obtain ⟨l, ordered⟩ := inv.parties
  constructor
  · have moved : Pool.step (partyExec q systemWq w) s.parties
        (a.task, a.attempt.move (s.clock + a.elapsed)) =
          some ⟨m', Function.update s.parties.threads a.task next⟩ :=
      Pool.step_eq_some.mpr ⟨m', next, ran, rfl⟩
    have timely : Timely q w s.parties (a.task, a.attempt.move (s.clock + a.elapsed)) :=
      (inv.knows a.task).timely
    have kept := ordered.step systemWq timely moved
    rw [same]
    exact kept
  · intro u
    by_cases here : u = a.task
    · rw [here]
      exact inv.knows_moved fresh stepped
    · have kept := inv.knows_other stepped here
      rw [same] at kept ⊢
      dsimp only at kept ⊢
      rwa [Function.update_of_ne here]
  · intro deadline set early
    have before : s.clock ≤ s'.clock := by
      rw [same]
      exact Nat.le_add_right _ _
    rw [same] at set
    rcases Party.deadline_eq_some set with old | ⟨afterCancel, delay, here, created, rfl⟩
    · have kept := (inv.awaited deadline old (by omega)).step ordered inv.knows old
        (t := a.task) before early (by rw [same]; exact ran)
      rw [same] at kept ⊢
      exact kept
    · exact inv.set here created stepped

/-- The parties begin in order, and nothing is waited for. -/
theorem Begun.rearming (begun : Begun q w s.parties) (unset : s.deadline = none) :
    RearmingInv q w s := by
  refine ⟨begun.inv, fun t => ?_, fun deadline set => by simp [unset] at set⟩
  obtain ⟨client, worker, outside, working, idle⟩ := begun.roles
  by_cases first : t = client
  · rw [first, outside]
    simp [Party.Knows]
  · by_cases second : t = worker
    · rw [second, working]
      trivial
    · rw [idle t first second]
      trivial

/-- A call with a delay that returns and had its timer task has just created it. -/
theorem RearmingInv.created [Fintype Item] (inv : RearmingInv q w s) (fresh : Rearmable w s a)
    (stepped : Rearming.step q systemWq w s a = some s') {afterCancel : Bool} {delay : UInt64}
    {pc : QueueDelayedPc} {last : Answer}
    (here : s.parties.threads a.task = .client (.queueing afterCancel delay pc))
    (delayed : delay ≠ 0) (returned : s'.parties.threads a.task = .client (.outside last))
    (answered : last ≠ .failed) : pc = .create ∧ a.attempt = .go true := by
  obtain ⟨m', next, ran, rfl⟩ := Rearming.step_eq_some stepped
  obtain ⟨task, elapsed, attempt⟩ := a
  have known := inv.knows task
  dsimp only at here ran returned ⊢
  rw [Function.update_self] at returned
  subst returned
  rw [here] at ran known
  cases attempt with
  | go created =>
    cases pc with
    | queueNow pc => exact absurd known.2 delayed
    | casState =>
      have found : (s.parties.shared.works w).state = ⟨false, false⟩ ∧ delay.toNat ≤ 2 ^ 63 := by
        simp only [Rearmable, here] at fresh
        exact fresh
      simp [partyExec, Attempt.move, queueDelayedWork, found.1] at ran
    | storeWq | storeExpires | storeActive | incGeneration | undoActive | undoState =>
      simp [partyExec, Attempt.move, queueDelayedWork] at ran
    | create =>
      cases created with
      | true => exact ⟨rfl, rfl⟩
      | false => simp [partyExec, Attempt.move, queueDelayedWork] at ran
    | undoGeneration =>
      simp only [partyExec, Attempt.move, queueDelayedWork, answer, if_true, Option.some.injEq,
        Prod.mk.injEq, Party.client.injEq, Client.outside.injEq] at ran
      exact absurd ran.2.symm answered
  | modify _ | begin => simp [partyExec, Attempt.move] at ran

/-- A fresh step of parties in order changes the delay as it should. -/
theorem RearmingInv.rearmed [Fintype Item] (inv : RearmingInv q w s) (fresh : Rearmable w s a)
    (stepped : Rearming.step q systemWq w s a = some s') : Rearmed w s a s' := by
  have next := inv.step fresh stepped
  obtain ⟨m', party, ran, same⟩ := Rearming.step_eq_some stepped
  constructor
  · intro afterCancel delay pc last here delayed returned answered
    obtain ⟨rfl, created⟩ := inv.created fresh stepped here delayed returned answered
    have awaited := inv.set here created stepped
    have known := inv.knows a.task
    rw [here] at known
    obtain ⟨-, before, after, near, -, -⟩ := known
    obtain ⟨l, ordered⟩ := next.parties
    obtain ⟨o, armed, -⟩ := awaited.hand
    have queued := (ordered.ledger.held o w (by rw [armed]; rfl)).1
    rw [← ordered.models.state w] at queued
    refine ⟨queued, awaited.active, s.armedAt, before, ?_, ?_⟩
    · rw [same]
      exact Nat.le_add_right_of_le after
    · rw [awaited.expires, UInt64.ofNat_add, UInt64.ofNat_toNat]
  · intro calls deadline set
    obtain ⟨l, ordered⟩ := inv.parties
    by_contra early
    have before : s.clock < deadline := by
      rw [same] at early
      dsimp only at early
      omega
    refine (inv.awaited deadline set before).not_running ordered (t := a.task) ?_
    rw [calls]
    rfl

end Stepping

/-- In every run in which each call of `mod_delayed_work` finds the item idle and asks for a delay
that `time_before` can compare, a call that returns with its timer task leaves the item pending
with the deadline of the call, and the function is not executed before. -/
theorem mod_delayed_work_rearms [Fintype Item] {q systemWq : Queue} {w : Item}
    {s s' : Rearming Id Queue Item} {a : Tick Id}
    (reach : (rearming q systemWq w).Reach (Rearmable w) s) (fresh : Rearmable w s a)
    (stepped : (rearming q systemWq w).step s a = some s') : Rearmed w s a s' := by
  have inv : RearmingInv q w s :=
    reach.invariant (RearmingInv q w) (fun _ begun => begun.1.rearming begun.2)
      fun _ _ _ inv fresh stepped => inv.step fresh stepped
  exact inv.rearmed fresh stepped

instance (w : Item) (m : Memory Queue Item) (party : Party Queue Item) :
    Decidable (party.Rearmable w m) :=
  match party with
  | .client (.queueing _ _ .casState) => inferInstanceAs (Decidable (_ ∧ _))
  | .client (.outside _) | .client (.cancelling _ _) | .client (.queueing _ _ (.queueNow _))
  | .client (.queueing _ _ .storeWq) | .client (.queueing _ _ .storeExpires)
  | .client (.queueing _ _ .storeActive) | .client (.queueing _ _ .incGeneration)
  | .client (.queueing _ _ .create) | .client (.queueing _ _ .undoActive)
  | .client (.queueing _ _ .undoState) | .client (.queueing _ _ .undoGeneration)
  | .worker _ | .timer _ | .idle => .isTrue trivial

instance (w : Item) (s : Rearming Id Queue Item) (a : Tick Id) : Decidable (Rearmable w s a) :=
  inferInstanceAs (Decidable ((s.parties.threads a.task).Rearmable w s.parties.shared))

/-- The client, the worker and a task that can become a timer task, at no time. -/
def rearmed : Rearming (Fin 3) Unit Unit where
  parties := ⟨delayed.shared, fun t =>
    if t = 0 then .client (.outside .none) else if t = 1 then .worker .pop else .idle⟩
  clock := 0
  issued := 0
  armedAt := 0
  deadline := none

/-- The parties have begun. -/
theorem rearmed_begun : Begun () () rearmed.parties :=
  ⟨rfl, rfl, ⟨[], LinkedQueue.repr_empty _, List.not_mem_nil, fun _ =>
    ⟨rfl, by simp [rearmed, delayed, WorkStruct.init]⟩⟩, 0, 1, rfl, rfl, by decide⟩

/-- A number of steps of a task. -/
def ticks (task : Fin 3) (count : Nat) : List (Tick (Fin 3)) :=
  List.replicate count ⟨task, 0, .go true⟩

/-- The client asks for a delay of five jiffies, and the timer task and the worker execute the
function when they are over. -/
theorem mod_delayed_work_rearms_five : ∃ s s' : Rearming (Fin 3) Unit Unit,
    s.parties.threads 1 = .worker (.call ()) ∧ s.deadline = some 5 ∧
      Rearmed () s ⟨1, 0, .go true⟩ s' := by
  have ran : ((rearming () () ()).runWith (Rearmable ()) rearmed
      (⟨0, 0, .modify 5⟩ :: ticks 0 6 ++ ⟨2, 0, .begin⟩ :: ticks 2 5 ++ ⟨2, 5, .go true⟩ ::
        ticks 2 8 ++ ticks 1 4)).map (fun s => (s.parties.threads 1, s.deadline)) =
      some (.worker (.call ()), some 5) := by
    decide +kernel
  obtain ⟨s, executed, seen⟩ := Option.map_eq_some_iff.mp ran
  obtain ⟨calls, set⟩ := Prod.mk.inj seen
  obtain ⟨s', stepped⟩ : ∃ s', (rearming () () ()).step s ⟨1, 0, .go true⟩ = some s' := by
    simp [rearming, Rearming.step, Pool.step, calls, partyExec, Attempt.move]
  refine ⟨s, s', calls, set, ?_⟩
  refine mod_delayed_work_rearms ⟨rearmed, ⟨rearmed_begun, rfl⟩, System.path_of_runWith executed⟩
    ?_ stepped
  simp only [Rearmable, calls]
  trivial

/-- A second call while the delay is running is refused: the deadline stays where it was. -/
theorem mod_delayed_work_refused : ¬∀ (s s' : Rearming (Fin 3) Unit Unit) (a : Tick (Fin 3)),
    (rearming () () ()).Reachable s → (rearming () () ()).step s a = some s' →
      Rearmed () s a s' := by
  intro always
  have ran : ∃ s s', (rearming () () ()).run rearmed
      (⟨0, 0, .modify 5⟩ :: ticks 0 6 ++ [⟨0, 0, .modify 3⟩]) = some s ∧
      (rearming () () ()).step s ⟨0, 0, .go true⟩ = some s' ∧
      s.parties.threads 0 = .client (.queueing false 3 .casState) ∧
      s'.parties.threads 0 = .client (.outside (.refused false)) ∧
      (s'.parties.shared.works ()).expires = 5 ∧ s'.clock = 0 :=
    ⟨_, _, rfl, rfl, rfl, rfl, rfl, rfl⟩
  obtain ⟨s, s', executed, stepped, calling, refused, expires, clock⟩ := ran
  have reach := @System.reachable_of_run _ _ (rearming () () ()) _ _ _ ⟨rearmed_begun, rfl⟩ executed
  obtain ⟨-, -, now, -, early, moved⟩ := (always s s' _ reach stepped).pending false 3 .casState
    (.refused false) calling (by decide) refused (by decide)
  obtain rfl : now = 0 := by omega
  rw [expires] at moved
  exact absurd moved (by decide)

end Lcompat.Workqueue
