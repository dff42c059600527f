import Lcompat.Workqueue.Parties

/-!
# Cancellation of delayed work

`lcompat_cancel_delayed_work_sync` clears `active` and counts the generation up, cancels the
queued item, and waits while `running` is set. Two windows stay open. Between the pop of the
item, or the last check of its timer task, and the store of `running`, the cancel sees neither
an item to remove nor a function to wait for. And a cancelled timer task clears the state word
only when it is next scheduled, as the worker clears `RUNNING` only after `running`, so the
next queueing call can find the item still taken. The results are about the runs in which no
cancel returns inside the first window and no queueing call after a cancel tests the state
word inside the second.
-/

set_option linter.unusedSectionVars false

namespace Lcompat.Workqueue

open Lcompat.Logic

variable {Id Queue Item : Type}

/-- A client, the worker, timer tasks and the memory they share. -/
abbrev Parties (Id Queue Item : Type) := Pool Id (Memory Queue Item) (Party Queue Item)

/-- The last returned call of the client was a cancel, and it has not called a queueing
function since. -/
def Party.afterCancel : Party Queue Item → Bool
  | .client (.outside .cancelled) | .client (.cancelling true _) => true
  | _ => false

/-- What cancelling is for: after a cancel the function is not executing until the client
queues the item again, and that next queueing call is accepted. -/
structure CancelSound (w : Item) (p : Parties Id Queue Item) : Prop where
  /-- The function is not executing after a cancel. -/
  quiet : ∀ t u, (p.threads t).afterCancel = true → p.threads u ≠ .worker (.inFunc w)
  /-- No queueing call after a cancel was refused. -/
  accepted : ∀ t, p.threads t ≠ .client (.outside (.refused true))

variable [DecidableEq Item]

/-- The worker has popped the item and not marked its function running. -/
def Party.popped (w : Item) : Party Queue Item → Bool
  | .worker (.load v) | .worker (.cas v _) | .worker (.setRunning v) => v = w
  | _ => false

/-- The worker has turned `QUEUED` of the item into `RUNNING` and not cleared it. -/
def Party.marked (w : Item) : Party Queue Item → Bool
  | .worker (.setRunning v) | .worker (.call v) | .worker (.inFunc v)
  | .worker (.clearRunning v) | .worker (.clearState v) => v = w
  | _ => false

/-- A timer task is about to compare the generation with a value. -/
def Party.comparing (generation : UInt32) : Party Queue Item → Bool
  | .timer (.checkGeneration vars) => vars.generation = generation
  | _ => false

/-- A timer task has found its delay over, or is about to with the given generation, and has
not appended the item. -/
def Party.due (generation : UInt32) : Party Queue Item → Bool
  | .timer (.checkGeneration vars) => vars.generation = generation
  | .timer (.clearActive _) | .timer (.casState _) => true
  | .timer (.queue _ (.wake _)) => false
  | .timer (.queue _ _) => true
  | _ => false

/-- A timer task has neither handed the item over nor reset its state word. -/
def Party.waiting : Party Queue Item → Bool
  | .timer (.queue _ _) => false
  | .timer _ => true
  | _ => false

variable [DecidableEq Queue]

/-- Whether `lcompat_workqueue_remove_locked` would find an item in a queue. -/
def Memory.lists [Fintype Item] (m : Memory Queue Item) (q : Queue) (w : Item) : Bool :=
  match workqueueRemoveLocked q w m with
  | some (_, found) => found
  | none => true

/-- The condition on a step of a party. -/
def Party.Timely [Fintype Item] (q : Queue) (w : Item) (p : Parties Id Queue Item) :
    Party Queue Item → Prop
  -- a cancel returns when the item is in no list, in no hand of the worker that is not marked
  -- running, and with no timer task that found the delay over
  | .client (.cancelling _ (.spinRunning _)) => (p.shared.works w).running = false →
    p.shared.lists q w = false ∧
      ∀ t, (p.threads t).popped w = false ∧ (p.threads t).due (p.shared.works w).generation = false
  -- the generation counter does not come round to the one a timer task is about to compare
  | .client (.cancelling true (.incGeneration _)) =>
    ∀ t, (p.threads t).comparing ((p.shared.works w).generation + 1) = false
  -- a queueing call after a cancel finds no timer task waiting and no function marked
  | .client (.queueing true _ .casState) => (p.shared.works w).timersUnstarted = 0 ∧
    ∀ t, (p.threads t).waiting = false ∧ (p.threads t).marked w = false
  | .client (.queueing true _ (.queueNow .load)) => (p.shared.works w).timersUnstarted = 0 ∧
    ∀ t, (p.threads t).waiting = false
  | _ => True

/-- The condition on a step. -/
def Timely [Fintype Item] (q : Queue) (w : Item) (p : Parties Id Queue Item) (a : Id × Move) :
    Prop :=
  (p.threads a.1).Timely q w p

/-- At first the worker is published and looks for work, the client is outside, no timer task
has begun, and the item is new; the list of the queue holds any other items. -/
structure Begun (q : Queue) (w : Item) (p : Parties Id Queue Item) : Prop where
  /-- The worker is published. -/
  workerTask : (p.shared.queues q).workerTask = true
  /-- The item is new. -/
  item : p.shared.works w = .init true
  /-- Other items may be queued. -/
  others : ∃ nodes, (p.shared.list q).Repr nodes ∧ w ∉ nodes ∧
    ∀ v, (p.shared.works v).state = ⟨decide (v ∈ nodes), false⟩ ∧
      ((p.shared.works v).wq = some q ↔ v ∈ nodes)
  /-- One client, one worker, and tasks that can become timer tasks. -/
  roles : ∃ client worker, p.threads client = .client (.outside .none) ∧
    p.threads worker = .worker .pop ∧ ∀ t, t ≠ client → t ≠ worker → p.threads t = .idle

variable [DecidableEq Id]

/-- Every interleaving of the parties. -/
def parties [Fintype Item] (q systemWq : Queue) (w : Item) :
    System (Parties Id Queue Item) (Id × Move) :=
  Pool.system (partyExec q systemWq w) (Begun q w)

/-- The hands of all parties, and of the scheduler with a timer task that has not begun. -/
def hands (w : Item) (p : Parties Id Queue Item) : Option Id → Hand Item
  | none => if (p.shared.works w).timersUnstarted = 0 then .free else .armed w
  | some t => (p.threads t).hand w

/-- What a party relies on in what it does next. -/
def Party.Relies (q : Queue) (w : Item) (m : Memory Queue Item) : Party Queue Item → Prop
  | .client (.outside last) => last ≠ .refused true
  | .client (.queueing _ _ (.queueNow (.ensure pc))) => pc = .loadTask
  | .client (.cancelling _ (.cancel _ (.remove q'))) => q' = q ∧ (m.works w).active = false
  | .client (.cancelling _ (.cancel _ _)) | .client (.cancelling _ (.incGeneration _))
  | .client (.cancelling _ (.spinRunning _)) => (m.works w).active = false
  | .client _ | .idle => True
  | .worker (.call v) | .worker (.inFunc v) | .worker (.clearRunning v) =>
    v = w → (m.works w).running = true
  | .worker _ => True
  | .timer pc => pc.Knows q

/-- What a party is not doing while the item is settled. -/
def Party.Harmless (w : Item) (generation : UInt32) : Party Queue Item → Prop
  | .worker pc => ¬pc.pending w
  | .timer (.checkGeneration vars) => vars.generation ≠ generation
  | .timer (.clearActive _) | .timer (.casState _) => False
  | .timer (.queue _ pc) => ∃ pc', pc = .wake pc'
  | .client _ | .timer _ | .idle => True

/-- The client is after a cancel, or in a queueing call after a cancel that has not claimed the
item yet. -/
def Party.settling : Party Queue Item → Bool
  | .client (.outside .cancelled) | .client (.cancelling true _)
  | .client (.queueing true _ .casState) | .client (.queueing true _ (.queueNow (.ensure _)))
  | .client (.queueing true _ (.queueNow .load))
  | .client (.queueing true _ (.queueNow (.cas _))) => true
  | _ => false

/-- The item is in no list, its delay is over or given up, and no party is about to append or
execute it. -/
structure ItemSettled (w : Item) (p : Parties Id Queue Item) (l : Ledger Item) : Prop where
  /-- The item is not in the list. -/
  absent : w ∉ l.nodes
  /-- The delay is not running. -/
  inactive : (p.shared.works w).active = false
  /-- No party is about to append or execute the item. -/
  harmless : ∀ t, (p.threads t).Harmless w (p.shared.works w).generation

/-- The client. -/
def Party.isClient : Party Queue Item → Bool
  | .client _ => true
  | _ => false

/-- The order the parties keep. -/
structure DelayedInv (q : Queue) (w : Item) (p : Parties Id Queue Item) (l : Ledger Item) :
    Prop where
  /-- The ledger is that of the queue. -/
  models : Models q p.shared l
  /-- The ledger is in order. -/
  ledger : l.Inv (hands w p)
  /-- State words are set only for a reason. -/
  tight : l.Tight (hands w p)
  /-- The worker is published. -/
  workerTask : (p.shared.queues q).workerTask = true
  /-- The item is delayed. -/
  delayedOwner : (p.shared.works w).delayedOwner = true
  /-- The item is in no other queue. -/
  wq : ∀ q', (p.shared.works w).wq = some q' → q' = q
  /-- At most one timer task waits to begin. -/
  unstarted : (p.shared.works w).timersUnstarted ≤ 1
  /-- Every party may rely on what it relies on. -/
  relies : ∀ t, (p.threads t).Relies q w p.shared
  /-- There is one client. -/
  one_client : ∀ t u, t ≠ u → ¬((p.threads t).isClient = true ∧ (p.threads u).isClient = true)
  /-- After a cancel the item is settled. -/
  settled : ∀ t, (p.threads t).settling = true → ItemSettled w p l

section Parts

variable {q : Queue} {w : Item} {p : Parties Id Queue Item} {l l' : Ledger Item} {t : Id}
  {m' : Memory Queue Item} {next : Party Queue Item}

/-- Moving a party that leaves the scheduler alone changes the hand of that party. -/
theorem hands_move (same : (m'.works w).timersUnstarted = (p.shared.works w).timersUnstarted) :
    hands w (⟨m', Function.update p.threads t next⟩ : Parties Id Queue Item) =
      Function.update (hands w p) (some t) (next.hand w) := by
  funext u
  cases u with
  | none => simp [hands, same]
  | some u =>
    by_cases here : u = t
    · subst here
      simp [hands]
    · have apart : some u ≠ some t := fun same => here (Option.some.inj same)
      simp [hands, Function.update_of_ne here, Function.update_of_ne apart]

/-- What a party relies on is changed by nobody else. -/
theorem Party.Relies.keep {m : Memory Queue Item} {party : Party Queue Item}
    (relies : party.Relies q w m)
    (active : party.isClient = true → (m.works w).active = false → (m'.works w).active = false)
    (running : (party.hand w).works = true → (m'.works w).running = (m.works w).running) :
    party.Relies q w m' := by
  cases party with
  | client c =>
    cases c with
    | outside last => exact relies
    | queueing afterCancel delay pc =>
      cases pc with
      | queueNow pc => cases pc <;> exact relies
      | _ => trivial
    | cancelling afterCancel pc =>
      cases pc with
      | cancel pending pc =>
        cases pc with
        | remove q' => exact ⟨relies.1, active rfl relies.2⟩
        | loadWq | clearQueued | spin canceled => exact active rfl relies
      | incGeneration pending | spinRunning pending => exact active rfl relies
      | loadActive | loadState | loadRunning | clearActive pending => trivial
  | worker pc =>
    cases pc with
    | call v | inFunc v | clearRunning v => exact fun same => (running rfl).trans (relies same)
    | _ => trivial
  | timer pc => exact relies
  | idle => trivial

/-- A step of one party that is a step of the ledger keeps the order, when the party may rely on
what it relies on next, no other party is let down, and the item stays settled. -/
theorem DelayedInv.move (inv : DelayedInv q w p l) (models : Models q m' l')
    (moved : Ledger.Step l ((p.threads t).hand w) l' (next.hand w)) (base : Base q w p.shared m')
    (relies : next.Relies q w m') (others : ∀ u, u ≠ t → (p.threads u).Relies q w m')
    (kind : next.isClient = (p.threads t).isClient)
    (settled : ∀ u, (Function.update p.threads t next u).settling = true →
      ItemSettled w ⟨m', Function.update p.threads t next⟩ l') :
    DelayedInv q w ⟨m', Function.update p.threads t next⟩ l' where
  models := models
  ledger := by
    rw [hands_move base.timersUnstarted]
    exact inv.ledger.step moved
  tight := by
    rw [hands_move base.timersUnstarted]
    exact inv.tight.step moved
  workerTask := base.workerTask inv.workerTask
  delayedOwner := base.delayedOwner.trans inv.delayedOwner
  wq q' linked := (base.wq q' linked).elim (inv.wq q') id
  unstarted := base.timersUnstarted.trans_le inv.unstarted
  relies := Pool.forall_update.mpr ⟨relies, others⟩
  one_client := by
    intro u v apart
    have kinds : ∀ u, (Function.update p.threads t next u).isClient = (p.threads u).isClient := by
      intro u
      by_cases here : u = t
      · subst here
        simpa using kind
      · simp [Function.update_of_ne here]
    simpa only [kinds] using inv.one_client u v apart
  settled := settled

/-- A timer task that takes its place or leaves it to the scheduler keeps the order: the
scheduler and a party exchange what they have in hand. -/
theorem DelayedInv.handOver (inv : DelayedInv q w p l) {n : Nat} (few : n ≤ 1)
    (given : (if n = 0 then .free else .armed w) = (p.threads t).hand w)
    (taken : next.hand w = hands w p none) (relies : next.Relies q w p.shared)
    (kind : next.isClient = (p.threads t).isClient)
    (settled : ∀ u, (Function.update p.threads t next u).settling = true →
      ItemSettled w ⟨p.shared.setWork w fun work => { work with timersUnstarted := n },
        Function.update p.threads t next⟩ l) :
    DelayedInv q w ⟨p.shared.setWork w fun work => { work with timersUnstarted := n },
      Function.update p.threads t next⟩ l := by
  have exchanged : hands w (⟨p.shared.setWork w fun work => { work with timersUnstarted := n },
      Function.update p.threads t next⟩ : Parties Id Queue Item) =
        hands w p ∘ Equiv.swap none (some t) := by
    funext u
    cases u with
    | none => simpa [hands] using given
    | some u =>
      by_cases here : u = t
      · subst here
        simpa [hands] using taken
      · have apart : some u ≠ some t := fun same => here (Option.some.inj same)
        simp [hands, Function.update_of_ne here, Equiv.swap_apply_of_ne_of_ne _ apart]
  refine
    { models := ?_
      ledger := exchanged ▸ inv.ledger.permute _
      tight := exchanged ▸ inv.tight.permute _
      workerTask := inv.workerTask
      delayedOwner := by simpa using inv.delayedOwner
      wq := by simpa using inv.wq
      unstarted := by simpa using few
      relies := Pool.forall_update.mpr ⟨?_, fun u _ => ?_⟩
      one_client := ?_
      settled := settled }
  · dsimp only
    exact inv.models.setWork_keep w ⟨rfl, rfl⟩
  · exact relies.keep (by simp) (by simp)
  · exact (inv.relies u).keep (by simp) (by simp)
  · intro u v apart
    have kinds : ∀ u, (Function.update p.threads t next u).isClient = (p.threads u).isClient := by
      intro u
      by_cases here : u = t
      · subst here
        simpa using kind
      · simp [Function.update_of_ne here]
    simpa only [kinds] using inv.one_client u v apart

/-- A settled item stays settled in a step that does not begin a delay and leaves the party that
moved harmless. -/
theorem ItemSettled.keep (settled : ItemSettled w p l) (absent : w ∉ l'.nodes)
    (kept : Kept q w p.shared m') (harmless : next.Harmless w (p.shared.works w).generation) :
    ItemSettled w ⟨m', Function.update p.threads t next⟩ l' where
  absent := absent
  inactive := kept.active settled.inactive
  harmless := by
    rw [kept.generation]
    exact Pool.forall_update.mpr ⟨harmless, fun u _ => settled.harmless u⟩

/-- The item stays settled when a party other than the client moves. -/
theorem DelayedInv.settled_keep (inv : DelayedInv q w p l) (kept : Kept q w p.shared m')
    (other : next.settling = false)
    (calm : ItemSettled w p l → w ∉ l'.nodes ∧ next.Harmless w (p.shared.works w).generation) :
    ∀ u, (Function.update p.threads t next u).settling = true →
      ItemSettled w ⟨m', Function.update p.threads t next⟩ l' := by
  intro u settling
  by_cases here : u = t
  · subst here
    simp [other] at settling
  · rw [Function.update_of_ne here] at settling
    have settled := inv.settled u settling
    exact settled.keep (calm settled).1 kept (calm settled).2

/-- The worker marks the function of a delayed item running before it calls it. -/
theorem workqueueWorker_relies {m : Memory Queue Item} {pc : WorkerPc Item}
    (relies : (Party.worker pc : Party Queue Item).Relies q w m)
    (delayed : (m.works w).delayedOwner = true) :
    (Party.worker (workqueueWorker q m pc).2 : Party Queue Item).Relies q w
      (workqueueWorker q m pc).1 := by
  cases pc with
  | pop =>
    rcases popped : (m.list q).pop with ⟨list, _ | v⟩ <;>
      simp [workqueueWorker, workqueuePopLocked, popped, Party.Relies]
  | block =>
    cases unblocked : (m.queues q).unblocked <;>
      simp [workqueueWorker, unblocked, Party.Relies]
  | load v =>
    cases queued : (m.works v).state.queued <;> simp [workqueueWorker, queued, Party.Relies]
  | cas v running =>
    by_cases same : (m.works v).state = ⟨true, running⟩ <;>
      simp [workqueueWorker, same, Party.Relies]
  | setRunning v =>
    rintro rfl
    simp [workqueueWorker, delayed]
  | call v | inFunc v => exact relies
  | clearRunning v | clearState v | close v => trivial

/-- A step of the worker keeps the order. -/
theorem DelayedInv.worker (inv : DelayedInv q w p l) {pc : WorkerPc Item}
    (here : p.threads t = .worker pc) :
    ∃ l', DelayedInv q w ⟨(workqueueWorker q p.shared pc).1,
      Function.update p.threads t (.worker (workqueueWorker q p.shared pc).2)⟩ l' := by
  obtain ⟨l', models, moved⟩ := workqueueWorker_ledger inv.models pc
  have kept : Kept q w p.shared (workqueueWorker q p.shared pc).1 := workqueueWorker_kept pc
  have relied := inv.relies t
  rw [here] at relied
  refine ⟨l', inv.move models (by rw [here]; exact moved) kept.toBase
    (workqueueWorker_relies relied inv.delayedOwner) (fun u apart => ?_) (by rw [here]; rfl) ?_⟩
  · refine (inv.relies u).keep (fun _ => kept.active) fun works => ?_
    have alone := inv.ledger.one_worker (some u) (some t) (by simpa using apart)
    refine absurd ⟨works, ?_⟩ alone
    simp only [hands, here]
    cases pc <;> rfl
  · refine inv.settled_keep kept rfl fun settled => ?_
    have free : pc.hand ≠ .appending w := by cases pc <;> simp
    refine ⟨moved.not_mem free settled.absent, fun pending => ?_⟩
    rcases workqueueWorker_pending pc pending with had | ⟨serving, popped⟩
    · have harmless := settled.harmless t
      rw [here] at harmless
      exact harmless had
    · rw [serving, popped] at moved
      exact settled.absent moved.mem_of_popped

/-- A timer task that reads the queue of its item knows it. -/
theorem delayedWorkWorker_knows {m : Memory Queue Item} (systemWq : Queue) (env : Env)
    {pc : TimerPc Queue} (knows : pc.Knows q)
    (linked : pc.hand w = .armed w → (m.works w).wq = some q) :
    ∀ pc', (delayedWorkWorker systemWq w env m pc).2 = .goto pc' → pc'.Knows q := by
  intro pc' went
  cases pc with
  | loadGeneration | loadExpires _ =>
    obtain rfl := Next.goto.inj went
    trivial
  | loadWq generation expires =>
    obtain rfl := Next.goto.inj went
    exact linked rfl
  | loopActive vars | loopGeneration vars | loopTime vars | checkActive vars
  | checkGeneration vars =>
    simp only [delayedWorkWorker] at went
    split at went <;> obtain rfl := Next.goto.inj went
    all_goals first
      | exact knows
      | trivial
  | reset => simp [delayedWorkWorker] at went
  | clearActive vars =>
    obtain rfl := Next.goto.inj went
    exact knows
  | casState vars =>
    have known : vars.wq = some q := knows
    by_cases exactly : (m.works w).state = ⟨true, false⟩ <;>
      simp [delayedWorkWorker, exactly, known] at went
    obtain rfl := went
    rfl
  | queue q' pc =>
    rcases step : queueWork q' w env m pc with ⟨m', pc'' | accepted⟩ <;>
      simp [delayedWorkWorker, step] at went
    obtain rfl := went
    exact knows

/-- A timer task whose delay was given up goes on to reset the state word. -/
theorem delayedWorkWorker_harmless {m : Memory Queue Item} (systemWq : Queue) (env : Env)
    {pc : TimerPc Queue} (inactive : (m.works w).active = false)
    (harmless : (Party.timer pc : Party Queue Item).Harmless w (m.works w).generation) :
    ∀ pc', (delayedWorkWorker systemWq w env m pc).2 = .goto pc' →
      (Party.timer pc' : Party Queue Item).Harmless w (m.works w).generation := by
  intro pc' went
  cases pc with
  | loadGeneration | loadExpires _ | loadWq _ _ =>
    obtain rfl := Next.goto.inj went
    trivial
  | loopActive vars | loopGeneration vars | loopTime vars =>
    simp only [delayedWorkWorker] at went
    split at went <;> obtain rfl := Next.goto.inj went <;> trivial
  | checkActive vars =>
    simp [delayedWorkWorker, inactive] at went
    obtain rfl := went
    trivial
  | checkGeneration vars =>
    have stale : (m.works w).generation ≠ vars.generation := Ne.symm harmless
    simp [delayedWorkWorker, stale] at went
    obtain rfl := went
    trivial
  | reset => simp [delayedWorkWorker] at went
  | clearActive vars | casState vars => exact harmless.elim
  | queue q' pc =>
    obtain ⟨wake, rfl⟩ := harmless
    rcases step : workqueueWake q' m wake with ⟨m', wake' | done⟩ <;>
      simp [delayedWorkWorker, queueWork, step] at went
    obtain rfl := went
    exact ⟨wake', rfl⟩

/-- A step of a timer task keeps the order. -/
theorem DelayedInv.timer (inv : DelayedInv q w p l) (systemWq : Queue) (env : Env)
    {pc : TimerPc Queue} (here : p.threads t = .timer pc) :
    ∃ l', DelayedInv q w ⟨(delayedWorkWorker systemWq w env p.shared pc).1,
      Function.update p.threads t
        ((delayedWorkWorker systemWq w env p.shared pc).2.after .timer .idle)⟩ l' := by
  have hand : hands w p (some t) = pc.hand w := by simp [hands, here, Party.hand]
  have knows : pc.Knows q := by
    have relied := inv.relies t
    rwa [here] at relied
  have fresh : pc.hand w = .appending w → w ∉ l.nodes := fun appending =>
    (inv.ledger.held (some t) w (by rw [hand, appending]; rfl)).2
  have word : pc.hand w = .armed w → l.state w = ⟨true, false⟩ := fun armed => by
    have queued := (inv.ledger.held (some t) w (by rw [hand, armed]; rfl)).1
    have waiting := ((inv.ledger.waiting (some t) w).2 (by rw [hand, armed])).1
    rw [← queued, ← waiting]
  have linked : pc.hand w = .armed w → (p.shared.works w).wq = some q := fun armed =>
    (inv.models.linked w).mpr ((inv.ledger.waiting (some t) w).2 (by rw [hand, armed])).2
  obtain ⟨l', models, moved⟩ :=
    delayedWorkWorker_ledger inv.models systemWq w env fresh word knows
  have unmarked : Unmarked q w p.shared (delayedWorkWorker systemWq w env p.shared pc).1 :=
    delayedWorkWorker_unmarked systemWq env knows
  have knows' := delayedWorkWorker_knows systemWq env knows linked
  have calm : ItemSettled w p l → w ∉ l'.nodes ∧ ∀ pc',
      (delayedWorkWorker systemWq w env p.shared pc).2 = .goto pc' →
        (Party.timer pc' : Party Queue Item).Harmless w (p.shared.works w).generation := by
    intro settled
    have harmless := settled.harmless t
    rw [here] at harmless
    have free : pc.hand w ≠ .appending w := by
      cases pc with
      | queue q' pc =>
        obtain ⟨wake, rfl⟩ := harmless
        simp
      | _ => simp
    exact ⟨moved.not_mem free settled.absent,
      delayedWorkWorker_harmless systemWq env settled.inactive harmless⟩
  generalize delayedWorkWorker systemWq w env p.shared pc = result at *
  obtain ⟨m', next⟩ := result
  refine ⟨l', ?_⟩
  have others : ∀ u, u ≠ t → (p.threads u).Relies q w m' := fun u _ =>
    (inv.relies u).keep (fun _ => unmarked.active) fun _ => unmarked.running
  cases next with
  | goto pc' =>
    refine inv.move models (by rw [here]; exact moved) unmarked.toBase (knows' pc' rfl) others
      (by rw [here]; rfl) (inv.settled_keep unmarked.toKept rfl fun settled => ?_)
    exact ⟨(calm settled).1, (calm settled).2 pc' rfl⟩
  | ret done =>
    refine inv.move models (by rw [here]; exact moved) unmarked.toBase trivial others
      (by rw [here]; rfl) (inv.settled_keep unmarked.toKept rfl fun settled => ?_)
    exact ⟨(calm settled).1, trivial⟩

/-- A created timer task begins. -/
theorem DelayedInv.begin (inv : DelayedInv q w p l) (here : p.threads t = .idle)
    (waiting : 0 < (p.shared.works w).timersUnstarted) :
    DelayedInv q w ⟨p.shared.setWork w fun work =>
        { work with timersUnstarted := work.timersUnstarted - 1 },
      Function.update p.threads t (.timer .loadGeneration)⟩ l := by
  have one := inv.unstarted
  have none_left : (p.shared.works w).timersUnstarted - 1 = 0 := by omega
  have stored : (p.shared.setWork w fun work =>
      { work with timersUnstarted := work.timersUnstarted - 1 }) =
        p.shared.setWork w fun work => { work with timersUnstarted := 0 } := by
    simp [Memory.setWork, none_left]
  rw [stored]
  refine inv.handOver (by omega) (by rw [here]; rfl) ?_ trivial (by rw [here]; rfl) ?_
  · simp [hands, Party.hand, Nat.ne_of_gt waiting]
  · intro u settling
    by_cases same : u = t
    · subst same
      simp [Party.settling] at settling
    · rw [Function.update_of_ne same] at settling
      obtain ⟨absent, inactive, harmless⟩ := inv.settled u settling
      refine ⟨absent, by simpa using inactive, ?_⟩
      have unchanged : ∀ u, (Function.update p.threads t (.timer .loadGeneration) u).Harmless w
          (p.shared.works w).generation :=
        Pool.forall_update.mpr ⟨trivial, fun u _ => harmless u⟩
      simpa using unchanged

/-- No other party is the client. -/
theorem DelayedInv.other (inv : DelayedInv q w p l) {c : Client Queue}
    (here : p.threads t = .client c) {u : Id} (apart : u ≠ t) :
    (p.threads u).isClient = false := by
  have alone := inv.one_client u t apart
  simpa [here, Party.isClient] using alone

/-- Only the client settles the item. -/
theorem DelayedInv.settled_client (inv : DelayedInv q w p l) {c : Client Queue}
    (here : p.threads t = .client c)
    (own : next.settling = true → ItemSettled w ⟨m', Function.update p.threads t next⟩ l') :
    ∀ u, (Function.update p.threads t next u).settling = true →
      ItemSettled w ⟨m', Function.update p.threads t next⟩ l' := by
  intro u settling
  by_cases same : u = t
  · subst same
    exact own (by simpa using settling)
  · rw [Function.update_of_ne same] at settling
    have other := inv.other here same
    cases party : p.threads u <;> simp [party, Party.settling, Party.isClient] at settling other

/-- The client calls a function. -/
theorem DelayedInv.call (inv : DelayedInv q w p l) {last : Answer}
    (here : p.threads t = .client (.outside last)) {c : Client Queue}
    (entered : (∃ delay, c = .queueing (last = .cancelled) delay (.start delay)) ∨
      c = .cancelling (last = .cancelled) .loadActive) :
    DelayedInv q w ⟨p.shared, Function.update p.threads t (.client c)⟩ l := by
  have moved : Ledger.Step l ((p.threads t).hand w) l
      ((Party.client c : Party Queue Item).hand w) := by
    rw [here]
    rcases entered with ⟨delay, rfl⟩ | rfl
    · by_cases now : delay = 0
      · simpa [QueueDelayedPc.start, now, Party.hand] using Ledger.Step.ask l w
      · simpa [QueueDelayedPc.start, now, Party.hand] using Ledger.Step.keep l _
    · exact .keep l _
  have relies : (Party.client c : Party Queue Item).Relies q w p.shared := by
    rcases entered with ⟨delay, rfl⟩ | rfl
    · by_cases now : delay = 0 <;> simp [QueueDelayedPc.start, now, Party.Relies]
    · trivial
  refine inv.move inv.models moved (Unmarked.refl q w p.shared).toBase relies
    (fun u _ => inv.relies u) (by rw [here]; rfl) (inv.settled_client here fun settling => ?_)
  have before : last = .cancelled := by
    rcases entered with ⟨delay, rfl⟩ | rfl
    · by_cases now : delay = 0 <;> simp [QueueDelayedPc.start, now, Party.settling] at settling
      all_goals
        by_contra other
        simp [other] at settling
    · by_contra other
      simp [other, Party.settling] at settling
  have settled := inv.settled t (by rw [here, before]; rfl)
  exact settled.keep settled.absent (Unmarked.refl q w p.shared).toKept trivial

/-- A step of `lcompat_queue_delayed_work`, other than the creation of the timer task, marks
nothing running and creates no timer task. -/
theorem queueDelayedWork_base {m : Memory Queue Item} (delay : UInt64) (env : Env)
    {pc : QueueDelayedPc} (uncreated : pc = .create → env.created = false) :
    Base q w m (queueDelayedWork q w delay env m pc).1 ∧
      ((queueDelayedWork q w delay env m pc).1.works w).running = (m.works w).running := by
  cases pc with
  | queueNow pc =>
    have queued : Unmarked q w m (queueWork q w env m pc).1 := queueWork_unmarked w env pc
    rcases went : queueWork q w env m pc with ⟨m', pc' | accepted⟩ <;>
      rw [went] at queued <;>
      simpa [queueDelayedWork, went] using ⟨queued.toBase, queued.running⟩
  | casState =>
    simp only [queueDelayedWork]
    split <;> dsimp only
    · refine ⟨.setWork w ⟨rfl, rfl⟩ ?_, by simp⟩
      exact fun _ => .inl
    · exact ⟨(Unmarked.refl q w m).toBase, rfl⟩
  | create =>
    simpa [queueDelayedWork, uncreated rfl] using (Unmarked.refl q w m).toBase
  | storeWq =>
    simp only [queueDelayedWork]
    refine ⟨.setWork w ⟨rfl, rfl⟩ ?_, by simp⟩
    exact fun q' linked => .inr (Option.some.inj linked).symm
  | storeExpires | storeActive | incGeneration | undoActive | undoState | undoGeneration =>
    simp only [queueDelayedWork]
    refine ⟨.setWork w ⟨rfl, rfl⟩ ?_, by simp⟩
    exact fun _ => .inl

/-- A settled item is not `QUEUED` once no timer task waits. -/
theorem DelayedInv.unqueued (inv : DelayedInv q w p l) {c : Client Queue}
    (here : p.threads t = .client c) (empty : ¬((p.threads t).hand w).Holds w)
    (settled : ItemSettled w p l) (unstarted : (p.shared.works w).timersUnstarted = 0)
    (none_waits : ∀ u, (p.threads u).waiting = false) :
    (p.shared.works w).state.queued = false := by
  rw [inv.models.state w]
  refine inv.tight.nowhere w settled.absent fun o => ?_
  cases o with
  | none => simp [hands, unstarted, Hand.Holds]
  | some u =>
    by_cases same : u = t
    · exact same ▸ empty
    · have other := inv.other here same
      have waits := none_waits u
      have harmless := settled.harmless u
      simp only [hands]
      cases party : p.threads u with
      | client c => simp [party, Party.isClient] at other
      | idle => simp [Party.hand, Hand.Holds]
      | worker pc =>
        rw [party] at harmless
        cases pc with
        | load v | cas v running => exact harmless
        | _ => exact id
      | timer pc =>
        rw [party] at harmless waits
        cases pc with
        | queue q' pc =>
          obtain ⟨wake, rfl⟩ := harmless
          exact id
        | _ => simp [Party.waiting] at waits

/-- An item that the worker has not marked is not `RUNNING`. -/
theorem DelayedInv.unmarked (inv : DelayedInv q w p l)
    (none_marked : ∀ u, (p.threads u).marked w = false) :
    (p.shared.works w).state.running = false := by
  rw [inv.models.state w]
  refine inv.tight.resting w fun o => ?_
  cases o with
  | none =>
    simp only [hands]
    split <;> simp
  | some u =>
    have unmarked := none_marked u
    simp only [hands]
    cases party : p.threads u with
    | client c =>
      cases c with
      | outside last => simp [Party.hand]
      | queueing afterCancel delay pc =>
        cases pc with
        | queueNow pc => cases pc <;> simp [Party.hand]
        | _ => simp [Party.hand]
      | cancelling afterCancel pc =>
        cases pc with
        | cancel pending pc => cases pc <;> simp [Party.hand]
        | _ => simp [Party.hand]
    | idle => simp [Party.hand]
    | timer pc =>
      cases pc with
      | queue q' pc => cases pc <;> simp [Party.hand]
      | _ => simp [Party.hand]
    | worker pc =>
      rw [party] at unmarked
      cases pc <;> simp_all [Party.marked, Party.hand]

/-- The client goes on in `lcompat_queue_delayed_work` or returns from it. -/
def queueingNext {Queue Item : Type} (afterCancel : Bool) (delay : UInt64) (pc : QueueDelayedPc) :
    Next QueueDelayedPc Bool → Party Queue Item
  | .goto pc' => .client (.queueing afterCancel delay pc')
  | .ret accepted => .client (.outside (answer afterCancel pc accepted))

/-- A queueing call after a cancel goes on, settled as before, until it has claimed the item, and
is not refused. -/
theorem DelayedInv.queueing_settled [Fintype Item] (inv : DelayedInv q w p l) {delay : UInt64}
    {pc : QueueDelayedPc} (here : p.threads t = .client (.queueing true delay pc))
    (timely : (p.threads t).Timely q w p) (env : Env)
    (settling : (p.threads t).settling = true)
    (result : Memory Queue Item × Next QueueDelayedPc Bool)
    (went : queueDelayedWork q w delay env p.shared pc = result) :
    ((queueingNext true delay pc result.2 : Party Queue Item).settling = true →
        result.1 = p.shared) ∧
      (queueingNext true delay pc result.2 : Party Queue Item).Relies q w result.1 := by
  have settled := inv.settled t settling
  have relied := inv.relies t
  rw [here] at timely settling relied
  cases pc with
  | queueNow pc =>
    cases pc with
    | ensure pc =>
      obtain rfl : pc = .loadTask := relied
      simp [queueDelayedWork, queueWork, workqueueEnsureWorker, inv.workerTask] at went
      subst went
      exact ⟨fun _ => rfl, trivial⟩
    | load =>
      have unqueued := inv.unqueued here (by rw [here]; exact id) settled timely.1 timely.2
      simp [queueDelayedWork, queueWork, unqueued] at went
      subst went
      exact ⟨fun _ => rfl, trivial⟩
    | cas running =>
      by_cases same : (p.shared.works w).state = ⟨false, running⟩ <;>
        simp [queueDelayedWork, queueWork, same] at went <;> subst went
      · exact ⟨by rintro ⟨⟩, trivial⟩
      · exact ⟨fun _ => rfl, trivial⟩
    | append | wake pc => simp [Party.settling] at settling
  | casState =>
    have unqueued := inv.unqueued here (by rw [here]; exact id) settled timely.1
      fun u => (timely.2 u).1
    have unmarked := inv.unmarked fun u => (timely.2 u).2
    have idle : (p.shared.works w).state = ⟨false, false⟩ := WorkState.ext unqueued unmarked
    simp [queueDelayedWork, idle] at went
    subst went
    exact ⟨by rintro ⟨⟩, trivial⟩
  | storeWq | storeExpires | storeActive | incGeneration | create | undoActive | undoState
  | undoGeneration => simp [Party.settling] at settling

/-- Any other queueing call goes on or returns without settling the item, and only one after a
cancel would be a refusal that counts. -/
theorem DelayedInv.queueing_unsettled (inv : DelayedInv q w p l) {afterCancel : Bool}
    {delay : UInt64} {pc : QueueDelayedPc}
    (here : p.threads t = .client (.queueing afterCancel delay pc)) (env : Env)
    (settling : (p.threads t).settling = false)
    (result : Memory Queue Item × Next QueueDelayedPc Bool)
    (went : queueDelayedWork q w delay env p.shared pc = result) :
    (queueingNext afterCancel delay pc result.2 : Party Queue Item).settling = false ∧
      (queueingNext afterCancel delay pc result.2 : Party Queue Item).Relies q w result.1 := by
  have relied := inv.relies t
  rw [here] at settling relied
  cases pc with
  | queueNow pc =>
    cases pc with
    | ensure pc =>
      obtain rfl : pc = .loadTask := relied
      simp [queueDelayedWork, queueWork, workqueueEnsureWorker, inv.workerTask] at went
      subst went
      cases afterCancel <;> simp_all [Party.settling, queueingNext, Party.Relies]
    | load =>
      cases queued : (p.shared.works w).state.queued <;>
        simp [queueDelayedWork, queueWork, queued] at went <;> subst went <;>
        cases afterCancel <;> simp_all [Party.settling, queueingNext, Party.Relies, answer]
    | cas running =>
      by_cases same : (p.shared.works w).state = ⟨false, running⟩ <;>
        simp [queueDelayedWork, queueWork, same] at went <;> subst went <;>
        cases afterCancel <;> simp_all [Party.settling, queueingNext, Party.Relies]
    | append =>
      simp [queueDelayedWork, queueWork] at went
      subst went
      exact ⟨by cases afterCancel <;> rfl, trivial⟩
    | wake pc =>
      rcases woken : workqueueWake q p.shared pc with ⟨m', pc' | done⟩ <;>
        simp [queueDelayedWork, queueWork, woken] at went <;> subst went
      · exact ⟨by cases afterCancel <;> rfl, trivial⟩
      · exact ⟨rfl, by rintro ⟨⟩⟩
  | casState =>
    by_cases idle : (p.shared.works w).state = ⟨false, false⟩ <;>
      simp [queueDelayedWork, idle] at went <;> subst went <;>
      cases afterCancel <;> simp_all [Party.settling, queueingNext, Party.Relies, answer]
  | create =>
    cases created : env.created <;> simp [queueDelayedWork, created] at went <;> subst went
    · exact ⟨by cases afterCancel <;> rfl, trivial⟩
    · exact ⟨rfl, by rintro ⟨⟩⟩
  | undoGeneration =>
    simp [queueDelayedWork] at went
    subst went
    exact ⟨rfl, by rintro ⟨⟩⟩
  | storeWq | storeExpires | storeActive | incGeneration | undoActive | undoState =>
    simp [queueDelayedWork] at went
    subst went
    exact ⟨by cases afterCancel <;> rfl, trivial⟩

/-- A step of a queueing call keeps the order. -/
theorem DelayedInv.queueing [Fintype Item] (inv : DelayedInv q w p l) {afterCancel : Bool}
    {delay : UInt64} {pc : QueueDelayedPc}
    (here : p.threads t = .client (.queueing afterCancel delay pc))
    (timely : (p.threads t).Timely q w p) (env : Env) :
    ∃ l', DelayedInv q w ⟨(queueDelayedWork q w delay env p.shared pc).1,
      Function.update p.threads t
      (queueingNext afterCancel delay pc (queueDelayedWork q w delay env p.shared pc).2)⟩ l' := by
  have hand : hands w p (some t) = pc.hand w := by simp [hands, here, Party.hand]
  by_cases create : pc = .create ∧ env.created = true
  · -- the armed item passes from the client to the scheduler
    obtain ⟨rfl, created⟩ := create
    have free : (p.shared.works w).timersUnstarted = 0 := by
      by_contra waiting
      refine inv.ledger.one_holder none (some t) w (by simp) ⟨?_, by rw [hand]; rfl⟩
      simp [hands, waiting, Hand.Holds]
    simp only [queueDelayedWork, created, if_true]
    have stored : (p.shared.setWork w fun work =>
        { work with timersUnstarted := work.timersUnstarted + 1 }) =
          p.shared.setWork w fun work => { work with timersUnstarted := 1 } := by
      simp [Memory.setWork, free]
    rw [stored]
    refine ⟨l, inv.handOver (by omega) (by rw [here]; rfl) ?_ (by rintro ⟨⟩) (by rw [here]; rfl)
      (inv.settled_client here (by rintro ⟨⟩))⟩
    simp [hands, free, queueingNext, Party.hand]
  · have uncreated : pc = .create → env.created = false := fun same => by
      simpa using fun created => create ⟨same, created⟩
    have fresh : pc.hand w = .appending w → w ∉ l.nodes := fun appending =>
      (inv.ledger.held (some t) w (by rw [hand, appending]; rfl)).2
    obtain ⟨l', models, moved⟩ := queueDelayedWork_ledger inv.models w delay env fresh uncreated
    obtain ⟨base, running⟩ :=
      queueDelayedWork_base (q := q) (w := w) (m := p.shared) delay env uncreated
    have outcome : ((queueingNext afterCancel delay pc
        (queueDelayedWork q w delay env p.shared pc).2 : Party Queue Item).settling = true →
          (queueDelayedWork q w delay env p.shared pc).1 = p.shared ∧
            (p.threads t).settling = true) ∧
        (queueingNext afterCancel delay pc
          (queueDelayedWork q w delay env p.shared pc).2 : Party Queue Item).Relies q w
            (queueDelayedWork q w delay env p.shared pc).1 := by
      cases settling : (p.threads t).settling with
      | true =>
        obtain rfl : afterCancel = true := by
          cases afterCancel
          · simp [here, Party.settling] at settling
          · rfl
        obtain ⟨same, relies⟩ := inv.queueing_settled here timely env settling _ rfl
        exact ⟨fun onward => ⟨same onward, rfl⟩, relies⟩
      | false =>
        obtain ⟨never, relies⟩ := inv.queueing_unsettled here env settling _ rfl
        exact ⟨fun onward => by simp [never] at onward, relies⟩
    generalize queueDelayedWork q w delay env p.shared pc = result at *
    obtain ⟨m', next⟩ := result
    have party : ∃ c, (queueingNext afterCancel delay pc next : Party Queue Item) = .client c ∧
        (Party.client c : Party Queue Item).hand w = next.after (QueueDelayedPc.hand w) .free := by
      cases next <;> exact ⟨_, rfl, rfl⟩
    obtain ⟨c, same, held⟩ := party
    simp only [same] at outcome ⊢
    refine ⟨l', inv.move models (by rw [here, held]; exact moved) base outcome.2 (fun u apart => ?_)
      (by rw [here]; rfl) (inv.settled_client here fun onward => ?_)⟩
    · refine (inv.relies u).keep (fun client => ?_) fun _ => running
      simp [inv.other here apart] at client
    · obtain ⟨rfl, settling⟩ := outcome.1 onward
      have settled := inv.settled t settling
      have free : pc.hand w ≠ .appending w := by
        rw [here] at settling
        cases pc with
        | queueNow pc => cases pc <;> cases afterCancel <;> simp_all [Party.settling]
        | _ => simp
      exact settled.keep (moved.not_mem free settled.absent) (Unmarked.refl q w p.shared).toKept
        trivial

/-- An item that the walk would not find is not in the list. -/
theorem Models.not_mem [Fintype Item] {m : Memory Queue Item} (models : Models q m l)
    (unlisted : m.lists q w = false) : w ∉ l.nodes := by
  intro member
  obtain ⟨list, walked, -⟩ := models.list.remove_mem member models.list.nodup.length_le_card
  simp [Memory.lists, workqueueRemoveLocked, walked] at unlisted

/-- The client goes on in `lcompat_cancel_delayed_work_sync` or returns from it. -/
def cancellingNext {Queue Item : Type} (afterCancel : Bool) :
    Next (CancelDelayedPc Queue) Bool → Party Queue Item
  | .goto pc => .client (.cancelling afterCancel pc)
  | .ret _ => .client (.outside .cancelled)

/-- A cancel keeps the delay given up and looks for the item in its queue. -/
theorem cancelDelayedWorkSync_relies [Fintype Item] {m : Memory Queue Item} {afterCancel : Bool}
    {pc : CancelDelayedPc Queue} {next : Next (CancelDelayedPc Queue) Bool}
    (relied : (Party.client (.cancelling afterCancel pc) : Party Queue Item).Relies q w m)
    (linked : ∀ q', (m.works w).wq = some q' → q' = q)
    (ran : cancelDelayedWorkSync w m pc = some (m', next)) :
    (cancellingNext afterCancel next : Party Queue Item).Relies q w m' := by
  cases pc with
  | loadActive | loadState =>
    obtain ⟨rfl, rfl⟩ : m = m' ∧ _ = next := by simpa [cancelDelayedWorkSync] using ran
    split <;> trivial
  | loadRunning =>
    obtain ⟨rfl, rfl⟩ : m = m' ∧ _ = next := by simpa [cancelDelayedWorkSync] using ran
    trivial
  | clearActive pending =>
    obtain ⟨rfl, rfl⟩ : m.setWork w _ = m' ∧ _ = next := by
      simpa [cancelDelayedWorkSync] using ran
    simp [cancellingNext, Party.Relies]
  | incGeneration pending =>
    obtain ⟨rfl, rfl⟩ : m.setWork w _ = m' ∧ _ = next := by
      simpa [cancelDelayedWorkSync] using ran
    have inactive : (m.works w).active = false := relied
    simpa [cancellingNext, Party.Relies] using inactive
  | cancel pending pc =>
    have inactive : (m.works w).active = false := by
      cases pc with
      | remove q' => exact relied.2
      | loadWq | clearQueued | spin canceled => exact relied
    obtain ⟨⟨m'', next'⟩, went, same⟩ := Option.map_eq_some_iff.mp ran
    have unmarked : Unmarked q w m m'' := cancelWorkSync_unmarked went
    have still := unmarked.active inactive
    cases next' with
    | ret canceled =>
      obtain ⟨rfl, rfl⟩ := Prod.mk.inj same
      exact still
    | goto pc' =>
      obtain ⟨rfl, rfl⟩ := Prod.mk.inj same
      cases pc' with
      | loadWq | clearQueued | spin canceled => exact still
      | remove q' => exact ⟨linked q' (cancelWorkSync_remove went), still⟩
  | spinRunning pending =>
    obtain ⟨rfl, rfl⟩ : m = m' ∧ _ = next := by simpa [cancelDelayedWorkSync] using ran
    split
    · exact relied
    · rintro ⟨⟩

/-- A cancel returns when it sees the function not running. -/
theorem cancelDelayedWorkSync_returned [Fintype Item] {m : Memory Queue Item}
    {pc : CancelDelayedPc Queue} {pending : Bool}
    (ran : cancelDelayedWorkSync w m pc = some (m', .ret pending)) :
    m' = m ∧ (m.works w).running = false ∧ pc = .spinRunning pending := by
  cases pc with
  | loadActive => cases active : (m.works w).active <;> simp [cancelDelayedWorkSync, active] at ran
  | loadState =>
    by_cases queued : (m.works w).state = ⟨true, false⟩ <;>
      simp [cancelDelayedWorkSync, queued] at ran
  | loadRunning | clearActive _ | incGeneration _ => simp [cancelDelayedWorkSync] at ran
  | cancel pending pc =>
    obtain ⟨⟨m'', next'⟩, -, same⟩ := Option.map_eq_some_iff.mp ran
    cases next' <;> simp at same
  | spinRunning pending =>
    cases running : (m.works w).running <;> simp [cancelDelayedWorkSync, running] at ran
    exact ⟨ran.1.symm, rfl, by rw [ran.2]⟩

/-- A cancel that returns in time leaves the item settled. -/
theorem DelayedInv.returned [Fintype Item] (inv : DelayedInv q w p l) {afterCancel pending : Bool}
    (here : p.threads t = .client (.cancelling afterCancel (.spinRunning pending)))
    (timely : (p.threads t).Timely q w p) (stopped : (p.shared.works w).running = false) :
    ItemSettled w p l := by
  have inactive : (p.shared.works w).active = false := by
    have relied := inv.relies t
    rwa [here] at relied
  rw [here] at timely
  obtain ⟨unlisted, clear⟩ := timely stopped
  refine ⟨inv.models.not_mem unlisted, inactive, fun u => ?_⟩
  obtain ⟨unpopped, undue⟩ := clear u
  have relied := inv.relies u
  cases party : p.threads u with
  | client c => trivial
  | idle => trivial
  | worker pc =>
    rw [party] at unpopped relied
    cases pc with
    | load v | cas v running | setRunning v =>
      have apart : v ≠ w := of_decide_eq_false unpopped
      exact apart
    | call v | inFunc v =>
      intro same
      have running := relied same
      simp [stopped] at running
    | pop | block | clearRunning v | clearState v | close v => exact id
  | timer pc =>
    rw [party] at undue
    cases pc with
    | checkGeneration vars => exact of_decide_eq_false undue
    | clearActive vars | casState vars => simp [Party.due] at undue
    | queue q' pc =>
      cases pc with
      | wake pc => exact ⟨pc, rfl⟩
      | ensure pc | load | cas running | append => simp [Party.due] at undue
    | loadGeneration | loadExpires _ | loadWq _ _ | loopActive _ | loopGeneration _ | loopTime _
    | checkActive _ | reset => trivial

/-- A step of a cancel keeps the order. -/
theorem DelayedInv.cancelling [Fintype Item] (inv : DelayedInv q w p l) {afterCancel : Bool}
    {pc : CancelDelayedPc Queue} (here : p.threads t = .client (.cancelling afterCancel pc))
    (timely : (p.threads t).Timely q w p) {next : Next (CancelDelayedPc Queue) Bool}
    (ran : cancelDelayedWorkSync w p.shared pc = some (m', next)) :
    ∃ l', DelayedInv q w
      ⟨m', Function.update p.threads t (cancellingNext afterCancel next)⟩ l' := by
  have relied := inv.relies t
  rw [here] at relied
  have known : ∀ pending q', pc = .cancel pending (.remove q') → q' = q := by
    rintro pending q' rfl
    exact relied.1
  obtain ⟨l', models, moved⟩ := cancelDelayedWorkSync_ledger inv.models known ran
  have relies := cancelDelayedWorkSync_relies relied inv.wq ran
  have free : pc.hand w ≠ .appending w := by
    cases pc with
    | cancel pending pc => cases pc <;> simp
    | _ => simp
  have party : ∃ c, (cancellingNext afterCancel next : Party Queue Item) = .client c ∧
      (Party.client c : Party Queue Item).hand w = next.after (CancelDelayedPc.hand w) .free := by
    cases next <;> exact ⟨_, rfl, rfl⟩
  obtain ⟨c, same, held⟩ := party
  have assemble : Base q w p.shared m' → (m'.works w).running = (p.shared.works w).running →
      ((Party.client c : Party Queue Item).settling = true →
        ItemSettled w ⟨m', Function.update p.threads t (.client c)⟩ l') →
      ∃ l', DelayedInv q w ⟨m', Function.update p.threads t (.client c)⟩ l' := by
    intro base running own
    refine ⟨l', inv.move models (by rw [here, held]; exact moved) base (same ▸ relies)
      (fun u apart => ?_) (by rw [here]; rfl) (inv.settled_client here own)⟩
    refine (inv.relies u).keep (fun client => ?_) fun _ => running
    simp [inv.other here apart] at client
  rw [same]
  by_cases counting : ∃ pending, pc = .incGeneration pending
  · obtain ⟨pending, rfl⟩ := counting
    obtain ⟨rfl, rfl⟩ : p.shared.setWork w _ = m' ∧ _ = next := by
      simpa [cancelDelayedWorkSync] using ran
    obtain rfl := Party.client.inj same
    refine assemble ?_ (by simp) fun onward => ?_
    · refine .setWork w ⟨rfl, rfl⟩ ?_
      exact fun _ => .inl
    · obtain rfl : afterCancel = true := by
        cases afterCancel
        · simp [Party.settling] at onward
        · rfl
      obtain ⟨absent, inactive, harmless⟩ := inv.settled t (by rw [here]; rfl)
      rw [here] at timely
      refine ⟨moved.not_mem free absent, by simpa using inactive, ?_⟩
      refine Pool.forall_update.mpr ⟨trivial, fun u _ => ?_⟩
      have apart := timely u
      have before := harmless u
      simp only [Memory.setWork_works_self]
      cases party : p.threads u with
      | timer pc =>
        rw [party] at apart before
        cases pc with
        | checkGeneration vars => exact of_decide_eq_false apart
        | _ => exact before
      | _ =>
        rw [party] at before
        exact before
  · have unmarked : Unmarked q w p.shared m' :=
      cancelDelayedWorkSync_unmarked ran fun pending inc => counting ⟨pending, inc⟩
    refine assemble unmarked.toBase unmarked.running fun onward => ?_
    have settled : ItemSettled w p l := by
      cases next with
      | goto pc' =>
        obtain rfl := Party.client.inj same
        obtain rfl : afterCancel = true := by
          cases afterCancel
          · simp [Party.settling] at onward
          · rfl
        exact inv.settled t (by rw [here]; rfl)
      | ret pending =>
        obtain ⟨-, stopped, rfl⟩ := cancelDelayedWorkSync_returned ran
        exact inv.returned here timely stopped
    exact settled.keep (moved.not_mem free settled.absent) unmarked.toKept trivial

/-- Every step keeps the order when it is timely. -/
theorem DelayedInv.step [Fintype Item] (inv : DelayedInv q w p l) (systemWq : Queue)
    {a : Id × Move} {p' : Parties Id Queue Item} (timely : Timely q w p a)
    (stepped : Pool.step (partyExec q systemWq w) p a = some p') : ∃ l', DelayedInv q w p' l' := by
  obtain ⟨m', next, ran, rfl⟩ := Pool.step_eq_some.mp stepped
  obtain ⟨t, move⟩ := a
  dsimp only at ran ⊢
  cases here : p.threads t with
  | client c =>
    rw [here] at ran
    cases c with
    | outside last =>
      cases move with
      | queue delay =>
        obtain ⟨rfl, rfl⟩ : p.shared = m' ∧ _ = next := by simpa [partyExec] using ran
        exact ⟨l, inv.call here (.inl ⟨delay, rfl⟩)⟩
      | cancel =>
        obtain ⟨rfl, rfl⟩ : p.shared = m' ∧ _ = next := by simpa [partyExec] using ran
        exact ⟨l, inv.call here (.inr rfl)⟩
      | begin | go env => simp [partyExec] at ran
    | queueing afterCancel delay pc =>
      cases move with
      | go env =>
        have kept := inv.queueing here timely env
        rcases went : queueDelayedWork q w delay env p.shared pc with ⟨m'', pc' | accepted⟩ <;>
          simp only [partyExec, went, Option.some.injEq, Prod.mk.injEq] at ran <;>
          obtain ⟨rfl, rfl⟩ := ran <;>
          simpa only [went, queueingNext] using kept
      | queue _ | cancel | begin => simp [partyExec] at ran
    | cancelling afterCancel pc =>
      cases move with
      | go env =>
        obtain ⟨⟨m'', next'⟩, went, same⟩ := Option.map_eq_some_iff.mp ran
        have kept := inv.cancelling here timely went
        cases next' <;> obtain ⟨rfl, rfl⟩ := Prod.mk.inj same <;> exact kept
      | queue _ | cancel | begin => simp [partyExec] at ran
  | worker pc =>
    rw [here] at ran
    cases move with
    | go env =>
      obtain ⟨rfl, rfl⟩ : _ = m' ∧ _ = next := by simpa [partyExec] using ran
      exact inv.worker here
    | queue _ | cancel | begin => simp [partyExec] at ran
  | timer pc =>
    rw [here] at ran
    cases move with
    | go env =>
      have kept := inv.timer systemWq env here
      rcases went : delayedWorkWorker systemWq w env p.shared pc with ⟨m'', pc' | done⟩ <;>
        simp only [partyExec, went, Option.some.injEq, Prod.mk.injEq] at ran <;>
        obtain ⟨rfl, rfl⟩ := ran <;>
        simpa only [went, Next.after] using kept
    | queue _ | cancel | begin => simp [partyExec] at ran
  | idle =>
    rw [here] at ran
    cases move with
    | begin =>
      obtain ⟨waiting, rfl, rfl⟩ :
          0 < (p.shared.works w).timersUnstarted ∧ _ = m' ∧ _ = next := by
        simpa [partyExec] using ran
      exact ⟨l, inv.begin here waiting⟩
    | queue _ | cancel | go env => simp [partyExec] at ran

/-- The parties begin in order. -/
theorem Begun.inv (begun : Begun q w p) : ∃ l, DelayedInv q w p l := by
  obtain ⟨nodes, repr, absent, others⟩ := begun.others
  obtain ⟨client, worker, outside, working, idle⟩ := begun.roles
  have known : ∀ t, p.threads t = .client (.outside .none) ∧ t = client ∨
      p.threads t = .worker .pop ∧ t = worker ∨ p.threads t = .idle := by
    intro t
    by_cases first : t = client
    · exact .inl ⟨first ▸ outside, first⟩
    · by_cases second : t = worker
      · exact .inr (.inl ⟨second ▸ working, second⟩)
      · exact .inr (.inr (idle t first second))
  let l : Ledger Item :=
    ⟨nodes, fun v => (p.shared.works v).state, fun v => (p.shared.works v).wq = some q⟩
  have held : ∀ o, hands w p o = .free ∨ hands w p o = .serving ∧ o = some worker := by
    intro o
    cases o with
    | none => simp [hands, begun.item, WorkStruct.init]
    | some t =>
      rcases known t with ⟨here, -⟩ | ⟨here, rfl⟩ | here <;> simp [hands, here, Party.hand]
  have state : ∀ v, l.state v = ⟨decide (v ∈ nodes), false⟩ := fun v => (others v).1
  have linked : ∀ v, v ∈ nodes → l.linked v = true := fun v member =>
    decide_eq_true ((others v).2.mpr member)
  refine ⟨l, ?_⟩
  refine
    { models := ⟨repr, fun _ => rfl, fun v => by simp [l]⟩
      ledger := ?_
      tight := ⟨fun v absent _ => by simp_all [l], fun v _ => by simp [state]⟩
      workerTask := begun.workerTask
      delayedOwner := by simp [begun.item, WorkStruct.init]
      wq := by simp [begun.item, WorkStruct.init]
      unstarted := by simp [begun.item, WorkStruct.init]
      relies := fun t => ?_
      one_client := fun t u apart both => ?_
      settled := fun t settling => ?_ }
  · have nodup := repr.nodup
    constructor <;> grind -ring -linarith [Hand.Holds, Hand.works]
  · rcases known t with ⟨here, -⟩ | ⟨here, -⟩ | here <;> rw [here]
    · rintro ⟨⟩
    · trivial
    · trivial
  · rcases known t with ⟨-, rfl⟩ | ⟨here, -⟩ | here
    · rcases known u with ⟨-, rfl⟩ | ⟨here, -⟩ | here
      · exact apart rfl
      · simp [here, Party.isClient] at both
      · simp [here, Party.isClient] at both
    · simp [here, Party.isClient] at both
    · simp [here, Party.isClient] at both
  · rcases known t with ⟨here, -⟩ | ⟨here, -⟩ | here <;> simp [here, Party.settling] at settling

end Parts

/-- In every run whose steps are timely, after a cancel has returned the function of the delayed
work item is not executing until the client queues the item again, and that queueing call is
accepted. -/
theorem cancel_delayed_work_sync_sound [Fintype Item] {q systemWq : Queue} {w : Item}
    {p : Parties Id Queue Item} (reach : (parties q systemWq w).Reach (Timely q w) p) :
    CancelSound w p := by
  obtain ⟨l, inv⟩ := reach.invariant (fun p => ∃ l, DelayedInv q w p l)
    (fun _ begun => begun.inv) fun _ _ _ ⟨_, inv⟩ timely stepped => inv.step systemWq timely stepped
  refine ⟨fun t u after inside => ?_, fun t refused => ?_⟩
  · have settling : (p.threads t).settling = true := by
      revert after
      cases p.threads t with
      | client c =>
        cases c with
        | outside last => cases last <;> exact id
        | queueing afterCancel delay pc => exact nofun
        | cancelling afterCancel pc => cases afterCancel <;> exact id
      | worker pc | timer pc | idle => exact nofun
    have harmless := (inv.settled t settling).harmless u
    rw [inside] at harmless
    exact harmless rfl
  · have relied := inv.relies t
    rw [refused] at relied
    exact relied rfl

instance [Fintype Item] [Fintype Id] (q : Queue) (w : Item) (p : Parties Id Queue Item)
    (party : Party Queue Item) : Decidable (party.Timely q w p) :=
  match party with
  | .client (.cancelling _ (.spinRunning _)) => inferInstanceAs (Decidable (_ = _ → _ ∧ ∀ _, _ ∧ _))
  | .client (.cancelling true (.incGeneration _)) => inferInstanceAs (Decidable (∀ _, _))
  | .client (.queueing true _ .casState) => inferInstanceAs (Decidable (_ ∧ ∀ _, _ ∧ _))
  | .client (.queueing true _ (.queueNow .load)) => inferInstanceAs (Decidable (_ ∧ ∀ _, _))
  | .client (.outside _) | .client (.queueing false _ _)
  | .client (.queueing true _ (.queueNow (.ensure _)))
  | .client (.queueing true _ (.queueNow (.cas _))) | .client (.queueing true _ (.queueNow .append))
  | .client (.queueing true _ (.queueNow (.wake _))) | .client (.queueing true _ .storeWq)
  | .client (.queueing true _ .storeExpires) | .client (.queueing true _ .storeActive)
  | .client (.queueing true _ .incGeneration) | .client (.queueing true _ .create)
  | .client (.queueing true _ .undoActive) | .client (.queueing true _ .undoState)
  | .client (.queueing true _ .undoGeneration) | .client (.cancelling false (.incGeneration _))
  | .client (.cancelling _ .loadActive) | .client (.cancelling _ .loadState)
  | .client (.cancelling _ .loadRunning) | .client (.cancelling _ (.clearActive _))
  | .client (.cancelling _ (.cancel _ _)) | .worker _ | .timer _ | .idle => .isTrue trivial

instance [Fintype Item] [Fintype Id] (q : Queue) (w : Item) (p : Parties Id Queue Item)
    (a : Id × Move) : Decidable (Timely q w p a) :=
  inferInstanceAs (Decidable ((p.threads a.1).Timely q w p))

/-- The client, the worker and one delayed item. -/
def delayed : Parties (Fin 2) Unit Unit :=
  ⟨⟨fun _ => { WorkqueueStruct.alloc with workerTask := true }, fun _ => .init true, fun _ => none⟩,
    fun t => if t = 0 then .client (.outside .none) else .worker .pop⟩

/-- The parties have begun. -/
theorem delayed_begun : Begun () () delayed :=
  ⟨rfl, rfl, ⟨[], LinkedQueue.repr_empty _, List.not_mem_nil, fun _ =>
    ⟨rfl, by simp [delayed, WorkStruct.init]⟩⟩, 0, 1, rfl, rfl, by decide⟩

/-- A number of steps of the client. -/
def client (steps : Nat) : List (Fin 2 × Move) := List.replicate steps (0, .go ⟨true, 0⟩)

/-- A number of steps of the worker. -/
def worker (steps : Nat) : List (Fin 2 × Move) := List.replicate steps (1, .go ⟨true, 0⟩)

/-- The client queues the item, cancels it before the worker looks, and queues it again with a
delay. -/
theorem delayed_cancelled : ∃ p : Parties (Fin 2) Unit Unit,
    p.threads 0 = .client (.outside .accepted) ∧ CancelSound () p := by
  have ran : ∃ p, (parties () () ()).runWith (Timely () ()) delayed
      ((0, .queue 0) :: client 6 ++ (0, .cancel) :: client 9 ++ (0, .queue 5) :: client 6) =
        some p ∧ p.threads 0 = .client (.outside .accepted) := ⟨_, rfl, rfl⟩
  obtain ⟨p, executed, accepted⟩ := ran
  exact ⟨p, accepted, cancel_delayed_work_sync_sound
    ⟨delayed, delayed_begun, System.path_of_runWith executed⟩⟩

/-- Neither half holds of every run. A cancel returns between the pop of the item and the store
of `running`, and the item is executed after it. A cancelled delay leaves the item `QUEUED` until
its timer task is scheduled, and the next queueing call is refused. -/
theorem delayed_executed_and_refused :
    (¬∀ p : Parties (Fin 2) Unit Unit, (parties () () ()).Reachable p → ∀ t u,
      (p.threads t).afterCancel = true → p.threads u ≠ .worker (.inFunc ())) ∧
    ¬∀ p : Parties (Fin 2) Unit Unit, (parties () () ()).Reachable p →
      ∀ t, p.threads t ≠ .client (.outside (.refused true)) := by
  constructor
  · intro always
    have ran : ∃ p, (parties () () ()).run delayed
        ((0, .queue 0) :: client 6 ++ worker 1 ++ (0, .cancel) :: client 8 ++ worker 4) = some p ∧
          p.threads 0 = .client (.outside .cancelled) ∧ p.threads 1 = .worker (.inFunc ()) :=
      ⟨_, rfl, rfl, rfl⟩
    obtain ⟨p, executed, cancelled, inside⟩ := ran
    exact always p (System.reachable_of_run delayed_begun executed) 0 1 (by rw [cancelled]; rfl)
      inside
  · intro always
    have ran : ∃ p, (parties () () ()).run delayed
        ((0, .queue 5) :: client 6 ++ (0, .cancel) :: client 7 ++ (0, .queue 5) :: client 1) =
          some p ∧ p.threads 0 = .client (.outside (.refused true)) := ⟨_, rfl, rfl⟩
    obtain ⟨p, executed, refused⟩ := ran
    exact always p (System.reachable_of_run delayed_begun executed) 0 refused

end Lcompat.Workqueue
