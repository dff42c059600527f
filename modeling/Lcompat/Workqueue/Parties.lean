import Lcompat.Workqueue.Ledger

/-!
# The parties of one delayed work item

The interleavings of one client that calls `lcompat_queue_delayed_work` and
`lcompat_cancel_delayed_work_sync` on one delayed work item, the timer tasks these calls
create, and the worker of the queue. The client is sequential, so its queueing calls and its
cancels do not overlap. The queue may hold other items, and the system queue, which a timer
task falls back to, is any queue.

The functions act on the ledger of the queue like those for plain work. A created timer task
that has not begun keeps the item `QUEUED` in the hand of the scheduler.
-/

namespace Lcompat.Workqueue

open Lcompat.Logic

/-- What the last call of the client came to. -/
inductive Answer where
  /-- There was no call. -/
  | none
  /-- A cancel returned. -/
  | cancelled
  /-- A queueing call returned true. -/
  | accepted
  /-- A queueing call returned false because no timer task could be created. -/
  | failed
  /-- A queueing call returned false for another reason; it was issued after a cancel that had
  returned, or not. -/
  | refused (afterCancel : Bool)
  deriving DecidableEq

/-- What the client is doing. It remembers whether its previous call was a cancel. -/
inductive Client (Queue : Type) where
  /-- Outside the functions. -/
  | outside (last : Answer)
  /-- In `lcompat_queue_delayed_work`. -/
  | queueing (afterCancel : Bool) (delay : UInt64) (pc : QueueDelayedPc)
  /-- In `lcompat_cancel_delayed_work_sync`. -/
  | cancelling (afterCancel : Bool) (pc : CancelDelayedPc Queue)
  deriving DecidableEq

/-- What a task is doing. -/
inductive Party (Queue Item : Type) where
  /-- The client. -/
  | client (c : Client Queue)
  /-- The worker of the queue. -/
  | worker (pc : WorkerPc Item)
  /-- A timer task. -/
  | timer (pc : TimerPc Queue)
  /-- Not begun yet, or returned. -/
  | idle
  deriving DecidableEq

/-- What a task does next. -/
inductive Move where
  /-- Call `lcompat_queue_delayed_work`. -/
  | queue (delay : UInt64)
  /-- Call `lcompat_cancel_delayed_work_sync`. -/
  | cancel
  /-- Begin as a timer task that was created. -/
  | begin
  /-- Take the next step of the function it is in. -/
  | go (env : Env)
  deriving DecidableEq

/-- What a queueing call that returned came to. -/
def answer (afterCancel : Bool) (pc : QueueDelayedPc) : Bool → Answer
  | true => .accepted
  | false => if pc = .undoGeneration then .failed else .refused afterCancel

variable {Queue Item : Type} [DecidableEq Queue] [DecidableEq Item]

/-- The next step of a party, for a work item, its queue and the system queue. -/
def partyExec [Fintype Item] (q systemWq : Queue) (w : Item) (m : Memory Queue Item)
    (party : Party Queue Item)
    (move : Move) : Option (Memory Queue Item × Party Queue Item) :=
  match party, move with
  | .client (.outside last), .queue delay =>
    some (m, .client (.queueing (last = .cancelled) delay (.start delay)))
  | .client (.outside last), .cancel =>
    some (m, .client (.cancelling (last = .cancelled) .loadActive))
  | .client (.queueing afterCancel delay pc), .go env =>
    match queueDelayedWork q w delay env m pc with
    | (m, .goto pc) => some (m, .client (.queueing afterCancel delay pc))
    | (m, .ret accepted) => some (m, .client (.outside (answer afterCancel pc accepted)))
  | .client (.cancelling afterCancel pc), .go _ =>
    (cancelDelayedWorkSync w m pc).map fun
    | (m, .goto pc) => (m, .client (.cancelling afterCancel pc))
    | (m, .ret _) => (m, .client (.outside .cancelled))
  | .worker pc, .go _ =>
    match workqueueWorker q m pc with
    | (m, pc) => some (m, .worker pc)
  | .timer pc, .go env =>
    match delayedWorkWorker systemWq w env m pc with
    | (m, .goto pc) => some (m, .timer pc)
    | (m, .ret _) => some (m, .idle)
  | .idle, .begin =>
    if 0 < (m.works w).timersUnstarted then
      some (m.setWork w fun work => { work with timersUnstarted := work.timersUnstarted - 1 },
        .timer .loadGeneration)
    else none
  | _, _ => none

/-- What a caller of `lcompat_queue_delayed_work` has in hand. -/
@[simp]
def QueueDelayedPc.hand {Item : Type} (w : Item) : QueueDelayedPc → Hand Item
  | .queueNow pc => pc.hand w
  | .casState | .undoGeneration => .free
  | .storeWq => .arming w
  | .storeExpires | .storeActive | .incGeneration | .create | .undoActive | .undoState => .armed w

/-- What a timer task has in hand. -/
@[simp]
def TimerPc.hand {Queue Item : Type} (w : Item) : TimerPc Queue → Hand Item
  | .queue _ pc => pc.hand w
  | .loadGeneration | .loadExpires _ | .loadWq _ _ | .loopActive _ | .loopGeneration _
  | .loopTime _ | .checkActive _ | .checkGeneration _ | .reset | .clearActive _ | .casState _ =>
    .armed w

/-- What a caller of `lcompat_cancel_delayed_work_sync` has in hand. -/
@[simp]
def CancelDelayedPc.hand {Queue Item : Type} (w : Item) : CancelDelayedPc Queue → Hand Item
  | .cancel _ pc => pc.hand w
  | .loadActive | .loadState | .loadRunning | .clearActive _ | .incGeneration _
  | .spinRunning _ => .free

/-- What a party has in hand. -/
def Party.hand (w : Item) : Party Queue Item → Hand Item
  | .client (.outside _) | .idle => .free
  | .client (.queueing _ _ pc) => pc.hand w
  | .client (.cancelling _ pc) => pc.hand w
  | .worker pc => pc.hand
  | .timer pc => pc.hand w

/-- The queues a timer task knows. -/
def TimerPc.Knows {Queue : Type} (q : Queue) : TimerPc Queue → Prop
  | .loopActive vars | .loopGeneration vars | .loopTime vars | .checkActive vars
  | .checkGeneration vars | .clearActive vars | .casState vars => vars.wq = some q
  | .queue q' _ => q' = q
  | .loadGeneration | .loadExpires _ | .loadWq _ _ | .reset => True

section Steps

variable {q : Queue} {m m' : Memory Queue Item} {l : Ledger Item}

/-- A step of `lcompat_queue_delayed_work`, other than the creation of the timer task. -/
theorem queueDelayedWork_ledger (models : Models q m l) (w : Item) (delay : UInt64) (env : Env)
    {pc : QueueDelayedPc} (fresh : pc.hand w = .appending w → w ∉ l.nodes)
    (uncreated : pc = .create → env.created = false) :
    ∃ l', Models q (queueDelayedWork q w delay env m pc).1 l' ∧ Ledger.Step l (pc.hand w) l'
      ((queueDelayedWork q w delay env m pc).2.after (QueueDelayedPc.hand w) .free) := by
  cases pc with
  | queueNow pc =>
    have queued := queueWork_ledger models w env pc fun here => fresh (by simp [here])
    rcases went : queueWork q w env m pc with ⟨m', pc' | accepted⟩ <;>
      simpa [queueDelayedWork, went] using queued
  | casState =>
    by_cases idle : (m.works w).state = ⟨false, false⟩
    · have armed := Ledger.Step.arm l w ((models.state w).symm.trans idle)
      refine ⟨_, ?_, by simpa [queueDelayedWork, idle] using armed⟩
      simpa [queueDelayedWork, idle] using models.setWork_state w ⟨rfl, rfl⟩
    · exact ⟨l, by simpa [queueDelayedWork, idle] using models,
        by simpa [queueDelayedWork, idle] using .keep _ _⟩
  | storeWq =>
    refine ⟨_, ?_, Ledger.Step.link l w⟩
    simpa only [queueDelayedWork] using models.setWork_wq w ⟨rfl, rfl⟩
  | storeExpires | storeActive | incGeneration | undoActive | undoGeneration =>
    refine ⟨l, ?_, .keep _ _⟩
    simpa only [queueDelayedWork] using models.setWork_keep w ⟨rfl, rfl⟩
  | create =>
    exact ⟨l, by simpa [queueDelayedWork, uncreated rfl] using models,
      by simpa [queueDelayedWork, uncreated rfl] using .keep _ _⟩
  | undoState =>
    refine ⟨_, ?_, Ledger.Step.disarm l w⟩
    simpa only [queueDelayedWork] using models.setWork_state w ⟨rfl, rfl⟩

/-- A step of a timer task that knows its queue, while the item is exactly `QUEUED` as long as
its delay has not been given up or over. -/
theorem delayedWorkWorker_ledger (models : Models q m l) (systemWq : Queue) (w : Item) (env : Env)
    {pc : TimerPc Queue} (fresh : pc.hand w = .appending w → w ∉ l.nodes)
    (word : pc.hand w = .armed w → l.state w = ⟨true, false⟩) (knows : pc.Knows q) :
    ∃ l', Models q (delayedWorkWorker systemWq w env m pc).1 l' ∧ Ledger.Step l (pc.hand w) l'
      ((delayedWorkWorker systemWq w env m pc).2.after (TimerPc.hand w) .free) := by
  cases pc with
  | loadGeneration | loadExpires generation | loadWq generation expires =>
    exact ⟨l, models, .keep _ _⟩
  | loopActive vars | loopGeneration vars | loopTime vars | checkActive vars
  | checkGeneration vars =>
    refine ⟨l, models, ?_⟩
    simp only [delayedWorkWorker]
    split <;> exact .keep _ _
  | reset =>
    refine ⟨_, ?_, Ledger.Step.disarm l w⟩
    simpa only [delayedWorkWorker] using models.setWork_state w ⟨rfl, rfl⟩
  | clearActive vars =>
    refine ⟨l, ?_, .keep _ _⟩
    simpa only [delayedWorkWorker] using models.setWork_keep w ⟨rfl, rfl⟩
  | casState vars =>
    have exactly := (models.state w).trans (word rfl)
    have fired := Ledger.Step.fire l w
    refine ⟨_, ?_, by simpa [delayedWorkWorker, exactly] using fired⟩
    simpa [delayedWorkWorker, exactly] using models.setWork_state w ⟨rfl, rfl⟩
  | queue q' pc =>
    obtain rfl : q' = q := knows
    have queued := queueWork_ledger models w env pc fun here => fresh (by simp [here])
    rcases went : queueWork q' w env m pc with ⟨m', pc' | accepted⟩ <;>
      simpa [delayedWorkWorker, went] using queued

/-- A step of `lcompat_cancel_delayed_work_sync` on an item of this queue. -/
theorem cancelDelayedWorkSync_ledger [Fintype Item] (models : Models q m l) {w : Item}
    {pc : CancelDelayedPc Queue} (here : ∀ pending q', pc = .cancel pending (.remove q') → q' = q)
    {next : Next (CancelDelayedPc Queue) Bool}
    (ran : cancelDelayedWorkSync w m pc = some (m', next)) :
    ∃ l', Models q m' l' ∧
      Ledger.Step l (pc.hand w) l' (next.after (CancelDelayedPc.hand w) .free) := by
  cases pc with
  | loadActive | loadState | loadRunning | spinRunning pending =>
    obtain ⟨rfl, rfl⟩ : m = m' ∧ _ = next := by simpa [cancelDelayedWorkSync] using ran
    refine ⟨l, models, ?_⟩
    first
      | exact .keep _ _
      | split <;> exact .keep _ _
  | clearActive pending | incGeneration pending =>
    obtain ⟨rfl, rfl⟩ : m.setWork w _ = m' ∧ _ = next := by
      simpa [cancelDelayedWorkSync] using ran
    exact ⟨l, models.setWork_keep w ⟨rfl, rfl⟩, .keep _ _⟩
  | cancel pending pc =>
    obtain ⟨⟨m'', next'⟩, went, same⟩ := Option.map_eq_some_iff.mp ran
    have cancelled := cancelWorkSync_ledger models (fun q' loaded =>
      here pending q' (by rw [loaded]))
      went
    cases next' <;>
      simp only [Prod.mk.injEq] at same <;>
      obtain ⟨rfl, rfl⟩ := same <;>
      exact cancelled

end Steps

/-- What no step of a function on a work item changes but the one that creates its timer
task. -/
structure Base (q : Queue) (w : Item) (m m' : Memory Queue Item) : Prop where
  /-- No timer task is created or begins. -/
  timersUnstarted : (m'.works w).timersUnstarted = (m.works w).timersUnstarted
  /-- The item stays delayed or plain. -/
  delayedOwner : (m'.works w).delayedOwner = (m.works w).delayedOwner
  /-- The worker stays published. -/
  workerTask : (m.queues q).workerTask = true → (m'.queues q).workerTask = true
  /-- The queue pointer changes to null or to the queue. -/
  wq : ∀ q', (m'.works w).wq = some q' → (m.works w).wq = some q' ∨ q' = q

/-- A step that neither begins a delay nor counts its generation. -/
structure Kept (q : Queue) (w : Item) (m m' : Memory Queue Item) : Prop extends
    Base q w m m' where
  /-- The delay does not begin. -/
  active : (m.works w).active = false → (m'.works w).active = false
  /-- The generation stays. -/
  generation : (m'.works w).generation = (m.works w).generation

/-- Such a step that does not mark the function as running or not running. -/
structure Unmarked (q : Queue) (w : Item) (m m' : Memory Queue Item) : Prop extends
    Kept q w m m' where
  /-- The function is marked as before. -/
  running : (m'.works w).running = (m.works w).running

section Frames

variable (q : Queue) (w : Item) (m : Memory Queue Item)

omit [DecidableEq Queue] [DecidableEq Item] in
/-- Doing nothing. -/
theorem Unmarked.refl : Unmarked q w m m :=
  ⟨⟨⟨rfl, rfl, id, fun _ => .inl⟩, id, rfl⟩, rfl⟩

omit [DecidableEq Item] in
/-- Changing a queue whose worker stays published. -/
theorem Unmarked.setQueue (q' : Queue) {change : WorkqueueStruct Item → WorkqueueStruct Item}
    (still : (m.queues q').workerTask = true → (change (m.queues q')).workerTask = true) :
    Unmarked q w m (m.setQueue q' change) := by
  refine ⟨⟨⟨rfl, rfl, fun published => ?_, fun _ => .inl⟩, id, rfl⟩, rfl⟩
  by_cases same : q = q'
  · subst same
    simpa using still published
  · simpa [Memory.setQueue, Function.update_of_ne same] using published

variable {q w m} {m' m'' : Memory Queue Item}

omit [DecidableEq Queue] [DecidableEq Item] in
/-- One step after another. -/
theorem Unmarked.trans (first : Unmarked q w m m') (second : Unmarked q w m' m'') :
    Unmarked q w m m'' where
  active ended := second.active (first.active ended)
  generation := second.generation.trans first.generation
  timersUnstarted := second.timersUnstarted.trans first.timersUnstarted
  delayedOwner := second.delayedOwner.trans first.delayedOwner
  workerTask published := second.workerTask (first.workerTask published)
  wq q' linked := (second.wq q' linked).elim (first.wq q') .inr
  running := second.running.trans first.running

omit [DecidableEq Queue] in
/-- Changing an item without creating a timer task. -/
theorem Base.setWork (v : Item) {change : WorkStruct Queue → WorkStruct Queue}
    (same : (change (m.works v)).timersUnstarted = (m.works v).timersUnstarted ∧
      (change (m.works v)).delayedOwner = (m.works v).delayedOwner)
    (wq : ∀ q', (change (m.works v)).wq = some q' → (m.works v).wq = some q' ∨ q' = q) :
    Base q w m (m.setWork v change) := by
  by_cases here : w = v
  · subst here
    refine ⟨?_, ?_, id, fun q' linked => wq q' (by simpa using linked)⟩
    · simpa using same.1
    · simpa using same.2
  · have other := m.setWork_works_of_ne v here change
    exact ⟨by rw [other], by rw [other], id, fun q' linked => .inl (other ▸ linked)⟩

omit [DecidableEq Queue] in
/-- Changing an item without touching its delay. -/
theorem Kept.setWork (v : Item) {change : WorkStruct Queue → WorkStruct Queue}
    (active : (m.works v).active = false → (change (m.works v)).active = false)
    (same : (change (m.works v)).generation = (m.works v).generation ∧
      (change (m.works v)).timersUnstarted = (m.works v).timersUnstarted ∧
      (change (m.works v)).delayedOwner = (m.works v).delayedOwner)
    (wq : ∀ q', (change (m.works v)).wq = some q' → (m.works v).wq = some q' ∨ q' = q) :
    Kept q w m (m.setWork v change) := by
  refine ⟨.setWork v same.2 wq, ?_, ?_⟩ <;> by_cases here : w = v
  · subst here
    simpa using active
  · rw [m.setWork_works_of_ne v here change]
    exact id
  · subst here
    simpa using same.1
  · rw [m.setWork_works_of_ne v here change]

omit [DecidableEq Queue] in
/-- Changing the state word or the queue pointer of an item. -/
theorem Unmarked.setWork (v : Item) {change : WorkStruct Queue → WorkStruct Queue}
    (active : (m.works v).active = false → (change (m.works v)).active = false)
    (same : (change (m.works v)).generation = (m.works v).generation ∧
      (change (m.works v)).timersUnstarted = (m.works v).timersUnstarted ∧
      (change (m.works v)).delayedOwner = (m.works v).delayedOwner)
    (running : (change (m.works v)).running = (m.works v).running)
    (wq : ∀ q', (change (m.works v)).wq = some q' → (m.works v).wq = some q' ∨ q' = q) :
    Unmarked q w m (m.setWork v change) := by
  refine ⟨.setWork v active same wq, ?_⟩
  by_cases here : w = v
  · subst here
    simpa
  · rw [m.setWork_works_of_ne v here change]

omit [DecidableEq Item] in
/-- Writing a list back. -/
theorem Unmarked.setList (q' : Queue) (list : LinkedQueue Item) :
    Unmarked q w m (m.setList q' list) := by
  have kept : Unmarked q w m (m.setQueue q' fun wq =>
      { wq with head := list.head, tail := list.tail }) := .setQueue q w m q' id
  exact ⟨⟨⟨rfl, rfl, kept.workerTask, fun _ => .inl⟩, id, rfl⟩, rfl⟩

omit [DecidableEq Item] in
/-- A step of `lcompat_workqueue_ensure_worker`. -/
theorem workqueueEnsureWorker_unmarked (env : Env) (pc : EnsurePc) :
    Unmarked q w m (workqueueEnsureWorker q env m pc).1 := by
  cases pc <;> simp only [workqueueEnsureWorker]
  case casStarting | create =>
    split <;> dsimp only
    all_goals first
      | exact .refl q w m
      | refine .setQueue q w m q ?_
        exact id
  case storeTask =>
    refine .setQueue q w m q ?_
    exact fun _ => rfl
  case clearStarting | clearFailed =>
    refine .setQueue q w m q ?_
    exact id
  all_goals exact .refl q w m

/-- A step of `lcompat_queue_work`. -/
theorem queueWork_unmarked (v : Item) (env : Env) (pc : QueuePc) :
    Unmarked q w m (queueWork q v env m pc).1 := by
  cases pc with
  | ensure pc =>
    have ensured : Unmarked q w m (workqueueEnsureWorker q env m pc).1 :=
      workqueueEnsureWorker_unmarked env pc
    rcases went : workqueueEnsureWorker q env m pc with ⟨m', pc' | ready⟩ <;>
      simpa [queueWork, went] using ensured
  | load => exact .refl q w m
  | cas running =>
    simp only [queueWork]
    split <;> dsimp only
    · refine .setWork v id ⟨rfl, rfl, rfl⟩ rfl ?_
      exact fun _ => .inl
    · exact .refl q w m
  | append =>
    simp only [queueWork]
    refine Unmarked.trans (.setList q _) (.setWork v id ⟨rfl, rfl, rfl⟩ rfl ?_)
    exact fun q' linked => .inr (Option.some.inj linked).symm
  | wake pc =>
    have woken : Unmarked q w m (workqueueWake q m pc).1 := by
      cases pc <;> simp only [workqueueWake]
      case unblock =>
        refine .setQueue q w m q ?_
        exact id
      all_goals exact .refl q w m
    rcases went : workqueueWake q m pc with ⟨m', pc' | done⟩ <;>
      simpa [queueWork, went] using woken

/-- A step of `lcompat_cancel_work_sync`. -/
theorem cancelWorkSync_unmarked [Fintype Item] {v : Item} {pc : CancelPc Queue}
    {next : Next (CancelPc Queue) Bool} (ran : cancelWorkSync v m pc = some (m', next)) :
    Unmarked q w m m' := by
  cases pc with
  | loadWq | spin canceled =>
    obtain ⟨rfl, -⟩ : m = m' ∧ _ := by simpa [cancelWorkSync] using ran
    exact .refl q w m
  | clearQueued =>
    obtain ⟨rfl, -⟩ : m.setWork v _ = m' ∧ _ := by simpa [cancelWorkSync] using ran
    refine .setWork v id ⟨rfl, rfl, rfl⟩ rfl ?_
    exact fun _ => .inl
  | remove q' =>
    obtain ⟨⟨m'', found⟩, removed, same⟩ := Option.map_eq_some_iff.mp ran
    obtain ⟨⟨list, unlinked⟩, -, stored⟩ := Option.map_eq_some_iff.mp removed
    have left : m'' = m' := by cases found <;> exact (Prod.mk.inj same).1
    subst left
    cases unlinked with
    | true =>
      obtain ⟨rfl, -⟩ := Prod.mk.inj stored
      refine Unmarked.trans (.setList q' list) (.setWork v id ⟨rfl, rfl, rfl⟩ rfl ?_)
      exact fun _ => by rintro ⟨⟩
    | false =>
      obtain ⟨rfl, -⟩ := Prod.mk.inj stored
      exact .refl q w m

/-- A cancel looks for the item in the queue it points to. -/
theorem cancelWorkSync_remove [Fintype Item] {v : Item} {pc : CancelPc Queue} {q' : Queue}
    (ran : cancelWorkSync v m pc = some (m', .goto (.remove q'))) : (m.works v).wq = some q' := by
  cases pc with
  | loadWq =>
    cases here : (m.works v).wq <;> simp [cancelWorkSync, here] at ran
    rw [ran.2]
  | remove q'' =>
    obtain ⟨⟨m'', found⟩, -, same⟩ := Option.map_eq_some_iff.mp ran
    cases found <;> simp at same
  | clearQueued => simp [cancelWorkSync] at ran
  | spin canceled =>
    by_cases running : (m.works v).state = ⟨false, true⟩ <;>
      simp [cancelWorkSync, running] at ran

/-- A step of the worker. -/
theorem workqueueWorker_kept (pc : WorkerPc Item) : Kept q w m (workqueueWorker q m pc).1 := by
  cases pc with
  | pop =>
    rcases popped : (m.list q).pop with ⟨list, _ | v⟩
    · have waiting : Unmarked q w m (m.setQueue q fun wq => { wq with workerWaiting := true }) :=
        .setQueue q w m q id
      simpa [workqueueWorker, workqueuePopLocked, popped] using waiting.toKept
    · have taken : Unmarked q w m ((m.setList q list).setQueue q fun wq =>
          { wq with workerWaiting := false, active := wq.active + 1 }) :=
        (Unmarked.setList q list).trans (.setQueue q w _ q id)
      simpa [workqueueWorker, workqueuePopLocked, popped] using taken.toKept
  | block =>
    simp only [workqueueWorker]
    split
    · have woken : Unmarked q w m (m.setQueue q fun wq => { wq with unblocked := false }) :=
        .setQueue q w m q id
      exact woken.toKept
    · exact (Unmarked.refl q w m).toKept
  | load v | call v | inFunc v => exact (Unmarked.refl q w m).toKept
  | cas v running =>
    simp only [workqueueWorker]
    split <;> dsimp only
    · refine .setWork v id ⟨rfl, rfl, rfl⟩ ?_
      exact fun _ => .inl
    · exact (Unmarked.refl q w m).toKept
  | setRunning v | clearRunning v | clearState v =>
    simp only [workqueueWorker]
    refine .setWork v id ⟨rfl, rfl, rfl⟩ ?_
    exact fun _ => .inl
  | close v =>
    have closed : Unmarked q w m (m.setWork v fun work =>
        if work.state.queued then work else { work with wq := none }) := by
      refine .setWork v ?_ ?_ ?_ ?_ <;> cases (m.works v).state.queued <;> simp
      exact fun q' linked => .inl linked
    have left : Unmarked q w m (workqueueClose q v m) := by
      refine closed.trans (.setQueue q w _ q ?_)
      exact id
    exact left.toKept

/-- A step of a timer task that knows its queue. -/
theorem delayedWorkWorker_unmarked (systemWq : Queue) (env : Env) {pc : TimerPc Queue}
    (knows : pc.Knows q) : Unmarked q w m (delayedWorkWorker systemWq w env m pc).1 := by
  cases pc with
  | loadGeneration | loadExpires _ | loadWq _ _ | loopActive _ | loopGeneration _ | loopTime _
  | checkActive _ | checkGeneration _ => exact .refl q w m
  | reset =>
    simp only [delayedWorkWorker]
    refine .setWork w id ⟨rfl, rfl, rfl⟩ rfl ?_
    exact fun _ => .inl
  | clearActive vars =>
    simp only [delayedWorkWorker]
    refine .setWork w ?_ ⟨rfl, rfl, rfl⟩ rfl ?_
    · exact fun _ => rfl
    · exact fun _ => .inl
  | casState vars =>
    simp only [delayedWorkWorker]
    split <;> dsimp only
    · refine .setWork w id ⟨rfl, rfl, rfl⟩ rfl ?_
      exact fun _ => .inl
    · exact .refl q w m
  | queue q' pc =>
    obtain rfl : q' = q := knows
    have queued : Unmarked q' w m (queueWork q' w env m pc).1 := queueWork_unmarked w env pc
    rcases went : queueWork q' w env m pc with ⟨m', pc' | accepted⟩ <;>
      simpa [delayedWorkWorker, went] using queued

/-- A step of `lcompat_cancel_delayed_work_sync` other than the new generation. -/
theorem cancelDelayedWorkSync_unmarked [Fintype Item] {pc : CancelDelayedPc Queue}
    {next : Next (CancelDelayedPc Queue) Bool}
    (ran : cancelDelayedWorkSync w m pc = some (m', next))
    (other : ∀ pending, pc ≠ .incGeneration pending) : Unmarked q w m m' := by
  cases pc with
  | loadActive | loadState | loadRunning | spinRunning pending =>
    obtain ⟨rfl, -⟩ : m = m' ∧ _ := by simpa [cancelDelayedWorkSync] using ran
    exact .refl q w m
  | incGeneration pending => exact absurd rfl (other pending)
  | clearActive pending =>
    obtain ⟨rfl, -⟩ : m.setWork w _ = m' ∧ _ := by simpa [cancelDelayedWorkSync] using ran
    refine .setWork w ?_ ⟨rfl, rfl, rfl⟩ rfl ?_
    · exact fun _ => rfl
    · exact fun _ => .inl
  | cancel pending pc =>
    obtain ⟨⟨m'', next'⟩, went, same⟩ := Option.map_eq_some_iff.mp ran
    have left : m'' = m' := by cases next' <;> exact (Prod.mk.inj same).1
    exact left ▸ cancelWorkSync_unmarked went

end Frames

end Lcompat.Workqueue
