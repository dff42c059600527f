import Lcompat.Workqueue.Service

/-!
# Synchronous cancellation

`lcompat_cancel_work_sync` takes the item out of the list and waits while its state word is
exactly `RUNNING`. An item the worker has popped is in no list and still `QUEUED`, so a cancel
that arrives before the worker turns `QUEUED` into `RUNNING` finds nothing to remove and
nothing to wait for. The result says exactly when a returned cancel has settled the item: its
last look at the state word came at a moment when the worker did not have the item in hand,
popped and not yet executed to the end, with `QUEUED` still set.
-/

namespace Lcompat.Workqueue

open Lcompat.Logic

variable {Id Item : Type}

/-- Nobody is inside `lcompat_queue_work` with an item. -/
def NotQueueing (w : Item) (p : Tasks Id Item) : Prop :=
  ∀ t pc, p.threads t ≠ .queueing w pc

/-- Steps other than a call of `lcompat_queue_work` on an item. -/
def NoQueue (w : Item) (_ : Tasks Id Item) (a : Id × Choice Item) : Prop :=
  a.2 ≠ .queue w

/-- Steps other than a call of `lcompat_queue_work` on an item, while a task is in
`lcompat_cancel_work_sync` on it. -/
def Cancelling (t : Id) (w : Item) (p : Tasks Id Item) (a : Id × Choice Item) : Prop :=
  NoQueue w p a ∧ ∃ pc, p.threads t = .cancelling w pc

instance [DecidableEq Item] (w : Item) (p : Tasks Id Item) (a : Id × Choice Item) :
    Decidable (NoQueue w p a) :=
  inferInstanceAs (Decidable (_ ≠ _))

instance [DecidableEq Item] (w : Item) (task : Task Item) :
    Decidable (∃ pc, task = .cancelling w pc) :=
  match task with
  | .cancelling v pc => decidable_of_iff (v = w) ⟨fun same => ⟨pc, same ▸ rfl⟩, fun ⟨_, same⟩ => by
      injection same⟩
  | .idle | .queueing .. | .worker _ => .isFalse nofun

instance [DecidableEq Item] (t : Id) (w : Item) (p : Tasks Id Item) (a : Id × Choice Item) :
    Decidable (Cancelling t w p a) :=
  inferInstanceAs (Decidable (_ ∧ _))

/-- The work function of an item is executing. -/
def Executing (w : Item) (p : Tasks Id Item) : Prop :=
  ∃ t, p.threads t = .worker (.inFunc w)

variable [DecidableEq Id] [DecidableEq Item] [Fintype Item]

/-- One call of `lcompat_cancel_work_sync`, made after a call of `lcompat_queue_work` returned
true and overlapped by no other such call on the item: the state in which it is made, the one
in which it is about to take its last step, and the one in which it has returned. -/
structure CancelCall (t : Id) (w : Item) (before last after : Tasks Id Item) : Prop where
  /-- The item was queued earlier in the run. -/
  queued : ∃ u env p q, (tasks Served).Reachable p ∧ (∃ pc, p.threads u = .queueing w (.wake pc)) ∧
    Pool.step exec p (u, .go env) = some q ∧ q.threads u = .idle ∧
    (tasks Served).Path (fun _ _ => True) q before
  /-- Nobody is queueing the item. -/
  alone : NotQueueing w before
  /-- The call and its steps but the last. -/
  called : ∃ begun, Pool.step exec before (t, .cancel w) = some begun ∧
    (tasks Served).Path (Cancelling t w) begun last
  /-- The last step. -/
  returned : (∃ pc, last.threads t = .cancelling w pc) ∧
    ∃ env, Pool.step exec last (t, .go env) = some after ∧ after.threads t = .idle

/-- Wherever the worker has the item before the end of its function, `QUEUED` is clear. -/
def OutOfHand (w : Item) (p : Tasks Id Item) : Prop :=
  ∀ t pc, p.threads t = .worker pc → pc.pending w → (p.shared.works w).state.queued = false

omit [DecidableEq Id] in
/-- Only a call of `lcompat_queue_work` brings a task into it. -/
theorem exec_queueing {m m' : QueueMemory Item} {task : Task Item} {choice : Choice Item} {w : Item}
    {pc : QueuePc} (ran : exec m task choice = some (m', .queueing w pc)) :
    choice = .queue w ∨ ∃ pc, task = .queueing w pc := by
  cases task with
  | idle => cases choice <;> simp_all [exec]
  | queueing v pc' =>
    cases choice with
    | go env =>
      rcases went : queueWork () v env m pc' with ⟨m'', pc'' | accepted⟩ <;>
        simp [exec, went] at ran
      exact .inr ⟨pc', by rw [ran.2.1]⟩
    | queue _ | cancel _ | begin => simp [exec] at ran
  | cancelling v pc' =>
    cases choice with
    | go env =>
      obtain ⟨⟨m'', next⟩, -, same⟩ := Option.map_eq_some_iff.mp ran
      cases next <;> simp at same
    | queue _ | cancel _ | begin => simp [exec] at ran
  | worker pc' => cases choice <;> simp [exec] at ran

/-- Nobody begins to queue an item in other steps. -/
theorem NotQueueing.step {w : Item} {p q : Tasks Id Item} {a : Id × Choice Item}
    (alone : NotQueueing w p) (other : NoQueue w p a) (stepped : Pool.step exec p a = some q) :
    NotQueueing w q := by
  obtain ⟨shared, next, ran, rfl⟩ := Pool.step_eq_some.mp stepped
  intro u pc here
  by_cases moved : u = a.1
  · subst moved
    obtain rfl : next = .queueing w pc := by simpa using here
    rcases exec_queueing ran with called | ⟨pc', before⟩
    · exact other called
    · exact alone a.1 pc' before
  · exact alone u pc (by simpa [Function.update_of_ne moved] using here)

omit [DecidableEq Id] [DecidableEq Item] [Fintype Item] in
/-- A task that is not queueing an item does not have it to append. -/
theorem NotQueueing.hand {w : Item} {p : Tasks Id Item} (alone : NotQueueing w p) (t : Id) :
    (p.threads t).hand ≠ .appending w := by
  intro appending
  have known := alone t
  cases here : p.threads t with
  | idle => simp [here] at appending
  | queueing v pc =>
    cases pc <;> simp [here] at appending
    exact known .append (here.trans (by rw [appending]))
  | cancelling v pc => cases pc <;> simp [here] at appending
  | worker pc => cases pc <;> simp [here] at appending

/-- An item that is settled: nobody is queueing it, it is in no list, and the worker does not
have it before the end of its function. -/
structure Settled (w : Item) (p : Tasks Id Item) (l : Ledger Item) : Prop where
  /-- The ledger of the queue. -/
  service : Service p l
  /-- Nobody is queueing the item. -/
  alone : NotQueueing w p
  /-- The item is not in the list. -/
  absent : w ∉ l.nodes
  /-- The worker does not have the item. -/
  past : ∀ t pc, p.threads t = .worker pc → ¬pc.pending w

/-- A settled item stays settled until it is queued again. -/
theorem Settled.step {w : Item} {p q : Tasks Id Item} {l : Ledger Item} {a : Id × Choice Item}
    (settled : Settled w p l) (other : NoQueue w p a) (stepped : Pool.step exec p a = some q) :
    ∃ l', Settled w q l' := by
  obtain ⟨service, alone, absent, past⟩ := settled
  obtain ⟨l', after, moved⟩ := service.step stepped
  refine ⟨l', after, alone.step other stepped, moved.not_mem (alone.hand a.1) absent, ?_⟩
  obtain ⟨shared, next, ran, rfl⟩ := Pool.step_eq_some.mp stepped
  intro t pc here
  by_cases same : t = a.1
  · subst same
    obtain rfl : next = .worker pc := by simpa using here
    obtain ⟨pc', before, went⟩ := exec_worker service.crew.unstarted ran
    intro pending
    have origin := workqueueWorker_pending (q := ()) (m := p.shared) pc' (w := w) (by rwa [went])
    rcases origin with had | ⟨serving, popped⟩
    · exact past a.1 pc' before had
    · rw [went] at popped
      simp only [before, Function.update_self, Task.hand, serving, popped] at moved
      exact absent moved.mem_of_popped
  · exact past t pc (by simpa [Function.update_of_ne same] using here)

/-- A settled item is not executed until it is queued again. -/
theorem Settled.not_executing {w : Item} {p q : Tasks Id Item} {l : Ledger Item}
    (settled : Settled w p l) (path : (tasks Served).Path (NoQueue w) p q) : ¬Executing w q := by
  obtain ⟨l', after⟩ := path.invariant (fun p => ∃ l, Settled w p l) ⟨l, settled⟩
    fun _ _ _ ⟨_, settled⟩ other stepped => settled.step other stepped
  rintro ⟨t, inside⟩
  exact after.past t _ inside rfl

/-- The course of a cancel: nobody is queueing the item, and once the cancel has come to its
wait the item is not in the list. -/
structure Course (t : Id) (w : Item) (p : Tasks Id Item) (l : Ledger Item) : Prop where
  /-- The ledger of the queue. -/
  service : Service p l
  /-- Nobody is queueing the item. -/
  alone : NotQueueing w p
  /-- The waiting cancel has the item out of the list. -/
  absent : ∀ canceled, p.threads t = .cancelling w (.spin canceled) → w ∉ l.nodes

/-- A task that goes on in a cancel takes a step of it. -/
theorem exec_cancelling {m m' : QueueMemory Item} {w : Item} {pc pc' : CancelPc Unit}
    {choice : Choice Item}
    (ran : exec m (.cancelling w pc) choice = some (m', .cancelling w pc')) :
    cancelWorkSync w m pc = some (m', .goto pc') := by
  cases choice with
  | go env =>
    obtain ⟨⟨m'', next⟩, went, same⟩ := Option.map_eq_some_iff.mp ran
    cases next with
    | goto pc'' =>
      obtain ⟨rfl, rfl⟩ : m'' = m' ∧ pc'' = pc' := by simpa using same
      exact went
    | ret canceled => simp at same
  | queue _ | cancel _ | begin => simp [exec] at ran

/-- A cancel returns from its wait, having seen another state word than `RUNNING`. -/
theorem exec_cancel_returned {m m' : QueueMemory Item} {w : Item} {pc : CancelPc Unit}
    {choice : Choice Item} (ran : exec m (.cancelling w pc) choice = some (m', .idle)) :
    m' = m ∧ (m.works w).state ≠ ⟨false, true⟩ ∧ ∃ canceled, pc = .spin canceled := by
  cases choice with
  | go env =>
    obtain ⟨⟨m'', next⟩, went, same⟩ := Option.map_eq_some_iff.mp ran
    cases next with
    | goto pc'' => simp at same
    | ret canceled =>
      obtain rfl : m'' = m' := by simpa using same
      cases pc with
      | loadWq => cases here : (m.works w).wq <;> simp [cancelWorkSync, here] at went
      | remove q =>
        obtain ⟨⟨m'', found⟩, -, same⟩ := Option.map_eq_some_iff.mp went
        cases found <;> simp at same
      | clearQueued => simp [cancelWorkSync] at went
      | spin canceled =>
        by_cases running : (m.works w).state = ⟨false, true⟩
        · simp [cancelWorkSync, running] at went
        · obtain ⟨rfl, -⟩ : m = m'' ∧ _ := by simpa [cancelWorkSync, running] using went
          exact ⟨rfl, running, canceled, rfl⟩
  | queue _ | cancel _ | begin => simp [exec] at ran

/-- The steps of a cancel and of all other tasks meanwhile keep its course. -/
theorem Course.step {t : Id} {w : Item} {p q : Tasks Id Item} {l : Ledger Item}
    {a : Id × Choice Item} (course : Course t w p l) (ok : Cancelling t w p a)
    (stepped : Pool.step exec p a = some q) : ∃ l', Course t w q l' := by
  obtain ⟨service, alone, absent⟩ := course
  obtain ⟨other, pc, inside⟩ := ok
  obtain ⟨l', after, moved⟩ := service.step stepped
  refine ⟨l', after, alone.step other stepped, fun canceled waiting => ?_⟩
  have keeps := fun before => moved.not_mem (alone.hand a.1) before
  obtain ⟨shared, next, ran, rfl⟩ := Pool.step_eq_some.mp stepped
  by_cases same : t = a.1
  · subst same
    obtain rfl : next = .cancelling w (.spin canceled) := by simpa using waiting
    rw [inside] at ran
    have went := exec_cancelling ran
    have linked : ∀ v ∈ l.nodes, l.linked v = true := fun v member =>
      (service.ledger.member v member).2
    refine keeps ?_
    cases pc with
    | loadWq => exact cancelWorkSync_absent service.models linked (.inl rfl) went
    | remove q => exact cancelWorkSync_absent service.models linked (.inr rfl) went
    | clearQueued => exact (service.ledger.held a.1 w (by rw [inside]; rfl)).2
    | spin canceled' => exact absent canceled' inside
  · exact keeps (absent canceled (by simpa [Function.update_of_ne same] using waiting))

/-- A cancel that returned has followed its course to its wait. -/
theorem CancelCall.course {t : Id} {w : Item} {before last after : Tasks Id Item}
    (call : CancelCall t w before last after) : ∃ l, Course t w last l := by
  obtain ⟨u, env, p, q, reach, -, stepped, -, path⟩ := call.queued
  obtain ⟨first, initial, earlier⟩ := reach.step trivial stepped
  obtain ⟨l, service⟩ := Service.of_reach ⟨first, initial, earlier.trans path⟩
  obtain ⟨begun, stepped, path⟩ := call.called
  obtain ⟨l', service', -⟩ := service.step stepped
  have alone := call.alone.step (a := (t, .cancel w)) (by simp [NoQueue]) stepped
  have course : Course t w begun l' := by
    refine ⟨service', alone, fun canceled waiting => ?_⟩
    obtain ⟨shared, next, ran, rfl⟩ := Pool.step_eq_some.mp stepped
    obtain rfl : next = .cancelling w (.spin canceled) := by simpa using waiting
    cases here : before.threads t <;> simp [here, exec] at ran
  refine path.invariant (fun p => ∃ l, Course t w p l) ⟨l', course⟩ fun p a q held ok stepped => ?_
  obtain ⟨_, course⟩ := held
  exact course.step ok stepped

/-- The item can come to be executed without being queued again. -/
def MayExecute (w : Item) (p : Tasks Id Item) : Prop :=
  ∃ q, (tasks Served).Path (NoQueue w) p q ∧ Executing w q

/-- The item may be executed when it may be after the worker's next step. -/
theorem MayExecute.of_next {w : Item} {p : Tasks Id Item} {t : Id} {pc pc' : WorkerPc Item}
    {m : QueueMemory Item} (here : p.threads t = .worker pc)
    (went : workqueueWorker () p.shared pc = (m, pc'))
    (onward : ∀ p' : Tasks Id Item, p'.threads t = .worker pc' → p'.shared = m → MayExecute w p') :
    MayExecute w p := by
  have stepped : Pool.step exec p (t, .go .ready) =
      some ⟨m, Function.update p.threads t (.worker pc')⟩ :=
    Pool.step_eq_some.mpr ⟨m, .worker pc', by simp [here, exec, went], rfl⟩
  obtain ⟨q, path, inside⟩ := onward ⟨m, Function.update p.threads t (.worker pc')⟩ (by simp) rfl
  exact ⟨q, (System.Path.single (by simp [NoQueue]) stepped).trans path, inside⟩

/-- A worker that has marked an item goes on to execute it. -/
theorem MayExecute.of_marked {w : Item} {p : Tasks Id Item} {t : Id}
    (here : p.threads t = .worker (.setRunning w)) : MayExecute w p :=
  .of_next here rfl fun _ here _ => .of_next here rfl fun p here _ => ⟨p, .refl p, t, here⟩

/-- A worker that looks at an item and sees it `QUEUED` goes on to execute it. -/
theorem MayExecute.of_load {w : Item} {p : Tasks Id Item} {t : Id}
    (here : p.threads t = .worker (.load w)) (queued : (p.shared.works w).state.queued = true) :
    MayExecute w p := by
  have looked : workqueueWorker () p.shared (.load w) =
      (p.shared, .cas w (p.shared.works w).state.running) := by simp [workqueueWorker, queued]
  refine .of_next here looked fun p' here' same => ?_
  have word : (p'.shared.works w).state = ⟨true, (p.shared.works w).state.running⟩ := by
    rw [same, ← queued]
  have marked : workqueueWorker () p'.shared (.cas w (p.shared.works w).state.running) =
      (p'.shared.setWork w fun work => { work with state := ⟨false, true⟩ }, .setRunning w) := by
    simp [workqueueWorker, word]
  exact .of_next here' marked fun _ here _ => .of_marked here

/-- A worker that has an item in hand with `QUEUED` set can go on to execute it. -/
theorem MayExecute.of_pending {w : Item} {p : Tasks Id Item} {t : Id} {pc : WorkerPc Item}
    (here : p.threads t = .worker pc) (pending : pc.pending w)
    (queued : (p.shared.works w).state.queued = true) : MayExecute w p := by
  cases pc with
  | pop | block | clearRunning | clearState | close => exact pending.elim
  | load v =>
    obtain rfl : v = w := pending
    exact .of_load here queued
  | cas v running =>
    obtain rfl : v = w := pending
    by_cases word : (p.shared.works v).state = ⟨true, running⟩
    · have marked : workqueueWorker () p.shared (.cas v running) =
          (p.shared.setWork v fun work => { work with state := ⟨false, true⟩ }, .setRunning v) := by
        simp [workqueueWorker, word]
      exact .of_next here marked fun _ here _ => .of_marked here
    · have again : workqueueWorker () p.shared (.cas v running) = (p.shared, .load v) := by
        simp [workqueueWorker, word]
      exact .of_next here again fun p' here same => .of_load here (by rw [same, queued])
  | setRunning v =>
    obtain rfl : v = w := pending
    exact .of_marked here
  | call v =>
    obtain rfl : v = w := pending
    exact .of_next here rfl fun p here _ => ⟨p, .refl p, t, here⟩
  | inFunc v =>
    obtain rfl : v = w := pending
    exact ⟨p, .refl p, t, here⟩

/-- When `lcompat_cancel_work_sync` has returned, the function of the item is not executing and
does not start again until the item is queued again, if and only if the last look at its state
word came while the worker did not have the item in hand with `QUEUED` set. -/
theorem cancel_work_sync_iff {t : Id} {w : Item} {before last after : Tasks Id Item}
    (call : CancelCall t w before last after) :
    (∀ q, (tasks Served).Path (NoQueue w) after q → ¬Executing w q) ↔ OutOfHand w last := by
  obtain ⟨l, course⟩ := call.course
  obtain ⟨⟨pc, inside⟩, env, stepped, idle⟩ := call.returned
  obtain ⟨l', service, moved⟩ := course.service.step stepped
  have alone := course.alone.step (a := (t, .go env)) (by simp [NoQueue]) stepped
  have absent := moved.not_mem (course.alone.hand t)
  obtain ⟨shared, next, ran, rfl⟩ := Pool.step_eq_some.mp stepped
  obtain rfl : next = .idle := by simpa using idle
  rw [inside] at ran
  obtain ⟨rfl, stopped, canceled, rfl⟩ := exec_cancel_returned ran
  -- the returning step moves no task but `t`, and changes no memory
  have others : ∀ u pc, Function.update last.threads t Task.idle u = .worker pc ↔
      last.threads u = .worker pc := by
    intro u pc
    by_cases same : u = t
    · subst same
      simp [inside]
    · simp [Function.update_of_ne same]
  constructor
  · intro never u pc here pending
    by_contra queued
    have still : (⟨last.shared, Function.update last.threads t .idle⟩ : Tasks Id Item).threads u =
        .worker pc := (others u pc).mpr here
    obtain ⟨q, path, executing⟩ := MayExecute.of_pending still pending (by simpa using queued)
    exact never q path executing
  · intro outOfHand q path
    have settled : Settled w ⟨last.shared, Function.update last.threads t .idle⟩ l' := by
      refine ⟨service, alone, absent (course.absent canceled inside), fun u pc here pending => ?_⟩
      have worker := (others u pc).mp here
      have clear := outOfHand u pc worker pending
      have state := course.service.models.state w
      cases pc with
      | load v | cas v running =>
        obtain rfl : v = w := pending
        have held := (course.service.ledger.held u v (by rw [worker]; rfl)).1
        simp [← state, clear] at held
      | setRunning v | call v | inFunc v =>
        obtain rfl : v = w := pending
        have running := course.service.ledger.executing u v (by rw [worker]; rfl)
        rw [← state] at running
        exact stopped (by rw [← clear, ← running])
      | pop | block | clearRunning | clearState | close => exact pending
    exact settled.not_executing path

/-- A client, the worker of a queue and one item. -/
def served : Tasks (Fin 2) Unit :=
  ⟨⟨fun _ => { WorkqueueStruct.alloc with workerTask := true, workersCreated := 1 },
    fun _ => .init false, fun _ => none⟩, fun t => if t = 0 then .idle else .worker .pop⟩

/-- The queue is served. -/
theorem served_served : Served served :=
  ⟨rfl, fun _ => rfl, 1, rfl, fun u other => if_pos (by omega)⟩

/-- The client queues the item and is about to return true. -/
def queueing : List (Fin 2 × Choice Unit) := (0, .queue ()) :: List.replicate 5 (0, .go .ready)

/-- The item is queued and cancelled before the worker looks: the cancel takes it out of the
list, and it is never executed. -/
theorem served_cancelled : ∃ before last after : Tasks (Fin 2) Unit,
    CancelCall 0 () before last after ∧
      ∀ q, (tasks Served).Path (NoQueue ()) after q → ¬Executing () q := by
  have ran : ∃ p q begun last after : Tasks (Fin 2) Unit,
      (tasks Served).run served queueing = some p ∧
      p.threads 0 = .queueing () (.wake .loadWaiting) ∧
      Pool.step exec p (0, .go .ready) = some q ∧ q.threads 0 = .idle ∧
      q.threads 1 = .worker .pop ∧ Pool.step exec q (0, .cancel ()) = some begun ∧
      (tasks Served).runWith (Cancelling 0 ()) begun (List.replicate 3 (0, .go .ready)) =
        some last ∧
      last.threads 0 = .cancelling () (.spin true) ∧
      (last.shared.works ()).state.queued = false ∧
      Pool.step exec last (0, .go .ready) = some after ∧ after.threads 0 = .idle :=
    ⟨_, _, _, _, _, rfl, rfl, rfl, rfl, rfl, rfl, rfl, rfl, rfl, rfl, rfl⟩
  obtain ⟨p, q, begun, last, after, queued, here, accepted, idle, worker, called, during, waiting,
    clear, returned, past⟩ := ran
  have alone : NotQueueing () q := fun t pc queueing => by
    match t with
    | 0 => simp [idle] at queueing
    | 1 => simp [worker] at queueing
  have call : CancelCall 0 () q last after :=
    ⟨⟨0, .ready, p, q, System.reachable_of_run served_served queued, ⟨_, here⟩, accepted, idle,
      .refl q⟩, alone, ⟨begun, called, System.path_of_runWith during⟩, ⟨_, waiting⟩, .ready,
      returned, past⟩
  exact ⟨q, last, after, call, (cancel_work_sync_iff call).mpr fun _ _ _ _ => clear⟩

/-- The item is cancelled after the worker has popped it and before the worker has marked it:
the cancel finds nothing to remove and nothing to wait for, and the item is executed after it
has returned. -/
theorem popped_cancelled : ¬∀ (t : Fin 2) (w : Unit) (before last after : Tasks (Fin 2) Unit),
    CancelCall t w before last after →
      ∀ q, (tasks Served).Path (NoQueue w) after q → ¬Executing w q := by
  intro always
  have ran : ∃ p q before begun last after final : Tasks (Fin 2) Unit,
      (tasks Served).run served queueing = some p ∧
      p.threads 0 = .queueing () (.wake .loadWaiting) ∧
      Pool.step exec p (0, .go .ready) = some q ∧ q.threads 0 = .idle ∧
      Pool.step exec q (1, .go .ready) = some before ∧
      before.threads 0 = .idle ∧ before.threads 1 = .worker (.load ()) ∧
      Pool.step exec before (0, .cancel ()) = some begun ∧
      (tasks Served).runWith (Cancelling 0 ()) begun (List.replicate 2 (0, .go .ready)) =
        some last ∧
      last.threads 0 = .cancelling () (.spin false) ∧
      Pool.step exec last (0, .go .ready) = some after ∧ after.threads 0 = .idle ∧
      (tasks Served).runWith (NoQueue ()) after (List.replicate 4 (1, .go .ready)) =
        some final ∧ final.threads 1 = .worker (.inFunc ()) :=
    ⟨_, _, _, _, _, _, _, rfl, rfl, rfl, rfl, rfl, rfl, rfl, rfl, rfl, rfl, rfl, rfl, rfl, rfl⟩
  obtain ⟨p, q, before, begun, last, after, final, queued, here, accepted, idle, popped, still,
    worker, called, during, waiting, returned, past, later, inside⟩ := ran
  have alone : NotQueueing () before := fun t pc queueing => by
    match t with
    | 0 => simp [still] at queueing
    | 1 => simp [worker] at queueing
  have call : CancelCall 0 () before last after :=
    ⟨⟨0, .ready, p, q, System.reachable_of_run served_served queued, ⟨_, here⟩, accepted, idle,
      .single trivial popped⟩, alone, ⟨begun, called, System.path_of_runWith during⟩,
      ⟨_, waiting⟩, .ready, returned, past⟩
  exact always 0 () before last after call final (System.path_of_runWith later) ⟨1, inside⟩

end Lcompat.Workqueue
