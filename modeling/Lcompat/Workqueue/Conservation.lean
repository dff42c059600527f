import Lcompat.Workqueue.Cancel

/-!
# No accepted work is lost or executed twice

The history of a served queue: which calls set `QUEUED` of an item, which items were appended,
which cancels cleared `QUEUED`, and which executions the worker started. Every append draws
the next ticket, and an execution is of the last append of its item before it. The account of
a history balances the history against the ledger of the queue: what was accepted was started,
was cancelled, or is still `QUEUED`, and tickets rise along the executions, the item in the
worker's hand and the list.
-/

namespace Lcompat.Workqueue

open Lcompat.Logic

/-- What the history of a queue is about. -/
inductive Event (Item : Type) where
  /-- `lcompat_queue_work` set `QUEUED`. -/
  | accepted (w : Item)
  /-- `lcompat_queue_work` appended the item. -/
  | appended (w : Item)
  /-- `lcompat_cancel_work_sync` cleared `QUEUED`. -/
  | cleared (w : Item)
  /-- The worker turned `QUEUED` into `RUNNING`, which starts an execution. -/
  | started (w : Item)
  /-- The worker entered the function of the item. -/
  | entered (w : Item)
  deriving DecidableEq

/-- The item of an event that starts an execution. -/
@[simp]
def Event.start? {Item : Type} : Event Item → Option Item
  | .started w => some w
  | .accepted _ | .appended _ | .cleared _ | .entered _ => none

/-- The item of an event that enters a function. -/
@[simp]
def Event.entry? {Item : Type} : Event Item → Option Item
  | .entered w => some w
  | .accepted _ | .appended _ | .cleared _ | .started _ => none

/-- What is noted of the next step of a task. -/
def Task.events {Item : Type} (m : QueueMemory Item) : Task Item → List (Event Item)
  | .queueing w (.cas running) =>
    if (m.works w).state = ⟨false, running⟩ then [.accepted w] else []
  | .queueing w .append => [.appended w]
  | .cancelling w .clearQueued => if (m.works w).state.queued then [.cleared w] else []
  | .worker (.cas w running) =>
    if (m.works w).state = ⟨true, running⟩ then [.started w] else []
  | .worker (.call w) => [.entered w]
  | .idle | .queueing _ _ | .cancelling _ _ | .worker _ => []

section History

variable {Item : Type}

/-- The appends of a history. -/
def appends : List (Event Item) → Nat
  | [] => 0
  | .appended _ :: past => appends past + 1
  | _ :: past => appends past

/-- The started executions of a history, newest first. -/
def starts (past : List (Event Item)) : List Item := past.filterMap Event.start?

/-- The entered functions of a history, newest first. -/
def entries (past : List (Event Item)) : List Item := past.filterMap Event.entry?

variable [DecidableEq Item]

/-- The ticket of an item: which of the appends was its last one. -/
def ticket (w : Item) : List (Event Item) → Nat
  | [] => 0
  | .appended v :: past => if v = w then appends past + 1 else ticket w past
  | _ :: past => ticket w past

/-- The tickets of the started executions of a history, newest first. -/
def startTickets : List (Event Item) → List Nat
  | [] => []
  | .started w :: past => ticket w past :: startTickets past
  | _ :: past => startTickets past

/-- No ticket was drawn that is not from an append. -/
theorem ticket_le_appends (w : Item) (past : List (Event Item)) :
    ticket w past ≤ appends past := by
  induction past with
  | nil => exact Nat.le_refl 0
  | cons event past ih =>
    cases event with
    | appended v =>
      simp only [ticket, appends]
      split <;> omega
    | accepted | cleared | started | entered => exact ih

/-- No ticket was served that is not from an append. -/
theorem startTickets_le_appends (past : List (Event Item)) :
    ∀ n ∈ startTickets past, n ≤ appends past := by
  induction past with
  | nil => simp [startTickets]
  | cons event past ih =>
    cases event with
    | appended v => exact fun n member => Nat.le_succ_of_le (ih n member)
    | started w =>
      rintro n (_ | ⟨_, member⟩)
      · exact ticket_le_appends w past
      · exact ih n member
    | accepted | cleared | entered => exact ih

end History

/-- What is noted of a change of hands. -/
def Hand.events {Item : Type} : Hand Item → Hand Item → List (Event Item)
  | .asking _, .appending w => [.accepted w]
  | .appending w, .free => [.appended w]
  | .clearing w, .free => [.cleared w]
  | .popped w, .running _ => [.started w]
  | _, _ => []

/-- Nothing is noted when hands do not change. -/
theorem Hand.events_self {Item : Type} (h : Hand Item) : h.events h = [] := by
  cases h <;> rfl

variable {Id Item : Type} [DecidableEq Item]

/-- A history balances a ledger. -/
structure Account (past : List (Event Item)) (l : Ledger Item) (hands : Id → Hand Item) :
    Prop where
  /-- Accepted work was started, was cancelled, or is `QUEUED`. -/
  balance : ∀ w, past.count (.accepted w) =
    past.count (.started w) + past.count (.cleared w) + if (l.state w).queued then 1 else 0
  /-- Tickets rise along the list. -/
  listed : l.nodes.Pairwise fun v w => ticket v past < ticket w past
  /-- The popped item comes before the list. -/
  popped : ∀ t w, hands t = .popped w → ∀ v ∈ l.nodes, ticket w past < ticket v past
  /-- Executions come before the popped item. -/
  before_popped : ∀ n ∈ startTickets past, ∀ t w, hands t = .popped w → n < ticket w past
  /-- Executions come before the list. -/
  before_listed : ∀ n ∈ startTickets past, ∀ v ∈ l.nodes, n < ticket v past
  /-- Executions are in the order of their tickets. -/
  ordered : (startTickets past).Pairwise (· > ·)

variable [DecidableEq Id]

/-- Every step that has nothing to do with a delay keeps the account, once it is noted. -/
theorem Account.step {past : List (Event Item)} {l l' : Ledger Item} {hands : Id → Hand Item}
    {t : Id} {hand : Hand Item} (account : Account past l hands) (inv : l.Inv hands)
    (stepped : Ledger.Step l (hands t) l' hand) (unarmed : ∀ w, hands t ≠ .armed w)
    (unarming : ∀ w, hand ≠ .arming w) :
    Account ((hands t).events hand ++ past) l' (Function.update hands t hand) := by
  obtain ⟨balance, listed, popped, before_popped, before_listed, ordered⟩ := account
  generalize here : hands t = before at stepped unarmed
  cases stepped with
  | keep =>
    rw [← here, Function.update_eq_self, Hand.events_self]
    exact ⟨balance, listed, popped, before_popped, before_listed, ordered⟩
  | arm w | disarm w | fire w => grind -ring -linarith
  | ask w | refuse w | link w | pass w clear | finish w =>
    constructor <;> simp only [Hand.events, List.nil_append] <;> grind -ring -linarith
  | close w =>
    constructor <;> simp only [Hand.events, List.nil_append] <;> grind -ring -linarith
  | pop w rest first =>
    obtain ⟨foremost, onward⟩ := List.pairwise_cons.mp (first ▸ listed)
    constructor <;> simp only [Hand.events, List.nil_append] <;> grind -ring -linarith
  | remove w inList =>
    have shorter : (l.nodes.erase w).Pairwise fun u v => ticket u past < ticket v past :=
      listed.sublist List.erase_sublist
    have fewer : ∀ v ∈ l.nodes.erase w, v ∈ l.nodes := fun v => List.mem_of_mem_erase
    constructor <;> simp only [Hand.events, List.nil_append] <;> grind -ring -linarith
  | claim w clear =>
    constructor <;> simp only [Hand.events, List.singleton_append, ticket, startTickets] <;>
      grind -ring -linarith
  | clear w =>
    have queued : (l.state w).queued = true := (inv.held t w (by rw [here]; rfl)).1
    constructor <;> simp only [Hand.events, List.singleton_append, ticket, startTickets] <;>
      grind -ring -linarith
  | append w =>
    have absent : w ∉ l.nodes := (inv.held t w (by rw [here]; rfl)).2
    have unpopped : ∀ u, hands u ≠ .popped w := fun u popped => by
      have apart : t ≠ u := fun same => by simp [← same, here] at popped
      exact inv.one_holder t u w apart ⟨by rw [here]; rfl, by rw [popped]; rfl⟩
    have drawn := fun v => ticket_le_appends v past
    have executed := startTickets_le_appends past
    constructor <;> simp only [Hand.events, List.singleton_append, ticket, startTickets]
    case listed =>
      refine List.pairwise_append.mpr ⟨?_, List.pairwise_singleton .., ?_⟩
      · exact listed.imp_of_mem fun left right rises => by grind -ring -linarith
      · grind -ring -linarith
    all_goals grind -ring -linarith
  | accept w =>
    have queued : (l.state w).queued = true := (inv.held t w (by rw [here]; rfl)).1
    have alone : ∀ u v, u ≠ t → hands u ≠ .popped v := fun u v apart popped =>
      inv.one_worker u t apart ⟨by rw [popped]; rfl, by rw [here]; rfl⟩
    constructor <;> simp only [Hand.events, List.singleton_append, ticket, startTickets]
    case ordered =>
      exact List.pairwise_cons.mpr ⟨fun n earlier => before_popped n earlier t w here, ordered⟩
    all_goals grind -ring -linarith

omit [DecidableEq Id] in
/-- Entering a function is no matter of the account. -/
theorem Account.enter {past : List (Event Item)} {l : Ledger Item} {hands : Id → Hand Item}
    (account : Account past l hands) (w : Item) : Account (.entered w :: past) l hands := by
  obtain ⟨balance, listed, popped, before_popped, before_listed, ordered⟩ := account
  exact ⟨fun v => by simpa using balance v, listed, popped, before_popped, before_listed, ordered⟩

/-- The item whose execution the worker has started and whose function it has not entered. -/
def Task.starting : Task Item → Option Item
  | .worker (.setRunning w) | .worker (.call w) => some w
  | .idle | .queueing _ _ | .cancelling _ _ | .worker _ => none

/-- The function the next step of a task enters. -/
@[simp]
def Task.entering : Task Item → List (Event Item)
  | .worker (.call w) => [.entered w]
  | .idle | .queueing _ _ | .cancelling _ _ | .worker _ => []

/-- What is noted of a step of `lcompat_queue_work`. -/
theorem queueWork_events {m : QueueMemory Item} (w : Item) (env : Env) (pc : QueuePc) :
    (Task.queueing w pc).events m =
      (pc.hand w).events ((queueWork () w env m pc).2.after (QueuePc.hand w) .free) := by
  cases pc with
  | ensure pc =>
    rcases went : workqueueEnsureWorker () env m pc with ⟨m', pc' | ready⟩
    · simp [queueWork, went, Task.events, Hand.events]
    · cases ready <;> simp [queueWork, went, Task.events, Hand.events]
  | load =>
    cases queued : (m.works w).state.queued <;> simp [queueWork, queued, Task.events, Hand.events]
  | cas running =>
    by_cases same : (m.works w).state = ⟨false, running⟩ <;>
      simp [queueWork, same, Task.events, Hand.events]
  | append => rfl
  | wake pc =>
    rcases went : workqueueWake () m pc with ⟨m', pc' | done⟩ <;>
      simp [queueWork, went, Task.events, Hand.events]

/-- What is noted of a step of the worker. -/
theorem workqueueWorker_events {m : QueueMemory Item} (pc : WorkerPc Item) :
    (Task.worker pc).events m =
      (Task.worker pc).entering ++ pc.hand.events (workqueueWorker () m pc).2.hand := by
  cases pc with
  | pop =>
    rcases popped : (m.list ()).pop with ⟨list, _ | w⟩ <;>
      simp [workqueueWorker, workqueuePopLocked, popped, Task.events, Hand.events]
  | block =>
    cases pending : (m.queues ()).unblocked <;>
      simp [workqueueWorker, pending, Task.events, Hand.events]
  | load w =>
    cases queued : (m.works w).state.queued <;>
      simp [workqueueWorker, queued, Task.events, Hand.events]
  | cas w running =>
    by_cases same : (m.works w).state = ⟨true, running⟩ <;>
      simp [workqueueWorker, same, Task.events, Hand.events]
  | setRunning w | call w | inFunc w | clearRunning w | clearState w | close w => rfl

variable [Fintype Item]

/-- What is noted of a step of `lcompat_cancel_work_sync`. -/
theorem cancelWorkSync_events {m m' : QueueMemory Item} {w : Item} {pc : CancelPc Unit}
    (queued : pc = .clearQueued → (m.works w).state.queued = true)
    {next : Next (CancelPc Unit) Bool} (ran : cancelWorkSync w m pc = some (m', next)) :
    (Task.cancelling w pc).events m = (pc.hand w).events (next.after (CancelPc.hand w) .free) := by
  cases pc with
  | loadWq =>
    obtain ⟨-, rfl⟩ : m = m' ∧ _ = next := by simpa [cancelWorkSync] using ran
    cases (m.works w).wq <;> rfl
  | remove q =>
    obtain ⟨⟨m'', found⟩, -, same⟩ := Option.map_eq_some_iff.mp ran
    cases found <;> simp only [Prod.mk.injEq] at same <;> obtain ⟨-, rfl⟩ := same <;> rfl
  | clearQueued =>
    obtain ⟨-, rfl⟩ : m.setWork w _ = m' ∧ _ = next := by simpa [cancelWorkSync] using ran
    simp [Task.events, queued rfl, Hand.events]
  | spin canceled =>
    obtain ⟨-, rfl⟩ : m = m' ∧ _ = next := by simpa [cancelWorkSync] using ran
    split <;> rfl

/-- What is noted of a step of a task is the change of its hands, but for the entry of a
function. -/
theorem exec_events {m m' : QueueMemory Item} {task task' : Task Item} {choice : Choice Item}
    (queued : ∀ w, task.hand = .clearing w → (m.works w).state.queued = true)
    (ran : exec m task choice = some (m', task')) :
    task.events m = task.entering ++ task.hand.events task'.hand := by
  cases task with
  | idle =>
    cases choice with
    | queue w =>
      obtain ⟨-, rfl⟩ : m = m' ∧ _ = task' := by simpa [exec] using ran
      rfl
    | cancel w =>
      obtain ⟨-, rfl⟩ : m = m' ∧ _ = task' := by simpa [exec] using ran
      rfl
    | begin =>
      obtain ⟨-, -, rfl⟩ : _ ∧ _ = m' ∧ _ = task' := by simpa [exec] using ran
      rfl
    | go env => simp [exec] at ran
  | queueing w pc =>
    cases choice with
    | go env =>
      have noted := queueWork_events (m := m) w env pc
      rcases went : queueWork () w env m pc with ⟨m'', pc' | accepted⟩ <;>
        simp only [exec, went, Option.some.injEq, Prod.mk.injEq] at ran <;>
        obtain ⟨rfl, rfl⟩ := ran <;>
        simpa [went] using noted
    | queue _ | cancel _ | begin => simp [exec] at ran
  | cancelling w pc =>
    cases choice with
    | go env =>
      obtain ⟨⟨m'', next⟩, went, same⟩ := Option.map_eq_some_iff.mp ran
      have noted := cancelWorkSync_events (fun here => queued w (by simp [here])) went
      cases next <;>
        simp only [Prod.mk.injEq] at same <;>
        obtain ⟨rfl, rfl⟩ := same <;>
        exact noted
    | queue _ | cancel _ | begin => simp [exec] at ran
  | worker pc =>
    cases choice with
    | go env =>
      obtain ⟨rfl, rfl⟩ : _ = m' ∧ _ = task' := by simpa [exec] using ran
      exact workqueueWorker_events pc
    | queue _ | cancel _ | begin => simp [exec] at ran

/-- How a step of a task bears on the execution that is about to enter its function. -/
theorem exec_starting {m m' : QueueMemory Item} {task task' : Task Item} {choice : Choice Item}
    (ran : exec m task choice = some (m', task')) :
    task'.starting = task.starting ∧ starts (task.events m) = [] ∧ entries (task.events m) = [] ∨
      task.hand.works = true ∧ ((∃ w, task.events m = [.started w] ∧ task.starting = none ∧
        task'.starting = some w) ∨ ∃ w, task.events m = [.entered w] ∧
        task.starting = some w ∧ task'.starting = none) := by
  cases task with
  | idle =>
    refine .inl ⟨?_, rfl, rfl⟩
    cases choice with
    | queue w | cancel w =>
      obtain ⟨-, rfl⟩ : m = m' ∧ _ = task' := by simpa [exec] using ran
      rfl
    | begin =>
      obtain ⟨-, -, rfl⟩ : _ ∧ _ = m' ∧ _ = task' := by simpa [exec] using ran
      rfl
    | go env => simp [exec] at ran
  | queueing w pc =>
    cases choice with
    | go env =>
      refine .inl ⟨?_, ?_, ?_⟩
      · rcases went : queueWork () w env m pc with ⟨m'', pc' | accepted⟩ <;>
          simp only [exec, went, Option.some.injEq, Prod.mk.injEq] at ran <;>
          obtain ⟨-, rfl⟩ := ran <;>
          rfl
      all_goals cases pc <;> simp only [Task.events] <;> try split
      all_goals rfl
    | queue _ | cancel _ | begin => simp [exec] at ran
  | cancelling w pc =>
    cases choice with
    | go env =>
      refine .inl ⟨?_, ?_, ?_⟩
      · obtain ⟨⟨m'', next⟩, went, same⟩ := Option.map_eq_some_iff.mp ran
        cases next <;> simp only [Prod.mk.injEq] at same <;> obtain ⟨-, rfl⟩ := same <;> rfl
      all_goals cases pc <;> simp only [Task.events] <;> try split
      all_goals rfl
    | queue _ | cancel _ | begin => simp [exec] at ran
  | worker pc =>
    cases choice with
    | go env =>
      obtain ⟨-, rfl⟩ : _ = m' ∧ _ = task' := by simpa [exec] using ran
      cases pc with
      | pop =>
        rcases popped : (m.list ()).pop with ⟨list, _ | w⟩ <;>
          simp [workqueueWorker, workqueuePopLocked, popped, Task.events, Task.starting, starts,
            entries]
      | block =>
        cases pending : (m.queues ()).unblocked <;>
          simp [workqueueWorker, pending, Task.events, Task.starting, starts, entries]
      | load w =>
        cases queued : (m.works w).state.queued <;>
          simp [workqueueWorker, queued, Task.events, Task.starting, starts, entries]
      | cas w running =>
        by_cases same : (m.works w).state = ⟨true, running⟩ <;>
          simp [workqueueWorker, same, Task.events, Task.starting, Hand.works, starts, entries]
      | call w => exact .inr ⟨rfl, .inr ⟨w, rfl, rfl, rfl⟩⟩
      | setRunning w | inFunc w | clearRunning w | clearState w | close w =>
        exact .inl ⟨rfl, rfl, rfl⟩
    | queue _ | cancel _ | begin => simp [exec] at ran

/-- Every execution but the one that is about to has entered its function, in the same order. -/
structure Entering (past : List (Event Item)) (threads : Id → Task Item) : Prop where
  /-- No execution is about to. -/
  all : (∀ t, (threads t).starting = none) → starts past = entries past
  /-- One execution is about to. -/
  but_one : ∀ t w, (threads t).starting = some w → starts past = w :: entries past

omit [DecidableEq Item] [Fintype Item] in
/-- Only a worker is about to enter a function. -/
theorem Task.works_of_starting {task : Task Item} {w : Item} (about : task.starting = some w) :
    task.hand.works = true := by
  cases task with
  | worker pc => cases pc <;> simp_all [Task.starting, Hand.works]
  | idle | queueing | cancelling => simp [Task.starting] at about

/-- Every step keeps account of the entered functions. -/
theorem Entering.step {past : List (Event Item)} {m m' : QueueMemory Item}
    {threads : Id → Task Item} {t : Id} {next : Task Item} {choice : Choice Item}
    (entering : Entering past threads)
    (one_worker : ∀ t u, t ≠ u → ¬((threads t).hand.works = true ∧ (threads u).hand.works = true))
    (ran : exec m (threads t) choice = some (m', next)) :
    Entering ((threads t).events m ++ past) (Function.update threads t next) := by
  obtain ⟨all, but_one⟩ := entering
  have split : ∀ new, starts (new ++ past) = starts new ++ starts past ∧
      entries (new ++ past) = entries new ++ entries past := fun new =>
    ⟨List.filterMap_append, List.filterMap_append⟩
  have others : (threads t).hand.works = true → ∀ u, u ≠ t → (threads u).starting = none :=
    fun works u apart => Option.eq_none_iff_forall_not_mem.mpr fun w about =>
      one_worker u t apart ⟨Task.works_of_starting about, works⟩
  rcases exec_starting ran with ⟨same, none, none'⟩ | ⟨works, ⟨w, noted, before, after⟩ |
    ⟨w, noted, before, after⟩⟩
  · have unchanged : ∀ u, (Function.update threads t next u).starting = (threads u).starting := by
      intro u
      by_cases here : u = t
      · subst here
        simpa using same
      · simp [Function.update_of_ne here]
    constructor <;> simpa only [unchanged, split, none, none', List.nil_append]
  · have idle : ∀ u, (threads u).starting = none := fun u => by
      by_cases here : u = t
      · exact here ▸ before
      · exact others works u here
    rw [noted]
    refine ⟨fun no => ?_, fun u v about => ?_⟩
    · have about := no t
      simp [after] at about
    · obtain rfl : u = t := by
        by_contra apart
        simp [Function.update_of_ne apart, idle u] at about
      obtain rfl : w = v := by simpa [after] using about
      exact congrArg (w :: ·) (all idle)
  · have last := but_one t w before
    rw [noted]
    refine ⟨fun _ => last, fun u v about => ?_⟩
    by_cases here : u = t
    · subst here
      simp [after] at about
    · simp [Function.update_of_ne here, others works u here] at about

/-- The interleavings of the tasks with the history of the queue. -/
def recorded : System (Tasks Id Item × List (Event Item)) (Id × Choice Item) :=
  (tasks Served).record fun p a => (p.threads a.1).events p.shared

/-- The ledger of a served queue, balanced by its history. -/
structure Accounted (p : Tasks Id Item) (past : List (Event Item)) (l : Ledger Item) : Prop where
  /-- The ledger is that of the queue. -/
  service : Service p l
  /-- The history balances the ledger. -/
  account : Account past l fun t => (p.threads t).hand
  /-- The history has the entered functions. -/
  entering : Entering past p.threads

omit [DecidableEq Id] [Fintype Item] in
/-- A served queue has no history. -/
theorem Served.accounted {p : Tasks Id Item} (served : Served p) :
    Accounted p [] ⟨[], fun _ => ⟨false, false⟩, fun _ => false⟩ := by
  obtain ⟨worker, working, others⟩ := served.worker
  have known : ∀ t, (p.threads t).starting = none := by
    intro t
    by_cases here : t = worker
    · rw [here, working]
      rfl
    · rw [others t here]
      rfl
  refine ⟨served.service, ⟨fun w => rfl, .nil, ?_, ?_, ?_, .nil⟩, fun _ => rfl, ?_⟩
  · exact fun t w _ v member => absurd member List.not_mem_nil
  · exact fun n member => absurd member List.not_mem_nil
  · exact fun n member => absurd member List.not_mem_nil
  · intro t w about
    simp [known t] at about

omit [DecidableEq Item] [Fintype Item] [DecidableEq Id] in
/-- Tasks of one queue have nothing to do with delays. -/
theorem Task.hand_plain (task : Task Item) (w : Item) :
    task.hand ≠ .arming w ∧ task.hand ≠ .armed w := by
  cases task with
  | idle => simp
  | queueing v pc | cancelling v pc | worker pc => cases pc <;> simp

omit [DecidableEq Item] [Fintype Item] in
/-- A step enters one function or none. -/
theorem Task.entering_cases (task : Task Item) :
    task.entering = [] ∨ ∃ w, task.entering = [.entered w] := by
  cases task with
  | worker pc => cases pc <;> simp
  | idle | queueing | cancelling => simp

/-- Every step of every task keeps the books. -/
theorem Accounted.step {p q : Tasks Id Item} {past : List (Event Item)} {l : Ledger Item}
    {a : Id × Choice Item} (accounted : Accounted p past l)
    (stepped : Pool.step exec p a = some q) :
    ∃ l', Accounted q ((p.threads a.1).events p.shared ++ past) l' := by
  obtain ⟨service, account, entering⟩ := accounted
  obtain ⟨l', after, moved⟩ := service.step stepped
  obtain ⟨shared, next, ran, rfl⟩ := Pool.step_eq_some.mp stepped
  have hands : (fun t => (Function.update p.threads a.1 next t).hand) =
      Function.update (fun t => (p.threads t).hand) a.1 next.hand :=
    funext fun t => Function.apply_update (fun _ => Task.hand) p.threads a.1 next t
  have queued : ∀ w, (p.threads a.1).hand = .clearing w →
      (p.shared.works w).state.queued = true := fun w clearing => by
    rw [service.models.state w]
    exact (service.ledger.held a.1 w (by rw [clearing]; rfl)).1
  have changed := account.step service.ledger (by simpa using moved)
    (fun w => (Task.hand_plain _ w).2) fun w => (Task.hand_plain next w).1
  refine ⟨l', after, ?_, entering.step service.ledger.one_worker ran⟩
  rw [exec_events queued ran, hands, List.append_assoc]
  rcases (p.threads a.1).entering_cases with none | ⟨w, entered⟩
  · rw [none]
    exact changed
  · rw [entered]
    exact changed.enter w

/-- What the history of a queue says of its state. -/
structure Conserved (p : Tasks Id Item) (past : List (Event Item)) : Prop where
  /-- The list has no cycle and no item twice and ends in its tail, and its items are `QUEUED`. -/
  list : ∃ nodes, (p.shared.list ()).Repr nodes ∧
    ∀ w ∈ nodes, (p.shared.works w).state.queued = true
  /-- Accepted work was started, was cancelled, or is `QUEUED`. -/
  balance : ∀ w, past.count (.accepted w) = past.count (.started w) + past.count (.cleared w) +
    if (p.shared.works w).state.queued then 1 else 0
  /-- Executions are in the order in which their items were appended. -/
  ordered : (startTickets past).Pairwise (· > ·)
  /-- Every execution but the one that is about to has entered its function, in the same
  order. -/
  entering : Entering past p.threads

/-- In every reachable state of a queue with one worker, the list is in order, accepted work
was started once, was cancelled, or is `QUEUED`, and executions keep the order of the appends. -/
theorem conserved {p : Tasks Id Item} {past : List (Event Item)}
    (reach : recorded.Reachable (p, past)) : Conserved p past := by
  obtain ⟨l, service, account, entering⟩ : ∃ l, Accounted p past l :=
    reach.invariant (fun s => ∃ l, Accounted s.1 s.2 l)
      (fun s initial => ⟨_, initial.2 ▸ initial.1.accounted⟩)
      fun s a t ⟨l, accounted⟩ _ stepped => by
        obtain ⟨moved, noted⟩ := System.record_step_eq_some.mp stepped
        exact noted ▸ accounted.step moved
  refine ⟨⟨l.nodes, service.models.list, fun w member => ?_⟩, fun w => ?_, account.ordered,
    entering⟩
  · rw [service.models.state w]
    exact (service.ledger.member w member).1
  · rw [service.models.state w]
    exact account.balance w

/-- The item is queued, executed, and queued again while its function runs: two calls were
accepted, one execution was started, and the item is `QUEUED`. -/
theorem conserved_requeued : ∃ (p : Tasks (Fin 2) Unit) (past : List (Event Unit)),
    Conserved p past ∧ past.count (.accepted ()) = 2 ∧ past.count (.started ()) = 1 ∧
      p.threads 1 = .worker (.inFunc ()) ∧ (p.shared.works ()).state = ⟨true, true⟩ := by
  have ran : ∃ p past, recorded.run (served, [])
        (queueing ++ List.replicate 5 (1, .go .ready) ++ (0, .go .ready) :: queueing) =
          some (p, past) ∧
      past.count (.accepted ()) = 2 ∧ past.count (.started ()) = 1 ∧
      p.threads 1 = .worker (.inFunc ()) ∧ (p.shared.works ()).state = ⟨true, true⟩ :=
    ⟨_, _, rfl, rfl, rfl, rfl, rfl⟩
  obtain ⟨p, past, reached, facts⟩ := ran
  have reach : recorded.Reachable (p, past) :=
    System.reachable_of_run (s := (served, [])) ⟨served_served, rfl⟩ reached
  exact ⟨p, past, conserved reach, facts⟩

end Lcompat.Workqueue
