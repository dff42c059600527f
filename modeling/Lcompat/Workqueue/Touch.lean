import Lcompat.Workqueue.Service

/-!
# Work items that free themselves

A served queue whose items are allocated and freed while it runs. An item may be freed by its own
function, as `lcompat_ieee80211_tx_status_work` does, and its memory may be allocated again at once.
The worker touches an item after the function has returned, so what it touches is alive only if the
function did not free it.
-/

namespace Lcompat.Workqueue

open Lcompat.Logic

/-- The tasks of a queue, with the memory of the items. -/
structure Objects (Id Item : Type) where
  /-- The tasks. -/
  tasks : Tasks Id Item
  /-- The items that are allocated. -/
  live : Item → Bool
  /-- How many times the memory of an item was allocated. -/
  born : Item → Nat
  /-- The allocation of the item that was popped last. -/
  popped : Nat

/-- What happens next. -/
inductive ObjectOp (Id Item : Type) where
  /-- A step of a task. -/
  | task (t : Id) (choice : Choice Item)
  /-- `kzalloc` and `INIT_WORK` of an item, or `INIT_DELAYED_WORK` of a delayed one. -/
  | alloc (w : Item) (delayed : Bool)
  /-- The function that a worker is executing frees its item. -/
  | free (t : Id)
  deriving DecidableEq

variable {Id Item : Type} [DecidableEq Id] [DecidableEq Item] [Fintype Item]

/-- What a task is about. -/
def Task.item? : Task Item → Option Item
  | .idle | .worker .pop | .worker .block => none
  | .queueing w _ | .cancelling w _ => some w
  | .worker (.load w) | .worker (.cas w _) | .worker (.setRunning w) | .worker (.call w)
  | .worker (.inFunc w) | .worker (.clearRunning w) | .worker (.clearState w)
  | .worker (.close w) => some w

/-- The item that a worker touches in its next step, or in the one after, where a plain item has no
`running` to store. -/
def WorkerPc.touches (m : QueueMemory Item) : WorkerPc Item → Option Item
  | .pop => (m.queues ()).head
  | .block | .inFunc _ => none
  | .load w | .cas w _ | .setRunning w | .call w | .clearRunning w | .clearState w | .close w =>
    some w

/-- A worker that looks for an item remembers its allocation. -/
def poppedNext (born : Item → Nat) (popped : Nat) (m : QueueMemory Item) : Task Item → Nat
  | .worker .pop => ((m.queues ()).head.map born).getD popped
  | _ => popped

/-- What happens to the tasks and the items. -/
def ObjectOp.run (s : Objects Id Item) : ObjectOp Id Item → Option (Objects Id Item)
  | .task t choice => (Pool.step exec s.tasks (t, choice)).map fun tasks =>
    { s with
      tasks
      popped := poppedNext s.born s.popped s.tasks.shared (s.tasks.threads t) }
  | .alloc w delayed =>
    if s.live w then none
    else some
      { s with
        tasks := ⟨{ s.tasks.shared.setWork w (fun _ => .init delayed) with
          next := Function.update s.tasks.shared.next w none }, s.tasks.threads⟩
        live := Function.update s.live w true
        born := Function.update s.born w (s.born w + 1) }
  | .free t =>
    match s.tasks.threads t with
    | .worker (.inFunc w) =>
      if s.live w then some { s with live := Function.update s.live w false } else none
    | _ => none

/-- The runs of a served queue and its items. -/
def objects (Id Item : Type) [DecidableEq Id] [DecidableEq Item] [Fintype Item] :
    System (Objects Id Item) (ObjectOp Id Item) where
  init s := Served s.tasks
  step := ObjectOp.run

/-- The functions of the queue are called for items that are allocated. -/
def CallsLive (s : Objects Id Item) : ObjectOp Id Item → Prop
  | .task _ (.queue w) | .task _ (.cancel w) => s.live w = true
  | .task _ .begin | .task _ (.go _) | .alloc _ _ | .free _ => True

/-- What a worker touches is alive, and it is the item that was popped. -/
def TouchesLive (s : Objects Id Item) : Prop :=
  ∀ t pc w, s.tasks.threads t = .worker pc → pc.touches s.tasks.shared = some w →
    s.live w = true ∧ (pc ≠ .pop → s.born w = s.popped)

/-- A function that returns did not free its item. -/
def ReturnsLive (s : Objects Id Item) : ObjectOp Id Item → Prop
  | .task t _ => ∀ w, s.tasks.threads t = .worker (.inFunc w) →
    s.live w = true ∧ s.born w = s.popped
  | .alloc _ _ | .free _ => True

/-- Nothing was freed: the queue is in order, and the items in it and in use are alive. -/
structure Intact (s : Objects Id Item) (l : Ledger Item) : Prop where
  /-- The queue is in order. -/
  service : Service s.tasks l
  /-- Listed items are alive. -/
  listed : ∀ w ∈ l.nodes, s.live w = true
  /-- Items in use are alive. -/
  used : ∀ t w, (s.tasks.threads t).item? = some w → s.live w = true
  /-- A worker has the item that was popped. -/
  working : ∀ t pc w, s.tasks.threads t = .worker pc → (Task.worker pc).item? = some w →
    s.born w = s.popped

/-- The only worker is inside a function that freed its item. -/
structure Doomed (s : Objects Id Item) (t : Id) (w : Item) : Prop where
  /-- The worker is inside the function. -/
  inside : s.tasks.threads t = .worker (.inFunc w)
  /-- There is no other worker. -/
  alone : ∀ u pc, s.tasks.threads u = .worker pc → u = t
  /-- The item is not the one that was popped, or it is dead. -/
  gone : s.popped < s.born w ∨ s.popped = s.born w ∧ s.live w = false

/-- Either nothing was freed, or a function that freed its item has not returned. -/
structure Holding (s : Objects Id Item) : Prop where
  /-- There is one worker. -/
  crew : Crew.Settled (s.tasks.shared.queues ()).crew fun t => (s.tasks.threads t).role
  /-- One of the two. -/
  either : (∃ l, Intact s l) ∨ ∃ t w, Doomed s t w

omit [Fintype Item] [DecidableEq Item] in
/-- The head of a list is in it. -/
theorem Models.head_mem {m : QueueMemory Item} {l : Ledger Item} (models : Models () m l) {w : Item}
    (head : (m.queues ()).head = some w) :
    w ∈ l.nodes := by
  have head : (m.list ()).head = some w := head
  have repr := models.list
  cases nodes : l.nodes with
  | nil =>
    have empty := repr.head_eq_none_iff.mpr nodes
    rw [empty] at head
    exact nomatch head
  | cons v rest =>
    rw [nodes] at repr
    have first : (m.list ()).head = some v := repr.chain.1
    obtain rfl := Option.some.inj (head.symm.trans first)
    exact List.mem_cons_self

section Holding

variable {s s' : Objects Id Item} {op : ObjectOp Id Item}

omit [DecidableEq Id] [DecidableEq Item] [Fintype Item] in
/-- A held queue touches nothing that is dead. -/
theorem Holding.touchesLive (holding : Holding s) : TouchesLive s := by
  intro t pc w working touches
  rcases holding.either with ⟨l, intact⟩ | ⟨u, v, doomed⟩
  · cases pc with
    | pop =>
      have member := intact.service.models.head_mem touches
      exact ⟨intact.listed w member, fun notPop => absurd rfl notPop⟩
    | block | inFunc v => exact nomatch touches
    | load v | cas v running | setRunning v | call v | clearRunning v | clearState v | close v =>
      obtain rfl := Option.some.inj touches
      exact ⟨intact.used t v (by rw [working]; rfl), fun _ => intact.working t _ v working rfl⟩
  · obtain rfl := doomed.alone t pc working
    obtain rfl := Task.worker.inj (working.symm.trans doomed.inside)
    exact nomatch touches

end Holding

section Steps

variable {s s' : Objects Id Item} {l : Ledger Item} {m m' : QueueMemory Item}

omit [DecidableEq Id] [DecidableEq Item] [Fintype Item] in
/-- What a task has in hand is what it is about. -/
theorem Task.item?_of_hand {task : Task Item} {w : Item}
    (hand : task.hand.Holds w ∨ task.hand = .running w) : task.item? = some w := by
  cases task with
  | idle => simp [Hand.Holds] at hand
  | queueing v pc => cases pc <;> simp_all [Hand.Holds, Task.item?]
  | cancelling v pc => cases pc <;> simp_all [Hand.Holds, Task.item?]
  | worker pc => cases pc <;> simp_all [Hand.Holds, Task.item?]

omit [Fintype Item] in
/-- A worker is about the item that it was about, or that it has popped. -/
theorem workqueueWorker_item? (pc : WorkerPc Item) {w : Item}
    (about : (Task.worker (workqueueWorker () m pc).2).item? = some w) :
    (Task.worker pc).item? = some w ∨ pc = .pop ∧ (m.queues ()).head = some w := by
  cases pc with
  | pop =>
    right
    refine ⟨rfl, ?_⟩
    cases head : (m.queues ()).head with
    | none =>
      simp [workqueueWorker, workqueuePopLocked, LinkedQueue.pop, Memory.list, head,
        Task.item?] at about
    | some v =>
      simpa [workqueueWorker, workqueuePopLocked, LinkedQueue.pop, Memory.list, head,
        Task.item?] using about
  | block =>
    cases unblocked : (m.queues ()).unblocked <;>
      simp [workqueueWorker, unblocked, Task.item?] at about
  | load v =>
    cases queued : (m.works v).state.queued <;>
      simp_all [workqueueWorker, Task.item?]
  | cas v running =>
    by_cases same : (m.works v).state = ⟨true, running⟩ <;>
      simp_all [workqueueWorker, Task.item?]
  | setRunning v | call v | inFunc v | clearRunning v | clearState v | close v =>
    simp_all [workqueueWorker, Task.item?]

/-- A task is about the item that it was about, that it calls a function for, or that it pops. -/
theorem exec_item? {task task' : Task Item} {choice : Choice Item}
    (ran : exec m task choice = some (m', task')) {w : Item} (about : task'.item? = some w) :
    task.item? = some w ∨ choice = .queue w ∨ choice = .cancel w ∨
      task = .worker .pop ∧ (m.queues ()).head = some w := by
  cases task with
  | idle =>
    cases choice with
    | queue v =>
      obtain ⟨rfl, rfl⟩ : m = m' ∧ _ = task' := by simpa [exec] using ran
      exact .inr (.inl (by rw [Option.some.inj about]))
    | cancel v =>
      obtain ⟨rfl, rfl⟩ : m = m' ∧ _ = task' := by simpa [exec] using ran
      exact .inr (.inr (.inl (by rw [Option.some.inj about])))
    | begin =>
      obtain ⟨-, -, rfl⟩ : 0 < (m.queues ()).workersUnstarted ∧ _ = m' ∧ _ = task' := by
        simpa [exec] using ran
      cases about
    | go env => simp [exec] at ran
  | queueing v pc =>
    cases choice with
    | go env =>
      left
      rcases went : queueWork () v env m pc with ⟨m'', pc' | accepted⟩ <;>
        simp only [exec, went, Option.some.injEq, Prod.mk.injEq] at ran <;>
        obtain ⟨-, rfl⟩ := ran
      · exact about
      · cases about
    | queue _ | cancel _ | begin => simp [exec] at ran
  | cancelling v pc =>
    cases choice with
    | go env =>
      left
      obtain ⟨⟨m'', next⟩, went, same⟩ := Option.map_eq_some_iff.mp ran
      cases next <;>
        simp only [Prod.mk.injEq] at same <;>
        obtain ⟨-, rfl⟩ := same
      · exact about
      · cases about
    | queue _ | cancel _ | begin => simp [exec] at ran
  | worker pc =>
    cases choice with
    | go env =>
      obtain ⟨rfl, rfl⟩ : _ = m' ∧ _ = task' := by simpa [exec] using ran
      rcases workqueueWorker_item? pc about with before | ⟨rfl, head⟩
      · exact .inl before
      · exact .inr (.inr (.inr ⟨rfl, head⟩))
    | queue _ | cancel _ | begin => simp [exec] at ran

omit [DecidableEq Id] [DecidableEq Item] [Fintype Item] in
/-- A worker has a worker's hand. -/
theorem WorkerPc.hand_works (pc : WorkerPc Item) : pc.hand.works = true := by
  cases pc <;> rfl

omit [DecidableEq Id] [DecidableEq Item] [Fintype Item] in
/-- There is one worker. -/
theorem Intact.one_worker (intact : Intact s l) {t u : Id} {pc pc' : WorkerPc Item}
    (here : s.tasks.threads t = .worker pc) (there : s.tasks.threads u = .worker pc') : u = t := by
  by_contra different
  apply intact.service.ledger.one_worker u t different
  rw [here, there]
  exact ⟨pc'.hand_works, pc.hand_works⟩

/-- A step of a task keeps the items alive, if functions are called for live ones. -/
theorem Intact.task (intact : Intact s l) {t : Id} {choice : Choice Item}
    (calls : CallsLive s (.task t choice))
    (ran : ObjectOp.run s (.task t choice) = some s') : ∃ l', Intact s' l' := by
  obtain ⟨tasks, stepped, rfl⟩ := Option.map_eq_some_iff.mp ran
  obtain ⟨l', service, moved⟩ := intact.service.step stepped
  obtain ⟨m', next, executed, rfl⟩ := Pool.step_eq_some.mp stepped
  have models := intact.service.models
  have about : ∀ w, next.item? = some w → s.live w = true := by
    intro w about
    rcases exec_item? executed about with before | rfl | rfl | ⟨-, head⟩
    · exact intact.used t w before
    · exact calls
    · exact calls
    · exact intact.listed w (models.head_mem head)
  refine ⟨l', service, ?_, ?_, ?_⟩
  · intro w member
    by_cases before : w ∈ l.nodes
    · exact intact.listed w before
    · by_contra dead
      have other : (s.tasks.threads t).hand ≠ .appending w := by
        intro appending
        exact dead (intact.used t w (Task.item?_of_hand (.inl (by rw [appending]; rfl))))
      exact moved.not_mem other before member
  · intro u w there
    by_cases same : u = t
    · simp only [same, Function.update_self] at there
      exact about w there
    · simp only [Function.update_of_ne same] at there
      exact intact.used u w there
  · intro u pc w working item
    by_cases same : u = t
    · simp only [same, Function.update_self] at working
      rw [working] at executed
      obtain ⟨pc', before, went⟩ := exec_worker intact.service.crew.unstarted executed
      have here : (Task.worker (workqueueWorker () s.tasks.shared pc').2).item? = some w := by
        rw [went]
        exact item
      dsimp only at before
      rcases workqueueWorker_item? pc' here with kept | ⟨rfl, head⟩
      · have same : poppedNext s.born s.popped s.tasks.shared (s.tasks.threads t) = s.popped := by
          rw [before]
          cases pc' <;> first | rfl | cases kept
        show s.born w = poppedNext s.born s.popped s.tasks.shared (s.tasks.threads t)
        rw [same]
        exact intact.working t pc' w before kept
      · show s.born w = poppedNext s.born s.popped s.tasks.shared (s.tasks.threads t)
        simp [before, poppedNext, head]
    · simp only [Function.update_of_ne same] at working
      have unmoved : poppedNext s.born s.popped s.tasks.shared (s.tasks.threads t) = s.popped := by
        cases here : s.tasks.threads t with
        | worker pc' => exact absurd (intact.one_worker here working) same
        | idle | queueing v pc' | cancelling v pc' => rfl
      show s.born w = poppedNext s.born s.popped s.tasks.shared (s.tasks.threads t)
      rw [unmoved]
      exact intact.working u pc w working item

/-- An item is allocated that nobody uses. -/
theorem Intact.alloc (intact : Intact s l) {w : Item} {delayed : Bool}
    (ran : ObjectOp.run s (.alloc w delayed) = some s') : ∃ l', Intact s' l' := by
  simp only [ObjectOp.run, Option.ite_none_left_eq_some, Option.some.injEq] at ran
  obtain ⟨dead, rfl⟩ := ran
  obtain ⟨crew, models, ledger⟩ := intact.service
  have unused : ∀ t, (s.tasks.threads t).item? ≠ some w := fun t about =>
    dead (intact.used t w about)
  have unlisted : w ∉ l.nodes := fun member => dead (intact.listed w member)
  have apart : ∀ t, ¬(s.tasks.threads t).hand.Holds w ∧ (s.tasks.threads t).hand ≠ .running w :=
    fun t => ⟨fun holds => unused t (Task.item?_of_hand (.inl holds)),
      fun running => unused t (Task.item?_of_hand (.inr running))⟩
  have other : ∀ v, v ≠ w → (Function.update s.live w true) v = s.live v ∧
      (Function.update s.born w (s.born w + 1)) v = s.born v := fun v different =>
    ⟨Function.update_of_ne different .., Function.update_of_ne different ..⟩
  refine ⟨(l.setState w ⟨false, false⟩).setLinked w false, ⟨crew, ?_, ?_⟩, ?_, ?_, ?_⟩
  · refine ⟨?_, ?_, ?_⟩
    · refine models.list.frame fun v member => ?_
      have different : v ≠ w := fun same => unlisted (same ▸ member)
      exact Function.update_of_ne different ..
    · intro v
      by_cases same : v = w
      · subst same
        simp [WorkStruct.init]
      · simpa [Memory.setWork, same] using models.state v
    · intro v
      by_cases same : v = w
      · subst same
        simp [WorkStruct.init]
      · simpa [Memory.setWork, same] using models.linked v
  · obtain ⟨nodup, member, held, one_holder, executing, waiting, one_worker⟩ := ledger
    constructor <;>
      simp only [Ledger.setLinked_nodes, Ledger.setLinked_state, Ledger.setLinked_linked,
        Ledger.setState_nodes, Ledger.setState_state, Ledger.setState_linked] <;>
      grind -ring -linarith [Hand.Holds, Hand.works]
  · intro v member
    by_cases same : v = w
    · simp [same]
    · exact (other v same).1.trans (intact.listed v member)
  · intro t v about
    by_cases same : v = w
    · simp [same]
    · exact (other v same).1.trans (intact.used t v about)
  · intro t pc v working item
    have same : v ≠ w := by
      rintro rfl
      have working : s.tasks.threads t = .worker pc := working
      exact unused t (by rw [working, item])
    exact (other v same).2.trans (intact.working t pc v working item)

/-- A function that frees its item has not returned. -/
theorem Intact.free (intact : Intact s l) {t : Id} (ran : ObjectOp.run s (.free t) = some s') :
    ∃ w, Doomed s' t w := by
  cases inside : s.tasks.threads t with
  | worker pc =>
    cases pc with
    | inFunc w =>
      simp only [ObjectOp.run, inside, Option.ite_none_right_eq_some, Option.some.injEq] at ran
      obtain ⟨-, rfl⟩ := ran
      refine ⟨w, inside, ?_, ?_⟩
      · exact fun u pc working => intact.one_worker inside working
      · have same := intact.working t _ w inside rfl
        exact .inr ⟨same.symm, Function.update_self ..⟩
    | pop | block | load w | cas w running | setRunning w | call w | clearRunning w
    | clearState w | close w =>
      simp [ObjectOp.run, inside] at ran
  | idle | queueing w pc | cancelling w pc => simp [ObjectOp.run, inside] at ran

/-- A function that freed its item and does not return has not returned. -/
theorem Doomed.step {op : ObjectOp Id Item} {t : Id} {w : Item} (doomed : Doomed s t w)
    (crew : Crew.Settled (s.tasks.shared.queues ()).crew fun t => (s.tasks.threads t).role)
    (returns : ReturnsLive s op) (ran : ObjectOp.run s op = some s') : Doomed s' t w := by
  obtain ⟨inside, alone, gone⟩ := doomed
  cases op with
  | task u choice =>
    obtain ⟨tasks, stepped, rfl⟩ := Option.map_eq_some_iff.mp ran
    obtain ⟨m', next, executed, rfl⟩ := Pool.step_eq_some.mp stepped
    have apart : t ≠ u := by
      rintro rfl
      obtain ⟨alive, same⟩ := returns w inside
      rcases gone with later | ⟨-, dead⟩
      · omega
      · rw [alive] at dead
        exact nomatch dead
    have notWorker : ∀ pc, s.tasks.threads u ≠ .worker pc := fun pc working =>
      apart (alone u pc working).symm
    have same : poppedNext s.born s.popped s.tasks.shared (s.tasks.threads u) = s.popped := by
      cases here : s.tasks.threads u with
      | worker pc => exact absurd here (notWorker pc)
      | idle | queueing v pc | cancelling v pc => rfl
    refine ⟨?_, ?_, ?_⟩
    · simp only [Function.update_of_ne apart]
      exact inside
    · intro v pc working
      by_cases moved : v = u
      · simp only [moved, Function.update_self] at working
        rw [working] at executed
        obtain ⟨pc', before, -⟩ := exec_worker crew.unstarted executed
        exact absurd before (notWorker pc')
      · simp only [Function.update_of_ne moved] at working
        exact alone v pc working
    · simp only [same]
      exact gone
  | alloc v delayed =>
    simp only [ObjectOp.run, Option.ite_none_left_eq_some, Option.some.injEq] at ran
    obtain ⟨-, rfl⟩ := ran
    refine ⟨inside, alone, ?_⟩
    by_cases same : w = v
    · subst same
      left
      simp only [Function.update_self]
      omega
    · simpa only [Function.update_of_ne same] using gone
  | free u =>
    cases here : s.tasks.threads u with
    | worker pc =>
      obtain rfl := alone u pc here
      obtain rfl := Task.worker.inj (here.symm.trans inside)
      simp only [ObjectOp.run, here, Option.ite_none_right_eq_some, Option.some.injEq] at ran
      obtain ⟨-, rfl⟩ := ran
      refine ⟨inside, alone, ?_⟩
      simp only [Function.update_self, and_true]
      omega
    | idle | queueing v pc | cancelling v pc => simp [ObjectOp.run, here] at ran

end Steps

section Runs

variable {s s' : Objects Id Item} {op : ObjectOp Id Item}

/-- The one worker stays the only one. -/
theorem Holding.crew_step (holding : Holding s) (ran : ObjectOp.run s op = some s') :
    Crew.Settled (s'.tasks.shared.queues ()).crew fun t => (s'.tasks.threads t).role := by
  cases op with
  | task t choice =>
    obtain ⟨tasks, stepped, rfl⟩ := Option.map_eq_some_iff.mp ran
    obtain ⟨m', next, executed, rfl⟩ := Pool.step_eq_some.mp stepped
    obtain ⟨sameCrew, sameRole⟩ := holding.crew.step (exec_crew executed)
    have roles : (fun u => (Function.update s.tasks.threads t next u).role) =
        fun u => (s.tasks.threads u).role := by
      funext u
      by_cases here : u = t
      · subst here
        simpa using sameRole
      · simp [Function.update_of_ne here]
    simpa only [sameCrew, roles] using holding.crew
  | alloc w delayed =>
    simp only [ObjectOp.run, Option.ite_none_left_eq_some, Option.some.injEq] at ran
    obtain ⟨-, rfl⟩ := ran
    exact holding.crew
  | free t =>
    cases here : s.tasks.threads t with
    | worker pc =>
      cases pc with
      | inFunc w =>
        simp only [ObjectOp.run, here, Option.ite_none_right_eq_some, Option.some.injEq] at ran
        obtain ⟨-, rfl⟩ := ran
        exact holding.crew
      | _ => simp [ObjectOp.run, here] at ran
    | _ => simp [ObjectOp.run, here] at ran

/-- A queue stays held when functions return with their items alive. -/
theorem Holding.step (holding : Holding s) (calls : CallsLive s op) (returns : ReturnsLive s op)
    (ran : ObjectOp.run s op = some s') : Holding s' := by
  refine ⟨holding.crew_step ran, ?_⟩
  rcases holding.either with ⟨l, intact⟩ | ⟨t, w, doomed⟩
  · cases op with
    | task t choice => exact .inl (intact.task calls ran)
    | alloc w delayed => exact .inl (intact.alloc ran)
    | free t =>
      obtain ⟨w, doomed⟩ := intact.free ran
      exact .inr ⟨t, w, doomed⟩
  · exact .inr ⟨t, w, doomed.step holding.crew returns ran⟩

/-- After a function has returned, the worker is about to touch its item. -/
theorem TouchesLive.returns (touches : TouchesLive s') (ran : ObjectOp.run s op = some s') :
    ReturnsLive s op := by
  cases op with
  | task t choice =>
    intro w inside
    obtain ⟨tasks, stepped, rfl⟩ := Option.map_eq_some_iff.mp ran
    obtain ⟨m', next, executed, rfl⟩ := Pool.step_eq_some.mp stepped
    dsimp only at executed
    rw [inside] at executed
    cases choice with
    | go env =>
      obtain ⟨rfl, rfl⟩ : _ = m' ∧ _ = next := by simpa [exec] using executed
      have moved := touches t (.clearRunning w) w (Function.update_self ..) rfl
      have same : poppedNext s.born s.popped s.tasks.shared (s.tasks.threads t) = s.popped := by
        rw [inside]
        rfl
      exact ⟨moved.1, (moved.2 fun same => by cases same).trans same⟩
    | queue _ | cancel _ | begin => simp [exec] at executed
  | alloc _ _ | free _ => trivial

omit [DecidableEq Id] [DecidableEq Item] [Fintype Item] in
/-- A served queue whose items nobody uses is held. -/
theorem Served.holding (served : Served s.tasks) : Holding s := by
  have service := served.service
  obtain ⟨worker, working, others⟩ := served.worker
  have known : ∀ t, (s.tasks.threads t).item? = none := by
    intro t
    by_cases here : t = worker
    · rw [here, working]
      rfl
    · rw [others t here]
      rfl
  refine ⟨service.crew, .inl ⟨_, service, ?_, ?_, ?_⟩⟩
  · exact fun w member => absurd member List.not_mem_nil
  · intro t w about
    rw [known t] at about
    cases about
  · intro t pc w here about
    have none_ := known t
    rw [here, about] at none_
    exact nomatch none_

/-- In every run of a served queue whose functions are called for allocated items, the worker
touches live items only, each the one that it popped, if and only if no work function frees its
item before it returns. -/
theorem worker_touches_live_iff {labels : List (ObjectOp Id Item)} (served : Served s.tasks)
    (calls : (objects Id Item).Along CallsLive s labels)
    (ran : (objects Id Item).run s labels = some s') :
    (objects Id Item).Throughout TouchesLive s labels ↔
      (objects Id Item).Along ReturnsLive s labels :=
  System.throughout_iff_along (fun _ holding => holding.touchesLive)
    (fun _ _ _ holding calls returns stepped => holding.step calls returns stepped)
    (fun _ _ _ _ _ stepped touches => touches.returns stepped) served.holding calls ran

end Runs

section Instances

/-- It can be decided whether a function is called for an allocated item. -/
instance (s : Objects Id Item) : (op : ObjectOp Id Item) → Decidable (CallsLive s op)
  | .task _ (.queue w) | .task _ (.cancel w) => inferInstanceAs (Decidable (s.live w = true))
  | .task _ .begin | .task _ (.go _) | .alloc _ _ | .free _ => inferInstanceAs (Decidable True)

/-- It can be decided whether a function freed its item. -/
instance (s : Objects Id Item) : (op : ObjectOp Id Item) → Decidable (ReturnsLive s op)
  | .task t _ => inferInstanceAs (Decidable (∀ w, s.tasks.threads t = .worker (.inFunc w) →
      s.live w = true ∧ s.born w = s.popped))
  | .alloc _ _ | .free _ => inferInstanceAs (Decidable True)

/-- A served queue, and an item whose memory is not allocated. -/
def unallocated : Objects (Fin 2) Unit :=
  ⟨⟨⟨fun _ => { WorkqueueStruct.alloc with workerTask := true, workersCreated := 1 },
      fun _ => .init false, fun _ => none⟩,
      fun t => if t = 0 then .worker .pop else .idle⟩,
    fun _ => false, fun _ => 0, 0⟩

/-- The queue is served. -/
theorem unallocated_served : Served unallocated.tasks :=
  ⟨rfl, fun _ => rfl, 0, rfl, by decide⟩

/-- A number of steps of a task. -/
def taskSteps (t : Fin 2) (count : Nat) : List (ObjectOp (Fin 2) Unit) :=
  List.replicate count (.task t (.go ⟨true, 0⟩))

/-- The item is allocated and queued, and the worker gets into its function. -/
def untilInside : List (ObjectOp (Fin 2) Unit) :=
  .alloc () false :: .task 1 (.queue ()) :: taskSteps 1 6 ++ taskSteps 0 5

/-- When the function returns with its item alive, the worker touches nothing that is dead. -/
theorem worker_touches_live_iff_returned : ∃ s', (objects (Fin 2) Unit).run unallocated
      (untilInside ++ taskSteps 0 4) = some s' ∧ s'.tasks.threads 0 = .worker .pop ∧
    (objects (Fin 2) Unit).Throughout TouchesLive unallocated (untilInside ++ taskSteps 0 4) := by
  have ran : ((objects (Fin 2) Unit).runWith (fun s op => CallsLive s op ∧ ReturnsLive s op)
      unallocated (untilInside ++ taskSteps 0 4)).map (fun s => s.tasks.threads 0) =
        some (.worker .pop) := by
    decide +kernel
  obtain ⟨s', executed, popping⟩ := Option.map_eq_some_iff.mp ran
  obtain ⟨along, run⟩ := System.along_of_runWith executed
  have calls := along.mono fun _ _ both => both.1
  have returns := along.mono fun _ _ both => both.2
  exact ⟨s', run, popping, (worker_touches_live_iff unallocated_served calls run).mpr returns⟩

/-- When the function frees its item, the worker touches it after the function has returned. -/
theorem worker_touches_freed : ¬∀ s : Objects (Fin 2) Unit,
    (objects (Fin 2) Unit).Reach CallsLive s → TouchesLive s := by
  intro claimed
  have ran : ((objects (Fin 2) Unit).runWith CallsLive unallocated
      (untilInside ++ .free 0 :: taskSteps 0 2)).map (fun s => (s.tasks.threads 0, s.live ())) =
        some (.worker (.clearState ()), false) := by
    decide +kernel
  obtain ⟨s, executed, found⟩ := Option.map_eq_some_iff.mp ran
  obtain ⟨working, dead⟩ := Prod.mk.inj found
  have reach : (objects (Fin 2) Unit).Reach CallsLive s :=
    ⟨unallocated, unallocated_served, System.path_of_runWith executed⟩
  have alive := (claimed s reach 0 _ () working rfl).1
  rw [dead] at alive
  exact Bool.false_ne_true alive

end Instances

end Lcompat.Workqueue
