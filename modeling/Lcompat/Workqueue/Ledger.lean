import Lcompat.Workqueue.Model

/-!
# The ledger of a queue

An abstract view of one queue: its items in order, the state word of every item, and which
items say that they are in this queue. What a task has in hand is one of a few cases, such as
an item it has marked `QUEUED` and not yet appended. Every step of the model is a step of this
ledger; the invariant says that the `QUEUED` bit of an item in the list or in a hand is set and
that nothing has it twice, which is what makes the next append or removal safe.
-/

namespace Lcompat.Workqueue

open Lcompat.Logic

/-- Abstract contents of a queue. -/
structure Ledger (Item : Type) where
  /-- Items in the list, first to last. -/
  nodes : List Item
  /-- State words. -/
  state : Item → WorkState
  /-- Whether `wq` of an item is this queue. -/
  linked : Item → Bool

/-- What a task has in hand. -/
inductive Hand (Item : Type) where
  /-- Nothing. -/
  | free
  /-- A client that wants to queue an item. -/
  | asking (w : Item)
  /-- A client that has set `QUEUED` and not appended yet. -/
  | appending (w : Item)
  /-- A client that has removed an item and not cleared `QUEUED` yet. -/
  | clearing (w : Item)
  /-- A client that has set `QUEUED` for a delay and not stored the queue yet. -/
  | arming (w : Item)
  /-- A client, a created timer task or the scheduler that keeps an item `QUEUED` for its
  delay. -/
  | armed (w : Item)
  /-- The worker between two items. -/
  | serving
  /-- The worker with a popped item. -/
  | popped (w : Item)
  /-- The worker with an item that it has marked `RUNNING`. -/
  | running (w : Item)
  /-- The worker with an item that it is done with. -/
  | closing (w : Item)
  deriving DecidableEq

/-- The `QUEUED` bit of an item is held by the task that is going to append or clear it, has
popped it, or waits for its delay. -/
def Hand.Holds {Item : Type} (w : Item) : Hand Item → Prop
  | .appending v | .clearing v | .popped v | .arming v | .armed v => v = w
  | _ => False

/-- The hands of workers. -/
def Hand.works {Item : Type} : Hand Item → Bool
  | .serving | .popped _ | .running _ | .closing _ => true
  | _ => false

variable {Queue Item : Type} [DecidableEq Queue] [DecidableEq Item]

namespace Ledger

/-- Change a state word. -/
def setState (l : Ledger Item) (w : Item) (state : WorkState) : Ledger Item :=
  { l with state := Function.update l.state w state }

/-- Change whether an item says that it is in this queue. -/
def setLinked (l : Ledger Item) (w : Item) (linked : Bool) : Ledger Item :=
  { l with linked := Function.update l.linked w linked }

section Access

variable (l : Ledger Item) (w v : Item)

/-- State words do not hold the list. -/
@[simp, grind =]
theorem setState_nodes (state : WorkState) : (l.setState w state).nodes = l.nodes :=
  rfl

/-- State words do not hold links. -/
@[simp, grind =]
theorem setState_linked (state : WorkState) : (l.setState w state).linked = l.linked :=
  rfl

/-- One state word changes. -/
@[simp, grind =]
theorem setState_state (state : WorkState) :
    (l.setState w state).state v = if v = w then state else l.state v :=
  Function.update_apply ..

/-- Links do not hold the list. -/
@[simp, grind =]
theorem setLinked_nodes (linked : Bool) : (l.setLinked w linked).nodes = l.nodes :=
  rfl

/-- Links do not hold state words. -/
@[simp, grind =]
theorem setLinked_state (linked : Bool) : (l.setLinked w linked).state = l.state :=
  rfl

/-- One link changes. -/
@[simp, grind =]
theorem setLinked_linked (linked : Bool) :
    (l.setLinked w linked).linked v = if v = w then linked else l.linked v :=
  Function.update_apply ..

end Access

/-- What a task can do to a queue. -/
inductive Step : Ledger Item → Hand Item → Ledger Item → Hand Item → Prop
  /-- Nothing that concerns the ledger. -/
  | keep (l : Ledger Item) (h : Hand Item) : Step l h l h
  /-- A client begins to queue an item. -/
  | ask (l : Ledger Item) (w : Item) : Step l .free l (.asking w)
  /-- The item is queued already, or there is no worker. -/
  | refuse (l : Ledger Item) (w : Item) : Step l (.asking w) l .free
  /-- `QUEUED` is set. -/
  | claim (l : Ledger Item) (w : Item) (clear : (l.state w).queued = false) :
      Step l (.asking w) (l.setState w ⟨true, (l.state w).running⟩) (.appending w)
  /-- The item is appended. -/
  | append (l : Ledger Item) (w : Item) :
      Step l (.appending w) ({ l with nodes := l.nodes ++ [w] }.setLinked w true) .free
  /-- The item is removed. -/
  | remove (l : Ledger Item) (w : Item) (member : w ∈ l.nodes) :
      Step l .free ({ l with nodes := l.nodes.erase w }.setLinked w false) (.clearing w)
  /-- `QUEUED` of the removed item is cleared. -/
  | clear (l : Ledger Item) (w : Item) :
      Step l (.clearing w) (l.setState w ⟨false, (l.state w).running⟩) .free
  /-- `QUEUED` is set for a delay. -/
  | arm (l : Ledger Item) (w : Item) (idle : l.state w = ⟨false, false⟩) :
      Step l .free (l.setState w ⟨true, false⟩) (.arming w)
  /-- The queue is stored for the time after the delay. -/
  | link (l : Ledger Item) (w : Item) : Step l (.arming w) (l.setLinked w true) (.armed w)
  /-- The delay is given up. -/
  | disarm (l : Ledger Item) (w : Item) :
      Step l (.armed w) (l.setState w ⟨false, false⟩) .free
  /-- The delay is over, and the item is to be queued. -/
  | fire (l : Ledger Item) (w : Item) :
      Step l (.armed w) (l.setState w ⟨false, false⟩) (.asking w)
  /-- The worker takes the first item. -/
  | pop (l : Ledger Item) (w : Item) (rest : List Item) (first : l.nodes = w :: rest) :
      Step l .serving { l with nodes := rest } (.popped w)
  /-- The worker turns `QUEUED` into `RUNNING`. -/
  | accept (l : Ledger Item) (w : Item) : Step l (.popped w) (l.setState w ⟨false, true⟩)
      (.running w)
  /-- The popped item is not `QUEUED`. -/
  | pass (l : Ledger Item) (w : Item) (clear : (l.state w).queued = false) :
      Step l (.popped w) l (.closing w)
  /-- `RUNNING` is cleared. -/
  | finish (l : Ledger Item) (w : Item) :
      Step l (.running w) (l.setState w ⟨(l.state w).queued, false⟩) (.closing w)
  /-- The worker is done with the item. -/
  | close (l : Ledger Item) (w : Item) :
      Step l (.closing w) (if (l.state w).queued then l else l.setLinked w false) .serving

/-- Only an append brings an item into the list. -/
theorem Step.not_mem {l l' : Ledger Item} {h h' : Hand Item} (stepped : Step l h l' h') {w : Item}
    (other : h ≠ .appending w) (absent : w ∉ l.nodes) : w ∉ l'.nodes := by
  cases stepped with
  | append v =>
    have apart : w ≠ v := fun same => other (by rw [same])
    simp [absent, apart]
  | remove v => exact fun member => absent (List.mem_of_mem_erase member)
  | pop v rest first => exact fun member => absent (first ▸ List.mem_cons_of_mem v member)
  | close v => split <;> exact absent
  | keep | ask | refuse | claim | clear | arm | link | disarm | fire | accept | pass | finish =>
    exact absent

/-- The worker gets an item from the list. -/
theorem Step.mem_of_popped {l l' : Ledger Item} {w : Item}
    (stepped : Step l .serving l' (.popped w)) : w ∈ l.nodes := by
  cases stepped with
  | pop v rest first => simp [first]

/-- A list without repetition whose items are `QUEUED` and linked, and hands that hold the
`QUEUED` bit of an item alone, the list included. -/
structure Inv {Id : Type} (l : Ledger Item) (hands : Id → Hand Item) : Prop where
  /-- No item is in the list twice. -/
  nodup : l.nodes.Nodup
  /-- Items in the list are `QUEUED` and linked. -/
  member : ∀ w ∈ l.nodes, (l.state w).queued = true ∧ l.linked w = true
  /-- Items in a hand are `QUEUED` and not in the list. -/
  held : ∀ t w, (hands t).Holds w → (l.state w).queued = true ∧ w ∉ l.nodes
  /-- No two hands hold one item. -/
  one_holder : ∀ t u w, t ≠ u → ¬((hands t).Holds w ∧ (hands u).Holds w)
  /-- The item being executed is `RUNNING`. -/
  executing : ∀ t w, hands t = .running w → (l.state w).running = true
  /-- An item that waits for its delay is not being executed, and it is linked as soon as its
  queue is stored. -/
  waiting : ∀ t w, (hands t = .arming w → (l.state w).running = false) ∧
    (hands t = .armed w → (l.state w).running = false ∧ l.linked w = true)
  /-- There is at most one worker. -/
  one_worker : ∀ t u, t ≠ u → ¬((hands t).works = true ∧ (hands u).works = true)

variable {Id : Type} [DecidableEq Id]

/-- Every step keeps the invariant. -/
theorem Inv.step {l l' : Ledger Item} {hands : Id → Hand Item} {t : Id} {hand : Hand Item}
    (inv : Inv l hands) (stepped : Step l (hands t) l' hand) :
    Inv l' (Function.update hands t hand) := by
  obtain ⟨nodup, member, held, one_holder, executing, waiting, one_worker⟩ := inv
  generalize here : hands t = before at stepped
  cases stepped with
  | keep =>
    rw [← here, Function.update_eq_self]
    exact ⟨nodup, member, held, one_holder, executing, waiting, one_worker⟩
  | ask w | refuse w => constructor <;> grind -ring -linarith [Hand.Holds, Hand.works]
  | claim w clear => constructor <;> grind -ring -linarith [Hand.Holds, Hand.works]
  | append w => constructor <;> grind -ring -linarith [Hand.Holds, Hand.works]
  | remove w inList => constructor <;> grind -ring -linarith [Hand.Holds, Hand.works]
  | clear w => constructor <;> grind -ring -linarith [Hand.Holds, Hand.works]
  | arm w idle => constructor <;> grind -ring -linarith [Hand.Holds, Hand.works]
  | link w => constructor <;> grind -ring -linarith [Hand.Holds, Hand.works]
  | disarm w | fire w => constructor <;> grind -ring -linarith [Hand.Holds, Hand.works]
  | pop w rest first => constructor <;> grind -ring -linarith [Hand.Holds, Hand.works]
  | accept w => constructor <;> grind -ring -linarith [Hand.Holds, Hand.works]
  | pass w clear => constructor <;> grind -ring -linarith [Hand.Holds, Hand.works]
  | finish w => constructor <;> grind -ring -linarith [Hand.Holds, Hand.works]
  | close w => constructor <;> grind -ring -linarith [Hand.Holds, Hand.works]

/-- The two bits of a state word are set only for a reason. -/
structure Tight {Id : Type} (l : Ledger Item) (hands : Id → Hand Item) : Prop where
  /-- An item that is nowhere is not `QUEUED`. -/
  nowhere : ∀ w, w ∉ l.nodes → (∀ t, ¬(hands t).Holds w) → (l.state w).queued = false
  /-- An item that is not being executed is not `RUNNING`. -/
  resting : ∀ w, (∀ t, hands t ≠ .running w) → (l.state w).running = false

/-- Where the `QUEUED` bit of an item comes from. -/
theorem Step.queued {l l' : Ledger Item} {h h' : Hand Item} (stepped : Step l h l' h') {w : Item}
    (queued : (l'.state w).queued = true) :
    w ∈ l'.nodes ∨ h'.Holds w ∨ w ∉ l.nodes ∧ ¬h.Holds w ∧ (l.state w).queued = true := by
  cases stepped with
  | keep | ask | refuse | claim | append | remove | clear | arm | link | disarm | fire =>
    grind -ring -linarith [Hand.Holds]
  | pop | accept | pass | finish | close => grind -ring -linarith [Hand.Holds]

/-- Where the `RUNNING` bit of an item comes from. -/
theorem Step.running {l l' : Ledger Item} {h h' : Hand Item} (stepped : Step l h l' h') {w : Item}
    (running : (l'.state w).running = true) :
    h' = .running w ∨ h ≠ .running w ∧ (l.state w).running = true := by
  cases stepped with
  | keep | ask | refuse | claim | append | remove | clear | arm | link | disarm | fire =>
    grind -ring -linarith
  | pop | accept | pass | finish | close => grind -ring -linarith

/-- Every step keeps the state words tight. -/
theorem Tight.step {l l' : Ledger Item} {hands : Id → Hand Item} {t : Id} {hand : Hand Item}
    (tight : Tight l hands) (stepped : Step l (hands t) l' hand) :
    Tight l' (Function.update hands t hand) := by
  constructor
  · intro w absent unheld
    by_contra queued
    rcases stepped.queued (by simpa using queued) with member | held | ⟨before, here, queued⟩
    · exact absent member
    · exact unheld t (by simpa using held)
    · have others : ∀ u, ¬(hands u).Holds w := fun u => by
        by_cases same : u = t
        · exact same ▸ here
        · simpa [Function.update_of_ne same] using unheld u
      simp [tight.nowhere w before others] at queued
  · intro w stopped
    by_contra running
    rcases stepped.running (by simpa using running) with held | ⟨here, running⟩
    · exact stopped t (by simpa using held)
    · have others : ∀ u, hands u ≠ .running w := fun u => by
        by_cases same : u = t
        · exact same ▸ here
        · simpa [Function.update_of_ne same] using stopped u
      simp [tight.resting w others] at running

omit [DecidableEq Item] [DecidableEq Id] in
/-- The invariant does not depend on whose hands the items are in. -/
theorem Inv.permute {l : Ledger Item} {hands : Id → Hand Item} (inv : Inv l hands) (e : Id ≃ Id) :
    Inv l (hands ∘ e) where
  nodup := inv.nodup
  member := inv.member
  held t := inv.held (e t)
  one_holder t u w apart := inv.one_holder (e t) (e u) w (e.injective.ne apart)
  executing t := inv.executing (e t)
  waiting t := inv.waiting (e t)
  one_worker t u apart := inv.one_worker (e t) (e u) (e.injective.ne apart)

omit [DecidableEq Item] [DecidableEq Id] in
/-- Tightness does not depend on whose hands the items are in. -/
theorem Tight.permute {l : Ledger Item} {hands : Id → Hand Item} (tight : Tight l hands)
    (e : Id ≃ Id) : Tight l (hands ∘ e) where
  nowhere w absent unheld := tight.nowhere w absent fun t => by
    simpa using unheld (e.symm t)
  resting w stopped := tight.resting w fun t => by simpa using stopped (e.symm t)

end Ledger

/-- What a caller of `lcompat_queue_work` has in hand. -/
@[simp]
def QueuePc.hand {Item : Type} (w : Item) : QueuePc → Hand Item
  | .ensure _ | .load | .cas _ => .asking w
  | .append => .appending w
  | .wake _ => .free

/-- What the worker has in hand. -/
@[simp]
def WorkerPc.hand {Item : Type} : WorkerPc Item → Hand Item
  | .pop | .block => .serving
  | .load w | .cas w _ => .popped w
  | .setRunning w | .call w | .inFunc w | .clearRunning w | .clearState w => .running w
  | .close w => .closing w

/-- The worker has the item and the work function has not returned. -/
def WorkerPc.pending {Item : Type} (w : Item) : WorkerPc Item → Prop
  | .load v | .cas v _ | .setRunning v | .call v | .inFunc v => v = w
  | _ => False

/-- What a caller of `lcompat_cancel_work_sync` has in hand. -/
@[simp]
def CancelPc.hand {Item : Type} (w : Item) : CancelPc Queue → Hand Item
  | .clearQueued => .clearing w
  | .loadWq | .remove _ | .spin _ => .free

/-- The ledger describes one queue of a memory. -/
structure Models (q : Queue) (m : Memory Queue Item) (l : Ledger Item) : Prop where
  /-- The pointers of the queue represent the list. -/
  list : (m.list q).Repr l.nodes
  /-- State words agree. -/
  state : ∀ w, (m.works w).state = l.state w
  /-- Linked items point to the queue. -/
  linked : ∀ w, (m.works w).wq = some q ↔ l.linked w = true

namespace Models

variable {q : Queue} {m m' : Memory Queue Item} {l : Ledger Item}

omit [DecidableEq Queue] [DecidableEq Item] in
/-- The ledger depends on the list, the state words and the queues of the items. -/
theorem congr (models : Models q m l) (list : m'.list q = m.list q)
    (works : ∀ w, (m'.works w).state = (m.works w).state ∧ (m'.works w).wq = (m.works w).wq) :
    Models q m' l :=
  ⟨list ▸ models.list, fun w => (works w).1.trans (models.state w),
    fun w => by rw [(works w).2, models.linked w]⟩

omit [DecidableEq Queue] in
/-- A work item that keeps its state word and its queue keeps the ledger. -/
theorem setWork_keep (models : Models q m l) (w : Item)
    {change : WorkStruct Queue → WorkStruct Queue}
    (same : (change (m.works w)).state = (m.works w).state ∧
      (change (m.works w)).wq = (m.works w).wq) : Models q (m.setWork w change) l := by
  refine models.congr (m.setWork_list q w change) fun v => ?_
  by_cases here : v = w
  · subst here
    simpa using same
  · simp [m.setWork_works_of_ne w here]

omit [DecidableEq Queue] in
/-- Storing a state word. -/
theorem setWork_state (models : Models q m l) (w : Item)
    {change : WorkStruct Queue → WorkStruct Queue} {state : WorkState}
    (stored : (change (m.works w)).state = state ∧ (change (m.works w)).wq = (m.works w).wq) :
    Models q (m.setWork w change) (l.setState w state) := by
  refine ⟨by simpa using models.list, fun v => ?_, fun v => ?_⟩ <;> by_cases here : v = w
  · subst here
    simpa using stored.1
  · simpa [m.setWork_works_of_ne w here, here] using models.state v
  · subst here
    simpa [stored.2] using models.linked v
  · simpa [m.setWork_works_of_ne w here] using models.linked v

omit [DecidableEq Queue] in
/-- Storing the queue of an item, this one or none. -/
theorem setWork_wq (models : Models q m l) (w : Item)
    {change : WorkStruct Queue → WorkStruct Queue} {linked : Bool}
    (stored : (change (m.works w)).state = (m.works w).state ∧
      (change (m.works w)).wq = if linked then some q else none) :
    Models q (m.setWork w change) (l.setLinked w linked) := by
  refine ⟨by simpa using models.list, fun v => ?_, fun v => ?_⟩ <;> by_cases here : v = w
  · subst here
    simpa [stored.1] using models.state v
  · simpa [m.setWork_works_of_ne w here] using models.state v
  · subst here
    cases linked <;> simp [stored.2]
  · simpa [m.setWork_works_of_ne w here, here] using models.linked v

omit [DecidableEq Item] in
/-- A queue that keeps its list keeps the ledger. -/
theorem setQueue_keep (models : Models q m l)
    {change : WorkqueueStruct Item → WorkqueueStruct Item}
    (ends : (change (m.queues q)).head = (m.queues q).head ∧
      (change (m.queues q)).tail = (m.queues q).tail) : Models q (m.setQueue q change) l :=
  models.congr (m.setQueue_list q change ends) fun _ => ⟨rfl, rfl⟩

omit [DecidableEq Item] in
/-- Writing the list back. -/
theorem setList (models : Models q m l) {list : LinkedQueue Item} {nodes : List Item}
    (repr : list.Repr nodes) : Models q (m.setList q list) { l with nodes } :=
  ⟨by simpa using repr, models.state, models.linked⟩

end Models

variable {q : Queue} {m m' : Memory Queue Item} {l : Ledger Item}

omit [DecidableEq Item] in
/-- Ensuring a worker has nothing to do with the items. -/
theorem workqueueEnsureWorker_models (models : Models q m l) (env : Env) (pc : EnsurePc) :
    Models q (workqueueEnsureWorker q env m pc).1 l := by
  cases pc <;> simp only [workqueueEnsureWorker]
  case casStarting =>
    split
    · exact models
    · simpa using models.setQueue_keep ⟨rfl, rfl⟩
  case create =>
    split
    · simpa using models.setQueue_keep ⟨rfl, rfl⟩
    · exact models
  case storeTask | clearStarting | clearFailed => exact models.setQueue_keep ⟨rfl, rfl⟩
  all_goals exact models

omit [DecidableEq Item] in
/-- Waking the worker has nothing to do with the items. -/
theorem workqueueWake_models (models : Models q m l) (pc : WakePc) :
    Models q (workqueueWake q m pc).1 l := by
  cases pc <;> simp only [workqueueWake]
  case unblock => exact models.setQueue_keep ⟨rfl, rfl⟩
  all_goals exact models

/-- A step of `lcompat_queue_work` on an item that is not in the list when it appends it. -/
theorem queueWork_ledger (models : Models q m l) (w : Item) (env : Env) (pc : QueuePc)
    (fresh : pc = .append → w ∉ l.nodes) :
    ∃ l', Models q (queueWork q w env m pc).1 l' ∧
      Ledger.Step l (pc.hand w) l' ((queueWork q w env m pc).2.after (QueuePc.hand w) .free) := by
  cases pc with
  | ensure pc =>
    have ensured := workqueueEnsureWorker_models models env pc
    rcases went : workqueueEnsureWorker q env m pc with ⟨m', pc' | ready⟩ <;>
      rw [went] at ensured
    · exact ⟨l, by simpa [queueWork, went] using ensured,
        by simpa [queueWork, went] using .keep _ _⟩
    · refine ⟨l, by simpa [queueWork, went] using ensured, ?_⟩
      cases ready
      · simpa [queueWork, went] using Ledger.Step.refuse l w
      · simpa [queueWork, went] using Ledger.Step.keep _ _
  | load =>
    refine ⟨l, models, ?_⟩
    cases queued : (m.works w).state.queued
    · simpa [queueWork, queued] using Ledger.Step.keep _ _
    · simpa [queueWork, queued] using Ledger.Step.refuse l w
  | cas running =>
    by_cases same : (m.works w).state = ⟨false, running⟩
    · have clear : l.state w = ⟨false, running⟩ := (models.state w).symm.trans same
      have claimed := Ledger.Step.claim l w (by rw [clear])
      rw [clear] at claimed
      refine ⟨_, ?_, by simpa [queueWork, same] using claimed⟩
      simpa [queueWork, same] using models.setWork_state w ⟨rfl, rfl⟩
    · exact ⟨l, by simpa [queueWork, same] using models,
        by simpa [queueWork, same] using Ledger.Step.keep _ _⟩
  | append =>
    have listed := models.setList (models.list.append (fresh rfl))
    have appended : Models q ((m.setList q ((m.list q).append w)).setWork w fun work =>
        { work with wq := some q }) ({ l with nodes := l.nodes ++ [w] }.setLinked w true) :=
      listed.setWork_wq w ⟨rfl, rfl⟩
    exact ⟨_, by simpa [queueWork] using appended, by simpa [queueWork] using .append l w⟩
  | wake pc =>
    have woken := workqueueWake_models models pc
    rcases went : workqueueWake q m pc with ⟨m', pc' | done⟩ <;> rw [went] at woken
    · exact ⟨l, by simpa [queueWork, went] using woken, by simpa [queueWork, went] using .keep _ _⟩
    · exact ⟨l, by simpa [queueWork, went] using woken, by simpa [queueWork, went] using .keep _ _⟩

/-- A step of the worker. -/
theorem workqueueWorker_ledger (models : Models q m l) (pc : WorkerPc Item) :
    ∃ l', Models q (workqueueWorker q m pc).1 l' ∧
      Ledger.Step l pc.hand l' (workqueueWorker q m pc).2.hand := by
  cases pc with
  | pop =>
    cases nodes : l.nodes with
    | nil =>
      have popped := (nodes ▸ models.list : (m.list q).Repr []).pop_nil
      refine ⟨l, ?_, by simpa [workqueueWorker, workqueuePopLocked, popped] using .keep _ _⟩
      simpa [workqueueWorker, workqueuePopLocked, popped] using models.setQueue_keep ⟨rfl, rfl⟩
    | cons w rest =>
      obtain ⟨first, shorter⟩ := (nodes ▸ models.list : (m.list q).Repr (w :: rest)).pop_cons
      rcases popped : (m.list q).pop with ⟨list, item⟩
      obtain rfl : item = some w := by simpa [popped] using first
      rw [popped] at shorter
      have taken : Models q ((m.setList q list).setQueue q fun wq =>
          { wq with workerWaiting := false, active := wq.active + 1 }) { l with nodes := rest } :=
        (models.setList shorter).setQueue_keep ⟨rfl, rfl⟩
      refine ⟨_, by simpa [workqueueWorker, workqueuePopLocked, popped] using taken, ?_⟩
      simpa [workqueueWorker, workqueuePopLocked, popped] using Ledger.Step.pop l w rest nodes
  | block =>
    cases pending : (m.queues q).unblocked
    · exact ⟨l, by simpa [workqueueWorker, pending] using models,
        by simpa [workqueueWorker, pending] using .keep _ _⟩
    · refine ⟨l, ?_, by simpa [workqueueWorker, pending] using .keep _ _⟩
      simpa [workqueueWorker, pending] using models.setQueue_keep ⟨rfl, rfl⟩
  | load w =>
    refine ⟨l, models, ?_⟩
    have state := models.state w
    cases queued : (m.works w).state.queued
    · simpa [workqueueWorker, queued] using Ledger.Step.pass l w (by rw [← state, queued])
    · simpa [workqueueWorker, queued] using Ledger.Step.keep _ _
  | cas w running =>
    by_cases same : (m.works w).state = ⟨true, running⟩
    · refine ⟨_, ?_, by simpa [workqueueWorker, same] using Ledger.Step.accept l w⟩
      simpa [workqueueWorker, same] using models.setWork_state w ⟨rfl, rfl⟩
    · exact ⟨l, by simpa [workqueueWorker, same] using models,
        by simpa [workqueueWorker, same] using Ledger.Step.keep _ _⟩
  | setRunning w | clearRunning w =>
    refine ⟨l, ?_, .keep _ _⟩
    simpa only [workqueueWorker] using models.setWork_keep w ⟨rfl, rfl⟩
  | call w | inFunc w => exact ⟨l, models, .keep _ _⟩
  | clearState w =>
    refine ⟨_, ?_, .finish l w⟩
    rw [← models.state w]
    simpa only [workqueueWorker] using models.setWork_state w ⟨rfl, rfl⟩
  | close w =>
    refine ⟨_, ?_, .close l w⟩
    simp only [workqueueWorker, workqueueClose]
    refine Models.setQueue_keep ?_ (by exact ⟨rfl, rfl⟩)
    rw [← models.state w]
    cases queued : (m.works w).state.queued
    · exact models.setWork_wq w (by simp [queued])
    · exact models.setWork_keep w (by simp [queued])

/-- The worker gets an item by popping it. -/
theorem workqueueWorker_pending (pc : WorkerPc Item) {w : Item}
    (pending : (workqueueWorker q m pc).2.pending w) :
    pc.pending w ∨ pc.hand = .serving ∧ (workqueueWorker q m pc).2.hand = .popped w := by
  cases pc with
  | pop =>
    rcases popped : (m.list q).pop with ⟨list, _ | v⟩ <;>
      simp_all [workqueueWorker, workqueuePopLocked, WorkerPc.pending]
  | block =>
    cases unblocked : (m.queues q).unblocked <;>
      simp [workqueueWorker, unblocked, WorkerPc.pending] at pending
  | load v =>
    cases queued : (m.works v).state.queued <;>
      simp_all [workqueueWorker, WorkerPc.pending]
  | cas v running =>
    by_cases same : (m.works v).state = ⟨true, running⟩ <;>
      simp_all [workqueueWorker, WorkerPc.pending]
  | setRunning v | call v | inFunc v | clearRunning v | clearState v | close v =>
    simp_all [workqueueWorker, WorkerPc.pending]

variable [Fintype Item]

/-- A step of `lcompat_cancel_work_sync` on an item of this queue. -/
theorem cancelWorkSync_ledger (models : Models q m l) {w : Item} {pc : CancelPc Queue}
    (here : ∀ q', pc = .remove q' → q' = q) {next : Next (CancelPc Queue) Bool}
    (ran : cancelWorkSync w m pc = some (m', next)) :
    ∃ l', Models q m' l' ∧ Ledger.Step l (pc.hand w) l' (next.after (CancelPc.hand w) .free) := by
  cases pc with
  | loadWq =>
    obtain ⟨rfl, rfl⟩ : m = m' ∧ _ = next := by simpa [cancelWorkSync] using ran
    refine ⟨l, models, ?_⟩
    cases (m.works w).wq <;> exact .keep _ _
  | remove q' =>
    obtain rfl := here q' rfl
    have enough := models.list.nodup.length_le_card
    by_cases member : w ∈ l.nodes
    · obtain ⟨list, walked, shorter⟩ := models.list.remove_mem member enough
      have removed : Models q' ((m.setList q' list).setWork w fun work => { work with wq := none })
          ({ l with nodes := l.nodes.erase w }.setLinked w false) :=
        (models.setList shorter).setWork_wq w ⟨rfl, rfl⟩
      simp only [cancelWorkSync, workqueueRemoveLocked, walked, Option.map_some,
        Option.some.injEq, Prod.mk.injEq] at ran
      obtain ⟨rfl, rfl⟩ := ran
      exact ⟨_, removed, .remove l w member⟩
    · have walked := models.list.remove_not_mem member enough
      simp only [cancelWorkSync, workqueueRemoveLocked, walked, Option.map_some,
        Option.some.injEq, Prod.mk.injEq] at ran
      obtain ⟨rfl, rfl⟩ := ran
      exact ⟨l, models, .keep _ _⟩
  | clearQueued =>
    obtain ⟨rfl, rfl⟩ : m.setWork w _ = m' ∧ _ = next := by simpa [cancelWorkSync] using ran
    refine ⟨_, models.setWork_state w ⟨rfl, rfl⟩, ?_⟩
    rw [models.state w]
    exact .clear l w
  | spin canceled =>
    obtain ⟨rfl, rfl⟩ : m = m' ∧ _ = next := by simpa [cancelWorkSync] using ran
    refine ⟨l, models, ?_⟩
    split <;> exact .keep _ _

/-- A cancel that goes on to wait without having removed the item did not find it listed. -/
theorem cancelWorkSync_absent (models : Models q m l)
    (linked : ∀ v ∈ l.nodes, l.linked v = true) {w : Item} {pc : CancelPc Queue}
    (looking : pc = .loadWq ∨ pc = .remove q) {canceled : Bool}
    (ran : cancelWorkSync w m pc = some (m', .goto (.spin canceled))) : w ∉ l.nodes := by
  intro member
  rcases looking with rfl | rfl
  · have here := (models.linked w).mpr (linked w member)
    simp [cancelWorkSync, here] at ran
  · obtain ⟨list, walked, -⟩ :=
      models.list.remove_mem member models.list.nodup.length_le_card
    simp [cancelWorkSync, workqueueRemoveLocked, walked] at ran

end Lcompat.Workqueue
