import Lcompat.Logic.LinkedQueue
import Lcompat.Logic.System

/-!
# Queues of socket buffers

The `sk_buff_head` functions of `skbuff.h`. Queues share the `next` link of the buffers, and a
buffer is put into a queue only while it is in none. The queues are lists of buffers; the loops are
given a bound on their turns, and come to an end within it.
-/

namespace Lcompat.Net

open Lcompat.Logic

/-- `struct sk_buff_head`. -/
structure SkBuffHead (Skb : Type) where
  /-- `head`. -/
  head : Option Skb
  /-- `tail`. -/
  tail : Option Skb
  /-- `qlen`. -/
  qlen : UInt32

/-- The queues, the links of the buffers, and the buffers that were freed, in this order. -/
structure Queues (Queue Skb : Type) where
  /-- The queues. -/
  heads : Queue → SkBuffHead Skb
  /-- `next` of each buffer. -/
  next : Skb → Option Skb
  /-- What `kfree_skb` was called for. -/
  freed : List Skb

variable {Queue Skb : Type} [DecidableEq Queue] [DecidableEq Skb]

namespace Queues

/-- A queue with the links. -/
def view (s : Queues Queue Skb) (list : Queue) : LinkedQueue Skb :=
  ⟨(s.heads list).head, (s.heads list).tail, s.next⟩

/-- A queue that is written, and the links. -/
def write (s : Queues Queue Skb) (list : Queue) (queue : LinkedQueue Skb) (qlen : UInt32) :
    Queues Queue Skb :=
  { s with
    heads := Function.update s.heads list ⟨queue.head, queue.tail, qlen⟩
    next := queue.next }

end Queues

/-- `skb_queue_head_init` of each queue. -/
def skbQueueHeadInit (next : Skb → Option Skb) : Queues Queue Skb :=
  ⟨fun _ => ⟨none, none, 0⟩, next, []⟩

/-- `__skb_queue_tail`, and `skb_queue_tail`. -/
def skbQueueTail (list : Queue) (skb : Skb) (s : Queues Queue Skb) : Queues Queue Skb :=
  s.write list ((s.view list).append skb) ((s.heads list).qlen + 1)

/-- `skb_queue_head`. -/
def skbQueueHead (list : Queue) (skb : Skb) (s : Queues Queue Skb) : Queues Queue Skb :=
  s.write list ((s.view list).prepend skb) ((s.heads list).qlen + 1)

/-- `__skb_dequeue`, and `skb_dequeue`. -/
def skbDequeue (list : Queue) (s : Queues Queue Skb) : Queues Queue Skb × Option Skb :=
  match (s.view list).pop with
  | (_, none) => (s, none)
  | (queue, some skb) => (s.write list queue ((s.heads list).qlen - 1), some skb)

/-- `__skb_unlink`, and `skb_unlink`, if the loop comes to an end in some turns. -/
def skbUnlink (turns : Nat) (skb : Skb) (list : Queue) (s : Queues Queue Skb) :
    Option (Queues Queue Skb) :=
  ((s.view list).removeFrom skb turns none (s.heads list).head).map fun removed =>
    match removed with
    | (_, false) => s
    | (queue, true) =>
      let qlen := (s.heads list).qlen
      s.write list queue (if qlen > 0 then qlen - 1 else qlen)

/-- `skb_queue_splice_tail_init`, if the loop comes to an end in some turns. -/
def skbQueueSpliceTailInit (list head : Queue) :
    Nat → Queues Queue Skb → Option (Queues Queue Skb)
  | 0, _ => none
  | turns + 1, s =>
    match skbDequeue list s with
    | (s, none) => some s
    | (s, some skb) => skbQueueSpliceTailInit list head turns (skbQueueTail head skb s)

/-- `skb_queue_purge`, if the loop comes to an end in some turns. -/
def skbQueuePurge (list : Queue) : Nat → Queues Queue Skb → Option (Queues Queue Skb)
  | 0, _ => none
  | turns + 1, s =>
    match skbDequeue list s with
    | (s, none) => some s
    | (s, some skb) => skbQueuePurge list turns { s with freed := s.freed ++ [skb] }

/-- A call. -/
inductive QueueOp (Queue Skb : Type) where
  /-- `skb_queue_tail`. -/
  | queueTail (list : Queue) (skb : Skb)
  /-- `skb_queue_head`. -/
  | queueHead (list : Queue) (skb : Skb)
  /-- `skb_dequeue`. -/
  | dequeue (list : Queue)
  /-- `skb_unlink`. -/
  | unlink (skb : Skb) (list : Queue)
  /-- `skb_queue_splice_tail_init`. -/
  | splice (list head : Queue)
  /-- `skb_queue_purge`. -/
  | purge (list : Queue)

/-- Queues as they should be: lists of buffers, and the buffers that were freed. -/
structure Lists (Queue Skb : Type) where
  /-- The buffers of each queue. -/
  queued : Queue → List Skb
  /-- The buffers that were freed. -/
  freed : List Skb

/-- The lists with another one for a queue. -/
def Lists.set (lists : Lists Queue Skb) (list : Queue) (nodes : List Skb) : Lists Queue Skb :=
  ⟨Function.update lists.queued list nodes, lists.freed⟩

/-- What a call is for. -/
def QueueOp.spec (lists : Lists Queue Skb) : QueueOp Queue Skb → Lists Queue Skb
  | .queueTail list skb => lists.set list (lists.queued list ++ [skb])
  | .queueHead list skb => lists.set list (skb :: lists.queued list)
  | .dequeue list => lists.set list (lists.queued list).tail
  | .unlink skb list => lists.set list ((lists.queued list).erase skb)
  | .splice list head => (lists.set list []).set head (lists.queued head ++ lists.queued list)
  | .purge list => ⟨Function.update lists.queued list [], lists.freed ++ lists.queued list⟩

/-- What a call does. The loops may take a turn for each buffer that should be in the queue, and one
more. -/
def QueueOp.run (s : Queues Queue Skb) (lists : Lists Queue Skb) :
    QueueOp Queue Skb → Option (Queues Queue Skb)
  | .queueTail list skb => some (skbQueueTail list skb s)
  | .queueHead list skb => some (skbQueueHead list skb s)
  | .dequeue list => some (skbDequeue list s).1
  | .unlink skb list => skbUnlink ((lists.queued list).length + 1) skb list s
  | .splice list head => skbQueueSpliceTailInit list head ((lists.queued list).length + 1) s
  | .purge list => skbQueuePurge list ((lists.queued list).length + 1) s

/-- The runs of queues beside the lists that they should be. -/
def skbQueues (Queue Skb : Type) [DecidableEq Queue] [DecidableEq Skb] :
    System (Queues Queue Skb × Lists Queue Skb) (QueueOp Queue Skb) where
  init s := (∃ next, s.1 = skbQueueHeadInit next) ∧ s.2 = ⟨fun _ => [], []⟩
  step s op := (op.run s.1 s.2).map fun s' => (s', op.spec s.2)

/-- A buffer is inserted only when it is in no queue, and queues are spliced to other ones. -/
def Legal (s : Queues Queue Skb × Lists Queue Skb) : QueueOp Queue Skb → Prop
  | .queueTail _ skb | .queueHead _ skb => ∀ list, skb ∉ s.2.queued list
  | .splice list head => list ≠ head
  | .dequeue _ | .unlink _ _ | .purge _ => True

/-- A call leaves no queue with `2 ^ 32` buffers or more. -/
def Short (s : Queues Queue Skb × Lists Queue Skb) (op : QueueOp Queue Skb) : Prop :=
  ∀ list, ((op.spec s.2).queued list).length < 2 ^ 32

/-- The queues are the lists: following `next` from `head` goes through exactly the buffers of the
list, each once, and ends at `tail`. -/
structure Refines (s : Queues Queue Skb) (lists : Lists Queue Skb) : Prop where
  /-- Each queue is its list. -/
  repr : ∀ list, (s.view list).Repr (lists.queued list)
  /-- No buffer is in two queues. -/
  apart : ∀ list other, list ≠ other → (lists.queued list).Disjoint (lists.queued other)
  /-- The same buffers were freed. -/
  freed : s.freed = lists.freed

/-- The length of each queue is that of its list. -/
def Counted (s : Queues Queue Skb) (lists : Lists Queue Skb) : Prop :=
  ∀ list, (s.heads list).qlen.toNat = (lists.queued list).length

section Writing

variable {s : Queues Queue Skb} {lists : Lists Queue Skb} {list : Queue}

omit [DecidableEq Skb] in
/-- A queue that is written is what was written. -/
theorem view_write_self (queue : LinkedQueue Skb) (qlen : UInt32) :
    (s.write list queue qlen).view list = queue := by
  simp [Queues.view, Queues.write]

omit [DecidableEq Skb] in
/-- A write that leaves the links of the other queues refines a write of one list. -/
theorem Refines.write (refines : Refines s lists) {queue : LinkedQueue Skb} {nodes : List Skb}
    (qlen : UInt32) (repr : queue.Repr nodes)
    (frame : ∀ other, list ≠ other → ∀ skb ∈ lists.queued other, queue.next skb = s.next skb)
    (apart : ∀ other, list ≠ other → nodes.Disjoint (lists.queued other)) :
    Refines (s.write list queue qlen) (lists.set list nodes) := by
  unfold Lists.set
  refine ⟨fun other => ?_, fun one other different => ?_, refines.freed⟩
  · by_cases same : other = list
    · subst same
      rw [view_write_self]
      simpa using repr
    · have view : (s.write list queue qlen).view other =
          ⟨(s.heads other).head, (s.heads other).tail, queue.next⟩ := by
        simp [Queues.view, Queues.write, same]
      rw [view]
      have framed := (refines.repr other).frame (frame other (Ne.symm same))
      simp only [Function.update_of_ne same]
      exact framed
  · by_cases here : one = list
    · subst here
      simpa [Ne.symm different] using apart other different
    · by_cases there : other = list
      · subst there
        simpa [here] using (apart one (Ne.symm here)).symm
      · simpa [here, there] using refines.apart one other different

/-- `skb_queue_tail` appends. -/
theorem Refines.tail (refines : Refines s lists) {skb : Skb}
    (fresh : ∀ other, skb ∉ lists.queued other) :
    Refines (skbQueueTail list skb s) ((QueueOp.queueTail list skb).spec lists) := by
  refine refines.write _ ((refines.repr list).append (fresh list)) ?_ ?_
  · intro other different b member
    have notNew : b ≠ skb := fun same => fresh other (same ▸ member)
    have notTail : (s.view list).tail ≠ some b := by
      intro last
      rw [(refines.repr list).tail_last] at last
      exact refines.apart list other different (List.mem_of_getLast? last) member
    exact LinkedQueue.append_next_of_ne notNew notTail
  · intro other different
    rw [List.disjoint_append_left, List.singleton_disjoint]
    exact ⟨refines.apart list other different, fresh other⟩

/-- `skb_queue_head` prepends. -/
theorem Refines.head (refines : Refines s lists) {skb : Skb}
    (fresh : ∀ other, skb ∉ lists.queued other) :
    Refines (skbQueueHead list skb s) ((QueueOp.queueHead list skb).spec lists) := by
  refine refines.write _ ((refines.repr list).prepend (fresh list)) ?_ ?_
  · intro other different b member
    exact LinkedQueue.prepend_next_of_ne fun same => fresh other (same ▸ member)
  · intro other different
    rw [List.disjoint_cons_left]
    exact ⟨fresh other, refines.apart list other different⟩

/-- `skb_dequeue` takes the first buffer. -/
theorem Refines.dequeue (refines : Refines s lists) (list : Queue) :
    (skbDequeue list s).2 = (lists.queued list).head? ∧
      Refines (skbDequeue list s).1 ((QueueOp.dequeue list).spec lists) := by
  have repr := refines.repr list
  unfold skbDequeue
  cases nodes : lists.queued list with
  | nil =>
    rw [nodes] at repr
    have same : (QueueOp.dequeue list).spec lists = lists := by
      rw [QueueOp.spec, nodes, List.tail_nil, ← nodes, Lists.set, Function.update_eq_self]
    rw [repr.pop_nil, same]
    exact ⟨rfl, refines⟩
  | cons skb rest =>
    rw [nodes] at repr
    obtain ⟨popped, left⟩ := repr.pop_cons
    have here : skb ∈ lists.queued list := nodes ▸ List.mem_cons_self
    have within : rest ⊆ lists.queued list := nodes ▸ List.subset_cons_self skb rest
    have pair : (s.view list).pop = ((s.view list).pop.1, some skb) := by rw [← popped]
    rw [pair]
    refine ⟨rfl, ?_⟩
    rw [QueueOp.spec, nodes, List.tail_cons]
    refine refines.write _ left ?_ ?_
    · intro other different b member
      refine LinkedQueue.pop_next_of_ne ?_
      intro first
      have same : (s.view list).head = some skb := repr.chain.1
      obtain rfl := Option.some.inj (first.symm.trans same)
      exact refines.apart list other different here member
    · intro other different b taken member
      exact refines.apart list other different (within taken) member

/-- `skb_unlink` takes a buffer out. -/
theorem Refines.unlink (refines : Refines s lists) (skb : Skb) (list : Queue) : ∃ s',
    skbUnlink ((lists.queued list).length + 1) skb list s = some s' ∧
      Refines s' ((QueueOp.unlink skb list).spec lists) := by
  have repr := refines.repr list
  unfold skbUnlink
  by_cases member : skb ∈ lists.queued list
  · obtain ⟨queue, removed, left⟩ := repr.remove_mem member (Nat.le_succ _)
    have removed : (s.view list).removeFrom skb ((lists.queued list).length + 1) none
        (s.heads list).head = some (queue, true) := removed
    rw [removed]
    refine ⟨_, rfl, refines.write _ left ?_ ?_⟩
    · intro other different b there
      have notQueued : b ∉ lists.queued list := fun here =>
        refines.apart list other different here there
      exact LinkedQueue.removeFrom_next_of_not_mem repr.chain notQueued (by simp) removed
    · intro other different b taken there
      exact refines.apart list other different (List.mem_of_mem_erase taken) there
  · have removed : (s.view list).removeFrom skb ((lists.queued list).length + 1) none
        (s.heads list).head = some (s.view list, false) :=
      repr.remove_not_mem member (Nat.le_succ _)
    have same : (QueueOp.unlink skb list).spec lists = lists := by
      rw [QueueOp.spec, List.erase_of_not_mem member, Lists.set, Function.update_eq_self]
    rw [removed, same]
    exact ⟨s, rfl, refines⟩

end Writing

section Counting

variable {s : Queues Queue Skb} {lists : Lists Queue Skb} {list : Queue}

omit [DecidableEq Skb] in
/-- A write counts if it writes the length of what it writes. -/
theorem Counted.write (counted : Counted s lists) {queue : LinkedQueue Skb} {nodes : List Skb}
    {qlen : UInt32} (counts : qlen.toNat = nodes.length) :
    Counted (s.write list queue qlen) (lists.set list nodes) := by
  intro other
  by_cases same : other = list
  · subst same
    simpa [Queues.write, Lists.set] using counts
  · simpa [Queues.write, Lists.set, same] using counted other

omit [DecidableEq Queue] [DecidableEq Skb] in
/-- One more buffer counts as one more, below `2 ^ 32`. -/
theorem Counted.more (counted : Counted s lists)
    (short : (lists.queued list).length + 1 < 2 ^ 32) :
    ((s.heads list).qlen + 1).toNat = (lists.queued list).length + 1 := by
  have one : (1 : UInt32).toNat = 1 := rfl
  rw [UInt32.toNat_add, counted list, one]
  exact Nat.mod_eq_of_lt short

omit [DecidableEq Queue] [DecidableEq Skb] in
/-- One buffer less counts as one less. -/
theorem Counted.less (counted : Counted s lists) (some_ : 0 < (lists.queued list).length) :
    ((s.heads list).qlen - 1).toNat = (lists.queued list).length - 1 := by
  have one_le : (1 : UInt32) ≤ (s.heads list).qlen := by
    rw [UInt32.le_iff_toNat_le, counted list]
    exact some_
  rw [UInt32.toNat_sub_of_le _ _ one_le, counted list]
  rfl

/-- `skb_queue_tail` counts. -/
theorem Counted.tail (counted : Counted s lists) (skb : Skb)
    (short : (lists.queued list).length + 1 < 2 ^ 32) :
    Counted (skbQueueTail list skb s) ((QueueOp.queueTail list skb).spec lists) := by
  refine counted.write ?_
  rw [counted.more short, List.length_append, List.length_singleton]

/-- `skb_queue_head` counts. -/
theorem Counted.head (counted : Counted s lists) (skb : Skb)
    (short : (lists.queued list).length + 1 < 2 ^ 32) :
    Counted (skbQueueHead list skb s) ((QueueOp.queueHead list skb).spec lists) := by
  refine counted.write ?_
  rw [counted.more short, List.length_cons]

/-- `skb_dequeue` counts. -/
theorem Counted.dequeue (counted : Counted s lists) (refines : Refines s lists) (list : Queue) :
    Counted (skbDequeue list s).1 ((QueueOp.dequeue list).spec lists) := by
  have repr := refines.repr list
  unfold skbDequeue
  cases nodes : lists.queued list with
  | nil =>
    rw [nodes] at repr
    have same : (QueueOp.dequeue list).spec lists = lists := by
      rw [QueueOp.spec, nodes, List.tail_nil, ← nodes, Lists.set, Function.update_eq_self]
    rw [repr.pop_nil, same]
    exact counted
  | cons skb rest =>
    rw [nodes] at repr
    have pair : (s.view list).pop = ((s.view list).pop.1, some skb) := by
      rw [← repr.pop_cons.1]
    have some_ : 0 < (lists.queued list).length := by simp [nodes]
    have less := counted.less some_
    rw [pair]
    refine counted.write ?_
    rw [less, List.length_tail]

/-- `skb_unlink` counts. -/
theorem Counted.unlink (counted : Counted s lists) (refines : Refines s lists) {skb : Skb}
    {s' : Queues Queue Skb}
    (unlinked : skbUnlink ((lists.queued list).length + 1) skb list s = some s') :
    Counted s' ((QueueOp.unlink skb list).spec lists) := by
  have repr := refines.repr list
  unfold skbUnlink at unlinked
  by_cases member : skb ∈ lists.queued list
  · obtain ⟨queue, removed, -⟩ := repr.remove_mem member (Nat.le_succ _)
    have removed : (s.view list).removeFrom skb ((lists.queued list).length + 1) none
        (s.heads list).head = some (queue, true) := removed
    rw [removed, Option.map_some, Option.some.injEq] at unlinked
    have some_ : 0 < (lists.queued list).length := List.length_pos_of_mem member
    have positive : (s.heads list).qlen > 0 := by
      rw [gt_iff_lt, UInt32.lt_iff_toNat_lt, counted list]
      exact some_
    rw [← unlinked]
    refine counted.write ?_
    rw [if_pos positive, counted.less some_, List.length_erase_of_mem member]
  · have removed : (s.view list).removeFrom skb ((lists.queued list).length + 1) none
        (s.heads list).head = some (s.view list, false) :=
      repr.remove_not_mem member (Nat.le_succ _)
    have same : (QueueOp.unlink skb list).spec lists = lists := by
      rw [QueueOp.spec, List.erase_of_not_mem member, Lists.set, Function.update_eq_self]
    rw [removed, Option.map_some, Option.some.injEq] at unlinked
    rw [← unlinked, same]
    exact counted

end Counting

section Loops

variable {s : Queues Queue Skb} {lists : Lists Queue Skb} {list head : Queue}

omit [DecidableEq Skb] in
/-- The lists of two queues are written one after the other. -/
theorem Lists.set_queued_of_ne (lists : Lists Queue Skb) (nodes : List Skb)
    (different : list ≠ head) : (lists.set head nodes).queued list = lists.queued list :=
  Function.update_of_ne different ..

omit [DecidableEq Skb] in
/-- A buffer that was taken from a queue is in none. -/
theorem Refines.fresh (refines : Refines s lists) {skb : Skb} {rest : List Skb}
    (nodes : lists.queued list = skb :: rest) (other : Queue) :
    skb ∉ (lists.set list rest).queued other := by
  have nodup := (refines.repr list).nodup
  rw [nodes, List.nodup_cons] at nodup
  by_cases same : other = list
  · subst same
    simpa [Lists.set] using nodup.1
  · have here : skb ∈ lists.queued list := nodes ▸ List.mem_cons_self
    simpa [Lists.set, same] using refines.apart list other (Ne.symm same) here

/-- A turn of the loops takes the first buffer. -/
theorem Refines.turn (refines : Refines s lists) {skb : Skb} {rest : List Skb}
    (nodes : lists.queued list = skb :: rest) : ∃ s', skbDequeue list s = (s', some skb) ∧
      Refines s' (lists.set list rest) ∧ (Counted s lists → Counted s' (lists.set list rest)) := by
  obtain ⟨taken, left⟩ := refines.dequeue list
  have spec : (QueueOp.dequeue list).spec lists = lists.set list rest := by
    rw [QueueOp.spec, nodes, List.tail_cons]
  rw [nodes, List.head?_cons] at taken
  rw [spec] at left
  refine ⟨(skbDequeue list s).1, by rw [← taken], left, fun counted => ?_⟩
  rw [← spec]
  exact counted.dequeue refines list

/-- The loops end when there is no buffer left. -/
theorem Refines.ends (refines : Refines s lists) (nodes : lists.queued list = []) :
    skbDequeue list s = (s, none) := by
  have repr := refines.repr list
  rw [nodes] at repr
  rw [skbDequeue, repr.pop_nil]

/-- `skb_queue_splice_tail_init` appends one list to another, and empties it. -/
theorem Refines.splice (refines : Refines s lists) (different : list ≠ head) {nodes : List Skb}
    (queued : lists.queued list = nodes) : ∃ s',
      skbQueueSpliceTailInit list head (nodes.length + 1) s = some s' ∧
        Refines s' ((QueueOp.splice list head).spec lists) ∧
        (Counted s lists → (lists.queued head).length + nodes.length < 2 ^ 32 →
          Counted s' ((QueueOp.splice list head).spec lists)) := by
  induction nodes generalizing s lists with
  | nil =>
    have same : (QueueOp.splice list head).spec lists = lists := by
      have inner : lists.set list [] = lists := by
        rw [Lists.set, ← queued, Function.update_eq_self]
      rw [QueueOp.spec, inner, queued, List.append_nil, Lists.set, Function.update_eq_self]
    rw [skbQueueSpliceTailInit, refines.ends queued, same]
    exact ⟨s, rfl, refines, fun counted _ => counted⟩
  | cons skb rest ih =>
    obtain ⟨s₁, taken, refines₁, counted₁⟩ := refines.turn queued
    have refines₂ : Refines (skbQueueTail head skb s₁)
        ((QueueOp.queueTail head skb).spec (lists.set list rest)) :=
      refines₁.tail (refines.fresh queued)
    have left : ((QueueOp.queueTail head skb).spec (lists.set list rest)).queued list = rest := by
      rw [QueueOp.spec, Lists.set_queued_of_ne _ _ different]
      exact Function.update_self ..
    obtain ⟨s', ends, refines', counted'⟩ := ih refines₂ left
    have same : (QueueOp.splice list head).spec ((QueueOp.queueTail head skb).spec
        (lists.set list rest)) = (QueueOp.splice list head).spec lists := by
      simp only [QueueOp.spec, Lists.set, queued]
      congr 1
      funext other
      by_cases here : other = head
      · subst here
        simp [Ne.symm different, different]
      · by_cases there : other = list
        · subst there
          simp [here]
        · simp [here, there]
    rw [same] at refines' counted'
    have grown : ((QueueOp.queueTail head skb).spec (lists.set list rest)).queued head =
        lists.queued head ++ [skb] := by
      simp [QueueOp.spec, Lists.set, Ne.symm different]
    have kept : ((lists.set list rest).queued head) = lists.queued head :=
      Lists.set_queued_of_ne lists rest (Ne.symm different)
    rw [skbQueueSpliceTailInit, taken]
    refine ⟨s', ends, refines', fun counted short => counted' ?_ ?_⟩
    · refine (counted₁ counted).tail skb ?_
      rw [kept]
      simp only [List.length_cons] at short
      omega
    · rw [grown, List.length_append, List.length_singleton]
      simp only [List.length_cons] at short
      omega

/-- `skb_queue_purge` frees the buffers of a list in order, and empties it. -/
theorem Refines.purge (refines : Refines s lists) {nodes : List Skb}
    (queued : lists.queued list = nodes) : ∃ s',
      skbQueuePurge list (nodes.length + 1) s = some s' ∧
        Refines s' ((QueueOp.purge list).spec lists) ∧
        (Counted s lists → Counted s' ((QueueOp.purge list).spec lists)) := by
  induction nodes generalizing s lists with
  | nil =>
    have same : (QueueOp.purge list).spec lists = lists := by
      rw [QueueOp.spec, queued, List.append_nil, ← queued, Function.update_eq_self]
    rw [skbQueuePurge, refines.ends queued, same]
    exact ⟨s, rfl, refines, id⟩
  | cons skb rest ih =>
    obtain ⟨s₁, taken, refines₁, counted₁⟩ := refines.turn queued
    have refines₂ : Refines { s₁ with freed := s₁.freed ++ [skb] }
        ⟨(lists.set list rest).queued, lists.freed ++ [skb]⟩ := by
      refine ⟨refines₁.repr, refines₁.apart, ?_⟩
      show s₁.freed ++ [skb] = lists.freed ++ [skb]
      rw [refines₁.freed]
      rfl
    obtain ⟨s', ends, refines', counted'⟩ := ih refines₂ (Function.update_self ..)
    have same : (QueueOp.purge list).spec (⟨(lists.set list rest).queued, lists.freed ++ [skb]⟩ :
        Lists Queue Skb) = (QueueOp.purge list).spec lists := by
      simp [QueueOp.spec, Lists.set, queued]
    rw [same] at refines' counted'
    rw [skbQueuePurge, taken]
    exact ⟨s', ends, refines', fun counted => counted' (counted₁ counted)⟩

end Loops

section Runs

variable {s t : Queues Queue Skb × Lists Queue Skb} {op : QueueOp Queue Skb}

/-- A legal call comes to an end and refines its list operation, and a short one counts. -/
theorem Refines.step (refines : Refines s.1 s.2) (legal : Legal s op) : ∃ s',
    op.run s.1 s.2 = some s' ∧ Refines s' (op.spec s.2) ∧
      (Counted s.1 s.2 → Short s op → Counted s' (op.spec s.2)) := by
  cases op with
  | queueTail list skb =>
    refine ⟨_, rfl, refines.tail legal, fun counted short => counted.tail skb ?_⟩
    have bound := short list
    simpa [QueueOp.spec, Lists.set] using bound
  | queueHead list skb =>
    refine ⟨_, rfl, refines.head legal, fun counted short => counted.head skb ?_⟩
    have bound := short list
    simpa [QueueOp.spec, Lists.set] using bound
  | dequeue list =>
    exact ⟨_, rfl, (refines.dequeue list).2, fun counted _ => counted.dequeue refines list⟩
  | unlink skb list =>
    obtain ⟨s', unlinked, refines'⟩ := refines.unlink skb list
    exact ⟨s', unlinked, refines', fun counted _ => counted.unlink refines unlinked⟩
  | splice list head =>
    obtain ⟨s', ends, refines', counts⟩ := refines.splice legal rfl
    refine ⟨s', ends, refines', fun counted short => counts counted ?_⟩
    have bound := short head
    simpa [QueueOp.spec, Lists.set] using bound
  | purge list =>
    have purged : ∃ s', _ ∧ Refines s' ((QueueOp.purge list).spec s.2) ∧ _ := refines.purge rfl
    obtain ⟨s', ends, refines', counts⟩ := purged
    exact ⟨s', ends, refines', fun counted _ => counts counted⟩

/-- Fresh queues are empty lists. -/
theorem refines_init (initial : (skbQueues Queue Skb).init s) :
    Refines s.1 s.2 ∧ Counted s.1 s.2 := by
  obtain ⟨queues, lists⟩ := s
  obtain ⟨⟨next, rfl⟩, rfl⟩ := initial
  exact ⟨⟨fun _ => LinkedQueue.repr_empty next, fun _ _ _ => List.disjoint_nil_left _, rfl⟩,
    fun _ => rfl⟩

/-- In every run of legal calls the queues are the lists. -/
theorem refines_of_reach (reach : (skbQueues Queue Skb).Reach Legal s) : Refines s.1 s.2 := by
  refine reach.invariant (fun s => Refines s.1 s.2) (fun _ init => (refines_init init).1) ?_
  intro t op u refines legal stepped
  obtain ⟨s', ran, refines', -⟩ := refines.step legal
  simp only [skbQueues, ran, Option.map_some, Option.some.injEq] at stepped
  exact stepped ▸ refines'

/-- In every run of legal calls that leaves the queues short, `qlen` counts. -/
theorem counted_of_reach
    (reach : (skbQueues Queue Skb).Reach (fun s op => Legal s op ∧ Short s op) s) :
    Counted s.1 s.2 := by
  have both : Refines s.1 s.2 ∧ Counted s.1 s.2 := by
    refine reach.invariant (fun s => Refines s.1 s.2 ∧ Counted s.1 s.2)
      (fun _ init => refines_init init) ?_
    rintro t op u ⟨refines, counted⟩ ⟨legal, short⟩ stepped
    obtain ⟨s', ran, refines', counts⟩ := refines.step legal
    simp only [skbQueues, ran, Option.map_some, Option.some.injEq] at stepped
    exact stepped ▸ ⟨refines', counts counted short⟩
  exact both.2

omit [DecidableEq Queue] [DecidableEq Skb] in
/-- In a queue that is a list, the head is missing exactly when the tail is. -/
theorem Refines.head_eq_none_iff {queues : Queues Queue Skb} {lists : Lists Queue Skb}
    (refines : Refines queues lists) (list : Queue) :
    ((queues.heads list).head = none ↔ lists.queued list = []) ∧
      ((queues.heads list).tail = none ↔ lists.queued list = []) := by
  have repr := refines.repr list
  have last : (queues.heads list).tail = (lists.queued list).getLast? := repr.tail_last
  refine ⟨repr.head_eq_none_iff, ?_⟩
  rw [last]
  exact List.getLast?_eq_none_iff

/-- In every run of calls where a buffer is inserted only when it is in no queue, the queues are
the lists that they should be, each call comes to an end, and the head is missing exactly when the
tail is. As long as no queue has `2 ^ 32` buffers, this is when `qlen` is zero, and `qlen` is the
number of the buffers. -/
theorem skb_queues_refine (reach : (skbQueues Queue Skb).Reach Legal s) :
    Refines s.1 s.2 ∧
      (∀ op, Legal s op → ∃ s', op.run s.1 s.2 = some s' ∧ Refines s' (op.spec s.2)) ∧
      (∀ list, (skbDequeue list s.1).2 = (s.2.queued list).head?) ∧
      (∀ list, (s.1.heads list).head = none ↔ (s.1.heads list).tail = none) ∧
      ((skbQueues Queue Skb).Reach (fun s op => Legal s op ∧ Short s op) s →
        ∀ list, (s.1.heads list).qlen.toNat = (s.2.queued list).length ∧
          ((s.1.heads list).tail = none ↔ (s.1.heads list).qlen = 0)) := by
  have refines := refines_of_reach reach
  refine ⟨refines, ?_, fun list => (refines.dequeue list).1, ?_, ?_⟩
  · intro op legal
    obtain ⟨s', ran, refines', -⟩ := refines.step legal
    exact ⟨s', ran, refines'⟩
  · intro list
    obtain ⟨head, tail⟩ := refines.head_eq_none_iff list
    exact head.trans tail.symm
  · intro short list
    have counts := counted_of_reach short list
    obtain ⟨-, tail⟩ := refines.head_eq_none_iff list
    refine ⟨counts, ?_⟩
    have zero : (0 : UInt32).toNat = 0 := rfl
    rw [tail, ← List.length_eq_zero_iff, ← counts, ← zero]
    exact UInt32.toNat_inj

end Runs

section Instances

/-- It can be decided whether a call is legal. -/
instance [Fintype Queue] (s : Queues Queue Skb × Lists Queue Skb) :
    (op : QueueOp Queue Skb) → Decidable (Legal s op)
  | .queueTail _ skb | .queueHead _ skb =>
    inferInstanceAs (Decidable (∀ list, skb ∉ s.2.queued list))
  | .splice list head => inferInstanceAs (Decidable (list ≠ head))
  | .dequeue _ | .unlink _ _ | .purge _ => inferInstanceAs (Decidable True)

/-- It can be decided whether a call leaves the queues short. -/
instance [Fintype Queue] (s : Queues Queue Skb × Lists Queue Skb) (op : QueueOp Queue Skb) :
    Decidable (Short s op) :=
  inferInstanceAs (Decidable (∀ list, ((op.spec s.2).queued list).length < 2 ^ 32))

/-- Two queues that were just initialized. -/
def twoQueues : Queues (Fin 2) Nat × Lists (Fin 2) Nat :=
  (skbQueueHeadInit fun _ => none, ⟨fun _ => [], []⟩)

/-- One buffer is left in the second queue when two were put into the first one, spliced, and one
of them was taken out. -/
theorem skb_queues_refine_splice : ∃ s, (skbQueues (Fin 2) Nat).Reach Legal s ∧
    s.2.queued 1 = [7] ∧ Refines s.1 s.2 ∧ (s.1.heads 1).qlen.toNat = 1 := by
  have ran : ((skbQueues (Fin 2) Nat).runWith (fun s op => Legal s op ∧ Short s op) twoQueues
      [.queueTail 0 7, .queueHead 0 8, .splice 0 1, .unlink 8 1]).map
        (fun s => s.2.queued 1) = some [7] := by
    decide +kernel
  obtain ⟨s, executed, queued⟩ := Option.map_eq_some_iff.mp ran
  have short : (skbQueues (Fin 2) Nat).Reach (fun s op => Legal s op ∧ Short s op) s :=
    ⟨twoQueues, ⟨⟨_, rfl⟩, rfl⟩, System.path_of_runWith executed⟩
  have legal : (skbQueues (Fin 2) Nat).Reach Legal s := short.mono fun _ _ both => both.1
  have result := skb_queues_refine legal
  have counts := (result.2.2.2.2 short 1).1
  rw [queued] at counts
  exact ⟨s, legal, queued, result.1, counts⟩

/-- After any number of insertions of fresh buffers, `qlen` is this number modulo `2 ^ 32`. -/
theorem exists_queued (n : Nat) : ∃ s, (skbQueues Unit Nat).Reach Legal s ∧
    s.2.queued () = List.range n ∧ (s.1.heads ()).qlen.toNat = n % 2 ^ 32 := by
  induction n with
  | zero =>
    exact ⟨(skbQueueHeadInit fun _ => none, ⟨fun _ => [], []⟩),
      ⟨_, ⟨⟨_, rfl⟩, rfl⟩, .refl _⟩, rfl, rfl⟩
  | succ n ih =>
    obtain ⟨s, reach, queued, qlen⟩ := ih
    have fresh : Legal s (.queueTail () n) := by
      intro list
      rw [queued]
      simp
    refine ⟨_, reach.step fresh rfl, ?_, ?_⟩
    · show (Function.update s.2.queued () (s.2.queued () ++ [n])) () = List.range (n + 1)
      rw [Function.update_self, queued, List.range_succ]
    · have one : (1 : UInt32).toNat = 1 := rfl
      show ((s.1.heads ()).qlen + 1).toNat = (n + 1) % 2 ^ 32
      rw [UInt32.toNat_add, qlen, one]
      omega

/-- With `2 ^ 32` buffers in a queue, `qlen` is zero, and the head is there. -/
theorem skb_queues_wrap : ¬∀ s, (skbQueues Unit Nat).Reach Legal s →
    ((s.1.heads ()).head = none ↔ (s.1.heads ()).qlen = 0) := by
  intro claimed
  obtain ⟨s, reach, queued, qlen⟩ := exists_queued (2 ^ 32)
  have zero : (s.1.heads ()).qlen = 0 := by
    apply UInt32.toNat_inj.mp
    rw [qlen]
    rfl
  have missing := (claimed s reach).mpr zero
  have empty := ((refines_of_reach reach).head_eq_none_iff ()).1.mp missing
  have length : (List.range (2 ^ 32)).length = 0 := by
    rw [← queued, empty, List.length_nil]
  rw [List.length_range] at length
  omega

end Instances

end Lcompat.Net
