import Lcompat.Usb.Exclusive

/-!
# References to URBs

A URB has a reference from `usb_alloc_urb`, which its owner drops with `usb_free_urb`, and one for
each submission that `usb_submit_urb` has taken up: it goes with the URB from the submission into
the pending queue or into flight, from there to the completion, and is dropped at the end of that.
The counter is the number of these references, and the call that drops the last one releases the
URB. The owner's part of this is to free a URB once, and not while it is handing it to
`usb_submit_urb`, except in the callback of the URB, where the completion still has its reference.
-/

namespace Lcompat.Usb

open Lcompat.Logic

section References

variable {Id U : Type} [DecidableEq U]

/-- `usb_submit_urb` has taken the reference of the submission. -/
def SubmitPc.counted : SubmitPc → Bool
  | .busy | .append | .native | .idle _ | .clear _ | .free _ => true
  | _ => false

/-- The URB that a completion has popped and not handed over. -/
def CompletePc.next : CompletePc U → Option U
  | .handOver next | .nextStatus next _ | .nextSubmitted next | .nextIdle next | .nextKilled next
  | .nextEnter next | .nextCallback next | .nextFree next => some next
  | _ => none

/-- References to a URB that the submission a task is in will pass on or drop. -/
def Task.submission (task : Task U) (u : U) : Nat :=
  match task.submitting with
  | some (v, pc) => (decide (v = u) && pc.counted).toNat
  | none => 0

/-- References to a URB that the completion a task is in will pass on or drop. -/
def Task.completion (task : Task U) (u : U) : Nat :=
  match task.completing with
  | some (v, pc) => (decide (v = u)).toNat + (decide (pc.next = some u)).toNat
  | none => 0

/-- References to a URB in the hands of a task. -/
def Task.refs (u : U) (task : Task U) : Nat := task.submission u + task.completion u

omit [DecidableEq U] in
/-- References to a URB that is pending or in flight. -/
def Memory.refs (m : Memory U) (u : U) : Nat :=
  (m.states u).queued.toNat + m.inFlight u

/-- The submissions of a URB that were accepted and whose `usb_free_urb` has not run. -/
noncomputable def accepted (p : Tasks Id U) (u : U) : Nat :=
  Pool.total (Task.refs u) p.threads + p.shared.refs u

/-- The owner's reference to a URB, which it has until it is noted to have freed the URB. -/
def owners (freed : List U) (u : U) : Nat := if u ∈ freed then 0 else 1

/-- What is noted of a step: the URB that its owner frees. -/
def frees (_ : Tasks Id U) (a : Id × Choice U) : List U :=
  match a.2 with
  | .free u => [u]
  | _ => []

/-- A driver frees a URB once, and submits it only while it is not submitted and no other call for
it is under way. -/
def FreesOnce (s : Tasks Id U × List U) (a : Id × Choice U) : Prop :=
  match a.2 with
  | .submit u => (s.1.shared.urbs u).submitted = false ∧ ∀ t, ¬(s.1.threads t).Submits u
  | .free u => u ∉ s.2
  | _ => True

/-- Outside the callback of a URB, a driver calls `usb_submit_urb` for it only before it frees it,
and frees it only after the call. -/
def Keeps (s : Tasks Id U × List U) (a : Id × Choice U) : Prop :=
  match a.2 with
  | .submit u => u ∈ s.2 → (s.1.threads a.1).callbackOf = some u
  | .free u => ∀ t, (s.1.threads t).Submits u → (s.1.threads t).callbackOf = some u
  | _ => True

end References

variable {Id U : Type} [DecidableEq Id] [DecidableEq U] {bus : Bus}

/-- What a step does with the references to a URB, of which the moving task and the memory have
some number before and after it. -/
inductive RefStep (m m' : Memory U) (u : U) (before after : Nat) (takes : Prop) : Prop
  /-- It passes them on. -/
  | pass (refcount : (m'.urbs u).refcount = (m.urbs u).refcount)
      (released : m'.released u = m.released u) (same : after = before)
  /-- It takes one. -/
  | take (takes : takes) (refcount : (m'.urbs u).refcount = (m.urbs u).refcount + 1)
      (released : m'.released u = m.released u) (more : after = before + 1)
  /-- It drops one, and releases the URB with the last one. -/
  | drop (refcount : (m'.urbs u).refcount = (m.urbs u).refcount - 1)
      (released : m'.released u =
        m.released u + if (m'.urbs u).refcount = 0 then 1 else 0) (fewer : after + 1 = before)

/-- The invariant of the references: submissions do not overlap, they find their URB alive, and
the counters are right. -/
structure Counted (s : Tasks Id U × List U) : Prop where
  /-- No two tasks submit the same URB. -/
  alone : ∀ t r u, (s.1.threads t).Submits u → (s.1.threads r).Submits u → t = r
  /-- A submission that has not marked its URB finds it not submitted. -/
  unmarked : ∀ t u pc, (s.1.threads t).submitting = some (u, pc) → pc.before = true →
    (s.1.shared.urbs u).submitted = false
  /-- A URB that its owner has freed is submitted from its callback only. -/
  alive : ∀ t u, (s.1.threads t).Submits u → u ∈ s.2 → (s.1.threads t).callbackOf = some u
  /-- Finitely many tasks have references. -/
  finite : ∀ u, {t | (s.1.threads t).refs u ≠ 0}.Finite
  /-- The counter is the number of references. -/
  refcount : ∀ u, (s.1.shared.urbs u).refcount = (owners s.2 u + accepted s.1 u : Nat)
  /-- The URB is released when there are none. -/
  released : ∀ u, s.1.shared.released u = if (s.1.shared.urbs u).refcount = 0 then 1 else 0

omit [DecidableEq Id] in
/-- Freeing a URB drops a reference to it, and no reference to another one. -/
theorem freeUrb_refStep (m : Memory U) (u v : U) {before after : Nat} {takes : Prop}
    (fewer : if v = u then after + 1 = before else after = before) :
    RefStep m (freeUrb u m) v before after takes := by
  by_cases same : v = u
  · subst same
    rw [if_pos rfl] at fewer
    refine .drop ?_ ?_ fewer
    · simp only [freeUrb]
      split <;> simp
    · simp only [freeUrb]
      split <;> simp_all
  · rw [if_neg same] at fewer
    refine .pass ?_ ?_ fewer
    · simp only [freeUrb]
      split <;> simp [same]
    · simp only [freeUrb]
      split <;> simp [same]

omit [DecidableEq Id] [DecidableEq U] in
/-- A step that changes no counter passes references on. -/
theorem pass_refStep {m m' : Memory U} {v : U} {before after : Nat} {takes : Prop}
    (refcount : ∀ u, (m'.urbs u).refcount = (m.urbs u).refcount)
    (released : m'.released = m.released) (same : after = before) :
    RefStep m m' v before after takes :=
  .pass (refcount v) (by rw [released]) same

omit [DecidableEq Id] in
/-- A change of a URB that keeps its counter keeps all. -/
theorem update_refcount {urbs : U → Urb} {u : U} {urb : Urb}
    (refcount : urb.refcount = (urbs u).refcount) (v : U) :
    (Function.update urbs u urb v).refcount = (urbs v).refcount := by
  by_cases same : v = u
  · subst same
    simpa using refcount
  · simp [same]

omit [DecidableEq Id] in
/-- A task in a submission has the reference that the submission has taken. -/
theorem Task.submission_eq {task : Task U} {u : U} {pc : SubmitPc}
    (here : task.submitting = some (u, pc)) (v : U) :
    task.submission v = (decide (u = v) && pc.counted).toNat := by
  simp only [Task.submission, here]

omit [DecidableEq Id] in
/-- And so after a step of it. -/
theorem Task.inSubmit_submission (task : Task U) (u : U) (next : Next SubmitPc Int) (v : U) :
    (task.inSubmit u next).submission v =
      (decide (u = v) && next.after SubmitPc.counted false).toNat := by
  cases next <;> simp [Task.submission, Task.inSubmit]

omit [DecidableEq Id] in
/-- The completion that it is nested in keeps what it has. -/
theorem Task.inSubmit_completion (task : Task U) (u : U) (next : Next SubmitPc Int) (v : U) :
    (task.inSubmit u next).completion v = task.completion v := rfl

omit [DecidableEq Id] in
/-- A task in a completion has the reference of the URB it completes, and that of the URB it has
popped. -/
theorem Task.completion_eq {task : Task U} {u : U} {pc : CompletePc U}
    (here : task.completing = some (u, pc)) (v : U) :
    task.completion v = (decide (u = v)).toNat + (decide (pc.next = some v)).toNat := by
  simp only [Task.completion, here]

omit [DecidableEq Id] in
/-- And so after a step of it. -/
theorem Task.inComplete_completion (task : Task U) (u : U) (next : Next (CompletePc U) Unit)
    (v : U) :
    (task.inComplete u next).completion v =
      next.after (fun pc => (decide (u = v)).toNat + (decide (pc.next = some v)).toNat) 0 := by
  cases next <;> simp [Task.completion, Task.inComplete]

omit [DecidableEq Id] [DecidableEq U] in
/-- A memory in which the same URBs are pending and in flight has as many references. -/
theorem Memory.refs_congr {m m' : Memory U} {v : U}
    (queued : (m'.states v).queued = (m.states v).queued)
    (flights : m'.inFlight v = m.inFlight v) : m'.refs v = m.refs v := by
  rw [Memory.refs, Memory.refs, queued, flights]

omit [DecidableEq Id] in
/-- So has one in which a private state was left where it is. -/
theorem Memory.setState_refs (m : Memory U) (u : U) (change : UrbState → UrbState)
    (queued : (change (m.states u)).queued = (m.states u).queued) (v : U) :
    (m.setState u change).refs v = m.refs v := by
  refine Memory.refs_congr ?_ rfl
  by_cases same : v = u
  · subst same
    simpa using queued
  · simp [same]

omit [DecidableEq Id] in
/-- So has the memory after a URB was freed. -/
theorem Memory.freeUrb_refs (m : Memory U) (u v : U) : (freeUrb u m).refs v = m.refs v := by
  refine Memory.refs_congr ?_ (by rw [m.freeUrb_inFlight u])
  simp only [freeUrb]
  split <;> rfl

omit [DecidableEq Id] in
/-- A transfer that is accepted has a reference. -/
theorem Memory.setInFlight_refs (m : Memory U) (u v : U) :
    (m.setInFlight u (· + 1)).refs v = m.refs v + (decide (u = v)).toNat := by
  by_cases same : u = v
  · subst same
    simp [Memory.refs, Nat.add_assoc]
  · simp [Memory.refs, same, Ne.symm same]

section Steps

variable {p : Tasks Id U} {place : U → Place Id} {nodes : Endpoint → List U}
variable {own : Endpoint → Driver Id U} {t : Id} {u : U}

omit [DecidableEq Id] in
/-- A step of `usb_submit_urb` takes a reference at one step, passes it on, or drops it. -/
theorem Owned.submitUrb_refStep {pc : SubmitPc} {inside : Bool} {env : Env}
    (owned : Owned p place nodes own) (here : (p.threads t).submitting = some (u, pc)) (v : U) :
    RefStep p.shared (Usb.submitUrb bus u inside env p.shared pc).1 v
      ((p.threads t).refs v + p.shared.refs v)
      (((p.threads t).inSubmit u (Usb.submitUrb bus u inside env p.shared pc).2).refs v +
        (Usb.submitUrb bus u inside env p.shared pc).1.refs v) (pc = .ref ∧ v = u) := by
  have custody := owned.custody
  have owns := (owned.tasks t).submits u pc here
  -- a step after which as much is left to be dropped, by the task or in the memory
  have quiet : ∀ {m' : Memory U} {next : Next SubmitPc Int},
      (∀ w, (m'.urbs w).refcount = (p.shared.urbs w).refcount) →
      m'.released = p.shared.released →
      (decide (u = v) && next.after SubmitPc.counted false).toNat + m'.refs v =
        (decide (u = v) && pc.counted).toNat + p.shared.refs v →
      RefStep p.shared m' v ((p.threads t).refs v + p.shared.refs v)
        (((p.threads t).inSubmit u next).refs v + m'.refs v) (pc = .ref ∧ v = u) := by
    intro m' next refcount released balance
    refine pass_refStep refcount released ?_
    rw [Task.refs, Task.refs, Task.inSubmit_submission, Task.inSubmit_completion,
      Task.submission_eq here]
    omega
  cases pc with
  | check =>
    refine quiet (fun _ => rfl) rfl ?_
    have uncounted : (Usb.submitUrb bus u inside env p.shared .check).2.after
        SubmitPc.counted false = false := by
      simp only [Usb.submitUrb]
      grind -ring -linarith [Next.after, SubmitPc.counted]
    rw [uncounted]
    simp [SubmitPc.counted, Usb.submitUrb]
  | state =>
    simp only [Usb.submitUrb]
    split
    · exact quiet (fun _ => rfl) rfl (by simp [SubmitPc.counted])
    · rename_i missing
      split
      · have out := custody.out (u := u) fun settled => missing settled.1
        have marked := custody.marked u
        simp only [out, reduceCtorEq, iff_false, Bool.not_eq_true] at marked
        refine quiet (update_refcount ?_) rfl ?_
        · rfl
        have refs := p.shared.setState_refs u (fun _ => .zero) marked.symm v
        simpa [SubmitPc.counted, Memory.refs] using refs
      · exact quiet (fun _ => rfl) rfl (by simp [SubmitPc.counted])
  | pipe =>
    simp only [Usb.submitUrb]
    split
    · exact quiet (fun _ => rfl) rfl (by simp [SubmitPc.counted])
    · rename_i dev _
      have changed : ∀ m', m' = (getNativePipe bus dev (p.shared.urbs u).pipe u env p.shared).1 →
          m'.urbs = p.shared.urbs ∧ m'.released = p.shared.released ∧
            m'.refs v = p.shared.refs v := by
        rintro m' rfl
        rcases getNativePipe_cases bus dev (p.shared.urbs u).pipe u env p.shared with
          same | ⟨_, _, state, pipes, _, changed, queued⟩
        · rw [same]
          exact ⟨rfl, rfl, rfl⟩
        · rw [changed]
          exact ⟨rfl, rfl, p.shared.setState_refs u (fun _ => state) queued v⟩
      split <;> rename_i answer <;>
        obtain ⟨urbs, released, refs⟩ := changed _ (congrArg Prod.fst answer).symm <;>
        exact quiet (fun w => by rw [urbs]) released (by simp [refs, SubmitPc.counted])
  | submitted =>
    simp only [Usb.submitUrb]
    refine quiet (update_refcount ?_) rfl ?_
    · rfl
    · simp [SubmitPc.counted, Memory.refs]
  | killed =>
    simp only [Usb.submitUrb]
    refine quiet (update_refcount ?_) rfl ?_
    · rfl
    · simp [SubmitPc.counted, Memory.refs]
  | reset =>
    have marked := custody.marked u
    simp only [owns.held rfl, reduceCtorEq, iff_false, Bool.not_eq_true] at marked
    refine quiet (fun _ => rfl) rfl ?_
    have refs := p.shared.setState_refs u (fun state => { state with
      completedLength := 0, zlpPending := false, queued := false }) marked.symm v
    simpa [Usb.submitUrb, SubmitPc.counted, Memory.refs] using refs
  | ref =>
    by_cases same : v = u
    · subst same
      refine .take ⟨rfl, rfl⟩ (by simp [Usb.submitUrb]) rfl ?_
      rw [Task.refs, Task.refs, Task.inSubmit_submission, Task.inSubmit_completion,
        Task.submission_eq here]
      simp only [Usb.submitUrb, Next.after, SubmitPc.counted, Memory.refs, Memory.setUrb]
      simp
      omega
    · refine .pass (by simp [Usb.submitUrb, same]) rfl ?_
      rw [Task.refs, Task.refs, Task.inSubmit_submission, Task.inSubmit_completion,
        Task.submission_eq here, decide_eq_false (Ne.symm same)]
      rfl
  | busy =>
    simp only [Usb.submitUrb]
    split
    · exact quiet (fun _ => rfl) rfl (by simp [SubmitPc.counted])
    · split
      · exact quiet (fun _ => rfl) rfl (by simp [SubmitPc.counted])
      · exact quiet (fun _ => rfl) rfl (by simp [SubmitPc.counted, Memory.refs])
  | append =>
    simp only [Usb.submitUrb]
    split
    · rename_i none
      exact absurd none (owns.queues rfl)
    · rename_i e _
      have marked := custody.marked u
      simp only [owns.held rfl, reduceCtorEq, iff_false, Bool.not_eq_true] at marked
      refine quiet (fun _ => rfl) rfl ?_
      by_cases same : u = v
      · subst same
        simp [Memory.refs, queueAppend, marked, SubmitPc.counted]
      · simp [Memory.refs, queueAppend, same, Ne.symm same]
  | native =>
    obtain ⟨state, alike, outcome⟩ := prepareAndSubmit_cases u env p.shared
    have refs := p.shared.setState_refs u (fun _ => state) alike.queued v
    rcases outcome with ⟨answer, _⟩ | ⟨ret, negative, answer⟩
    · simp only [Usb.submitUrb, answer]
      refine quiet (fun _ => rfl) rfl ?_
      rw [Memory.setInFlight_refs, refs]
      simp [SubmitPc.counted, Nat.add_comm]
    · simp only [Usb.submitUrb, answer, if_pos negative]
      exact quiet (fun _ => rfl) rfl (by simp only [refs, Next.after, SubmitPc.counted])
  | idle ret =>
    simp only [Usb.submitUrb]
    split
    · exact quiet (fun _ => rfl) rfl (by simp [SubmitPc.counted])
    · exact quiet (fun _ => rfl) rfl (by simp [SubmitPc.counted, Memory.refs])
  | clear ret =>
    simp only [Usb.submitUrb]
    refine quiet (update_refcount ?_) rfl ?_
    · rfl
    · simp [SubmitPc.counted, Memory.refs]
  | free ret =>
    refine freeUrb_refStep p.shared u v ?_
    rw [Task.refs, Task.refs, Task.inSubmit_submission, Task.inSubmit_completion,
      Task.submission_eq here, Usb.submitUrb, p.shared.freeUrb_refs]
    by_cases same : v = u
    · subst same
      simp [SubmitPc.counted]
      omega
    · simp [same, Ne.symm same]

omit [DecidableEq Id] in
/-- A step of `lcompat_usb_urb_complete` passes references on, or drops one. -/
theorem Owned.urbComplete_refStep {pc : CompletePc U} {env : Env}
    (owned : Owned p place nodes own) (free : (p.threads t).submitting = none)
    (here : (p.threads t).completing = some (u, pc)) (v : U) :
    RefStep p.shared (Usb.urbComplete bus u env p.shared pc).1 v
      ((p.threads t).refs v + p.shared.refs v)
      (((p.threads t).inComplete u (Usb.urbComplete bus u env p.shared pc).2).refs v +
        (Usb.urbComplete bus u env p.shared pc).1.refs v) False := by
  have custody := owned.custody
  have owns := (owned.tasks t).completes u pc here
  have nothing : ∀ next, ((p.threads t).inComplete u next).submission v = 0 := fun next => by
    simp [Task.submission, Task.inComplete, free]
  have outside : (p.threads t).submission v = 0 := by simp [Task.submission, free]
  -- a step after which as much is left to be dropped, by the task or in the memory
  have quiet : ∀ {m' : Memory U} {next : Next (CompletePc U) Unit},
      (m'.urbs v).refcount = (p.shared.urbs v).refcount →
      m'.released = p.shared.released →
      next.after (fun pc => (decide (u = v)).toNat + (decide (pc.next = some v)).toNat) 0 +
          m'.refs v =
        (decide (u = v)).toNat + (decide (pc.next = some v)).toNat + p.shared.refs v →
      RefStep p.shared m' v ((p.threads t).refs v + p.shared.refs v)
        (((p.threads t).inComplete u next).refs v + m'.refs v) False := by
    intro m' next refcount released balance
    refine .pass refcount (by rw [released]) ?_
    rw [Task.refs, Task.refs, nothing, outside, Task.inComplete_completion, Task.completion_eq here]
    omega
  cases pc with
  | check status actual =>
    have submitted : (p.shared.urbs u).submitted = true :=
      custody.shape.submitted u (by simp [owns.held u rfl])
    obtain ⟨state, next, alike, goes, checked⟩ :=
      urbComplete_check_cases bus u env submitted status actual
    have refs := p.shared.setState_refs u (fun _ => state) alike.queued v
    simp only [checked]
    refine quiet rfl rfl ?_
    rw [refs]
    rcases goes with ⟨_, rfl⟩ | ⟨_, _, rfl⟩ <;> simp [CompletePc.next]
  | zlp actual =>
    obtain ⟨state, alike, outcome⟩ := submitNativeUrb_cases u 0 env p.shared
    have refs := p.shared.setState_refs u (fun _ => state) alike.queued v
    rcases outcome with ⟨answer, _⟩ | ⟨ret, negative, answer⟩
    · simp only [Usb.urbComplete, answer, if_true]
      refine quiet rfl rfl ?_
      rw [Memory.setInFlight_refs, refs]
      simp [CompletePc.next, Nat.add_comm]
    · simp only [Usb.urbComplete, answer, if_neg negative.ne]
      refine quiet rfl rfl ?_
      rw [Memory.setState_refs _ u _ (by rfl), refs]
      simp [CompletePc.next]
  | copy mapped actual =>
    simp only [Usb.urbComplete]
    split
    · dsimp only
      refine quiet (update_refcount ?_ v) rfl ?_
      · rfl
      · simp [CompletePc.next, Memory.refs]
    · exact quiet rfl rfl (by simp [CompletePc.next])
  | cas mapped actual =>
    have submitted : (p.shared.urbs u).submitted = true :=
      custody.shape.submitted u (by simp [owns.held u rfl])
    simp only [Usb.urbComplete, submitted, if_true]
    refine quiet (update_refcount ?_ v) rfl ?_
    · rfl
    · simp [CompletePc.next, Memory.refs]
  | store mapped actual =>
    simp only [Usb.urbComplete]
    refine quiet (update_refcount ?_ v) rfl ?_
    · rfl
    · split <;> simp [CompletePc.next, Memory.refs]
  | killed =>
    simp only [Usb.urbComplete]
    refine quiet rfl rfl ?_
    split <;> simp [CompletePc.next]
  | enter | callback =>
    simp only [Usb.urbComplete]
    exact quiet rfl rfl (by simp [CompletePc.next])
  | pop =>
    simp only [Usb.urbComplete]
    split
    · exact quiet rfl rfl (by simp [CompletePc.next])
    · rename_i e _
      cases first : nodes e with
      | nil =>
        have head : p.shared.pendingHead e = none :=
          (custody.shape.head_eq_none_iff e).mpr first
        have empty : queuePop e p.shared = (p.shared, none) := by simp [queuePop, head]
        simp only [empty]
        exact quiet rfl rfl (by simp [CompletePc.next, Memory.refs])
      | cons w rest =>
        -- the reference of the popped URB goes from the queue to the completion
        have head : p.shared.pendingHead e = some w := (first ▸ custody.shape.repr e).chain.1
        have pending := (custody.marked w).mpr (custody.shape.queued e w (by simp [first])).1
        simp only [queuePop, head]
        refine quiet rfl rfl ?_
        by_cases same : v = w
        · subst same
          simp [CompletePc.next, Memory.refs, pending]
          omega
        · simp [CompletePc.next, Memory.refs, same, Ne.symm same]
  | handOver w =>
    obtain ⟨state, alike, outcome⟩ := prepareAndSubmit_cases w env p.shared
    have refs := p.shared.setState_refs w (fun _ => state) alike.queued v
    rcases outcome with ⟨answer, _⟩ | ⟨ret, negative, answer⟩
    · simp only [Usb.urbComplete, answer]
      refine quiet rfl rfl ?_
      rw [Memory.setInFlight_refs, refs]
      simp [CompletePc.next]
      omega
    · simp only [Usb.urbComplete, answer, if_pos negative]
      refine quiet rfl rfl ?_
      rw [refs]
      simp [CompletePc.next]
  | nextStatus w ret =>
    simp only [Usb.urbComplete]
    refine quiet (update_refcount ?_ v) rfl ?_
    · rfl
    · simp [CompletePc.next, Memory.refs]
  | nextSubmitted w =>
    simp only [Usb.urbComplete]
    refine quiet (update_refcount ?_ v) rfl ?_
    · rfl
    · simp [CompletePc.next, Memory.refs]
  | nextIdle w =>
    simp only [Usb.urbComplete]
    split <;> exact quiet rfl rfl (by simp [CompletePc.next, Memory.refs])
  | nextKilled w =>
    simp only [Usb.urbComplete]
    refine quiet rfl rfl ?_
    split <;> simp [CompletePc.next]
  | nextEnter w | nextCallback w =>
    simp only [Usb.urbComplete]
    exact quiet rfl rfl (by simp [CompletePc.next])
  | nextFree w =>
    refine freeUrb_refStep p.shared w v ?_
    rw [Task.refs, Task.refs, nothing, outside, Task.inComplete_completion,
      Task.completion_eq here, Usb.urbComplete, p.shared.freeUrb_refs]
    by_cases same : v = w
    · subst same
      simp [CompletePc.next]
      omega
    · simp [CompletePc.next, same, Ne.symm same]
  | free =>
    refine freeUrb_refStep p.shared u v ?_
    rw [Task.refs, Task.refs, nothing, outside, Task.inComplete_completion,
      Task.completion_eq here, Usb.urbComplete, p.shared.freeUrb_refs]
    by_cases same : v = u
    · subst same
      simp [CompletePc.next]
      omega
    · simp [CompletePc.next, same, Ne.symm same]

omit [DecidableEq Id] in
/-- A native completion takes over the reference of the transfer. -/
theorem Owned.deliver_refStep {status actual : Int} {data : List UInt8} {takes : Prop}
    (owned : Owned p place nodes own) (flying : 0 < p.shared.inFlight u)
    (outside : p.threads t = .outside) (v : U) :
    RefStep p.shared (Usb.deliver u data p.shared) v ((p.threads t).refs v + p.shared.refs v)
      (((p.threads t).inComplete u (.goto (.check status actual))).refs v +
        (Usb.deliver u data p.shared).refs v) takes := by
  obtain ⟨urb, state, urbAlike, alike, delivered⟩ := deliver_cases u data p.shared
  have once := owned.exclusive.once u
  have nothing : (p.threads t).refs v = 0 := by
    simp [outside, Task.refs, Task.submission, Task.completion, Task.outside]
  have new : ((p.threads t).inComplete u (.goto (.check status actual))).refs v =
      (decide (u = v)).toNat := by
    simp [outside, Task.refs, Task.submission, Task.completion, Task.outside, Task.inComplete,
      CompletePc.next]
  rw [delivered, nothing, new]
  refine .pass ?_ rfl ?_
  · by_cases same : v = u
    · subst same
      simpa using urbAlike.refcount
    · simp [same]
  · by_cases same : v = u
    · subst same
      simp [Memory.refs, alike.queued]
      omega
    · simp [Memory.refs, same, Ne.symm same]

end Steps

omit [DecidableEq Id] in
/-- A change of a URB that does not mark it marks none. -/
theorem update_unset {urbs : U → Urb} {u v : U} {urb : Urb}
    (unset : (urbs u).submitted = false → urb.submitted = false)
    (clear : (urbs v).submitted = false) : (Function.update urbs u urb v).submitted = false := by
  by_cases same : v = u
  · subst same
    simpa using unset clear
  · simpa [same] using clear

omit [DecidableEq Id] in
/-- A submission marks its URB at one step, and no other one. -/
theorem submitUrb_unset {m : Memory U} {u v : U} {inside : Bool} {env : Env} {pc : SubmitPc}
    (apart : pc = .submitted → v ≠ u) (clear : (m.urbs v).submitted = false) :
    ((submitUrb bus u inside env m pc).1.urbs v).submitted = false := by
  cases pc with
  | check | busy | append | idle =>
    simp only [submitUrb]
    repeat' split
    all_goals exact clear
  | state =>
    simp only [submitUrb]
    split
    · exact clear
    · split
      · exact update_unset id clear
      · exact clear
  | pipe =>
    simp only [submitUrb]
    split
    · exact clear
    · rename_i dev _
      have kept : (getNativePipe bus dev (m.urbs u).pipe u env m).1.urbs = m.urbs := by
        rcases getNativePipe_cases bus dev (m.urbs u).pipe u env m with
          same | ⟨_, _, state, pipes, _, changed, _⟩
        · rw [same]
        · rw [changed]
          rfl
      split <;> rename_i answer <;> rw [answer] at kept <;>
        exact (congrArg (fun urbs => (urbs v).submitted) kept).trans clear
  | submitted => simpa [submitUrb, apart rfl] using clear
  | killed | ref => exact update_unset id clear
  | reset => exact clear
  | native =>
    obtain ⟨state, _, ⟨answer, _⟩ | ⟨ret, _, answer⟩⟩ := prepareAndSubmit_cases u env m <;>
      simpa [submitUrb, answer] using clear
  | clear => exact update_unset (fun _ => rfl) clear
  | free => exact (m.freeUrb_submitted u v).trans clear

omit [DecidableEq Id] in
/-- A completion marks no URB. -/
theorem urbComplete_unset {m : Memory U} {u v : U} {env : Env} {pc : CompletePc U}
    (clear : (m.urbs v).submitted = false) :
    ((urbComplete bus u env m pc).1.urbs v).submitted = false := by
  cases pc with
  | check | killed | enter | callback | nextIdle | nextKilled | nextEnter | nextCallback =>
    simp only [urbComplete]
    repeat' split
    all_goals exact clear
  | zlp =>
    obtain ⟨state, _, ⟨answer, _⟩ | ⟨ret, negative, answer⟩⟩ := submitNativeUrb_cases u 0 env m
    · simpa [urbComplete, answer] using clear
    · simpa [urbComplete, answer, negative.ne] using clear
  | copy =>
    simp only [urbComplete]
    split
    · exact update_unset id clear
    · exact clear
  | cas =>
    simp only [urbComplete]
    split
    · exact update_unset (fun _ => rfl) clear
    · exact clear
  | store | nextStatus => exact update_unset id clear
  | pop =>
    simp only [urbComplete]
    split
    · exact clear
    · rename_i e _
      have kept := (queuePop_frame e m).1
      split <;> rename_i answer <;> rw [answer] at kept <;>
        exact (congrArg (fun urbs => (urbs v).submitted) kept).trans clear
  | handOver next =>
    obtain ⟨state, _, ⟨answer, _⟩ | ⟨ret, _, answer⟩⟩ := prepareAndSubmit_cases next env m <;>
      simpa [urbComplete, answer] using clear
  | nextSubmitted => exact update_unset (fun _ => rfl) clear
  | nextFree next => exact (m.freeUrb_submitted next v).trans clear
  | free => exact (m.freeUrb_submitted u v).trans clear

omit [DecidableEq Id] in
/-- A step marks a URB only as that step of a submission of it. -/
theorem Moved.unset {m m' : Memory U} {task task' : Task U} {choice : Choice U}
    (moved : Moved bus m task choice m' task') {v : U}
    (apart : task.submitting ≠ some (v, .submitted)) (clear : (m.urbs v).submitted = false) :
    (m'.urbs v).submitted = false := by
  cases moved with
  | submitUrb u pc env here =>
    refine submitUrb_unset ?_ clear
    rintro rfl rfl
    exact apart here
  | killUrb u pc env free here =>
    cases pc with
    | store => exact update_unset id clear
    | wait =>
      simp only [Usb.killUrb]
      split <;> exact clear
  | urbComplete u pc env free idle here => exact urbComplete_unset clear
  | deliver u status actual data flying outside =>
    obtain ⟨urb, state, alike, _, delivered⟩ := deliver_cases u data m
    rw [delivered]
    exact update_unset (fun was => alike.submitted.trans was) clear
  | kill u outside => exact clear
  | submit u free calls => exact clear
  | free u free calls => exact (m.freeUrb_submitted u v).trans clear

/-- The counters after a step that passes references on, takes one to a URB that has others, or
drops one. -/
theorem Counted.counters {p : Tasks Id U} {freed freed' : List U} {t : Id} {m' : Memory U}
    {task' : Task U} (counted : Counted (p, freed)) (takes : U → Prop)
    (moved : ∀ v, RefStep p.shared m' v
      (owners freed v + ((p.threads t).refs v + p.shared.refs v))
      (owners freed' v + (task'.refs v + m'.refs v)) (takes v))
    (alive : ∀ v, takes v → (p.shared.urbs v).refcount ≠ 0) (v : U) :
    {s | (Function.update p.threads t task' s).refs v ≠ 0}.Finite ∧
      (m'.urbs v).refcount =
        (owners freed' v + accepted ⟨m', Function.update p.threads t task'⟩ v : Nat) ∧
      m'.released v = if (m'.urbs v).refcount = 0 then 1 else 0 := by
  have finite : {s | (p.threads s).refs v ≠ 0}.Finite := counted.finite v
  have total := Pool.total_update finite t task'
  have least := Pool.le_total finite t
  have refcount : (p.shared.urbs v).refcount = (owners freed v + accepted p v : Nat) :=
    counted.refcount v
  have released : p.shared.released v = if (p.shared.urbs v).refcount = 0 then 1 else 0 :=
    counted.released v
  refine ⟨Pool.finite_update (fun task => task.refs v ≠ 0) finite t task', ?_⟩
  simp only [accepted] at refcount ⊢
  cases moved v with
  | pass refcount' released' same =>
    refine ⟨?_, ?_⟩
    · omega
    · rw [released', refcount', released]
  | take takes refcount' released' more =>
    have positive := alive v takes
    refine ⟨by omega, ?_⟩
    rw [released', released, if_neg positive, if_neg (by omega)]
  | drop refcount' released' fewer =>
    have positive : (p.shared.urbs v).refcount ≠ 0 := by omega
    refine ⟨by omega, ?_⟩
    rw [released', released, if_neg positive, Nat.zero_add]

omit [DecidableEq Id] [DecidableEq U] in
/-- References of the owner are passed on by all of this. -/
theorem RefStep.owned {m m' : Memory U} {v : U} {before after owner : Nat} {takes : Prop}
    (step : RefStep m m' v before after takes) :
    RefStep m m' v (owner + before) (owner + after) takes := by
  cases step with
  | pass refcount released same => exact .pass refcount released (by omega)
  | take takes refcount released more => exact .take takes refcount released (by omega)
  | drop refcount released fewer => exact .drop refcount released (by omega)

/-- The invariant after a move, given the counters after it and what the moved task submits. -/
theorem Counted.moved {p : Tasks Id U} {freed freed' : List U} {t : Id} {m' : Memory U}
    {task' : Task U} (counted : Counted (p, freed))
    (counters : ∀ v, {s | (Function.update p.threads t task' s).refs v ≠ 0}.Finite ∧
      (m'.urbs v).refcount =
        (owners freed' v + accepted ⟨m', Function.update p.threads t task'⟩ v : Nat) ∧
      m'.released v = if (m'.urbs v).refcount = 0 then 1 else 0)
    (mine : ∀ u, task'.Submits u → (p.threads t).Submits u ∨ ∀ r, ¬(p.threads r).Submits u)
    (unset : ∀ u, (p.threads t).submitting ≠ some (u, .submitted) →
      (p.shared.urbs u).submitted = false → (m'.urbs u).submitted = false)
    (early : ∀ u pc, task'.submitting = some (u, pc) → pc.before = true →
      (m'.urbs u).submitted = false)
    (own : ∀ u, task'.Submits u → u ∈ freed' → task'.callbackOf = some u)
    (others : ∀ r, r ≠ t → ∀ u, (p.threads r).Submits u → u ∈ freed' →
      (p.threads r).callbackOf = some u) :
    Counted (⟨m', Function.update p.threads t task'⟩, freed') := by
  have apart : ∀ r, r ≠ t → ∀ u, task'.Submits u → ¬(p.threads r).Submits u := by
    intro r other u submits also
    rcases mine u submits with before | nobody
    · exact other (counted.alone r t u also before)
    · exact nobody r also
  refine ⟨fun r s u left right => ?_, fun r u pc on before => ?_, fun r u submits freed => ?_,
    fun v => (counters v).1, fun v => (counters v).2.1, fun v => (counters v).2.2⟩
  · dsimp only at left right
    by_cases first : r = t <;> by_cases second : s = t
    · rw [first, second]
    · rw [first, Function.update_self] at left
      rw [Function.update_of_ne second] at right
      exact absurd right (apart s second u left)
    · rw [second, Function.update_self] at right
      rw [Function.update_of_ne first] at left
      exact absurd left (apart r first u right)
    · rw [Function.update_of_ne first] at left
      rw [Function.update_of_ne second] at right
      exact counted.alone r s u left right
  · dsimp only at on
    by_cases same : r = t
    · rw [same, Function.update_self] at on
      exact early u pc on before
    · rw [Function.update_of_ne same] at on
      refine unset u (fun marks => ?_) (counted.unmarked r u pc on before)
      exact same (counted.alone r t u ⟨pc, on⟩ ⟨_, marks⟩)
  · dsimp only at submits ⊢
    by_cases same : r = t
    · rw [same, Function.update_self] at submits ⊢
      exact own u submits freed
    · rw [Function.update_of_ne same] at submits ⊢
      exact others r same u submits freed

omit [DecidableEq Id] in
/-- A submission that has not marked its URB yet has found it not submitted. -/
theorem submitUrb_early {m : Memory U} {u : U} {inside : Bool} {env : Env} {pc pc' : SubmitPc}
    (unmarked : pc.before = true → (m.urbs u).submitted = false)
    (goes : (submitUrb bus u inside env m pc).2 = .goto pc') (before : pc'.before = true) :
    pc ≠ .submitted ∧ (m.urbs u).submitted = false := by
  cases pc with
  | check =>
    refine ⟨by simp, ?_⟩
    simp only [submitUrb] at goes
    grind -ring -linarith
  | state | pipe => exact ⟨by simp, unmarked rfl⟩
  | submitted | killed | reset | ref | busy | append | native | idle | clear | free =>
    simp only [submitUrb] at goes
    grind -ring -linarith [SubmitPc.before]

/-- Every lawful step keeps the references right. -/
theorem Counted.step {s s' : Tasks Id U × List U} {a : Id × Choice U} {place : U → Place Id}
    {nodes : Endpoint → List U} {own : Endpoint → Driver Id U} (counted : Counted s)
    (owned : Owned s.1 place nodes own) (once : FreesOnce s a) (keeps : Keeps s a)
    (stepped : ((system Id U bus).record frees).step s a = some s') : Counted s' := by
  obtain ⟨moved, noted⟩ := System.record_step_eq_some.mp stepped
  obtain ⟨p, freed⟩ := s
  obtain ⟨q, freed'⟩ := s'
  obtain ⟨m, task, executed, after⟩ := Pool.step_eq_some.mp moved
  obtain rfl : q = ⟨m, Function.update p.threads a.1 task⟩ := after
  obtain rfl : freed' = frees p a ++ freed := noted
  obtain ⟨t, choice⟩ := a
  have step : Moved bus p.shared (p.threads t) choice m task := exec_moved executed
  have owned : Owned p place nodes own := owned
  have unset : ∀ v, (p.threads t).submitting ≠ some (v, .submitted) →
      (p.shared.urbs v).submitted = false → (m.urbs v).submitted = false := fun _ => step.unset
  -- a step of a task that is in no submission, before and after it
  have idle : ∀ {m : Memory U} {task : Task U}, (p.threads t).submitting = none →
      task.submitting = none →
      (∀ v, RefStep p.shared m v ((p.threads t).refs v + p.shared.refs v)
        (task.refs v + m.refs v) False) →
      (∀ v, (p.threads t).submitting ≠ some (v, .submitted) →
        (p.shared.urbs v).submitted = false → (m.urbs v).submitted = false) →
      Counted (⟨m, Function.update p.threads t task⟩, freed) := by
    intro m task _ after refs unset
    have nobody : ∀ v, ¬task.Submits v := by
      rintro v ⟨pc, on⟩
      simp [after] at on
    exact counted.moved (counted.counters _ (fun v => (refs v).owned) fun _ => False.elim)
      (fun v submits => absurd submits (nobody v)) unset
      (fun v pc on => absurd ⟨pc, on⟩ (nobody v)) (fun v submits => absurd submits (nobody v))
      fun r _ v submits gone => counted.alive r v submits gone
  cases step with
  | submitUrb u pc env here =>
    have mine : (p.threads t).Submits u := ⟨pc, here⟩
    refine counted.moved (counted.counters _ (fun v => (owned.submitUrb_refStep here v).owned)
      fun v takes => ?_) (fun v submits => .inl ?_) unset (fun v pc' on before => ?_)
      (fun v submits gone => ?_) fun r _ v submits gone => counted.alive r v submits gone
    · -- the reference is taken while the owner has one, or the completion that calls back
      obtain ⟨rfl, rfl⟩ := takes
      have refcount := counted.refcount v
      have least := Pool.le_total (counted.finite v) t
      have held : owners freed v + (p.threads t).completion v ≠ 0 := by
        by_cases gone : v ∈ freed
        · have calls := counted.alive t v mine gone
          have positive : (p.threads t).completion v ≠ 0 := by
            cases completing : (p.threads t).completing with
            | none => simp [Task.callbackOf, completing] at calls
            | some c =>
              obtain ⟨w, pc⟩ := c
              rw [Task.callbackOf, completing] at calls
              rw [Task.completion_eq completing]
              cases pc <;> simp_all [CompletePc.callbackOf, CompletePc.next]
          omega
        · simp [owners, gone]
      simp only [Task.refs, accepted] at least refcount
      omega
    · obtain ⟨pc', on⟩ := submits
      obtain ⟨rfl, _⟩ := Next.after_eq_some on
      exact mine
    · obtain ⟨rfl, goes⟩ := Next.after_eq_some on
      obtain ⟨apart, clear⟩ := submitUrb_early (counted.unmarked t _ pc here) goes before
      exact submitUrb_unset (fun marks => absurd marks apart) clear
    · obtain ⟨pc', on⟩ := submits
      obtain ⟨rfl, _⟩ := Next.after_eq_some on
      exact counted.alive t _ mine gone
  | killUrb u pc env free here =>
    refine idle free free (fun v => .pass ?_ ?_ ?_) unset
    · cases pc with
      | store =>
        refine update_refcount ?_ v
        rfl
      | wait =>
        simp only [killUrb]
        split <;> rfl
    · cases pc with
      | store => rfl
      | wait =>
        simp only [killUrb]
        split <;> rfl
    · cases pc with
      | store => rfl
      | wait =>
        simp only [killUrb]
        split <;> rfl
  | urbComplete u pc env free quiet here =>
    exact idle free free (owned.urbComplete_refStep free here) unset
  | deliver u status actual data flying outside =>
    have free : (p.threads t).submitting = none := by rw [outside]; rfl
    exact idle free free (owned.deliver_refStep flying outside) unset
  | kill u outside =>
    have free : (p.threads t).submitting = none := by rw [outside]; rfl
    exact idle free free (fun v => .pass rfl rfl rfl) unset
  | submit u free calls =>
    obtain ⟨clear, nobody⟩ := once
    have refs : ∀ v, ((p.threads t).inSubmit u (.goto .check)).refs v = (p.threads t).refs v := by
      intro v
      rw [Task.refs, Task.refs, Task.inSubmit_submission, Task.inSubmit_completion]
      simp [Task.submission, free, SubmitPc.counted]
    have target : ∀ v pc, ((p.threads t).inSubmit u (.goto .check)).submitting = some (v, pc) →
        v = u ∧ pc = .check := by
      intro v pc on
      simpa [Task.inSubmit, eq_comm] using on
    refine counted.moved (counted.counters _ (fun v => .pass rfl rfl (by rw [refs]; rfl))
      fun _ => False.elim) (fun v submits => ?_) unset (fun v pc on before => ?_)
      (fun v submits gone => ?_) fun r _ v submits gone => counted.alive r v submits gone
    · obtain ⟨pc, on⟩ := submits
      obtain ⟨rfl, _⟩ := target v pc on
      exact .inr nobody
    · obtain ⟨_, rfl⟩ := target v pc on
      simp [SubmitPc.before] at before
    · obtain ⟨pc, on⟩ := submits
      obtain ⟨rfl, _⟩ := target v pc on
      exact keeps gone
  | free u free calls =>
    have new : u ∉ freed := once
    have refs : ∀ v, (freeUrb u p.shared).refs v = p.shared.refs v := p.shared.freeUrb_refs u
    have noted : ∀ v, v ∈ frees p (t, .free u) ++ freed ↔ v = u ∨ v ∈ freed := by simp [frees]
    have alive : ∀ r v, (p.threads r).Submits v → v ∈ frees p (t, .free u) ++ freed →
        (p.threads r).callbackOf = some v := by
      intro r v submits gone
      rcases (noted v).mp gone with rfl | gone
      · exact keeps r submits
      · exact counted.alive r v submits gone
    have nobody : ∀ v, ¬(p.threads t).Submits v := by
      rintro v ⟨pc, on⟩
      simp [free] at on
    refine counted.moved (counted.counters (fun _ => False)
      (fun v => freeUrb_refStep p.shared u v ?_) fun _ => False.elim)
      (fun v submits => absurd submits (nobody v)) unset
      (fun v pc on => absurd ⟨pc, on⟩ (nobody v)) (fun v => alive t v) fun r _ v => alive r v
    rw [refs]
    dsimp only
    by_cases same : v = u
    · subst same
      rw [if_pos rfl, owners, owners, if_pos ((noted v).mpr (.inl rfl)), if_neg new]
      omega
    · have owner : owners (frees p (t, .free u) ++ freed) v = owners freed v := by
        simp [owners, frees, same]
      rw [if_neg same, owner]

omit [DecidableEq Id] in
/-- Fresh tasks have one reference to each URB, the owner's. -/
theorem Fresh.counted {p : Tasks Id U} (fresh : Fresh p) : Counted (p, []) := by
  have outside : ∀ t v, (p.threads t).refs v = 0 := by
    intro t v
    simp [fresh.outside t, Task.refs, Task.submission, Task.completion, Task.outside]
  have none : ∀ v, accepted p v = 0 := by
    intro v
    simp [accepted, Pool.total, outside, Memory.refs, fresh.states, UrbState.zero,
      (fresh.history v).1]
  refine ⟨fun t r u submits => ?_, fun t u pc on => ?_, fun t u submits => ?_, fun v => ?_,
    fun v => ?_, fun v => ?_⟩
  · obtain ⟨pc, on⟩ := submits
    simp [fresh.outside, Task.outside] at on
  · simp [fresh.outside, Task.outside] at on
  · obtain ⟨pc, on⟩ := submits
    simp [fresh.outside, Task.outside] at on
  · simp [outside]
  · simp [none, owners, (fresh.urbs v).2.2.2]
  · simp [(fresh.history v).2.1, (fresh.urbs v).2.2.2]

instance [Fintype Id] (s : Tasks Id U × List U) : (a : Id × Choice U) → Decidable (FreesOnce s a)
  | (_, .submit u) => inferInstanceAs
    (Decidable ((s.1.shared.urbs u).submitted = false ∧ ∀ t, ¬(s.1.threads t).Submits u))
  | (_, .free u) => inferInstanceAs (Decidable (u ∉ s.2))
  | (_, .deliver _ _ _ _) | (_, .kill _) | (_, .go _) => .isTrue trivial

instance [Fintype Id] (s : Tasks Id U × List U) : (a : Id × Choice U) → Decidable (Keeps s a)
  | (t, .submit u) => inferInstanceAs
    (Decidable (u ∈ s.2 → (s.1.threads t).callbackOf = some u))
  | (_, .free u) => inferInstanceAs
    (Decidable (∀ t, (s.1.threads t).Submits u → (s.1.threads t).callbackOf = some u))
  | (_, .deliver _ _ _ _) | (_, .kill _) | (_, .go _) => .isTrue trivial

end Lcompat.Usb
