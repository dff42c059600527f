import Lcompat.Kref
import Lcompat.List

/-!
# Callbacks of a fence

`dma_fence_add_callback` puts a callback on the list of a fence and invokes it at once when the
fence is signaled already, `dma_fence_remove_callback` takes one off a list, and
`dma_fence_signal` sets the bits of the fence. Callbacks are of any type, and so are the functions
they invoke; a callback that makes further calls does so when the call that invoked it has nothing
left to do, so a sequence of calls covers it.

Beside the fence stands what it is for: its waiters are invoked when it is signaled. The list is
walked nowhere, so a fence keeps its promise exactly as long as nobody waits when it is signaled
and nobody but a waiter is removed.
-/

namespace Lcompat.Dma

open Lcompat.Logic

variable {Cb Func : Type}

/-- `struct dma_fence`, with the callbacks. -/
structure Fence (Cb Func : Type) where
  /-- Whether `ops` is set. -/
  ops : Bool
  /-- `refcount`. -/
  refcount : Kref
  /-- The bit `DMA_FENCE_FLAG_SIGNALED_BIT` of `flags`. -/
  signaledBit : Bool
  /-- The bit `DMA_FENCE_FLAG_TIMESTAMP_BIT` of `flags`. -/
  timestampBit : Bool
  /-- `timestamp`. -/
  timestamp : Int
  /-- `cb_list`, which is no callback, and the `node` of each callback. -/
  links : Links (Option Cb)
  /-- The `func` of each callback, as far as it has been written. -/
  funcs : Cb → Option (Option Func)

/-- What a call does: what it returns, zero for nothing, and which functions it invokes. -/
structure Outcome (Cb Func : Type) where
  /-- What it returns. -/
  ret : Int
  /-- The callbacks it invokes, with their functions. -/
  invoked : List (Cb × Func)
  deriving DecidableEq

namespace Fence

/-- `dma_fence_init`. -/
def init [DecidableEq Cb] (ops : Bool) : Fence Cb Func where
  ops
  refcount := ⟨1, 0, false, false⟩
  signaledBit := false
  timestampBit := false
  timestamp := 0
  links := Links.initListHead ⟨fun _ => none, fun _ => none⟩ none
  funcs _ := none

/-- `dma_fence_get`. -/
def get (fence : Fence Cb Func) : Fence Cb Func := { fence with refcount := fence.refcount.ref }

/-- `kref_put`, when nobody else uses the counter meanwhile: the last reference releases. -/
def krefPut (k : Kref) : Kref :=
  if k.unref.refCount = 0 then { k.unref with releases := k.unref.releases + 1 } else k.unref

/-- `dma_fence_put`: it reads `ops`. -/
def put (fence : Fence Cb Func) : Option (Fence Cb Func) :=
  if fence.ops then some { fence with refcount := krefPut fence.refcount } else none

/-- `dma_fence_is_signaled`, given what `ops->signaled` answers if there is one. -/
def isSignaled (fence : Fence Cb Func) (answer : Option Bool) : Bool :=
  fence.signaledBit || answer.getD false

/-- `dma_fence_signal`, given what the clock reads. -/
def signal (fence : Fence Cb Func) (now : Int) : Fence Cb Func :=
  { fence with signaledBit := true, timestampBit := true, timestamp := now }

variable [DecidableEq Cb]

/-- `dma_fence_add_callback`. -/
def addCallback (fence : Fence Cb Func) (cb : Option Cb) (func : Option Func)
    (answer : Option Bool) : Option (Outcome Cb Func × Fence Cb Func) :=
  match cb with
  | none => some (⟨-1, []⟩, fence)
  | some cb => ((fence.links.initListHead (some cb)).listAddTail (some cb) none).map fun links =>
    (⟨0, if fence.isSignaled answer then (func.map fun func => (cb, func)).toList else []⟩,
      { fence with links, funcs := Function.update fence.funcs cb (some func) })

/-- `dma_fence_remove_callback`. -/
def removeCallback (fence : Fence Cb Func) (cb : Option Cb) :
    Option (Outcome Cb Func × Fence Cb Func) :=
  match cb with
  | none => some (⟨0, []⟩, fence)
  | some cb => (fence.links.listDelInit (some cb)).map fun links =>
    (⟨1, []⟩, { fence with links })

end Fence

/-- A call on a fence. -/
inductive Call (Cb Func : Type) where
  /-- `dma_fence_add_callback`, and what `ops->signaled` answers if there is one. -/
  | add (cb : Option Cb) (func : Option Func) (answer : Option Bool)
  /-- `dma_fence_remove_callback`. -/
  | remove (cb : Option Cb)
  /-- `dma_fence_signal`, and what the clock reads. -/
  | signal (now : Int)

/-- What a fence is for: who waits for it to be signaled. -/
structure Waiters (Cb Func : Type) where
  /-- The fence has been signaled. -/
  signaled : Bool
  /-- The callbacks that are pending, with their functions, in the order they were added. -/
  pending : List (Cb × Option Func)

variable [DecidableEq Cb]

/-- A callback is pending. -/
def Waiters.Pending (waiters : Waiters Cb Func) (cb : Cb) : Prop :=
  cb ∈ waiters.pending.map Prod.fst

instance (waiters : Waiters Cb Func) (cb : Cb) : Decidable (waiters.Pending cb) :=
  inferInstanceAs (Decidable (cb ∈ waiters.pending.map Prod.fst))

/-- The callbacks that are pending without one of them. -/
def Waiters.without (waiters : Waiters Cb Func) (cb : Cb) : List (Cb × Option Func) :=
  waiters.pending.filter fun entry => entry.1 ≠ cb

/-- What a call is for: a callback waits, or is invoked at once when the fence is signaled, it
stops to wait and one learns whether it did, and all that wait are invoked. -/
def Call.due (waiters : Waiters Cb Func) :
    Call Cb Func → Outcome Cb Func × Waiters Cb Func
  | .add none _ _ => (⟨-1, []⟩, waiters)
  | .add (some cb) func answer =>
    if waiters.signaled || answer.getD false then
      (⟨0, (func.map fun func => (cb, func)).toList⟩,
        { waiters with pending := waiters.without cb })
    else
      (⟨0, []⟩, { waiters with pending := waiters.without cb ++ [(cb, func)] })
  | .remove none => (⟨0, []⟩, waiters)
  | .remove (some cb) =>
    (⟨if waiters.Pending cb then 1 else 0, []⟩, { waiters with pending := waiters.without cb })
  | .signal _ =>
    (⟨0, waiters.pending.filterMap fun entry => entry.2.map fun func => (entry.1, func)⟩,
      ⟨true, []⟩)

/-- What a call does to a fence. -/
def Call.run (fence : Fence Cb Func) : Call Cb Func → Option (Outcome Cb Func × Fence Cb Func)
  | .add cb func answer => fence.addCallback cb func answer
  | .remove cb => fence.removeCallback cb
  | .signal now => some (⟨0, []⟩, fence.signal now)

/-- A fence and what it is for, with what the calls did and what they were to do. -/
structure Course (Cb Func : Type) where
  /-- The fence; nothing once a call has followed a pointer that was never written. -/
  fence : Option (Fence Cb Func)
  /-- What the calls did, newest first. -/
  done : List (Outcome Cb Func)
  /-- Who waits. -/
  waiters : Waiters Cb Func
  /-- What the calls were to do, newest first. -/
  due : List (Outcome Cb Func)

/-- A call, on the fence and on who waits for it. -/
def Course.call (s : Course Cb Func) (call : Call Cb Func) : Course Cb Func where
  fence := (s.fence.bind fun fence => call.run fence).map Prod.snd
  done := ((s.fence.bind fun fence => call.run fence).map Prod.fst).toList ++ s.done
  waiters := (call.due s.waiters).2
  due := (call.due s.waiters).1 :: s.due

/-- A fence that has just been initialised. -/
def Course.start (ops : Bool) : Course Cb Func := ⟨some (.init ops), [], ⟨false, []⟩, []⟩

/-- Every sequence of calls on one fence. -/
def fences (Cb Func : Type) [DecidableEq Cb] : System (Course Cb Func) (Call Cb Func) where
  init s := ∃ ops, s = .start ops
  step s call := some (s.call call)

/-- The calls did what they were to do. -/
def Kept (s : Course Cb Func) : Prop := s.done = s.due

/-- Nobody with a function waits when the fence is signaled, and who is removed waits. -/
def Heeded (s : Course Cb Func) : Call Cb Func → Prop
  | .add _ _ _ => True
  | .remove none => True
  | .remove (some cb) => s.waiters.Pending cb
  | .signal _ => ∀ entry ∈ s.waiters.pending, entry.2 = none

/-- A fence stands for who waits for it, up to those who have not been invoked. -/
structure Stands (s : Course Cb Func) : Prop where
  /-- What has been done was to be done. -/
  kept : Kept s
  /-- The bit says whether the fence has been signaled, and the nodes of the list and of who
  waits have been written. -/
  fence : ∃ fence, s.fence = some fence ∧ fence.signaledBit = s.waiters.signaled ∧
    fence.links.Written none ∧ ∀ cb, s.waiters.Pending cb → fence.links.Written (some cb)

/-- Who waits without a callback waited before. -/
theorem Waiters.pending_of_without {waiters : Waiters Cb Func} {cb other : Cb}
    (member : other ∈ (waiters.without cb).map Prod.fst) : waiters.Pending other := by
  obtain ⟨entry, found, rfl⟩ := List.mem_map.mp member
  exact List.mem_map_of_mem (List.mem_of_mem_filter found)

/-- A fence that has just been initialised stands for nobody. -/
theorem stands_start (ops : Bool) : Stands (Course.start ops : Course Cb Func) := by
  refine ⟨rfl, _, rfl, rfl, Links.written_initListHead _ _, ?_⟩
  intro cb pending
  simp [Course.start, Waiters.Pending] at pending

/-- A call that does what it is to do keeps that all calls did. -/
theorem Course.call_kept_iff {s : Course Cb Func} {call : Call Cb Func}
    {fence fence' : Fence Cb Func}
    {outcome : Outcome Cb Func} (kept : Kept s) (here : s.fence = some fence)
    (ran : call.run fence = some (outcome, fence')) :
    Kept (s.call call) ↔ outcome = (call.due s.waiters).1 := by
  have done : (s.call call).done = outcome :: s.done := by
    simp [Course.call, here, ran]
  have due : (s.call call).due = (call.due s.waiters).1 :: s.due := rfl
  rw [Kept, done, due, kept, List.cons.injEq]
  exact and_iff_left rfl

/-- A callback is added as it is to be. -/
theorem stands_add {s : Course Cb Func} (stands : Stands s) (cb : Option Cb) (func : Option Func)
    (answer : Option Bool) : Stands (s.call (.add cb func answer)) := by
  obtain ⟨kept, fence, here, bit, head, nodes⟩ := stands
  cases cb with
  | none =>
    have ran : (Call.add none func answer).run fence = some (⟨-1, []⟩, fence) := rfl
    refine ⟨(Course.call_kept_iff kept here ran).mpr rfl, fence, ?_, bit, head, nodes⟩
    simp [Course.call, here, ran]
  | some cb =>
    have initialised := head.initListHead (some cb)
    obtain ⟨links, added⟩ := Links.exists_listAddTail initialised (some cb)
    have ran : (Call.add (some cb) func answer).run fence = some
        (⟨0, if fence.isSignaled answer then (func.map fun func => (cb, func)).toList else []⟩,
          { fence with links, funcs := Function.update fence.funcs cb (some func) }) := by
      simp [Call.run, Fence.addCallback, added]
    refine ⟨(Course.call_kept_iff kept here ran).mpr ?_, { fence with
      links, funcs := Function.update fence.funcs cb (some func) }, ?_, ?_,
      initialised.listAddTail added, ?_⟩
    · simp only [Fence.isSignaled, bit, Call.due]
      split <;> rfl
    · simp [Course.call, here, ran]
    · show fence.signaledBit = _
      simp only [Course.call, Call.due]
      split <;> exact bit
    · intro other pending
      have waits : s.waiters.Pending other ∨ other = cb := by
        simp only [Course.call, Call.due] at pending
        split at pending
        · exact .inl (Waiters.pending_of_without pending)
        · simp only [Waiters.Pending, List.map_append, List.mem_append] at pending
          obtain before | new := pending
          · exact .inl (Waiters.pending_of_without before)
          · exact .inr (by simpa using new)
      obtain before | rfl := waits
      · exact ((nodes other before).initListHead (some cb)).listAddTail added
      · exact (Links.written_initListHead _ _).listAddTail added

/-- A callback that waits is removed as it is to be. -/
theorem stands_remove {s : Course Cb Func} (stands : Stands s) {cb : Option Cb}
    (heeded : Heeded s (.remove cb)) : Stands (s.call (.remove cb)) := by
  obtain ⟨kept, fence, here, bit, head, nodes⟩ := stands
  cases cb with
  | none =>
    have ran : (Call.remove none).run fence = some (⟨0, []⟩, fence) := rfl
    refine ⟨(Course.call_kept_iff kept here ran).mpr rfl, fence, ?_, bit, head, nodes⟩
    simp [Course.call, here, ran]
  | some cb =>
    obtain ⟨links, removed⟩ := Links.exists_listDelInit (nodes cb heeded)
    have ran : (Call.remove (some cb)).run fence = some (⟨1, []⟩, { fence with links }) := by
      simp [Call.run, Fence.removeCallback, removed]
    refine ⟨(Course.call_kept_iff kept here ran).mpr ?_, { fence with links }, ?_, bit,
      head.listDelInit removed, ?_⟩
    · have waits : s.waiters.Pending cb := heeded
      rw [Call.due, if_pos waits]
    · simp [Course.call, here, ran]
    · intro other pending
      exact (nodes other (Waiters.pending_of_without pending)).listDelInit removed

/-- A fence that nobody waits for is signaled as it is to be. -/
theorem stands_signal {s : Course Cb Func} (stands : Stands s) {now : Int}
    (heeded : Heeded s (.signal now)) : Stands (s.call (.signal now)) := by
  obtain ⟨kept, fence, here, bit, head, nodes⟩ := stands
  have ran : (Call.signal now).run fence = some (⟨0, []⟩, fence.signal now) := rfl
  refine ⟨(Course.call_kept_iff kept here ran).mpr ?_, fence.signal now, ?_, rfl, head, ?_⟩
  · have nobody : (s.waiters.pending.filterMap fun entry =>
        entry.2.map fun func => (entry.1, func)) = [] := by
      rw [List.filterMap_eq_nil_iff]
      intro entry member
      rw [heeded entry member, Option.map_none]
    rw [Call.due, nobody]
  · simp [Course.call, here, ran]
  · intro other pending
    simp [Course.call, Call.due, Waiters.Pending] at pending

/-- A call that does what it is to do is one that is heeded. -/
theorem heeded_of_kept {s : Course Cb Func} (stands : Stands s) {call : Call Cb Func}
    (kept : Kept (s.call call)) : Heeded s call := by
  obtain ⟨before, fence, here, bit, head, nodes⟩ := stands
  cases call with
  | add cb func answer => trivial
  | remove cb =>
    cases cb with
    | none => trivial
    | some cb =>
      cases removed : fence.links.listDelInit (some cb) with
      | none =>
        have ran : (Call.remove (some cb)).run fence = none := by
          simp [Call.run, Fence.removeCallback, removed]
        have short := congrArg List.length kept
        simp only [Course.call, here, Option.bind_some, ran, Option.map_none, Option.toList_none,
          List.nil_append, List.length_cons] at short
        rw [show s.done = s.due from before] at short
        omega
      | some links =>
        have ran : (Call.remove (some cb)).run fence = some (⟨1, []⟩, { fence with links }) := by
          simp [Call.run, Fence.removeCallback, removed]
        have same := (Course.call_kept_iff before here ran).mp kept
        by_contra absent
        have never : ¬ s.waiters.Pending cb := absent
        rw [Call.due, if_neg never] at same
        have ret : (1 : Int) = 0 := congrArg Outcome.ret same
        omega
  | signal now =>
    have ran : (Call.signal now).run fence = some (⟨0, []⟩, fence.signal now) := rfl
    have same := (Course.call_kept_iff before here ran).mp kept
    have nobody := (congrArg Outcome.invoked same).symm
    intro entry member
    have silent := List.filterMap_eq_nil_iff.mp nobody entry member
    exact Option.map_eq_none_iff.mp silent

/-- Along every sequence of calls a fence keeps its promise, every callback being invoked once,
when the fence is signaled or at once if it was, unless it was removed, which says whether it was
pending, if and only if nobody with a function waits when the fence is signaled and only who waits
is removed. -/
theorem callbacks_kept_iff (ops : Bool) (calls : List (Call Cb Func)) :
    (fences Cb Func).Throughout Kept (.start ops) calls ↔
      (fences Cb Func).Along Heeded (.start ops) calls := by
  have total : ∀ (calls : List (Call Cb Func)) (s : Course Cb Func),
      ∃ t, (fences Cb Func).run s calls = some t := by
    intro calls
    induction calls with
    | nil => exact fun s => ⟨s, rfl⟩
    | cons call calls ih => exact fun s => ih (s.call call)
  obtain ⟨t, ran⟩ := total calls (.start ops)
  have lawful : (fences Cb Func).Along (fun _ _ => True) (.start ops) calls :=
    System.along_of_forall (fun _ _ => trivial) _ _
  refine System.throughout_iff_along (fun s (stands : Stands s) => stands.kept) ?_ ?_
    (stands_start ops) lawful ran
  · rintro s call t stands - heeded stepped
    obtain rfl := Option.some.inj stepped
    cases call with
    | add cb func answer => exact stands_add stands cb func answer
    | remove cb => exact stands_remove stands heeded
    | signal now => exact stands_signal stands heeded
  · rintro s call t stands - stepped kept
    obtain rfl := Option.some.inj stepped
    exact heeded_of_kept stands kept

/-- A callback that waits is not invoked when the fence is signaled, and removing it afterwards
reports that it was pending still. -/
theorem waiting_callback_not_invoked :
    ¬ (fences Nat Nat).Throughout Kept (.start true)
        [.add (some 0) (some 7) none, .signal 1, .remove (some 0)] ∧
      ((fences Nat Nat).run (.start true)
        [.add (some 0) (some 7) none, .signal 1, .remove (some 0)]).map
          (fun s => (s.done, s.due)) =
        some ([⟨1, []⟩, ⟨0, []⟩, ⟨0, []⟩], [⟨0, []⟩, ⟨0, [(0, 7)]⟩, ⟨0, []⟩]) := by
  refine ⟨fun throughout => ?_, by decide⟩
  have kept := (throughout.2 _ rfl).2 _ rfl
  exact absurd kept.1 (by unfold Kept; decide)

end Lcompat.Dma
