import Lcompat.Usb.Tasks

/-!
# Cancelling a URB

`usb_kill_urb` waits for the `submitted` flag only, and a completion clears that flag before
it reads `killed` and calls back. What it is for holds in the runs in which, whenever it
reads a clear flag, no task is about to run the callback; then none runs it until the URB is
submitted again. Nothing is assumed about how many calls work on the URB at once.
-/

namespace Lcompat.Usb

open Lcompat.Logic

section Tasks

variable {U : Type}

/-- The URB whose callback is about to be executed, or is being executed. -/
def CompletePc.calling (own : U) : CompletePc U → Option U
  | .enter | .callback => some own
  | .nextEnter next | .nextCallback next => some next
  | _ => none

/-- The URB whose `killed` is still to be read, without a further test of `submitted`. -/
def CompletePc.undecided (own : U) : CompletePc U → Option U
  | .store _ _ | .killed => some own
  | .handOver next | .nextStatus next _ | .nextSubmitted next | .nextIdle next
  | .nextKilled next => some next
  | _ => none

/-- Between the store of `killed` and the append to a pending queue. -/
def SubmitPc.queueing : SubmitPc → Bool
  | .reset | .ref | .busy | .append => true
  | _ => false

/-- A task will not run the callback of a URB that is not submitted. -/
structure Task.Quiet (task : Task U) (u : U) (killed : Bool) : Prop where
  /-- It is neither in the callback nor about to call it. -/
  not_calling : ∀ v pc, task.completing = some (v, pc) → pc.calling v ≠ some u
  /-- It does not stand between the two stores of `usb_submit_urb`. -/
  not_between : task.submitting ≠ some (u, .killed)
  /-- If `killed` is clear, it will not read it. -/
  not_undecided : killed = false → ∀ v pc, task.completing = some (v, pc) →
    pc.undecided v ≠ some u
  /-- If `killed` is clear, it will not put the URB into a pending queue. -/
  not_queueing : killed = false → ∀ pc, task.submitting = some (u, pc) → pc.queueing = false

/-- A URB is not submitted, and pending nowhere if its `killed` is clear. -/
structure Memory.Quiet (m : Memory U) (u : U) : Prop where
  /-- `submitted` is clear. -/
  not_submitted : (m.urbs u).submitted = false
  /-- No pending queue leads to it. -/
  not_pending : (m.urbs u).killed = false →
    (∀ e, m.pendingHead e ≠ some u) ∧ ∀ v, m.pendingNext v ≠ some u

/-- Setting `killed` keeps a task quiet. -/
theorem Task.Quiet.mono {task : Task U} {u : U} {killed killed' : Bool}
    (quiet : task.Quiet u killed) (later : killed' = false → killed = false) :
    task.Quiet u killed' :=
  ⟨quiet.not_calling, quiet.not_between, fun clear => quiet.not_undecided (later clear),
    fun clear => quiet.not_queueing (later clear)⟩

/-- A task that executes a callback is calling it. -/
theorem Task.Quiet.callbackOf_ne {task : Task U} {u : U} {killed : Bool}
    (quiet : task.Quiet u killed) : task.callbackOf ≠ some u := by
  intro inside
  obtain ⟨⟨v, pc⟩, completing, executing⟩ := Option.bind_eq_some_iff.mp inside
  refine quiet.not_calling v pc completing ?_
  cases pc <;> simp_all [CompletePc.callbackOf, CompletePc.calling]

end Tasks

variable {Id U : Type} [DecidableEq Id] [DecidableEq U] {bus : Bus}

/-- Neither the memory nor any task will let the callback of a URB run. -/
structure Quiet (p : Tasks Id U) (u : U) : Prop where
  /-- The memory. -/
  memory : p.shared.Quiet u
  /-- The tasks. -/
  tasks : ∀ t, (p.threads t).Quiet u (p.shared.urbs u).killed

/-- What `usb_kill_urb` is for: after it has returned, and until the URB is submitted from
outside its callback, no task executes the callback. -/
def Cancelled (p : Tasks Id U) : Prop :=
  ∀ u, p.shared.quiesced u = true → ∀ t, (p.threads t).callbackOf ≠ some u

/-- When `usb_kill_urb` reads a clear `submitted`, nothing will let the callback run. -/
def KillsQuiet (p : Tasks Id U) (a : Id × Choice U) : Prop :=
  ∀ u, (p.threads a.1).killing = some (u, .wait) → (p.shared.urbs u).submitted = false →
    Quiet p u

/-- A step leaves a URB unsubmitted and does not bring back its callback. -/
structure Memory.Settles (m m' : Memory U) (u : U) : Prop where
  /-- `submitted` stays clear. -/
  submitted : (m.urbs u).submitted = false → (m'.urbs u).submitted = false
  /-- `killed` is not cleared. -/
  killed : (m'.urbs u).killed = false → (m.urbs u).killed = false
  /-- No link to the URB appears while `killed` is clear. -/
  pending : (m'.urbs u).killed = false →
    ((∀ e, m.pendingHead e ≠ some u) ∧ ∀ v, m.pendingNext v ≠ some u) →
    (∀ e, m'.pendingHead e ≠ some u) ∧ ∀ v, m'.pendingNext v ≠ some u
  /-- The history is not extended. -/
  quiesced : m'.quiesced u = true → m.quiesced u = true

namespace Memory

omit [DecidableEq U] in
/-- A settling step keeps the memory quiet. -/
theorem Settles.quiet {m m' : Memory U} {u : U} (settles : m.Settles m' u)
    (quiet : m.Quiet u) : m'.Quiet u :=
  ⟨settles.submitted quiet.not_submitted, fun clear =>
    settles.pending clear (quiet.not_pending (settles.killed clear))⟩

omit [DecidableEq U] in
/-- No change. -/
theorem Settles.refl (m : Memory U) (u : U) : m.Settles m u :=
  ⟨id, id, fun _ => id, id⟩

omit [DecidableEq U] in
/-- Settling changes compose. -/
theorem Settles.trans {m m' m'' : Memory U} {u : U} (first : m.Settles m' u)
    (second : m'.Settles m'' u) : m.Settles m'' u :=
  ⟨second.submitted ∘ first.submitted, first.killed ∘ second.killed,
    fun clear => second.pending clear ∘ first.pending (second.killed clear),
      first.quiesced ∘ second.quiesced⟩

omit [DecidableEq U] in
/-- A change of anything but the URBs, the queues and the history settles. -/
theorem Settles.of_eq {m m' : Memory U} {u : U} (urbs : m'.urbs = m.urbs)
    (heads : m'.pendingHead = m.pendingHead) (links : m'.pendingNext = m.pendingNext)
    (history : m'.quiesced = m.quiesced) : m.Settles m' u := by
  constructor <;> simp only [urbs, heads, links, history, imp_self, implies_true]

/-- A change of a URB settles when it does not set `submitted` or clear `killed`. -/
theorem settles_setUrb {m : Memory U} {u v : U} {change : Urb → Urb}
    (submitted : (m.urbs v).submitted = false → (change (m.urbs v)).submitted = false)
    (killed : (change (m.urbs v)).killed = false → (m.urbs v).killed = false) :
    m.Settles (m.setUrb v change) u := by
  by_cases same : u = v
  · subst same
    exact ⟨by simpa using submitted, by simpa using killed, fun _ => id, id⟩
  · constructor <;> simp [same]

/-- Freeing settles. -/
theorem settles_freeUrb (m : Memory U) (u v : U) : m.Settles (freeUrb v m) u := by
  have dropped : m.Settles (m.setUrb v fun urb =>
      { urb with refcount := (m.urbs v).refcount - 1 }) u := settles_setUrb id id
  unfold freeUrb
  dsimp only
  split
  · exact dropped.trans (.of_eq rfl rfl rfl rfl)
  · exact dropped

/-- A native submission settles. -/
theorem settles_prepareAndSubmit (m : Memory U) (u v : U) (env : Env) :
    m.Settles (prepareAndSubmit v env m).1 u := by
  unfold prepareAndSubmit submitNativeUrb
  refine .of_eq ?_ ?_ ?_ ?_ <;> grind -ring -linarith [setState, setInFlight]

/-- A change of another URB settles. -/
theorem settles_setUrb_of_ne {m : Memory U} {u v : U} (apart : u ≠ v) (change : Urb → Urb) :
    m.Settles (m.setUrb v change) u := by
  constructor <;> simp [apart]

/-- Appending another URB settles, and so does appending one that is killed. -/
theorem settles_queueAppend {m : Memory U} {u v : U} (e : Endpoint)
    (other : u = v → (m.urbs u).killed = true) : m.Settles (queueAppend e v m) u := by
  refine ⟨id, id, ?_, id⟩
  rintro clear ⟨heads, links⟩
  have apart : u ≠ v := fun same => by simp_all [queueAppend]
  unfold queueAppend LinkedQueue.append
  split
  · rename_i last found
    refine ⟨fun f => ?_, fun w => ?_⟩
    · by_cases same : f = e <;> simp [same, pending, heads]
    · by_cases second : w = v <;> by_cases first : w = last <;>
        simp_all [pending, Ne.symm apart]
  · refine ⟨fun f => ?_, fun w => ?_⟩
    · by_cases same : f = e <;> simp [same, heads, Ne.symm apart]
    · by_cases same : w = v <;> simp [pending, same, links]

/-- Popping settles. -/
theorem settles_queuePop (m : Memory U) (u : U) (e : Endpoint) :
    m.Settles (queuePop e m).1 u := by
  unfold queuePop
  split
  · exact .refl m u
  · rename_i v found
    refine ⟨id, id, ?_, id⟩
    rintro _ ⟨heads, links⟩
    refine ⟨fun f => ?_, fun w => ?_⟩
    · by_cases same : f = e <;> simp [LinkedQueue.pop, pending, found, same, heads, links]
    · by_cases same : w = v <;> simp [LinkedQueue.pop, pending, found, same, links]

end Memory

/-- What a pop returns was at the head. -/
theorem queuePop_head {m : Memory U} {e : Endpoint} {u : U} (popped : (queuePop e m).2 = some u) :
    m.pendingHead e = some u := by
  unfold queuePop at popped
  split at popped
  · simp at popped
  · rename_i v found
    rw [found, ← popped]

/-- `lcompat_usb_get_native_pipe` settles. -/
theorem settles_getNativePipe (m : Memory U) (u v : U) (dev : UsbDevice) (pipe : BitVec 32)
    (env : Env) : m.Settles (getNativePipe bus dev pipe v env m).1 u := by
  unfold getNativePipe
  repeat' split
  all_goals exact .of_eq rfl rfl rfl rfl

/-- `lcompat_usb_submit_native_urb` settles. -/
theorem settles_submitNativeUrb (m : Memory U) (u v : U) (len : Int) (env : Env) :
    m.Settles (submitNativeUrb v len env m).1 u := by
  unfold submitNativeUrb
  refine .of_eq ?_ ?_ ?_ ?_ <;> grind -ring -linarith [Memory.setState, Memory.setInFlight]

/-- Every step of `usb_submit_urb` settles, but for its two stores, and for its append of a
URB that is not killed. -/
theorem settles_submitUrb {m : Memory U} {u v : U} {inside : Bool} {env : Env} {pc : SubmitPc}
    (other : u = v → pc ≠ .submitted ∧ pc ≠ .killed ∧
      (pc = .append → (m.urbs u).killed = true)) :
    m.Settles (submitUrb bus v inside env m pc).1 u := by
  cases pc with
  | check => exact .refl m u
  | state =>
    simp only [submitUrb]
    split
    · exact .refl m u
    · split
      · have zeroed : m.Settles (m.setState v fun _ => .zero) u := .of_eq rfl rfl rfl rfl
        refine zeroed.trans ?_
        dsimp only
        refine Memory.settles_setUrb ?_ ?_ <;> simp
      · exact .refl m u
  | pipe =>
    simp only [submitUrb]
    split
    · exact .refl m u
    · rename_i dev _
      have settles : m.Settles (getNativePipe bus dev (m.urbs v).pipe v env m).1 u :=
        settles_getNativePipe m u v dev (m.urbs v).pipe env
      split <;> rename_i answer <;> rwa [answer] at settles
  | submitted =>
    have apart : u ≠ v := fun same => (other same).1 rfl
    constructor <;> simp [submitUrb, apart]
  | killed =>
    simp only [submitUrb]
    exact Memory.settles_setUrb_of_ne (fun same => (other same).2.1 rfl) _
  | reset =>
    refine ⟨id, id, ?_, id⟩
    rintro _ ⟨heads, links⟩
    refine ⟨heads, fun w => ?_⟩
    by_cases same : w = v <;> simp [submitUrb, same, links]
  | ref =>
    simp only [submitUrb]
    refine Memory.settles_setUrb ?_ ?_ <;> simp
  | busy =>
    simp only [submitUrb]
    split
    · exact .refl m u
    · split
      · exact .refl m u
      · exact .of_eq rfl rfl rfl rfl
  | append =>
    simp only [submitUrb]
    split
    · exact .refl m u
    · exact Memory.settles_queueAppend _ fun same => (other same).2.2 rfl
  | native => exact Memory.settles_prepareAndSubmit m u v env
  | idle ret =>
    simp only [submitUrb]
    split
    · exact .refl m u
    · exact .of_eq rfl rfl rfl rfl
  | clear ret =>
    simp only [submitUrb]
    refine Memory.settles_setUrb ?_ ?_ <;> simp
  | free ret => exact Memory.settles_freeUrb m u v

/-- Every step of `lcompat_usb_urb_complete` settles. -/
theorem settles_urbComplete (m : Memory U) (u v : U) (env : Env) (pc : CompletePc U) :
    m.Settles (urbComplete bus v env m pc).1 u := by
  cases pc with
  | check status actual =>
    simp only [urbComplete]
    repeat' split
    all_goals exact .of_eq rfl rfl rfl rfl
  | zlp actual =>
    have settles := settles_submitNativeUrb m u v 0 env
    simp only [urbComplete]
    split
    · exact settles
    · exact settles.trans (.of_eq rfl rfl rfl rfl)
  | copy mapped actual =>
    simp only [urbComplete]
    split
    · dsimp only
      refine Memory.settles_setUrb ?_ ?_ <;> simp
    · exact .refl m u
  | cas mapped actual =>
    simp only [urbComplete]
    split
    · dsimp only
      refine Memory.settles_setUrb ?_ ?_ <;> simp
    · exact .refl m u
  | store mapped actual =>
    simp only [urbComplete]
    refine Memory.settles_setUrb ?_ ?_ <;> simp
  | pop =>
    simp only [urbComplete]
    split
    · exact .refl m u
    · rename_i e _
      have settles := Memory.settles_queuePop m u e
      split <;> rename_i answer <;> rw [answer] at settles
      · exact settles.trans (.of_eq rfl rfl rfl rfl)
      · exact settles
  | handOver next => exact Memory.settles_prepareAndSubmit m u next env
  | nextStatus next ret =>
    simp only [urbComplete]
    refine Memory.settles_setUrb ?_ ?_ <;> simp
  | nextSubmitted next =>
    simp only [urbComplete]
    refine Memory.settles_setUrb ?_ ?_ <;> simp
  | nextIdle next =>
    simp only [urbComplete]
    split
    · exact .refl m u
    · exact .of_eq rfl rfl rfl rfl
  | nextFree next => exact Memory.settles_freeUrb m u next
  | free => exact Memory.settles_freeUrb m u v
  | killed | enter | callback | nextKilled _ | nextEnter _ | nextCallback _ => exact .refl m u

/-- The beginning of a native completion settles. -/
theorem settles_deliver (m : Memory U) (u v : U) (data : List UInt8) :
    m.Settles (deliver v data m) u := by
  simp only [deliver]
  split
  · split
    · exact .of_eq rfl rfl rfl rfl
    · have landed : m.Settles (m.setInFlight v (· - 1)) u := .of_eq rfl rfl rfl rfl
      refine landed.trans ?_
      refine Memory.settles_setUrb ?_ ?_ <;> simp
  · exact .of_eq rfl rfl rfl rfl

omit [DecidableEq U] in
/-- A step that settles, of a task that stays quiet, keeps a URB quiet. -/
theorem Quiet.moved {p : Tasks Id U} {u : U} {t : Id} {m : Memory U} {task : Task U}
    (quiet : Quiet p u) (settles : p.shared.Settles m u)
    (moved : task.Quiet u (p.shared.urbs u).killed) :
    Quiet ⟨m, Function.update p.threads t task⟩ u := by
  refine ⟨settles.quiet quiet.memory, ?_⟩
  exact (Function.forall_update_iff p.threads fun _ task => task.Quiet u (m.urbs u).killed).mpr
    ⟨moved.mono settles.killed, fun s _ => (quiet.tasks s).mono settles.killed⟩

/-- `usb_submit_urb` stands between its two stores only after the first. -/
theorem submitUrb_goto_killed {m : Memory U} {v : U} {inside : Bool} {env : Env}
    {pc : SubmitPc} (next : (submitUrb bus v inside env m pc).2 = .goto .killed) :
    pc = .submitted := by
  cases pc <;> grind -ring -linarith [submitUrb]

/-- `usb_submit_urb` is on the way to a pending queue only after its two stores. -/
theorem submitUrb_goto_queueing {m : Memory U} {v : U} {inside : Bool} {env : Env}
    {pc pc' : SubmitPc} (next : (submitUrb bus v inside env m pc).2 = .goto pc')
    (queueing : pc'.queueing = true) : pc = .killed ∨ pc.queueing = true := by
  cases pc <;> cases pc' <;> grind -ring -linarith [submitUrb, SubmitPc.queueing]

/-- A task in `usb_submit_urb` stays quiet when it does not store `submitted`. -/
theorem Task.Quiet.inSubmit {m : Memory U} {task : Task U} {u v : U} {pc : SubmitPc}
    {inside : Bool} {env : Env} {killed : Bool} (quiet : task.Quiet u killed)
    (here : task.submitting = some (v, pc)) (notStore : u = v → pc ≠ .submitted) :
    (task.inSubmit v (submitUrb bus v inside env m pc).2).Quiet u killed := by
  refine ⟨quiet.not_calling, ?_, quiet.not_undecided, ?_⟩
  · intro between
    obtain ⟨rfl, next⟩ := Next.after_eq_some between
    exact notStore rfl (submitUrb_goto_killed next)
  · intro clear pc' on
    obtain ⟨rfl, next⟩ := Next.after_eq_some on
    by_contra queueing
    rcases submitUrb_goto_queueing next (by simpa using queueing) with rfl | before
    · exact quiet.not_between here
    · simp [quiet.not_queueing clear pc here] at before

/-- A completion is about to call back only where it was so before, or after it has read a
clear `killed`. -/
theorem urbComplete_calling {m : Memory U} {u v : U} {env : Env} {pc pc' : CompletePc U}
    (next : (urbComplete bus v env m pc).2 = .goto pc') (calling : pc'.calling v = some u) :
    pc.calling v = some u ∨ pc.undecided v = some u ∧ (m.urbs u).killed = false := by
  cases pc <;> grind -ring -linarith [urbComplete, CompletePc.calling, CompletePc.undecided]

/-- A completion is about to read `killed` only where it was so before, after it has cleared
`submitted`, or after it has popped the URB. -/
theorem urbComplete_undecided {m : Memory U} {u v : U} {env : Env} {pc pc' : CompletePc U}
    (next : (urbComplete bus v env m pc).2 = .goto pc')
    (undecided : pc'.undecided v = some u) :
    pc.undecided v = some u ∨ (m.urbs u).submitted = true ∨ ∃ e, m.pendingHead e = some u := by
  cases pc with
  | pop =>
    simp only [urbComplete] at next
    split at next
    · cases next
      simp [CompletePc.undecided] at undecided
    · rename_i e _
      have head := queuePop_head (m := m) (e := e) (u := u)
      split at next <;> rename_i answer <;> cases next
      · simp [CompletePc.undecided] at undecided
      · obtain rfl : _ = u := by simpa [CompletePc.undecided] using undecided
        exact .inr (.inr ⟨e, head (by rw [answer])⟩)
  | _ => grind -ring -linarith [urbComplete, CompletePc.undecided]

/-- A task in a completion stays quiet. -/
theorem Task.Quiet.inComplete {m : Memory U} {task : Task U} {u v : U} {pc : CompletePc U}
    {env : Env} (quiet : task.Quiet u (m.urbs u).killed) (memory : m.Quiet u)
    (here : task.completing = some (v, pc)) :
    (task.inComplete v (urbComplete bus v env m pc).2).Quiet u (m.urbs u).killed := by
  refine ⟨?_, quiet.not_between, ?_, quiet.not_queueing⟩
  · intro w pc' completing calling
    obtain ⟨rfl, next⟩ := Next.after_eq_some completing
    rcases urbComplete_calling next calling with before | ⟨before, clear⟩
    · exact quiet.not_calling _ _ here before
    · exact quiet.not_undecided clear _ _ here before
  · intro clear w pc' completing undecided
    obtain ⟨rfl, next⟩ := Next.after_eq_some completing
    rcases urbComplete_undecided next undecided with before | submitted | ⟨e, head⟩
    · exact quiet.not_undecided clear _ _ here before
    · simp [memory.not_submitted] at submitted
    · exact (memory.not_pending clear).1 e head

/-- `usb_submit_urb` does not extend the history. -/
theorem quiesced_of_submitUrb {m : Memory U} {u v : U} {inside : Bool} {env : Env}
    {pc : SubmitPc} (still : (submitUrb bus v inside env m pc).1.quiesced u = true) :
    m.quiesced u = true := by
  cases pc with
  | submitted => by_cases same : u = v <;> simp_all [submitUrb]
  | killed => exact still
  | append =>
    simp only [submitUrb] at still
    split at still <;> exact still
  | _ =>
    refine (settles_submitUrb (u := u) fun _ => ⟨?_, ?_, ?_⟩).quiesced still <;> simp

/-- A task in `usb_submit_urb` keeps a URB quiet if it leaves the history as it is. -/
theorem Quiet.submitUrb {p : Tasks Id U} {t : Id} {u v : U} {pc : SubmitPc} {env : Env}
    (quiet : Quiet p u) (here : (p.threads t).submitting = some (v, pc))
    (still : (submitUrb bus v ((p.threads t).callbackOf == some v) env p.shared pc).1.quiesced u =
      true) :
    Quiet ⟨(submitUrb bus v ((p.threads t).callbackOf == some v) env p.shared pc).1,
      Function.update p.threads t ((p.threads t).inSubmit v
        (submitUrb bus v ((p.threads t).callbackOf == some v) env p.shared pc).2)⟩ u := by
  have before := quiet.tasks t
  have notStore : u = v → pc ≠ .submitted := by
    rintro rfl rfl
    simp [Usb.submitUrb, before.callbackOf_ne] at still
  refine quiet.moved (settles_submitUrb fun same => ⟨notStore same, ?_, ?_⟩)
    (before.inSubmit here notStore)
  · rintro rfl
    exact before.not_between (same ▸ here)
  · rintro rfl
    by_contra clear
    have on := before.not_queueing (by simpa using clear) .append (same ▸ here)
    simp [SubmitPc.queueing] at on

omit [DecidableEq Id] [DecidableEq U] in
/-- The history is not looked at. -/
theorem Quiet.history {p : Tasks Id U} {u : U} (quiet : Quiet p u) (quiesced : U → Bool) :
    Quiet ⟨{ p.shared with quiesced := quiesced }, p.threads⟩ u :=
  ⟨⟨quiet.memory.not_submitted, quiet.memory.not_pending⟩, quiet.tasks⟩

omit [DecidableEq Id] in
/-- `usb_kill_urb` extends the history only when it returns. -/
theorem quiesced_of_killUrb {m : Memory U} {u v : U} {pc : KillPc}
    (still : (killUrb v m pc).1.quiesced u = true) :
    m.quiesced u = true ∨ u = v ∧ pc = .wait ∧ (m.urbs u).submitted = false := by
  cases pc with
  | store => exact .inl still
  | wait =>
    simp only [killUrb] at still
    split at still
    · exact .inl still
    · rename_i clear
      by_cases same : u = v
      · exact .inr ⟨same, rfl, by simpa [same] using clear⟩
      · exact .inl (by simpa [same] using still)

/-- `usb_kill_urb` keeps a URB quiet. -/
theorem Quiet.killUrb {p : Tasks Id U} {t : Id} {u v : U} {pc : KillPc} (quiet : Quiet p u) :
    Quiet ⟨(killUrb v p.shared pc).1,
      Function.update p.threads t ((p.threads t).inKill v (killUrb v p.shared pc).2)⟩ u := by
  have moved : ∀ next, ((p.threads t).inKill v next).Quiet u (p.shared.urbs u).killed := by
    obtain ⟨calling, between, undecided, queueing⟩ := quiet.tasks t
    exact fun next => ⟨calling, between, undecided, queueing⟩
  cases pc with
  | store =>
    simp only [Usb.killUrb]
    refine quiet.moved (Memory.settles_setUrb ?_ ?_) (moved _) <;> simp
  | wait =>
    simp only [Usb.killUrb]
    split
    · exact quiet.moved (.refl _ u) (moved _)
    · exact (quiet.moved (.refl _ u) (moved _)).history _

/-- A native completion that begins keeps a URB quiet. -/
theorem Quiet.deliver {p : Tasks Id U} {t : Id} {u v : U} {status actual : Int}
    {data : List UInt8} (quiet : Quiet p u) (outside : p.threads t = .outside) :
    Quiet ⟨deliver v data p.shared, Function.update p.threads t
      ((p.threads t).inComplete v (.goto (.check status actual)))⟩ u := by
  refine quiet.moved (settles_deliver _ u v data) ?_
  constructor <;> simp [outside, Task.outside, Task.inComplete, CompletePc.calling,
    CompletePc.undecided]

/-- The invariant: what the history says is quiet. -/
def QuietInv (p : Tasks Id U) : Prop := ∀ u, p.shared.quiesced u = true → Quiet p u

/-- Every step that meets the condition keeps the invariant. -/
theorem QuietInv.step {p q : Tasks Id U} {a : Id × Choice U} (inv : QuietInv p)
    (kills : KillsQuiet p a) (stepped : (system Id U bus).step p a = some q) : QuietInv q := by
  obtain ⟨m, task, executed, rfl⟩ := Pool.step_eq_some.mp stepped
  obtain ⟨t, choice⟩ := a
  intro u still
  cases exec_moved executed with
  | submitUrb v pc env here => exact (inv u (quiesced_of_submitUrb still)).submitUrb here still
  | killUrb v pc env _ here =>
    rcases quiesced_of_killUrb still with before | ⟨rfl, rfl, clear⟩
    · exact (inv u before).killUrb
    · exact (kills u here clear).killUrb
  | urbComplete v pc env _ _ here =>
    have settles : p.shared.Settles (urbComplete bus v env p.shared pc).1 u :=
      settles_urbComplete p.shared u v env pc
    have quiet := inv u (settles.quiesced still)
    exact quiet.moved settles ((quiet.tasks t).inComplete quiet.memory here)
  | deliver v status actual data _ outside =>
    exact (inv u ((settles_deliver _ u v data).quiesced still)).deliver outside
  | kill v _ =>
    obtain ⟨calling, between, undecided, queueing⟩ := (inv u still).tasks t
    exact (inv u still).moved (.refl _ u) ⟨calling, between, undecided, queueing⟩
  | submit v _ _ =>
    obtain ⟨calling, between, undecided, _⟩ := (inv u still).tasks t
    refine (inv u still).moved (.refl _ u) ⟨calling, ?_, undecided, fun _ pc on => ?_⟩
    · simp [Task.inSubmit]
    · obtain ⟨_, rfl⟩ : v = u ∧ SubmitPc.check = pc := by simpa [Task.inSubmit] using on
      rfl
  | free v _ _ =>
    have settles := Memory.settles_freeUrb p.shared u v
    have quiet := inv u (settles.quiesced still)
    exact quiet.moved settles (quiet.tasks t)

/-- In every run in which `usb_kill_urb` reads a clear `submitted` only when nothing will let
the callback run, no task executes the callback of a URB after its cancellation and before
its next submission from outside the callback. -/
theorem cancelled_of_killsQuiet {p : Tasks Id U}
    (reach : (system Id U bus).Reach KillsQuiet p) : Cancelled p := by
  have inv : QuietInv p := by
    refine reach.invariant QuietInv (fun p fresh u still => ?_)
      fun _ _ _ inv kills stepped => inv.step kills stepped
    simp [(fresh.history u).2.2] at still
  exact fun u still t => ((inv u still).tasks t).callbackOf_ne

/-- Event codes and one device without bound interfaces. -/
def bareBus : Bus := ⟨⟨0, 1, 2, 3, 4, 5⟩, [], fun _ => none⟩

/-- A URB filled for a bulk IN pipe of the device. -/
def bulkUrb : Urb := .alloc (some ⟨some 0⟩) 0x10081

/-- A submission that the native driver accepts at once, up to the completion's read of
`killed`. -/
def untilRead : List (Fin 2 × Choice Unit) :=
  (0, .submit ()) :: go 9 0 ++ (0, .deliver () 0 0 []) :: go 4 0

/-- The condition for two tasks and one URB, as far as a run with `killed` set needs it. -/
def KilledFirst (p : Tasks (Fin 2) Unit) (a : Fin 2 × Choice Unit) : Prop :=
  (p.threads a.1).killing = some ((), .wait) → (p.shared.urbs ()).submitted = false →
    (p.shared.urbs ()).killed = true ∧
      ∀ t, (p.threads t).completing = none ∧ (p.threads t).submitting = none

instance (p : Tasks (Fin 2) Unit) (a : Fin 2 × Choice Unit) : Decidable (KilledFirst p a) :=
  inferInstanceAs (Decidable (_ → _ → _))

/-- A set `killed` and no task inside a completion or submission are enough. -/
theorem killsQuiet_of_killedFirst {p : Tasks (Fin 2) Unit} {a : Fin 2 × Choice Unit}
    (first : KilledFirst p a) : KillsQuiet p a := by
  intro u here clear
  obtain ⟨killed, outside⟩ := first here clear
  refine ⟨⟨clear, fun unset => absurd (killed.symm.trans unset) (by decide)⟩, fun t => ?_⟩
  obtain ⟨completing, submitting⟩ := outside t
  constructor <;> simp [completing, submitting]

/-- `killed` is set before the completion reads it, which then does not call back. -/
theorem killed_before_read :
    ∃ p : Tasks (Fin 2) Unit, p.shared.quiesced () = true ∧ Cancelled p := by
  have ran : ∃ p, (system (Fin 2) Unit bareBus).runWith KilledFirst (freshTasks bulkUrb)
      (untilRead ++ (1, .kill ()) :: go 1 1 ++ go 3 0 ++ go 1 1) = some p ∧
        p.shared.quiesced () = true := ⟨_, rfl, rfl⟩
  obtain ⟨p, executed, returned⟩ := ran
  have path := (System.path_of_runWith executed).mono fun _ _ => killsQuiet_of_killedFirst
  exact ⟨p, returned, cancelled_of_killsQuiet ⟨_, freshTasks_fresh rfl, path⟩⟩

/-- `usb_kill_urb` returns after the completion has cleared `submitted` and read `killed`, and
before it calls back. -/
theorem called_after_kill : ¬∀ p, (system (Fin 2) Unit bareBus).Reachable p → Cancelled p := by
  intro always
  have ran : ∃ p, (system (Fin 2) Unit bareBus).run (freshTasks bulkUrb)
      (untilRead ++ go 1 0 ++ (1, .kill ()) :: go 2 1 ++ go 1 0) = some p ∧
        p.shared.quiesced () = true ∧ (p.threads 0).callbackOf = some () := ⟨_, rfl, rfl, rfl⟩
  obtain ⟨p, executed, returned, calling⟩ := ran
  exact always p (System.reachable_of_run (freshTasks_fresh rfl) executed) () returned 0 calling

end Lcompat.Usb
