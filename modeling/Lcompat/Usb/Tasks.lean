import Lcompat.Usb.Model

/-!
# Tasks that use URBs

The interleavings of any number of tasks that submit, kill and free URBs, with the native
completions, each of which runs in a task of its own. A task can be inside a completion and,
from its callback, inside `usb_submit_urb` at the same time.
-/

namespace Lcompat.Usb

open Lcompat.Logic

/-- The functions a task is in. -/
structure Task (U : Type) where
  /-- In `lcompat_usb_urb_complete` for a URB. -/
  completing : Option (U × CompletePc U)
  /-- In `usb_submit_urb` for a URB. -/
  submitting : Option (U × SubmitPc)
  /-- In `usb_kill_urb` for a URB. -/
  killing : Option (U × KillPc)
  deriving DecidableEq

/-- A task outside all of them. -/
def Task.outside {U : Type} : Task U := ⟨none, none, none⟩

/-- A task is outside when it is in none of the three. -/
theorem Task.ext_outside {U : Type} {task : Task U} (completing : task.completing = none)
    (submitting : task.submitting = none) (killing : task.killing = none) : task = .outside := by
  obtain ⟨_, _, _⟩ := task
  simp_all [Task.outside]

/-- The URB whose callback is being executed at a step of a completion. -/
def CompletePc.callbackOf {U : Type} (own : U) : CompletePc U → Option U
  | .callback => some own
  | .nextCallback next => some next
  | _ => none

/-- The URB whose callback a task is executing. -/
def Task.callbackOf {U : Type} (task : Task U) : Option U :=
  task.completing.bind fun c => c.2.callbackOf c.1

/-- The task after a step of `usb_submit_urb`. -/
def Task.inSubmit {U : Type} (task : Task U) (u : U) (next : Next SubmitPc Int) : Task U :=
  { task with submitting := next.after (fun pc => some (u, pc)) none }

/-- The task after a step of `usb_kill_urb`. -/
def Task.inKill {U : Type} (task : Task U) (u : U) (next : Next KillPc Unit) : Task U :=
  { task with killing := next.after (fun pc => some (u, pc)) none }

/-- The task after a step of `lcompat_usb_urb_complete`. -/
def Task.inComplete {U : Type} (task : Task U) (u : U) (next : Next (CompletePc U) Unit) :
    Task U :=
  { task with completing := next.after (fun pc => some (u, pc)) none }

/-- What a task does next. -/
inductive Choice (U : Type) where
  /-- Call `usb_submit_urb`. -/
  | submit (u : U)
  /-- Begin the completion of a transfer of a URB, with its status, its actual length and
  what an IN transfer received. -/
  | deliver (u : U) (status actual : Int) (data : List UInt8)
  /-- Call `usb_kill_urb`. -/
  | kill (u : U)
  /-- Call `usb_free_urb`. -/
  | free (u : U)
  /-- Take the next step of the function it is in. -/
  | go (env : Env)
  deriving DecidableEq

variable {U : Type} [DecidableEq U]

/-- The bytes at the start of a buffer after a device has written to it. -/
def overwrite (buffer data : List UInt8) : List UInt8 := data ++ buffer.drop data.length

/-- The native driver takes a transfer of a URB out of flight; an IN transfer has filled its
buffer, which is never longer than what was submitted. -/
def deliver (u : U) (data : List UInt8) (m : Memory U) : Memory U :=
  let m := m.setInFlight u (· - 1)
  let data := data.take (m.states u).submittedLength.toNat
  if pipeDirIn (m.urbs u).pipe then
    if (m.states u).submittedSg then
      m.setState u fun state => { state with sgBuffer := state.sgBuffer.map (overwrite · data) }
    else m.setUrb u fun urb => { urb with
      transferBuffer := urb.transferBuffer.map (overwrite · data) }
  else m

/-- The next step of a task: of `usb_submit_urb` or `usb_kill_urb` when it is inside one of
them, else of the completion it is in, from whose callback it may call. -/
def exec (bus : Bus) (m : Memory U) (task : Task U) (choice : Choice U) :
    Option (Memory U × Task U) :=
  match task.submitting, task.killing, task.completing, choice with
  | some (u, pc), _, _, .go env =>
    let next := submitUrb bus u (task.callbackOf == some u) env m pc
    some (next.1, task.inSubmit u next.2)
  | none, some (u, pc), _, .go _ =>
    let next := killUrb u m pc
    some (next.1, task.inKill u next.2)
  | none, none, some (u, pc), .go env =>
    let next := urbComplete bus u env m pc
    some (next.1, task.inComplete u next.2)
  | none, none, none, .deliver u status actual data =>
    if 0 < m.inFlight u then
      some (deliver u data m, task.inComplete u (.goto (.check status actual)))
    else none
  | none, none, none, .kill u => some (m, task.inKill u (.goto .store))
  | none, none, completing, .submit u =>
    if completing.isSome ∧ task.callbackOf = none then none
    else some (m, task.inSubmit u (.goto .check))
  | none, none, completing, .free u =>
    if completing.isSome ∧ task.callbackOf = none then none else some (freeUrb u m, task)
  | _, _, _, _ => none

variable {Id : Type} [DecidableEq Id]

/-- What a step of a task can be. -/
inductive Moved (bus : Bus) (m : Memory U) (task : Task U) :
    Choice U → Memory U → Task U → Prop
  /-- A step of `usb_submit_urb`. -/
  | submitUrb (u : U) (pc : SubmitPc) (env : Env) (here : task.submitting = some (u, pc)) :
      Moved bus m task (.go env) (submitUrb bus u (task.callbackOf == some u) env m pc).1
        (task.inSubmit u (submitUrb bus u (task.callbackOf == some u) env m pc).2)
  /-- A step of `usb_kill_urb`. -/
  | killUrb (u : U) (pc : KillPc) (env : Env) (free : task.submitting = none)
      (here : task.killing = some (u, pc)) :
      Moved bus m task (.go env) (killUrb u m pc).1 (task.inKill u (killUrb u m pc).2)
  /-- A step of `lcompat_usb_urb_complete`. -/
  | urbComplete (u : U) (pc : CompletePc U) (env : Env) (free : task.submitting = none)
      (idle : task.killing = none) (here : task.completing = some (u, pc)) :
      Moved bus m task (.go env) (urbComplete bus u env m pc).1
        (task.inComplete u (urbComplete bus u env m pc).2)
  /-- A native completion begins. -/
  | deliver (u : U) (status actual : Int) (data : List UInt8) (flying : 0 < m.inFlight u)
      (outside : task = .outside) :
      Moved bus m task (.deliver u status actual data) (deliver u data m)
        (task.inComplete u (.goto (.check status actual)))
  /-- `usb_kill_urb` is called. -/
  | kill (u : U) (outside : task = .outside) :
      Moved bus m task (.kill u) m (task.inKill u (.goto .store))
  /-- `usb_submit_urb` is called. -/
  | submit (u : U) (free : task.submitting = none)
      (calls : task.completing ≠ none → task.callbackOf ≠ none) :
      Moved bus m task (.submit u) m (task.inSubmit u (.goto .check))
  /-- `usb_free_urb` is called. -/
  | free (u : U) (free : task.submitting = none)
      (calls : task.completing ≠ none → task.callbackOf ≠ none) :
      Moved bus m task (.free u) (freeUrb u m) task

/-- Every step of a task is one of these. -/
theorem exec_moved {bus : Bus} {m m' : Memory U} {task task' : Task U} {choice : Choice U}
    (executed : exec bus m task choice = some (m', task')) :
    Moved bus m task choice m' task' := by
  unfold exec at executed
  split at executed
  case h_1 u pc env here =>
    obtain ⟨rfl, rfl⟩ := Prod.mk.inj (Option.some.inj executed)
    exact .submitUrb u pc env here
  case h_2 u pc _ free here =>
    obtain ⟨rfl, rfl⟩ := Prod.mk.inj (Option.some.inj executed)
    exact .killUrb u pc _ free here
  case h_3 u pc env free idle here =>
    obtain ⟨rfl, rfl⟩ := Prod.mk.inj (Option.some.inj executed)
    exact .urbComplete u pc env free idle here
  case h_4 u status actual data free killing completing =>
    split at executed
    · rename_i flying
      obtain ⟨rfl, rfl⟩ := Prod.mk.inj (Option.some.inj executed)
      exact .deliver u status actual data flying (Task.ext_outside completing free killing)
    · simp at executed
  case h_5 u free killing completing =>
    obtain ⟨rfl, rfl⟩ := Prod.mk.inj (Option.some.inj executed)
    exact .kill u (Task.ext_outside completing free killing)
  case h_6 u free killing =>
    split at executed
    · simp at executed
    · rename_i calls
      obtain ⟨rfl, rfl⟩ := Prod.mk.inj (Option.some.inj executed)
      refine .submit u free fun completing none => calls ⟨?_, none⟩
      exact Option.isSome_iff_ne_none.mpr completing
  case h_7 u free killing =>
    split at executed
    · simp at executed
    · rename_i calls
      obtain ⟨rfl, rfl⟩ := Prod.mk.inj (Option.some.inj executed)
      refine .free u free fun completing none => calls ⟨?_, none⟩
      exact Option.isSome_iff_ne_none.mpr completing
  case h_8 => simp at executed

/-- URBs and the tasks that use them. -/
abbrev Tasks (Id U : Type) := Pool Id (Memory U) (Task U)

/-- URBs from `usb_alloc_urb` that were filled and not submitted, idle endpoints, and nobody
inside a function. -/
structure Fresh (p : Tasks Id U) : Prop where
  /-- The URBs are new, whatever they were filled with. -/
  urbs : ∀ u, (p.shared.urbs u).hcpriv = false ∧ (p.shared.urbs u).submitted = false ∧
    (p.shared.urbs u).killed = false ∧ (p.shared.urbs u).refcount = 1
  /-- No private state was allocated. -/
  states : ∀ u, p.shared.states u = .zero
  /-- Nothing is pending. -/
  pending : ∀ e, p.shared.pendingHead e = none ∧ p.shared.pendingTail e = none
  /-- No endpoint is busy. -/
  idle : ∀ e, p.shared.pipeBusy e = false
  /-- Nothing has happened yet. -/
  history : ∀ u, p.shared.inFlight u = 0 ∧ p.shared.released u = 0 ∧
    p.shared.quiesced u = false
  /-- Nobody is inside a function. -/
  outside : ∀ t, p.threads t = .outside

/-- Every interleaving of the steps of the tasks. -/
def system (Id U : Type) [DecidableEq Id] [DecidableEq U] (bus : Bus) :
    System (Tasks Id U) (Id × Choice U) :=
  Pool.system (exec bus) Fresh

/-- `usb_alloc_urb`, then filled for a pipe with a callback and an empty buffer. -/
def Urb.alloc (dev : Option UsbDevice) (pipe : BitVec 32) : Urb where
  dev := dev
  pipe := pipe
  transferBuffer := none
  transferBufferLength := 0
  actualLength := 0
  status := 0
  transferFlags := 0
  complete := true
  hcpriv := false
  sg := []
  submitted := false
  killed := false
  refcount := 1

/-- Tasks and URBs before anything has happened, each URB filled in the same way. -/
def freshTasks {Id U : Type} (urb : Urb) : Tasks Id U where
  shared :=
    { urbs := fun _ => urb
      states := fun _ => .zero
      pendingNext := fun _ => none
      pendingHead := fun _ => none
      pendingTail := fun _ => none
      pipeBusy := fun _ => false
      nativePipes := fun _ => none
      inFlight := fun _ => 0
      released := fun _ => 0
      quiesced := fun _ => false }
  threads := fun _ => .outside

/-- They are fresh. -/
theorem freshTasks_fresh {Id U : Type} {urb : Urb} (alloc : urb = .alloc urb.dev urb.pipe) :
    Fresh (freshTasks urb : Tasks Id U) := by
  rw [alloc]
  constructor <;> simp [freshTasks, Urb.alloc]

/-- A number of steps of a task whose native calls succeed. -/
def go {Id U : Type} (steps : Nat) (t : Id) : List (Id × Choice U) :=
  List.replicate steps (t, .go ⟨true, some 512, none⟩)

end Lcompat.Usb
