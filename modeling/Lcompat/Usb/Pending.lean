import Lcompat.Usb.Holding

/-!
# The pending queues

`usb_submit_urb` decides under the lock that a pipe is busy and appends to the pending queue
in a second locked section, and two error paths clear `pipe_busy` without looking at the
queue. What the queue is for holds throughout a run exactly when no URB is appended to a pipe
that has become idle and no error path makes a pipe idle that has pending URBs.
-/

namespace Lcompat.Usb

open Lcompat.Logic

section Roles

variable {U : Type}

/-- The submitted URB is in the hands of `usb_submit_urb`. -/
def SubmitPc.holds : SubmitPc → Bool
  | .killed | .reset | .ref | .busy | .append | .native | .idle _ | .clear _ => true
  | _ => false

/-- `usb_submit_urb` has found the URB not submitted. -/
def SubmitPc.before : SubmitPc → Bool
  | .state | .pipe | .submitted => true
  | _ => false

/-- `usb_submit_urb` has made the pipe busy and is handing the URB over. -/
def SubmitPc.drives : SubmitPc → Bool
  | .native | .idle _ => true
  | _ => false

/-- The submitted URB that is in the hands of a completion. -/
def CompletePc.holds (own : U) : CompletePc U → Option U
  | .check _ _ | .zlp _ | .copy _ _ | .cas _ _ => some own
  | .handOver next | .nextStatus next _ | .nextSubmitted next => some next
  | _ => none

/-- A completion has still to look at the pending queue, or is handing a URB over. -/
def CompletePc.drives : CompletePc U → Bool
  | .nextKilled _ | .nextEnter _ | .nextCallback _ | .nextFree _ | .free => false
  | _ => true

/-- A task is in `usb_submit_urb` for a URB. -/
def Task.Submits (task : Task U) (u : U) : Prop := ∃ pc, task.submitting = some (u, pc)

/-- A task drives the pipe of a URB: it hands the URB over, or completes it and has still to
look at the pending queue or to hand over what it found there. -/
def Task.Drives (task : Task U) (u : U) : Prop :=
  (∃ pc, task.submitting = some (u, pc) ∧ pc.drives = true) ∨
    ∃ pc, task.completing = some (u, pc) ∧ pc.drives = true

end Roles

variable {Id U : Type} [DecidableEq Id] [DecidableEq U] {bus : Bus}

/-- A URB of an endpoint is in flight, or is being handed over by a running call. -/
def Driven (p : Tasks Id U) (e : Endpoint) : Prop :=
  ∃ u, (p.shared.states u).queue = some e ∧
    (0 < p.shared.inFlight u ∨ ∃ t, (p.threads t).Drives u)

/-- What the pending queues are for: an endpoint with pending URBs is busy, and something will
start them. -/
def Started (p : Tasks Id U) : Prop :=
  ∀ e, p.shared.pendingHead e ≠ none → p.shared.pipeBusy e = true ∧ Driven p e

/-- `usb_submit_urb` is called for a URB only while no other call for it is under way. -/
def Distinct (p : Tasks Id U) (a : Id × Choice U) : Prop :=
  ∀ u, a.2 = .submit u → ∀ t, ¬(p.threads t).Submits u

/-- The endpoint of a URB, if it has one, is busy. -/
def Memory.Busy (m : Memory U) : Option Endpoint → Prop
  | none => True
  | some e => m.pipeBusy e = true

/-- The endpoint of a URB, if it has one, has nothing pending. -/
def Memory.NonePending (m : Memory U) : Option Endpoint → Prop
  | none => True
  | some e => m.pendingHead e = none

/-- A URB is appended only while its pipe is still busy, and a failed submission makes a pipe idle
only while nothing is pending. -/
def SubmitPc.Sound (m : Memory U) (queue : Option Endpoint) : SubmitPc → Prop
  | .append => m.Busy queue
  | .idle _ => m.NonePending queue
  | _ => True

/-- A failed hand-over makes a pipe idle only while nothing is pending. -/
def CompletePc.Sound (m : Memory U) (queue : Option Endpoint) : CompletePc U → Prop
  | .nextIdle _ => m.NonePending queue
  | _ => True

/-- The next step of a task is sound. -/
def Task.Sound (m : Memory U) : Task U → Prop
  | ⟨_, some (u, pc), _⟩ => pc.Sound m (m.states u).queue
  | ⟨some (u, pc), none, none⟩ => pc.Sound m (m.states u).queue
  | _ => True

/-- No URB is appended to a pipe that has become idle, and the two error paths make a pipe idle
only while nothing is pending. -/
def Sound (p : Tasks Id U) (a : Id × Choice U) : Prop := (p.threads a.1).Sound p.shared

/-- A task agrees with the places of the URBs. -/
structure Task.Fits (m : Memory U) (place : U → Place Id) (t : Id) (task : Task U) : Prop where
  /-- It submits from a completion only in its callback. -/
  nested : task.submitting ≠ none → task.completing ≠ none → task.callbackOf ≠ none
  /-- The URB it submits. -/
  submits : ∀ u pc, task.submitting = some (u, pc) →
    (pc.holds = true → place u = .held t) ∧
      (pc.before = true → (m.urbs u).submitted = false) ∧
        (pc = .pipe → (m.urbs u).hcpriv = true)
  /-- The URB it completes, and the one it hands over. -/
  completes : ∀ u pc, task.completing = some (u, pc) →
    (m.states u).nativePipe ≠ none ∧ (∀ v, pc.holds u = some v → place v = .held t) ∧
      ∀ v, pc = .handOver v →
        ∃ e, (m.states u).queue = some e ∧ (m.states v).queue = some e

/-- What no step takes back. -/
structure Memory.Keeps (m m' : Memory U) : Prop where
  /-- A native pipe. -/
  pipe : ∀ u, (m.states u).nativePipe ≠ none → (m'.states u).nativePipe ≠ none
  /-- The queue that came with it. -/
  queue : ∀ u, (m.states u).nativePipe ≠ none → (m'.states u).queue = (m.states u).queue
  /-- An allocated private state. -/
  hcpriv : ∀ u, (m.urbs u).hcpriv = true → (m'.urbs u).hcpriv = true

/-- The invariant: memory, tasks and places agree, a URB is submitted by one task at a time,
and a busy endpoint is driven. -/
structure Inv (p : Tasks Id U) (place : U → Place Id) (nodes : Endpoint → List U) : Prop where
  /-- The memory. -/
  shape : p.shared.Shape place nodes
  /-- The tasks. -/
  fits : ∀ t, (p.threads t).Fits p.shared place t
  /-- No two tasks submit the same URB. -/
  alone : ∀ t s u, (p.threads t).Submits u → (p.threads s).Submits u → t = s
  /-- Something will look at the pending queue of a busy endpoint. -/
  driven : ∀ e, p.shared.pipeBusy e = true → Driven p e

omit [DecidableEq Id] [DecidableEq U] in
/-- The invariant gives what the queues are for. -/
theorem Inv.started {p : Tasks Id U} {place : U → Place Id} {nodes : Endpoint → List U}
    (inv : Inv p place nodes) : Started p := by
  intro e pending
  have busy := inv.shape.busy e fun empty => pending ((inv.shape.head_eq_none_iff e).mpr empty)
  exact ⟨busy, inv.driven e busy⟩

omit [DecidableEq Id] [DecidableEq U] in
/-- The step of a task in `usb_submit_urb`. -/
theorem Task.Sound.submitting {m : Memory U} {task : Task U} {u : U} {pc : SubmitPc}
    (sound : task.Sound m) (here : task.submitting = some (u, pc)) :
    pc.Sound m (m.states u).queue := by
  obtain ⟨_, _, _⟩ := task
  obtain rfl : _ = some (u, pc) := here
  exact sound

omit [DecidableEq Id] [DecidableEq U] in
/-- The step of a task in a completion. -/
theorem Task.Sound.completing {m : Memory U} {task : Task U} {u : U} {pc : CompletePc U}
    (sound : task.Sound m) (here : task.completing = some (u, pc))
    (free : task.submitting = none) (idle : task.killing = none) :
    pc.Sound m (m.states u).queue := by
  obtain ⟨_, _, _⟩ := task
  obtain rfl : _ = some (u, pc) := here
  obtain rfl : _ = none := free
  obtain rfl : _ = none := idle
  exact sound

omit [DecidableEq Id] [DecidableEq U] in
/-- A task keeps fitting when another one moves. -/
theorem Task.Fits.frame {m m' : Memory U} {place place' : U → Place Id}
    {nodes : Endpoint → List U} {t : Id} {task : Task U} (fits : task.Fits m place t)
    (shape : m.Shape place nodes) (keeps : m.Keeps m')
    (places : ∀ u, place u = .held t → place' u = .held t)
    (unset : ∀ u, task.Submits u → (m.urbs u).submitted = false →
      (m'.urbs u).submitted = false) : task.Fits m' place' t := by
  refine ⟨fits.nested, fun u pc on => ?_, fun u pc on => ?_⟩
  · obtain ⟨holds, before, allocated⟩ := fits.submits u pc on
    exact ⟨fun held => places u (holds held), fun early => unset u ⟨pc, on⟩ (before early),
      fun pipe => keeps.hcpriv u (allocated pipe)⟩
  · obtain ⟨pipe, holds, hands⟩ := fits.completes u pc on
    refine ⟨keeps.pipe u pipe, fun v held => places v (holds v held), fun v handing => ?_⟩
    obtain ⟨e, own, next⟩ := hands v handing
    have piped := shape.piped v (by simp [next])
    exact ⟨e, (keeps.queue u pipe).trans own, (keeps.queue v piped).trans next⟩

omit [DecidableEq U] in
/-- A driven endpoint stays driven when the moving task does not stop driving it. -/
theorem Driven.moved {p : Tasks Id U} {place : U → Place Id} {nodes : Endpoint → List U}
    {t : Id} {m' : Memory U} {task' : Task U} {e : Endpoint} (driven : Driven p e)
    (shape : p.shared.Shape place nodes) (keeps : p.shared.Keeps m')
    (mover : ∀ u, (p.shared.states u).queue = some e →
      0 < p.shared.inFlight u ∨ (p.threads t).Drives u →
        0 < m'.inFlight u ∨ task'.Drives u ∨
          Driven ⟨m', Function.update p.threads t task'⟩ e) :
    Driven ⟨m', Function.update p.threads t task'⟩ e := by
  obtain ⟨u, queue, drives⟩ := driven
  have queue' : (m'.states u).queue = some e :=
    (keeps.queue u (shape.piped u (by simp [queue]))).trans queue
  have settle : 0 < p.shared.inFlight u ∨ (p.threads t).Drives u →
      Driven ⟨m', Function.update p.threads t task'⟩ e := by
    intro own
    rcases mover u queue own with flying | drives | driven
    · exact ⟨u, queue', .inl flying⟩
    · exact ⟨u, queue', .inr ⟨t, by simpa using drives⟩⟩
    · exact driven
  rcases drives with flying | ⟨s, drives⟩
  · exact settle (.inl flying)
  · by_cases same : s = t
    · subst same
      exact settle (.inr drives)
    · exact ⟨u, queue', .inr ⟨s, by simpa [same] using drives⟩⟩

omit [DecidableEq U] in
/-- The invariant after a move, given the moved task and what it did to the memory. -/
theorem Inv.moved {p : Tasks Id U} {place place' : U → Place Id}
    {nodes nodes' : Endpoint → List U} {t : Id} {m' : Memory U} {task' : Task U}
    (inv : Inv p place nodes) (shape : m'.Shape place' nodes') (keeps : p.shared.Keeps m')
    (fits : task'.Fits m' place' t)
    (others : ∀ s, s ≠ t → ∀ u, place u = .held s → place' u = .held s)
    (unset : ∀ u, ¬(p.threads t).Submits u → (p.shared.urbs u).submitted = false →
      (m'.urbs u).submitted = false)
    (alone : ∀ u, task'.Submits u → (p.threads t).Submits u ∨ ∀ s, ¬(p.threads s).Submits u)
    (driven : ∀ e, m'.pipeBusy e = true → Driven ⟨m', Function.update p.threads t task'⟩ e) :
    Inv ⟨m', Function.update p.threads t task'⟩ place' nodes' := by
  refine ⟨shape, ?_, ?_, driven⟩
  · refine (Function.forall_update_iff p.threads fun s task => task.Fits m' place' s).mpr
      ⟨fits, fun s apart => ?_⟩
    refine (inv.fits s).frame inv.shape keeps (others s apart) fun u submits => ?_
    exact unset u fun also => apart (inv.alone s t u submits also)
  · intro r s u left right
    dsimp only at left right
    have atMost : ∀ r s : Id, r = t → s ≠ t →
        ((Function.update p.threads t task') r).Submits u →
          ((Function.update p.threads t task') s).Submits u → r = s := by
      rintro r s rfl apart moved other
      rw [Function.update_self] at moved
      rw [Function.update_of_ne apart] at other
      rcases alone u moved with before | nobody
      · exact inv.alone r s u before other
      · exact absurd other (nobody s)
    by_cases first : r = t <;> by_cases second : s = t
    · rw [first, second]
    · exact atMost r s first second left right
    · exact (atMost s r second first right left).symm
    · rw [Function.update_of_ne first] at left
      rw [Function.update_of_ne second] at right
      exact inv.alone r s u left right

omit [DecidableEq Id] [DecidableEq U] in
/-- A task that goes on in `usb_submit_urb` fits. -/
theorem Task.Fits.inSubmit {m m' : Memory U} {place place' : U → Place Id}
    {t : Id} {task : Task U} {u : U} {pc : SubmitPc} {next : Next SubmitPc Int}
    (fits : task.Fits m place t) (keeps : m.Keeps m') (here : task.submitting = some (u, pc))
    (held : next.after SubmitPc.holds false = true → place' u = .held t)
    (before : next.after SubmitPc.before false = true → (m'.urbs u).submitted = false)
    (allocated : next = .goto .pipe → (m'.urbs u).hcpriv = true) :
    (task.inSubmit u next).Fits m' place' t := by
  refine ⟨fun _ => fits.nested (by simp [here]), fun v pc' on => ?_, fun v pc' on => ?_⟩
  · obtain ⟨rfl, rfl⟩ := Next.after_eq_some on
    exact ⟨held, before, fun pipe => allocated (by rw [pipe])⟩
  · -- the completion it is nested in stands in a callback and holds nothing
    have calling := fits.nested (by simp [here]) (by simp [show task.completing = _ from on])
    obtain ⟨pipe, _, _⟩ := fits.completes v pc' on
    rw [Task.callbackOf, show task.completing = _ from on] at calling
    refine ⟨keeps.pipe v pipe, fun w holds => ?_, fun w handing => ?_⟩
    · cases pc' <;> simp_all [CompletePc.callbackOf, CompletePc.holds]
    · simp [handing, CompletePc.callbackOf] at calling

/-- The invariant after a step of `usb_submit_urb`. -/
theorem Inv.inSubmit {p : Tasks Id U} {place place' : U → Place Id}
    {nodes nodes' : Endpoint → List U} {t : Id} {u : U} {pc : SubmitPc} {m' : Memory U}
    {next : Next SubmitPc Int} (inv : Inv p place nodes)
    (here : (p.threads t).submitting = some (u, pc)) (shape : m'.Shape place' nodes')
    (keeps : p.shared.Keeps m')
    (held : next.after SubmitPc.holds false = true → place' u = .held t)
    (before : next.after SubmitPc.before false = true → (m'.urbs u).submitted = false)
    (allocated : next = .goto .pipe → (m'.urbs u).hcpriv = true)
    (others : ∀ v, v ≠ u → place' v = place v)
    (self : ∀ s, s ≠ t → place u = .held s → place' u = .held s)
    (unset : ∀ v, v ≠ u → (m'.urbs v).submitted = (p.shared.urbs v).submitted)
    (flights : ∀ v, 0 < p.shared.inFlight v → 0 < m'.inFlight v)
    (busy : ∀ e, m'.pipeBusy e = true → p.shared.pipeBusy e = false →
      (m'.states u).queue = some e ∧ next.after SubmitPc.drives false = true)
    (drives : ∀ e, (p.shared.states u).queue = some e → pc.drives = true →
      m'.pipeBusy e = true → next.after SubmitPc.drives false = true ∨ 0 < m'.inFlight u) :
    Inv ⟨m', Function.update p.threads t ((p.threads t).inSubmit u next)⟩ place' nodes' := by
  have driving : next.after SubmitPc.drives false = true →
      ((p.threads t).inSubmit u next).Drives u := by
    intro on
    cases next with
    | goto pc' => exact .inl ⟨pc', rfl, on⟩
    | ret _ => simp at on
  have mine : (p.threads t).Submits u := ⟨pc, here⟩
  refine inv.moved shape keeps ((inv.fits t).inSubmit keeps here held before allocated)
    (fun s apart v other => ?_) (fun v notMine clear => ?_) (fun v submits => ?_) fun e on => ?_
  · by_cases same : v = u
    · subst same
      exact self s apart other
    · rw [others v same, other]
  · rw [unset v fun same => notMine (same ▸ mine), clear]
  · obtain ⟨pc', on⟩ := submits
    obtain ⟨rfl, _⟩ := Next.after_eq_some on
    exact .inl mine
  · cases was : p.shared.pipeBusy e with
    | false =>
      obtain ⟨queue, goes⟩ := busy e on was
      refine ⟨u, queue, .inr ⟨t, ?_⟩⟩
      simpa using driving goes
    | true =>
      refine (inv.driven e was).moved inv.shape keeps fun v queue driver => ?_
      rcases driver with flying | ⟨pc', submitting, drove⟩ | ⟨pc', completing, drove⟩
      · exact .inl (flights v flying)
      · obtain ⟨rfl, rfl⟩ : u = v ∧ pc = pc' := by simpa [here] using submitting
        rcases drives e queue drove on with goes | flying
        · exact .inr (.inl (driving goes))
        · exact .inl flying
      · exact .inr (.inl (.inr ⟨pc', completing, drove⟩))

namespace Memory.Keeps

variable {m : Memory U}

omit [DecidableEq U] in
/-- Changes of nothing that is kept. -/
theorem of_eq {m' : Memory U} (states : m'.states = m.states) (urbs : m'.urbs = m.urbs) :
    m.Keeps m' := by
  constructor <;> simp only [states, urbs, imp_self, implies_true]

/-- A change of a URB that does not clear `hcpriv`. -/
theorem of_urb {m' : Memory U} {u : U} {urb : Urb} (states : m'.states = m.states)
    (urbs : m'.urbs = Function.update m.urbs u urb)
    (hcpriv : (m.urbs u).hcpriv = true → urb.hcpriv = true) : m.Keeps m' := by
  refine ⟨fun v => ?_, fun v _ => ?_, fun v => ?_⟩
  · rw [states]
    exact id
  · rw [states]
  · rw [urbs]
    by_cases same : v = u
    · subst same
      simpa using hcpriv
    · simp [same]

/-- A change of a private state that keeps its queue and its native pipe, or that has no
native pipe yet. -/
theorem of_state {m' : Memory U} {u : U} {state : UrbState} (urbs : m'.urbs = m.urbs)
    (states : m'.states = Function.update m.states u state)
    (kept : (m.states u).nativePipe ≠ none →
      state.queue = (m.states u).queue ∧ state.nativePipe = (m.states u).nativePipe) :
    m.Keeps m' := by
  refine ⟨fun v => ?_, fun v => ?_, fun v => ?_⟩
  · rw [states]
    by_cases same : v = u
    · subst same
      intro piped
      simpa [(kept piped).2] using piped
    · simp [same]
  · rw [states]
    by_cases same : v = u
    · subst same
      intro piped
      simpa using (kept piped).1
    · simp [same]
  · rw [urbs]
    exact id

/-- Freeing. -/
theorem freeUrb (u : U) : m.Keeps (freeUrb u m) := by
  have dropped : m.Keeps (m.setUrb u fun urb =>
      { urb with refcount := (m.urbs u).refcount - 1 }) := of_urb rfl rfl id
  simp only [Usb.freeUrb]
  split
  · exact ⟨dropped.pipe, dropped.queue, dropped.hcpriv⟩
  · exact dropped

omit [DecidableEq U] in
/-- Kept changes compose. -/
theorem trans {m' m'' : Memory U} (first : m.Keeps m') (second : m'.Keeps m'') : m.Keeps m'' :=
  ⟨fun u pipe => second.pipe u (first.pipe u pipe),
    fun u pipe => (second.queue u (first.pipe u pipe)).trans (first.queue u pipe),
    fun u allocated => second.hcpriv u (first.hcpriv u allocated)⟩

end Memory.Keeps

/-- A step of `usb_submit_urb` that leaves every URB where it is, and the endpoints as busy as
they are, keeps the invariant. -/
theorem Inv.submitQuiet {p : Tasks Id U} {place : U → Place Id} {nodes : Endpoint → List U}
    {t : Id} {u : U} {pc : SubmitPc} {m' : Memory U} {next : Next SubmitPc Int}
    (inv : Inv p place nodes) (here : (p.threads t).submitting = some (u, pc))
    (shape : m'.Shape place nodes) (keeps : p.shared.Keeps m')
    (submitted : ∀ v, (m'.urbs v).submitted = (p.shared.urbs v).submitted)
    (flights : m'.inFlight = p.shared.inFlight) (busy : m'.pipeBusy = p.shared.pipeBusy)
    (held : next.after SubmitPc.holds false = true → pc.holds = true)
    (before : next.after SubmitPc.before false = true → (p.shared.urbs u).submitted = false)
    (allocated : next = .goto .pipe → (m'.urbs u).hcpriv = true)
    (drives : pc.drives = true → next.after SubmitPc.drives false = true) :
    Inv ⟨m', Function.update p.threads t ((p.threads t).inSubmit u next)⟩ place nodes := by
  have fits := (inv.fits t).submits u pc here
  refine inv.inSubmit here shape keeps (fun holds => fits.1 (held holds))
    (fun early => (submitted u).trans (before early)) allocated (fun _ _ => rfl)
    (fun _ _ => id) (fun v _ => submitted v) (fun v => by rw [flights]; exact id)
    (fun e on was => ?_) (fun e _ drove _ => .inl (drives drove))
  rw [busy, was] at on
  exact absurd on (by decide)

/-- Every step of `usb_submit_urb` keeps the invariant for some places, if it appends to a
busy pipe and its error path finds nothing pending. -/
theorem Inv.submitUrb {p : Tasks Id U} {place : U → Place Id} {nodes : Endpoint → List U}
    {t : Id} {u : U} {pc : SubmitPc} {inside : Bool} {env : Env} (inv : Inv p place nodes)
    (here : (p.threads t).submitting = some (u, pc))
    (sound : pc.Sound p.shared (p.shared.states u).queue) :
    ∃ place' nodes', Inv ⟨(submitUrb bus u inside env p.shared pc).1,
      Function.update p.threads t ((p.threads t).inSubmit u
        (submitUrb bus u inside env p.shared pc).2)⟩ place' nodes' := by
  have shape := inv.shape
  obtain ⟨holds, before, allocated⟩ := (inv.fits t).submits u pc here
  cases pc with
  | check =>
    refine ⟨place, nodes, inv.submitQuiet here shape (.of_eq rfl rfl) (fun _ => rfl) rfl rfl
      ?_ ?_ ?_ ?_⟩ <;>
      grind -ring -linarith [Usb.submitUrb, Next.after, SubmitPc.holds, SubmitPc.before,
        SubmitPc.drives]
  | state =>
    simp only [Usb.submitUrb]
    split
    · rename_i found
      exact ⟨place, nodes, inv.submitQuiet here shape (.of_eq rfl rfl) (fun _ => rfl) rfl rfl id
        (fun _ => before rfl) (fun _ => found) id⟩
    · rename_i missing
      have missing : (p.shared.urbs u).hcpriv = false := by simpa using missing
      split
      · have zeroed : p.shared.Keeps (p.shared.setState u fun _ => .zero) :=
          .of_state rfl rfl fun piped => by simp [shape.allocated u piped] at missing
        refine ⟨place, nodes, inv.submitQuiet here (shape.allocate missing) (zeroed.trans ?_)
          (fun v => ?_) rfl rfl id (fun _ => before rfl) (fun _ => by simp) id⟩
        · exact .of_urb rfl rfl fun _ => rfl
        · by_cases same : v = u
          · simp [same]
          · simp [same]
      · exact ⟨place, nodes, inv.submitQuiet here shape (.of_eq rfl rfl) (fun _ => rfl) rfl rfl
          (fun on => by simp at on) (fun on => by simp at on) (fun on => by simp at on) id⟩
  | pipe =>
    have out := shape.out (before rfl)
    have outcome : ∀ next, (next = .goto .submitted ∨ next = .ret (-ENOENT)) → ∀ m',
        (m' = p.shared ∨ (p.shared.states u).nativePipe = none ∧
          pipeType (p.shared.urbs u).pipe ≠ 0 ∧ ∃ state pipes, state.nativePipe ≠ none ∧
            m' = { p.shared.setState u (fun _ => state) with nativePipes := pipes } ∧
              state.queued = (p.shared.states u).queued) →
        Inv ⟨m', Function.update p.threads t ((p.threads t).inSubmit u next)⟩ place nodes := by
      intro next goes m' changed
      have early : next.after SubmitPc.holds false = true → SubmitPc.pipe.holds = true := by
        rcases goes with rfl | rfl <;> simp [SubmitPc.holds]
      have notPipe : next ≠ .goto .pipe := by rcases goes with rfl | rfl <;> simp
      rcases changed with rfl | ⟨missing, _, state, pipes, piped, rfl, _⟩
      · exact inv.submitQuiet here shape (.of_eq rfl rfl) (fun _ => rfl) rfl rfl early
          (fun _ => before rfl) (fun on => absurd on notPipe) (by simp [SubmitPc.drives])
      · refine inv.submitQuiet here (shape.setPipe out (allocated rfl) piped pipes) ?_
          (fun _ => rfl) rfl rfl early (fun _ => before rfl) (fun on => absurd on notPipe)
          (by simp [SubmitPc.drives])
        exact .of_state rfl rfl fun already => absurd missing already
    simp only [Usb.submitUrb]
    split
    · exact ⟨place, nodes, outcome _ (.inr rfl) _ (.inl rfl)⟩
    · rename_i dev _
      have cases := getNativePipe_cases bus dev (p.shared.urbs u).pipe u env p.shared
      split <;> rename_i answer <;> rw [answer] at cases
      · exact ⟨place, nodes, outcome _ (.inl rfl) _ cases⟩
      · exact ⟨place, nodes, outcome _ (.inr rfl) _ cases⟩
  | submitted =>
    have out := shape.out (before rfl)
    simp only [Usb.submitUrb]
    refine ⟨Function.update place u (.held t), nodes, inv.inSubmit here
      (Memory.Shape.history (shape.move (by simp [out]) (by simp) ?_ ?_) _ _) ?_
      (fun _ => Function.update_self ..) ?_ ?_ (fun v other => Function.update_of_ne other ..) ?_
      (fun v other => ?_) (fun v => id) ?_ ?_⟩
    · exact fun _ => rfl
    · rfl
    · exact .of_urb rfl rfl id
    · simp [SubmitPc.before]
    · simp
    · simp [out]
    · simp [other]
    · exact fun e on was => by simp_all
    · simp [SubmitPc.drives]
  | killed =>
    simp only [Usb.submitUrb]
    refine ⟨place, nodes, inv.submitQuiet here (shape.setUrb u ?_ ?_) (.of_urb rfl rfl ?_)
      (p.shared.setUrb_submitted ?_) rfl rfl (fun _ => rfl) ?_ ?_ ?_⟩
    · rfl
    · exact id
    · exact id
    · rfl
    all_goals simp [SubmitPc.before, SubmitPc.drives]
  | reset =>
    simp only [Usb.submitUrb]
    refine ⟨place, nodes, inv.submitQuiet here
      ((shape.setState u ?_ ?_).resetLink (by simp [holds rfl])) (.of_state rfl rfl ?_)
      (fun _ => rfl) rfl rfl (fun _ => rfl) ?_ ?_ ?_⟩
    · rfl
    · rfl
    · exact fun _ => ⟨rfl, rfl⟩
    all_goals simp [SubmitPc.before, SubmitPc.drives]
  | ref =>
    simp only [Usb.submitUrb]
    refine ⟨place, nodes, inv.submitQuiet here (shape.setUrb u ?_ ?_) (.of_urb rfl rfl ?_)
      (p.shared.setUrb_submitted ?_) rfl rfl (fun _ => rfl) ?_ ?_ ?_⟩
    · rfl
    · exact id
    · exact id
    · rfl
    all_goals simp [SubmitPc.before, SubmitPc.drives]
  | busy =>
    simp only [Usb.submitUrb]
    split
    · refine ⟨place, nodes, inv.submitQuiet here shape (.of_eq rfl rfl) (fun _ => rfl) rfl rfl
        (fun _ => rfl) ?_ ?_ ?_⟩
      all_goals simp [SubmitPc.before, SubmitPc.drives]
    · rename_i e queue
      split
      · refine ⟨place, nodes, inv.submitQuiet here shape (.of_eq rfl rfl) (fun _ => rfl) rfl rfl
          (fun _ => rfl) ?_ ?_ ?_⟩
        all_goals simp [SubmitPc.before, SubmitPc.drives]
      · -- the pipe becomes busy, and this call drives it
        refine ⟨place, nodes, inv.inSubmit here (shape.setBusy e (by simp)) (.of_eq rfl rfl)
          (fun _ => holds rfl) ?_ ?_ (fun _ _ => rfl) (fun _ _ => id) (fun _ _ => rfl)
          (fun _ => id) (fun f on was => ?_) ?_⟩
        · simp [SubmitPc.before]
        · simp
        · obtain rfl : f = e := by
            by_contra other
            simp [other, was] at on
          exact ⟨queue, rfl⟩
        · simp [SubmitPc.drives]
  | append =>
    simp only [Usb.submitUrb]
    split
    · refine ⟨place, nodes, inv.submitQuiet here shape (.of_eq rfl rfl) (fun _ => rfl) rfl rfl
        ?_ ?_ ?_ ?_⟩
      all_goals simp [SubmitPc.drives]
    · rename_i e queue
      have busy : p.shared.pipeBusy e = true := by
        rwa [SubmitPc.Sound, queue] at sound
      have marked : p.shared.Keeps (queueAppend e u p.shared) :=
        .of_state rfl rfl fun _ => ⟨rfl, rfl⟩
      refine ⟨_, _, inv.inSubmit here (shape.append (holds rfl) queue busy) marked
        ?_ ?_ ?_ (fun v other => Function.update_of_ne other ..) (fun s apart other => ?_)
        (fun _ _ => rfl) (fun _ => id) (fun f on was => ?_) ?_⟩
      · simp
      · simp
      · simp
      · exact absurd ((holds rfl).symm.trans other) (by simp [Ne.symm apart])
      · simp_all [queueAppend]
      · simp [SubmitPc.drives]
  | native =>
    obtain ⟨state, ⟨queue, pipe, _⟩, outcome⟩ := prepareAndSubmit_cases u env p.shared
    have kept : p.shared.Keeps (p.shared.setState u fun _ => state) :=
      .of_state rfl rfl fun _ => ⟨queue, pipe⟩
    rcases outcome with ⟨accepted, piped⟩ | ⟨ret, negative, refused⟩
    · simp only [Usb.submitUrb, accepted]
      refine ⟨_, _, inv.inSubmit here ((shape.setState u queue pipe).fly (holds rfl) ?_)
        (kept.trans (.of_eq rfl rfl)) ?_ ?_ ?_ (fun v other => Function.update_of_ne other ..)
        (fun s apart other => ?_) (fun _ _ => rfl) (fun v flying => ?_) (fun f on was => ?_) ?_⟩
      · simpa [pipe] using piped
      · simp
      · simp
      · simp
      · exact absurd ((holds rfl).symm.trans other) (by simp [Ne.symm apart])
      · by_cases same : v = u
        · simp [same]
        · simpa [same] using flying
      · simp_all
      · simp
    · simp only [Usb.submitUrb, refused, if_pos negative]
      refine ⟨place, nodes, inv.submitQuiet here (shape.setState u queue pipe) kept (fun _ => rfl)
        rfl rfl (fun _ => rfl) ?_ ?_ ?_⟩
      all_goals simp [SubmitPc.before, SubmitPc.drives]
  | idle ret =>
    simp only [Usb.submitUrb]
    split
    · refine ⟨place, nodes, inv.inSubmit here shape (.of_eq rfl rfl) (fun _ => holds rfl) ?_ ?_
        (fun _ _ => rfl) (fun _ _ => id) (fun _ _ => rfl) (fun _ => id) (fun f on was => ?_) ?_⟩
      all_goals simp_all [SubmitPc.before]
    · rename_i e queue
      rw [SubmitPc.Sound, queue] at sound
      have none := (shape.head_eq_none_iff e).mp sound
      refine ⟨place, nodes, inv.inSubmit here (shape.setBusy e fun _ => none) (.of_eq rfl rfl)
        (fun _ => holds rfl) ?_ ?_ (fun _ _ => rfl) (fun _ _ => id) (fun _ _ => rfl) (fun _ => id)
        (fun f on was => ?_) (fun f queue' _ on => ?_)⟩
      · simp [SubmitPc.before]
      · simp
      · by_cases same : f = e
        · simp [same] at on
        · simp [same, was] at on
      · obtain rfl : e = f := Option.some.inj (queue.symm.trans queue')
        simp at on
  | clear ret =>
    simp only [Usb.submitUrb]
    refine ⟨Function.update place u .out, nodes, inv.inSubmit here
      (shape.move (by simp [holds rfl]) (by simp) ?_ ?_) (.of_urb rfl rfl ?_) ?_ ?_ ?_
      (fun v other => Function.update_of_ne other ..) (fun s apart other => ?_)
      (fun v other => ?_) (fun _ => id) (fun f on was => ?_) ?_⟩
    · simp
    · rfl
    · exact id
    · simp [SubmitPc.holds]
    · simp [SubmitPc.before]
    · simp
    · exact absurd ((holds rfl).symm.trans other) (by simp [Ne.symm apart])
    · simp [other]
    · simp_all
    · simp [SubmitPc.drives]
  | free ret =>
    simp only [Usb.submitUrb]
    refine ⟨place, nodes, inv.submitQuiet here (shape.freeUrb u) (.freeUrb u)
      (p.shared.freeUrb_submitted u) (p.shared.freeUrb_inFlight u) (p.shared.freeUrb_pipeBusy u)
      ?_ ?_ ?_ ?_⟩
    all_goals simp [SubmitPc.drives]

omit [DecidableEq Id] [DecidableEq U] in
/-- What one task holds, another one does not. -/
theorem held_ne {place : U → Place Id} {t s : Id} {u v : U} (mine : place u = .held t)
    (other : place v = .held s) (apart : s ≠ t) : v ≠ u := by
  rintro rfl
  exact apart (Place.held.inj (other.symm.trans mine))

omit [DecidableEq U] in
/-- The invariant after a step of `lcompat_usb_urb_complete`. -/
theorem Inv.inComplete {p : Tasks Id U} {place place' : U → Place Id}
    {nodes nodes' : Endpoint → List U} {t : Id} {u : U} {pc : CompletePc U} {m' : Memory U}
    {next : Next (CompletePc U) Unit} (inv : Inv p place nodes)
    (free : (p.threads t).submitting = none) (here : (p.threads t).completing = some (u, pc))
    (shape : m'.Shape place' nodes') (keeps : p.shared.Keeps m')
    (held : ∀ v, next.after (·.holds u) none = some v → place' v = .held t)
    (hands : ∀ v, next = .goto (.handOver v) →
      ∃ e, (m'.states u).queue = some e ∧ (m'.states v).queue = some e)
    (others : ∀ s, s ≠ t → ∀ v, place v = .held s → place' v = .held s)
    (unset : ∀ v, (p.shared.urbs v).submitted = false → (m'.urbs v).submitted = false)
    (flights : ∀ v, 0 < p.shared.inFlight v → 0 < m'.inFlight v)
    (busy : ∀ e, m'.pipeBusy e = true → p.shared.pipeBusy e = true)
    (drives : ∀ e, (p.shared.states u).queue = some e → pc.drives = true →
      m'.pipeBusy e = true → next.after (·.drives) false = true ∨
        ∃ v, (m'.states v).queue = some e ∧ 0 < m'.inFlight v) :
    Inv ⟨m', Function.update p.threads t ((p.threads t).inComplete u next)⟩ place' nodes' := by
  have nobody : ∀ v, ¬((p.threads t).inComplete u next).Submits v := by
    rintro v ⟨pc', on⟩
    simp [Task.inComplete, free] at on
  refine inv.moved shape keeps ⟨fun on => absurd free on, fun v pc' on => ?_, fun v pc' on => ?_⟩
    others (fun v _ => unset v) (fun v submits => absurd submits (nobody v)) fun e on => ?_
  · exact absurd ⟨pc', on⟩ (nobody v)
  · obtain ⟨rfl, rfl⟩ := Next.after_eq_some on
    have pipe := ((inv.fits t).completes _ pc here).1
    exact ⟨keeps.pipe _ pipe, held, fun w handing => hands w (by rw [handing])⟩
  · refine (inv.driven e (busy e on)).moved inv.shape keeps fun v queue driver => ?_
    rcases driver with flying | ⟨pc', submitting, _⟩ | ⟨pc', completing, drove⟩
    · exact .inl (flights v flying)
    · simp [free] at submitting
    · obtain ⟨rfl, rfl⟩ : u = v ∧ pc = pc' := by simpa [here] using completing
      rcases drives e queue drove on with goes | ⟨w, own, flying⟩
      · cases next with
        | goto pc' => exact .inr (.inl (.inr ⟨pc', rfl, goes⟩))
        | ret _ => simp at goes
      · exact .inr (.inr ⟨w, own, .inl flying⟩)

omit [DecidableEq U] in
/-- A step of `lcompat_usb_urb_complete` that leaves every URB where it is, and the endpoints
as busy as they are, keeps the invariant. -/
theorem Inv.completeQuiet {p : Tasks Id U} {place : U → Place Id} {nodes : Endpoint → List U}
    {t : Id} {u : U} {pc : CompletePc U} {m' : Memory U} {next : Next (CompletePc U) Unit}
    (inv : Inv p place nodes) (free : (p.threads t).submitting = none)
    (here : (p.threads t).completing = some (u, pc)) (shape : m'.Shape place nodes)
    (keeps : p.shared.Keeps m')
    (submitted : ∀ v, (m'.urbs v).submitted = (p.shared.urbs v).submitted)
    (flights : m'.inFlight = p.shared.inFlight) (busy : m'.pipeBusy = p.shared.pipeBusy)
    (held : ∀ v, next.after (·.holds u) none = some v → pc.holds u = some v)
    (hands : ∀ v, next ≠ .goto (.handOver v))
    (drives : pc.drives = true → next.after (·.drives) false = true) :
    Inv ⟨m', Function.update p.threads t ((p.threads t).inComplete u next)⟩ place nodes := by
  have fits := (inv.fits t).completes u pc here
  refine inv.inComplete free here shape keeps (fun v holds => fits.2.1 v (held v holds))
    (fun v goes => absurd goes (hands v)) (fun _ _ _ => id)
    (fun v clear => (submitted v).trans clear) (fun v => by rw [flights]; exact id)
    (fun e => by rw [busy]; exact id) (fun e _ drove _ => .inl (drives drove))

/-- Every step of `lcompat_usb_urb_complete` keeps the invariant for some places, if its error
path finds nothing pending. -/
theorem Inv.urbComplete {p : Tasks Id U} {place : U → Place Id} {nodes : Endpoint → List U}
    {t : Id} {u : U} {pc : CompletePc U} {env : Env} (inv : Inv p place nodes)
    (free : (p.threads t).submitting = none) (here : (p.threads t).completing = some (u, pc))
    (sound : pc.Sound p.shared (p.shared.states u).queue) :
    ∃ place' nodes', Inv ⟨(urbComplete bus u env p.shared pc).1,
      Function.update p.threads t ((p.threads t).inComplete u
        (urbComplete bus u env p.shared pc).2)⟩ place' nodes' := by
  have shape := inv.shape
  obtain ⟨piped, holds, hands⟩ := (inv.fits t).completes u pc here
  have submits : ∀ v, pc.holds u = some v → (p.shared.urbs v).submitted = true :=
    fun v held => shape.submitted v (by simp [holds v held])
  cases pc with
  | check status actual =>
    obtain ⟨state, next, ⟨queue, pipe, _⟩, goes, checked⟩ :=
      urbComplete_check_cases bus u env (submits u rfl) status actual
    simp only [checked]
    refine ⟨place, nodes, inv.completeQuiet free here (shape.setState u queue pipe)
      (.of_state rfl rfl fun _ => ⟨queue, pipe⟩) (fun _ => rfl) rfl rfl ?_ ?_ ?_⟩ <;>
      rcases goes with ⟨_, rfl⟩ | ⟨_, _, rfl⟩ <;> simp [CompletePc.holds, CompletePc.drives]
  | zlp actual =>
    obtain ⟨state, ⟨queue, pipe, _⟩, outcome⟩ := submitNativeUrb_cases u 0 env p.shared
    have mine := holds u rfl
    rcases outcome with ⟨accepted, _⟩ | ⟨ret, negative, refused⟩
    · -- the continuation is in flight again as a transfer of the same URB
      simp only [Usb.urbComplete, accepted]
      refine ⟨_, _, inv.inComplete free here ((shape.setState u queue pipe).fly mine ?_)
        (.of_state rfl rfl fun _ => ⟨queue, pipe⟩) ?_ ?_ (fun s apart v other => ?_) (fun _ => id)
        (fun v flying => ?_) (fun _ => id) (fun e own _ _ => .inr ⟨u, ?_, ?_⟩)⟩
      · simpa [pipe] using piped
      · simp
      · simp
      · rwa [Function.update_of_ne (held_ne mine other apart)]
      · by_cases same : v = u
        · simp [same]
        · simpa [same] using flying
      · simpa [queue] using own
      · simp
    · have twice : ∀ change : UrbState → UrbState,
          (p.shared.setState u fun _ => state).setState u change =
            p.shared.setState u fun _ => change state := fun change => by simp
      simp only [Usb.urbComplete, refused, if_neg negative.ne, twice]
      refine ⟨place, nodes, inv.completeQuiet free here (shape.setState u queue pipe)
        (.of_state rfl rfl fun _ => ⟨queue, pipe⟩) (fun _ => rfl) rfl rfl (fun _ => id) ?_ id⟩
      simp
  | copy mapped actual =>
    simp only [Usb.urbComplete]
    split
    · dsimp only
      refine ⟨place, nodes, inv.completeQuiet free here (shape.setUrb u ?_ ?_)
        (.of_urb rfl rfl ?_) (p.shared.setUrb_submitted ?_) rfl rfl (fun _ => id) ?_ id⟩
      · rfl
      · exact id
      · exact id
      · rfl
      · simp
    · refine ⟨place, nodes, inv.completeQuiet free here shape (.of_eq rfl rfl) (fun _ => rfl) rfl
        rfl (fun _ => id) ?_ id⟩
      simp
  | cas mapped actual =>
    have mine := holds u rfl
    simp only [Usb.urbComplete, submits u rfl, if_true]
    refine ⟨Function.update place u .out, nodes, inv.inComplete free here
      (shape.move (by simp [mine]) (by simp) ?_ ?_) (.of_urb rfl rfl ?_) ?_ ?_
      (fun s apart v other => ?_) (fun v clear => ?_) (fun _ => id) (fun _ => id)
      (fun _ _ _ _ => .inl rfl)⟩
    · simp
    · rfl
    · exact id
    · simp [CompletePc.holds]
    · simp
    · rwa [Function.update_of_ne (held_ne mine other apart)]
    · by_cases same : v = u
      · simp [same]
      · simpa [same] using clear
  | store mapped actual =>
    simp only [Usb.urbComplete]
    refine ⟨place, nodes, inv.completeQuiet free here (shape.setUrb u ?_ ?_)
      (.of_urb rfl rfl ?_) (p.shared.setUrb_submitted ?_) rfl rfl ?_ ?_ ?_⟩
    · rfl
    · exact id
    · exact id
    · rfl
    all_goals split <;> simp [CompletePc.holds, CompletePc.drives]
  | killed =>
    refine ⟨place, nodes, inv.completeQuiet free here shape (.of_eq rfl rfl) (fun _ => rfl) rfl rfl
      ?_ ?_ ?_⟩ <;> simp only [Usb.urbComplete] <;> split <;>
      simp [CompletePc.holds, CompletePc.drives]
  | enter | callback =>
    refine ⟨place, nodes, inv.completeQuiet free here shape (.of_eq rfl rfl) (fun _ => rfl) rfl rfl
      ?_ ?_ ?_⟩ <;> simp [Usb.urbComplete, CompletePc.holds, CompletePc.drives]
  | pop =>
    simp only [Usb.urbComplete]
    split
    · rename_i none
      refine ⟨place, nodes, inv.inComplete free here shape (.of_eq rfl rfl) ?_ ?_ (fun _ _ _ => id)
        (fun _ => id) (fun _ => id) (fun _ => id) (fun e own => ?_)⟩
      · simp [CompletePc.holds]
      · simp
      · simp [none] at own
    · rename_i e queue
      cases first : nodes e with
      | nil =>
        simp only [shape.pop_nil first]
        refine ⟨place, nodes, inv.inComplete free here (shape.setBusy e fun _ => first)
          (.of_eq rfl rfl) ?_ ?_ (fun _ _ _ => id) (fun _ => id) (fun _ => id) (fun f on => ?_)
          (fun f own _ on => ?_)⟩
        · simp [CompletePc.holds]
        · simp
        · by_cases same : f = e
          · simp [same] at on
          · simpa [same] using on
        · obtain rfl : e = f := Option.some.inj (queue.symm.trans own)
          simp at on
      | cons v rest =>
        -- the task takes the first pending URB, which it will hand over on the same endpoint
        obtain ⟨popped, moved⟩ := shape.pop_cons t first
        have member : v ∈ nodes e := by simp [first]
        obtain ⟨pending, queue'⟩ := shape.queued e v member
        obtain ⟨urbs, flights, busy, states⟩ := queuePop_frame e p.shared
        have kept : p.shared.Keeps (queuePop e p.shared).1 :=
          ⟨fun w => by rw [(states w).2]; exact id, fun w _ => (states w).1,
            fun w => by rw [urbs]; exact id⟩
        have answer : queuePop e p.shared = ((queuePop e p.shared).1, some v) := by rw [← popped]
        rw [answer]
        refine ⟨_, _, inv.inComplete free here moved kept ?_ ?_ (fun s apart w other => ?_)
          (fun w clear => ?_) (fun w => ?_) (fun f => ?_) (fun _ _ _ _ => .inl rfl)⟩
        · simp [CompletePc.holds]
        · rintro w goes
          obtain rfl : v = w := by simpa using goes
          exact ⟨e, (states u).1.trans queue, (states v).1.trans queue'⟩
        · have apart' : w ≠ v := by
            rintro rfl
            simp [pending] at other
          rwa [Function.update_of_ne apart']
        · rwa [urbs]
        · rw [flights]
          exact id
        · rw [busy]
          exact id
  | handOver v =>
    obtain ⟨e, own, queue'⟩ := hands v rfl
    have mine := holds v rfl
    obtain ⟨state, ⟨queue, pipe, _⟩, outcome⟩ := prepareAndSubmit_cases v env p.shared
    rcases outcome with ⟨accepted, next⟩ | ⟨ret, negative, refused⟩
    · simp only [Usb.urbComplete, accepted]
      refine ⟨_, _, inv.inComplete free here ((shape.setState v queue pipe).fly mine ?_)
        (.of_state rfl rfl fun _ => ⟨queue, pipe⟩) ?_ ?_ (fun s apart w other => ?_) (fun _ => id)
        (fun w flying => ?_) (fun _ => id) (fun f own' _ _ => .inr ⟨v, ?_, ?_⟩)⟩
      · simpa [pipe] using next
      · simp [CompletePc.holds]
      · simp
      · rwa [Function.update_of_ne (held_ne mine other apart)]
      · by_cases same : w = v
        · simp [same]
        · simpa [same] using flying
      · obtain rfl : e = f := Option.some.inj (own.symm.trans own')
        simpa [queue] using queue'
      · simp
    · simp only [Usb.urbComplete, refused, if_pos negative]
      refine ⟨place, nodes, inv.completeQuiet free here (shape.setState v queue pipe)
        (.of_state rfl rfl fun _ => ⟨queue, pipe⟩) (fun _ => rfl) rfl rfl ?_ ?_ ?_⟩ <;>
        simp [CompletePc.holds, CompletePc.drives]
  | nextStatus v ret =>
    simp only [Usb.urbComplete]
    refine ⟨place, nodes, inv.completeQuiet free here (shape.setUrb v ?_ ?_)
      (.of_urb rfl rfl ?_) (p.shared.setUrb_submitted ?_) rfl rfl ?_ ?_ ?_⟩
    · rfl
    · exact id
    · exact id
    · rfl
    all_goals simp [CompletePc.holds, CompletePc.drives]
  | nextSubmitted v =>
    have mine := holds v rfl
    simp only [Usb.urbComplete]
    refine ⟨Function.update place v .out, nodes, inv.inComplete free here
      (shape.move (by simp [mine]) (by simp) ?_ ?_) (.of_urb rfl rfl ?_) ?_ ?_
      (fun s apart w other => ?_) (fun w clear => ?_) (fun _ => id) (fun _ => id)
      (fun _ _ _ _ => .inl rfl)⟩
    · simp
    · rfl
    · exact id
    · simp [CompletePc.holds]
    · simp
    · rwa [Function.update_of_ne (held_ne mine other apart)]
    · by_cases same : w = v
      · simp [same]
      · simpa [same] using clear
  | nextIdle v =>
    simp only [Usb.urbComplete]
    split
    · rename_i none
      refine ⟨place, nodes, inv.inComplete free here shape (.of_eq rfl rfl) ?_ ?_ (fun _ _ _ => id)
        (fun _ => id) (fun _ => id) (fun _ => id) (fun e own => ?_)⟩
      · simp [CompletePc.holds]
      · simp
      · simp [none] at own
    · rename_i e queue
      rw [CompletePc.Sound, queue] at sound
      have nonePending := (shape.head_eq_none_iff e).mp sound
      refine ⟨place, nodes, inv.inComplete free here (shape.setBusy e fun _ => nonePending)
        (.of_eq rfl rfl) ?_ ?_ (fun _ _ _ => id) (fun _ => id) (fun _ => id) (fun f on => ?_)
        (fun f own _ on => ?_)⟩
      · simp [CompletePc.holds]
      · simp
      · by_cases same : f = e
        · simp [same] at on
        · simpa [same] using on
      · obtain rfl : e = f := Option.some.inj (queue.symm.trans own)
        simp at on
  | nextKilled v =>
    refine ⟨place, nodes, inv.completeQuiet free here shape (.of_eq rfl rfl) (fun _ => rfl) rfl rfl
      ?_ ?_ ?_⟩ <;> simp only [Usb.urbComplete] <;> split <;>
      simp [CompletePc.holds, CompletePc.drives]
  | nextEnter v | nextCallback v =>
    refine ⟨place, nodes, inv.completeQuiet free here shape (.of_eq rfl rfl) (fun _ => rfl) rfl rfl
      ?_ ?_ ?_⟩ <;> simp [Usb.urbComplete, CompletePc.holds, CompletePc.drives]
  | nextFree v =>
    simp only [Usb.urbComplete]
    refine ⟨place, nodes, inv.completeQuiet free here (shape.freeUrb v) (.freeUrb v)
      (p.shared.freeUrb_submitted v) (p.shared.freeUrb_inFlight v) (p.shared.freeUrb_pipeBusy v)
      ?_ ?_ ?_⟩ <;> simp [CompletePc.holds, CompletePc.drives]
  | free =>
    simp only [Usb.urbComplete]
    refine ⟨place, nodes, inv.completeQuiet free here (shape.freeUrb u) (.freeUrb u)
      (p.shared.freeUrb_submitted u) (p.shared.freeUrb_inFlight u) (p.shared.freeUrb_pipeBusy u)
      ?_ ?_ ?_⟩ <;> simp [CompletePc.drives]

omit [DecidableEq U] in
/-- A step that leaves every URB where it is, of a task that stays where it is in its submission
and its completion, keeps the invariant. -/
theorem Inv.aside {p : Tasks Id U} {place : U → Place Id} {nodes : Endpoint → List U} {t : Id}
    {m' : Memory U} {task' : Task U} (inv : Inv p place nodes) (shape : m'.Shape place nodes)
    (keeps : p.shared.Keeps m')
    (submitted : ∀ v, (m'.urbs v).submitted = (p.shared.urbs v).submitted)
    (flights : m'.inFlight = p.shared.inFlight) (busy : m'.pipeBusy = p.shared.pipeBusy)
    (submitting : task'.submitting = (p.threads t).submitting)
    (completing : task'.completing = (p.threads t).completing) :
    Inv ⟨m', Function.update p.threads t task'⟩ place nodes := by
  have clear : ∀ v, (p.shared.urbs v).submitted = false → (m'.urbs v).submitted = false :=
    fun v off => (submitted v).trans off
  have moved := (inv.fits t).frame inv.shape keeps (fun _ => id) fun v _ => clear v
  refine inv.moved shape keeps ⟨?_, ?_, ?_⟩ (fun _ _ _ => id) (fun v _ => clear v)
    (fun v submits => .inl ?_) fun e on => ?_
  · rw [submitting, completing, Task.callbackOf, completing]
    exact moved.nested
  · rw [submitting]
    exact moved.submits
  · rw [completing]
    exact moved.completes
  · rwa [Task.Submits, submitting] at submits
  · rw [busy] at on
    refine (inv.driven e on).moved inv.shape keeps fun v _ driver => ?_
    rw [flights, Task.Drives, submitting, completing]
    exact driver.elim .inl fun drives => .inr (.inl drives)

/-- A native completion takes its URB out of flight and keeps the invariant. -/
theorem Inv.deliver {p : Tasks Id U} {place : U → Place Id} {nodes : Endpoint → List U} {t : Id}
    {u : U} {status actual : Int} {data : List UInt8} (inv : Inv p place nodes)
    (flying : 0 < p.shared.inFlight u) (outside : p.threads t = .outside) :
    ∃ place', Inv ⟨deliver u data p.shared, Function.update p.threads t
      ((p.threads t).inComplete u (.goto (.check status actual)))⟩ place' nodes := by
  have shape := inv.shape
  have here : place u = .flying := by
    by_contra grounded
    simp [shape.grounded u grounded] at flying
  obtain ⟨urb, state, ⟨submitted, hcpriv, _, _⟩, ⟨queue, pipe, _⟩, delivered⟩ :=
    deliver_cases u data p.shared
  have landed := shape.land (t := t) here
  refine ⟨Function.update place u (.held t), ?_⟩
  rw [delivered]
  have written : p.shared.Keeps ((p.shared.setInFlight u (· - 1)).setState u fun _ => state) :=
    .of_state rfl rfl fun _ => ⟨queue, pipe⟩
  have kept : p.shared.Keeps (((p.shared.setInFlight u (· - 1)).setState u fun _ => state).setUrb
      u fun _ => urb) := written.trans (.of_urb rfl rfl fun on => hcpriv.trans on)
  refine inv.moved ((landed.setState u queue pipe).setUrb u submitted fun on => hcpriv.trans on)
    kept ⟨?_, ?_, ?_⟩ (fun s apart v other => ?_) (fun v _ clear => ?_) (fun v submits => ?_)
    fun e on => ?_
  · simp [Task.inComplete, outside, Task.outside]
  · simp [Task.inComplete, outside, Task.outside]
  · rintro v pc on
    obtain ⟨rfl, rfl⟩ : u = v ∧ CompletePc.check status actual = pc := by
      simpa [Task.inComplete] using on
    simpa [CompletePc.holds, pipe] using shape.flies u here
  · have apart' : v ≠ u := by
      rintro rfl
      simp [here] at other
    rwa [Function.update_of_ne apart']
  · by_cases same : v = u
    · subst same
      simpa [submitted] using clear
    · simpa [same] using clear
  · obtain ⟨pc, on⟩ := submits
    simp [Task.inComplete, outside, Task.outside] at on
  · refine (inv.driven e on).moved shape kept fun v _ driver => ?_
    -- the URB that was in flight is now driven by the task that completes it
    rcases driver with flies | ⟨pc, submitting, _⟩ | ⟨pc, completing, _⟩
    · by_cases same : v = u
      · exact .inr (.inl (.inr ⟨.check status actual, by simp [Task.inComplete, same], rfl⟩))
      · exact .inl (by simpa [same] using flies)
    · simp [outside, Task.outside] at submitting
    · simp [outside, Task.outside] at completing

/-- Every step that meets the conditions keeps the invariant for some places. -/
theorem Inv.step {p q : Tasks Id U} {place : U → Place Id} {nodes : Endpoint → List U}
    {a : Id × Choice U} (inv : Inv p place nodes) (distinct : Distinct p a) (sound : Sound p a)
    (stepped : (system Id U bus).step p a = some q) : ∃ place' nodes', Inv q place' nodes' := by
  obtain ⟨m, task, executed, rfl⟩ := Pool.step_eq_some.mp stepped
  obtain ⟨t, choice⟩ := a
  cases exec_moved executed with
  | submitUrb u pc env here => exact inv.submitUrb here (sound.submitting here)
  | killUrb u pc env free here =>
    refine ⟨place, nodes, ?_⟩
    cases pc with
    | store =>
      simp only [killUrb]
      refine inv.aside (inv.shape.setUrb u ?_ ?_) (.of_urb rfl rfl ?_)
        (p.shared.setUrb_submitted ?_) rfl rfl rfl rfl
      · rfl
      · exact id
      · exact id
      · rfl
    | wait =>
      simp only [killUrb]
      split
      · exact inv.aside inv.shape (.of_eq rfl rfl) (fun _ => rfl) rfl rfl rfl rfl
      · exact inv.aside (inv.shape.history _ _) (.of_eq rfl rfl) (fun _ => rfl) rfl rfl rfl rfl
  | urbComplete u pc env free idleKill here =>
    exact inv.urbComplete free here (sound.completing here free idleKill)
  | deliver u status actual data flying outside =>
    obtain ⟨place', inv'⟩ := inv.deliver flying outside
    exact ⟨place', nodes, inv'⟩
  | kill u _ =>
    exact ⟨place, nodes, inv.aside inv.shape (.of_eq rfl rfl) (fun _ => rfl) rfl rfl rfl rfl⟩
  | submit u free calls =>
    have fits := inv.fits t
    refine ⟨place, nodes, inv.moved inv.shape (.of_eq rfl rfl) ⟨?_, ?_, fits.completes⟩
      (fun _ _ _ => id) (fun _ _ => id) (fun v submits => ?_) fun e on => ?_⟩
    · exact fun _ => calls
    · rintro v pc on
      obtain ⟨_, rfl⟩ : u = v ∧ SubmitPc.check = pc := by simpa [Task.inSubmit] using on
      simp [SubmitPc.holds, SubmitPc.before]
    · obtain ⟨pc, on⟩ := submits
      obtain ⟨rfl, _⟩ : u = v ∧ SubmitPc.check = pc := by simpa [Task.inSubmit] using on
      exact .inr (distinct u rfl)
    · refine (inv.driven e on).moved inv.shape (.of_eq rfl rfl) fun v _ driver => ?_
      rcases driver with flying | ⟨pc, submitting, _⟩ | drives
      · exact .inl flying
      · simp [free] at submitting
      · exact .inr (.inl (.inr drives))
  | free u _ _ =>
    refine ⟨place, nodes, inv.aside (inv.shape.freeUrb u) (.freeUrb u) ?_ ?_ ?_ rfl rfl⟩
    · exact p.shared.freeUrb_submitted u
    · exact p.shared.freeUrb_inFlight u
    · exact p.shared.freeUrb_pipeBusy u

omit [DecidableEq Id] [DecidableEq U] in
/-- Fresh tasks satisfy the invariant. -/
theorem Fresh.inv {p : Tasks Id U} (fresh : Fresh p) : Inv p (fun _ => .out) fun _ => [] := by
  refine ⟨⟨fun _ => ?_, fun _ => ?_, fun u _ => (fresh.history u).1, fun e => ?_, fun e u => ?_,
    fun u => ?_, fun u => ?_, fun u => ?_, fun e => ?_⟩, fun t => ⟨?_, ?_, ?_⟩,
    fun t s u => ?_, fun e => ?_⟩
  · simp
  · simp
  · obtain ⟨head, tail⟩ := fresh.pending e
    simpa [Memory.pending, head, tail] using LinkedQueue.repr_empty p.shared.pendingNext
  · simp
  all_goals simp [fresh.states, fresh.outside, fresh.idle, UrbState.zero, Task.outside,
    Task.Submits]

/-- A task in `usb_submit_urb` takes a step of it. -/
theorem moved_submitUrb {m m' : Memory U} {task task' : Task U} {choice : Choice U} {u : U}
    {pc : SubmitPc} (moved : Moved bus m task choice m' task')
    (here : task.submitting = some (u, pc)) :
    ∃ inside env, m' = (submitUrb bus u inside env m pc).1 := by
  cases moved with
  | submitUrb v pc' env here' =>
    obtain ⟨rfl, rfl⟩ : u = v ∧ pc = pc' := by simpa [here] using here'
    exact ⟨_, env, rfl⟩
  | deliver v status actual data flying outside => simp [outside, Task.outside] at here
  | kill v outside => simp [outside, Task.outside] at here
  | killUrb v pc' env free | urbComplete v pc' env free | submit v free | free v free =>
    simp [here] at free

/-- A task in a completion, but neither in its callback nor in another function, takes a step of
it. -/
theorem moved_urbComplete {m m' : Memory U} {task task' : Task U} {choice : Choice U} {u : U}
    {pc : CompletePc U} (moved : Moved bus m task choice m' task')
    (here : task.completing = some (u, pc)) (free : task.submitting = none)
    (idle : task.killing = none) (calls : pc.callbackOf u = none) :
    ∃ env, m' = (urbComplete bus u env m pc).1 := by
  have quiet : task.callbackOf = none := by simp [Task.callbackOf, here, calls]
  cases moved with
  | urbComplete v pc' env _ _ here' =>
    obtain ⟨rfl, rfl⟩ : u = v ∧ pc = pc' := by simpa [here] using here'
    exact ⟨env, rfl⟩
  | submitUrb v pc' env here' => simp [free] at here'
  | killUrb v pc' env _ here' => simp [idle] at here'
  | deliver v status actual data flying outside => simp [outside, Task.outside] at here
  | kill v outside => simp [outside, Task.outside] at here
  | submit v _ inside | free v _ inside => exact absurd quiet (inside (by simp [here]))

/-- A step that leaves what the queues are for in place was sound. -/
theorem Inv.sound_of_started {p q : Tasks Id U} {place : U → Place Id}
    {nodes : Endpoint → List U} {a : Id × Choice U} (inv : Inv p place nodes)
    (stepped : (system Id U bus).step p a = some q) (started : Started q) : Sound p a := by
  obtain ⟨m, task, executed, rfl⟩ := Pool.step_eq_some.mp stepped
  have moved := exec_moved executed
  unfold Sound Task.Sound
  split
  · rename_i u pc _ here
    obtain ⟨inside, env, rfl⟩ := moved_submitUrb moved (by rw [here])
    cases queue : (p.shared.states u).queue with
    | none => cases pc <;> trivial
    | some e =>
      cases pc with
      | append =>
        -- the appended URB is pending, so the pipe is busy, and the append has not made it so
        have appended : (Usb.submitUrb bus u inside env p.shared .append).1 =
            queueAppend e u p.shared := by simp [Usb.submitUrb, queue]
        rw [appended] at started
        exact (started e (by simpa [queueAppend] using (inv.shape.repr e).append_head u)).1
      | idle ret =>
        by_contra pending
        have still : (Usb.submitUrb bus u inside env p.shared (.idle ret)).1.pendingHead e ≠
            none := by
          simpa [Usb.submitUrb, queue, SubmitPc.Sound, Memory.NonePending] using pending
        have busy := (started e still).1
        simp [Usb.submitUrb, queue] at busy
      | _ => trivial
  · rename_i u pc here
    cases pc with
    | nextIdle next =>
      have completing : (p.threads a.1).completing = some (u, .nextIdle next) := by rw [here]
      obtain ⟨env, rfl⟩ := moved_urbComplete moved completing (by rw [here]) (by rw [here]) rfl
      cases queue : (p.shared.states u).queue with
      | none => trivial
      | some e =>
        by_contra pending
        have still : (Usb.urbComplete bus u env p.shared (.nextIdle next)).1.pendingHead e ≠
            none := by
          simpa [Usb.urbComplete, queue, CompletePc.Sound, Memory.NonePending] using pending
        have busy := (started e still).1
        simp [Usb.urbComplete, queue] at busy
    | _ => trivial
  · trivial

/-- What the pending queues are for holds throughout a run of calls on distinct URBs exactly when
every step of the run is sound. -/
theorem started_iff_sound {p q : Tasks Id U} {labels : List (Id × Choice U)} (fresh : Fresh p)
    (distinct : (system Id U bus).Along Distinct p labels)
    (ran : (system Id U bus).run p labels = some q) :
    (system Id U bus).Throughout Started p labels ↔ (system Id U bus).Along Sound p labels :=
  System.throughout_iff_along
    (fun p (inv : ∃ place nodes, Inv p place nodes) => inv.choose_spec.choose_spec.started)
    (fun _ _ _ ⟨_, _, inv⟩ => inv.step) (fun _ _ _ ⟨_, _, inv⟩ _ => inv.sound_of_started)
    ⟨_, _, fresh.inv⟩ distinct ran

instance (m : Memory U) : (queue : Option Endpoint) → Decidable (m.Busy queue)
  | none => .isTrue trivial
  | some e => inferInstanceAs (Decidable (m.pipeBusy e = true))

instance (m : Memory U) : (queue : Option Endpoint) → Decidable (m.NonePending queue)
  | none => .isTrue trivial
  | some e => inferInstanceAs (Decidable (m.pendingHead e = none))

instance (m : Memory U) (queue : Option Endpoint) : (pc : SubmitPc) → Decidable (pc.Sound m queue)
  | .append => inferInstanceAs (Decidable (m.Busy queue))
  | .idle _ => inferInstanceAs (Decidable (m.NonePending queue))
  | .check | .state | .pipe | .submitted | .killed | .reset | .ref | .busy | .native
  | .clear _ | .free _ => .isTrue trivial

instance (m : Memory U) (queue : Option Endpoint) :
    (pc : CompletePc U) → Decidable (pc.Sound m queue)
  | .nextIdle _ => inferInstanceAs (Decidable (m.NonePending queue))
  | .check _ _ | .zlp _ | .copy _ _ | .cas _ _ | .store _ _ | .killed | .enter | .callback | .pop
  | .handOver _ | .nextStatus _ _ | .nextSubmitted _ | .nextKilled _ | .nextEnter _
  | .nextCallback _ | .nextFree _ | .free => .isTrue trivial

instance (m : Memory U) : (task : Task U) → Decidable (task.Sound m)
  | ⟨_, some (u, pc), _⟩ => inferInstanceAs (Decidable (pc.Sound m (m.states u).queue))
  | ⟨some (u, pc), none, none⟩ => inferInstanceAs (Decidable (pc.Sound m (m.states u).queue))
  | ⟨none, none, _⟩ | ⟨some _, none, some _⟩ => .isTrue trivial

instance (p : Tasks Id U) (a : Id × Choice U) : Decidable (Sound p a) :=
  inferInstanceAs (Decidable ((p.threads a.1).Sound p.shared))

instance (task : Task U) (u : U) : Decidable (task.Submits u) :=
  decidable_of_iff (task.submitting.map Prod.fst = some u) (by simp [Task.Submits])

instance [Fintype Id] [Fintype U] (p : Tasks Id U) (a : Id × Choice U) :
    Decidable (Distinct p a) :=
  inferInstanceAs (Decidable (∀ u, a.2 = .submit u → ∀ t, ¬(p.threads t).Submits u))

/-- A device with one bulk OUT endpoint that belongs to a bound interface. -/
def boundBus : Bus where
  codes := ⟨0, 1, 2, 3, 4, 5⟩
  wrappers := [⟨true, 0, [⟨0x01, 2⟩]⟩]
  defpipe := fun _ => none

/-- A URB filled for that endpoint. -/
def boundUrb : Urb := .alloc (some ⟨some 0⟩) 0x10001

/-- Two tasks submit two URBs; the second one is appended while the first is in flight, and is
handed over when the first completes. -/
def queuedBehind : List (Fin 2 × Choice Bool) :=
  (0, .submit false) :: go 9 0 ++ (1, .submit true) :: go 9 1 ++
    (0, .deliver false 0 0 []) :: go 10 0

/-- The second call sees a busy pipe; the first URB completes and finds nothing pending; only
then does the second call append. -/
def appendedTooLate : List (Fin 2 × Choice Bool) :=
  (0, .submit false) :: go 9 0 ++ (1, .submit true) :: go 8 1 ++
    (0, .deliver false 0 0 []) :: go 8 0 ++ go 1 1

/-- A URB appended behind one in flight has a busy pipe until it is handed over. -/
theorem queuedBehind_started :
    (system (Fin 2) Bool boundBus).Throughout Started (freshTasks boundUrb) queuedBehind := by
  have ran : ∃ p, (system (Fin 2) Bool boundBus).runWith (fun p a => Distinct p a ∧ Sound p a)
      (freshTasks boundUrb) queuedBehind = some p ∧ p.shared.inFlight true = 1 :=
    ⟨_, rfl, rfl⟩
  obtain ⟨p, executed, _⟩ := ran
  obtain ⟨along, executed⟩ := System.along_of_runWith executed
  exact (started_iff_sound (freshTasks_fresh rfl) (along.mono fun _ _ both => both.1)
    executed).mpr (along.mono fun _ _ both => both.2)

/-- An idle pipe with a pending URB. -/
theorem appendedTooLate_not_started :
    ¬∀ p, (system (Fin 2) Bool boundBus).Reach Distinct p → Started p := by
  intro always
  have ran : ∃ p, (system (Fin 2) Bool boundBus).runWith Distinct (freshTasks boundUrb)
      appendedTooLate = some p ∧ p.shared.pendingHead (0, 0) = some true ∧
        p.shared.pipeBusy (0, 0) = false := ⟨_, rfl, rfl, rfl⟩
  obtain ⟨p, executed, pending, idle⟩ := ran
  have reached := System.path_of_runWith executed
  have busy := (always p ⟨_, freshTasks_fresh rfl, reached⟩ (0, 0) (by simp [pending])).1
  simp [idle] at busy

end Lcompat.Usb
