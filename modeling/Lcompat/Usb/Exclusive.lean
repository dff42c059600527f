import Lcompat.Usb.Pending

/-!
# One URB of an endpoint at a time

Whoever finds `pipe_busy` clear and sets it drives the endpoint: a submission, then the transfer it
sends, then the completion of the transfer, which hands the endpoint on to the next pending URB.
The drivers are a function of the endpoints, as the places are one of the URBs, so that no two of
them can meet. An error path that drops `pipe_busy` early gives the endpoint up, whatever is
pending. All of this rests on a URB being submitted once at a time, which `usb_submit_urb` checks
before it marks the URB, but not in the same step.
-/

namespace Lcompat.Usb

open Lcompat.Logic

/-- Who has made an endpoint busy. -/
inductive Driver (Id U : Type) where
  /-- Nobody. -/
  | nobody
  /-- The submission a task is in. -/
  | submitter (t : Id)
  /-- The completion a task is in. -/
  | completer (t : Id)
  /-- The transfer of a URB. -/
  | transfer (u : U)

variable {Id U : Type}

/-- The completion of a URB has not cleared `submitted` yet and may still continue the transfer. -/
def CompletePc.unfinished : CompletePc U → Bool
  | .check _ _ | .zlp _ | .copy _ _ | .cas _ _ => true
  | _ => false

/-- A URB was handed to `usb_submit_xfer` and is not completed, its continuation included. -/
def Handed (p : Tasks Id U) (u : U) : Prop :=
  0 < p.shared.inFlight u ∨
    ∃ t pc, (p.threads t).completing = some (u, pc) ∧ pc.unfinished = true

/-- One URB of an endpoint is with the native driver, and the others are pending once each. -/
structure Exclusive (p : Tasks Id U) : Prop where
  /-- A URB has one transfer in flight at most. -/
  once : ∀ u, p.shared.inFlight u ≤ 1
  /-- No two URBs of an endpoint were handed over. -/
  one : ∀ e u v, (p.shared.states u).queue = some e → (p.shared.states v).queue = some e →
    Handed p u → Handed p v → u = v
  /-- The pending queues are lists of URBs of their endpoint without repetition, and none of
  these was handed over. -/
  pending : ∀ e, ∃ waiting, (p.shared.pending e).Repr waiting ∧ waiting.Nodup ∧
    ∀ u ∈ waiting, (p.shared.states u).queue = some e ∧ ¬Handed p u

/-- A URB that is marked as submitted was not marked before. -/
def MarksClear (p : Tasks Id U) (a : Id × Choice U) : Prop :=
  ∀ u, (p.threads a.1).submitting = some (u, .submitted) → (p.shared.urbs u).submitted = false

/-- A URB has what it gets before it is first marked: its private state and, unless it is for the
default pipe, its native pipe. -/
def Memory.Settled (m : Memory U) (u : U) : Prop :=
  (m.urbs u).hcpriv = true ∧
    ((m.states u).nativePipe ≠ none ∨ pipeType (m.urbs u).pipe = 0)

/-- The memory with every endpoint busy. -/
def Memory.raised (m : Memory U) : Memory U := { m with pipeBusy := fun _ => true }

/-- The memory agrees with the places of the URBs, the lists of pending URBs and the drivers of the
endpoints. -/
structure Memory.Custody (m : Memory U) (place : U → Place Id) (nodes : Endpoint → List U)
    (own : Endpoint → Driver Id U) : Prop where
  /-- The URBs are where they should be; a pending one may wait at an idle endpoint. -/
  shape : m.raised.Shape place nodes
  /-- A URB that is somewhere has its native pipe. -/
  settled : ∀ u, place u ≠ .out → m.Settled u
  /-- The pending URBs are marked. -/
  marked : ∀ u, (m.states u).queued = true ↔ place u = .queued
  /-- A flying URB drives its endpoint. -/
  transfers : ∀ u e, place u = .flying → (m.states u).queue = some e → own e = .transfer u
  /-- A driven endpoint is busy. -/
  busy : ∀ e, own e ≠ .nobody → m.pipeBusy e = true

/-- What no step takes back. -/
structure Memory.Retains (m m' : Memory U) : Prop where
  /-- An allocated private state. -/
  hcpriv : ∀ u, (m.urbs u).hcpriv = true → (m'.urbs u).hcpriv = true
  /-- What a URB has got, with the queue that came with its native pipe. -/
  settled : ∀ u, m.Settled u → m'.Settled u ∧ (m'.states u).queue = (m.states u).queue

/-- A submission agrees with the places and the drivers. -/
structure SubmitPc.Owns (pc : SubmitPc) (m : Memory U) (place : U → Place Id)
    (own : Endpoint → Driver Id U) (t : Id) (u : U) : Prop where
  /-- The private state is allocated before the pipe is looked up. -/
  allocated : pc = .pipe → (m.urbs u).hcpriv = true
  /-- The pipe is found before the URB is marked. -/
  settled : pc = .submitted → m.Settled u
  /-- It holds the URB it has marked. -/
  held : pc.holds = true → place u = .held t
  /-- It appends to the queue it has found. -/
  queues : pc = .append → (m.states u).queue ≠ none
  /-- It drives the endpoint it has made busy. -/
  drives : pc.drives = true → ∀ e, (m.states u).queue = some e → own e = .submitter t

/-- A completion agrees with the places and the drivers. -/
structure CompletePc.Owns (pc : CompletePc U) (m : Memory U) (place : U → Place Id)
    (own : Endpoint → Driver Id U) (t : Id) (u : U) : Prop where
  /-- The URB has its native pipe. -/
  settled : m.Settled u
  /-- It holds the URB it completes, and then the one it hands over. -/
  held : ∀ v, pc.holds u = some v → place v = .held t
  /-- These are URBs of one endpoint. -/
  hands : ∀ v, pc = .handOver v → ∃ e, (m.states u).queue = some e ∧ (m.states v).queue = some e
  /-- It drives the endpoint until it has handed it on or given it up. -/
  drives : pc.drives = true → ∀ e, (m.states u).queue = some e → own e = .completer t

/-- A task agrees with the places and the drivers. -/
structure Task.Owns (task : Task U) (m : Memory U) (place : U → Place Id)
    (own : Endpoint → Driver Id U) (t : Id) : Prop where
  /-- It submits from a completion only in its callback. -/
  nested : task.submitting ≠ none → task.completing ≠ none → task.callbackOf ≠ none
  /-- Its submission. -/
  submits : ∀ u pc, task.submitting = some (u, pc) → pc.Owns m place own t u
  /-- Its completion. -/
  completes : ∀ u pc, task.completing = some (u, pc) → pc.Owns m place own t u

/-- The invariant: the memory and the tasks agree with the places and the drivers. -/
structure Owned (p : Tasks Id U) (place : U → Place Id) (nodes : Endpoint → List U)
    (own : Endpoint → Driver Id U) : Prop where
  /-- The memory. -/
  custody : p.shared.Custody place nodes own
  /-- The tasks. -/
  tasks : ∀ t, (p.threads t).Owns p.shared place own t

/-- A URB that was handed over is flying, or a completion that drives its endpoint has it. -/
theorem Owned.handed {p : Tasks Id U} {place : U → Place Id} {nodes : Endpoint → List U}
    {own : Endpoint → Driver Id U} (owned : Owned p place nodes own) {u : U}
    (handed : Handed p u) :
    place u ≠ .queued ∧ ∀ e, (p.shared.states u).queue = some e →
      own e = .transfer u ∨ ∃ t pc, own e = .completer t ∧
        (p.threads t).completing = some (u, pc) := by
  obtain ⟨shape, _, _, transfers, _⟩ := owned.custody
  rcases handed with flying | ⟨t, pc, completing, unfinished⟩
  · have here : place u = .flying := by
      by_contra grounded
      exact absurd (shape.grounded u grounded) flying.ne'
    exact ⟨by simp [here], fun e queue => .inl (transfers u e here queue)⟩
  · have owns := (owned.tasks t).completes u pc completing
    have held : pc.holds u = some u := by
      cases pc <;> simp_all [CompletePc.unfinished, CompletePc.holds]
    have drives : pc.drives = true := by
      cases pc <;> simp_all [CompletePc.unfinished, CompletePc.drives]
    refine ⟨by simp [owns.held u held], fun e queue => .inr ⟨t, pc, ?_, completing⟩⟩
    exact owns.drives drives e queue

/-- The invariant gives exclusion. -/
theorem Owned.exclusive {p : Tasks Id U} {place : U → Place Id} {nodes : Endpoint → List U}
    {own : Endpoint → Driver Id U} (owned : Owned p place nodes own) : Exclusive p := by
  have shape := owned.custody.shape
  refine ⟨fun u => ?_, fun e u v first second left right => ?_, fun e => ?_⟩
  · by_cases here : place u = .flying
    · exact (shape.flying u here).le
    · exact (shape.grounded u here).le.trans (Nat.zero_le 1)
  · have mine := (owned.handed left).2 e first
    have other := (owned.handed right).2 e second
    rcases mine with mine | ⟨t, pc, mine, completing⟩ <;>
      rcases other with other | ⟨s, pc', other, completing'⟩ <;>
      rw [mine] at other
    · exact Driver.transfer.inj other
    · exact absurd other (by simp)
    · exact absurd other (by simp)
    · obtain rfl := Driver.completer.inj other
      rw [completing] at completing'
      exact congrArg Prod.fst (Option.some.inj completing')
  · refine ⟨nodes e, shape.repr e, (shape.repr e).nodup, fun u member => ?_⟩
    obtain ⟨here, queue⟩ := shape.queued e u member
    exact ⟨queue, fun handed => (owned.handed handed).1 here⟩

namespace Memory.Retains

variable {m : Memory U}

/-- Changes of nothing that is retained. -/
theorem of_eq {m' : Memory U} (states : m'.states = m.states) (urbs : m'.urbs = m.urbs) :
    m.Retains m' := by
  constructor <;> simp only [Settled, states, urbs, imp_self, implies_true, and_true]

/-- Retained changes compose. -/
theorem trans {m' m'' : Memory U} (first : m.Retains m') (second : m'.Retains m'') :
    m.Retains m'' := by
  refine ⟨fun u allocated => second.hcpriv u (first.hcpriv u allocated), fun u settled => ?_⟩
  obtain ⟨settled', queue⟩ := first.settled u settled
  obtain ⟨settled'', queue'⟩ := second.settled u settled'
  exact ⟨settled'', queue'.trans queue⟩

variable [DecidableEq U]

/-- A change of a URB that keeps its pipe and does not clear `hcpriv`. -/
theorem of_urb {m' : Memory U} {u : U} {urb : Urb} (states : m'.states = m.states)
    (urbs : m'.urbs = Function.update m.urbs u urb)
    (hcpriv : (m.urbs u).hcpriv = true → urb.hcpriv = true)
    (pipe : urb.pipe = (m.urbs u).pipe) : m.Retains m' := by
  have kept : ∀ v, (m.urbs v).hcpriv = true → (m'.urbs v).hcpriv = true := by
    intro v
    by_cases same : v = u
    · subst same
      simpa [urbs] using hcpriv
    · simp [urbs, same]
  have pipes : ∀ v, (m'.urbs v).pipe = (m.urbs v).pipe := by
    intro v
    by_cases same : v = u
    · subst same
      simpa [urbs] using pipe
    · simp [urbs, same]
  refine ⟨kept, fun v settled => ⟨⟨kept v settled.1, ?_⟩, by rw [states]⟩⟩
  rw [states, pipes]
  exact settled.2

/-- A change of a private state that leaves it where it is, or of one that was not settled. -/
theorem of_state {m' : Memory U} {u : U} {state : UrbState} (urbs : m'.urbs = m.urbs)
    (states : m'.states = Function.update m.states u state)
    (kept : m.Settled u → (m.states u).Alike state) : m.Retains m' := by
  refine ⟨fun v => by rw [urbs]; exact id, fun v settled => ?_⟩
  by_cases same : v = u
  · subst same
    have alike := kept settled
    refine ⟨⟨by rw [urbs]; exact settled.1, ?_⟩, by simp [states, alike.queue]⟩
    simpa [states, urbs, alike.pipe] using settled.2
  · refine ⟨⟨by rw [urbs]; exact settled.1, ?_⟩, by simp [states, same]⟩
    simpa [states, urbs, same] using settled.2

/-- Taking a URB out of its queue. -/
theorem queuePop (e : Endpoint) : m.Retains (queuePop e m).1 := by
  obtain ⟨urbs, _, _, states⟩ := queuePop_frame e m
  refine ⟨fun u => by rw [urbs]; exact id, fun u settled => ⟨⟨?_, ?_⟩, (states u).1⟩⟩
  · rw [urbs]
    exact settled.1
  · rw [urbs, (states u).2]
    exact settled.2

/-- Freeing. -/
theorem freeUrb (u : U) : m.Retains (freeUrb u m) := by
  have dropped : m.Retains (m.setUrb u fun urb =>
      { urb with refcount := (m.urbs u).refcount - 1 }) := of_urb rfl rfl id rfl
  simp only [Usb.freeUrb]
  split
  · exact ⟨dropped.hcpriv, dropped.settled⟩
  · exact dropped

end Memory.Retains

/-- A URB whose pipe was found has a native pipe, unless it is for the default pipe. -/
theorem getNativePipe_found [DecidableEq U] (bus : Bus) (dev : UsbDevice) (pipe : BitVec 32)
    (u : U) (env : Env) (m : Memory U) (found : UsbPipe)
    (answer : (getNativePipe bus dev pipe u env m).2 = some found) :
    ((getNativePipe bus dev pipe u env m).1.states u).nativePipe ≠ none ∨ pipeType pipe = 0 := by
  unfold getNativePipe at answer ⊢
  cases native : dev.native with
  | none => simp [native] at answer
  | some nativeDev =>
    by_cases default : pipeType pipe = 0
    · exact .inr default
    · left
      simp only [native, if_neg default] at answer ⊢
      cases piped : (m.states u).nativePipe with
      | some _ => simp [piped]
      | none =>
        cases wrapped : findWrapperForPipe bus nativeDev pipe with
        | none => cases made : allocPipe nativeDev pipe env <;> simp_all
        | some e =>
          cases shared : m.nativePipes e with
          | some _ => simp [shared]
          | none => cases made : allocPipe nativeDev pipe env <;> simp_all

/-- A driver takes over the endpoint of a URB, if the URB has one. -/
def handTo (own : Endpoint → Driver Id U) : Option Endpoint → Driver Id U →
    Endpoint → Driver Id U
  | none, _ => own
  | some e, driver => Function.update own e driver

/-- It drives that endpoint then. -/
@[simp]
theorem handTo_self (own : Endpoint → Driver Id U) (e : Endpoint) (driver : Driver Id U) :
    handTo own (some e) driver e = driver :=
  Function.update_self ..

/-- And no other one. -/
theorem handTo_of_ne (own : Endpoint → Driver Id U) {queue : Option Endpoint} {e : Endpoint}
    (driver : Driver Id U) (apart : queue ≠ some e) : handTo own queue driver e = own e := by
  cases queue with
  | none => rfl
  | some f =>
    refine Function.update_of_ne ?_ ..
    rintro rfl
    exact apart rfl

namespace Memory.Custody

variable [DecidableEq U] {m : Memory U} {place : U → Place Id} {nodes : Endpoint → List U}
variable {own : Endpoint → Driver Id U}

omit [DecidableEq U] in
/-- A URB that has no private state, or no native pipe though it needs one, is nowhere. -/
theorem out (custody : m.Custody place nodes own) {u : U} (unsettled : ¬m.Settled u) :
    place u = .out := by
  by_contra somewhere
  exact unsettled (custody.settled u somewhere)

/-- A change of a URB's data that does not clear `hcpriv`. -/
theorem setUrb (custody : m.Custody place nodes own) (u : U) (change : Urb → Urb)
    (submitted : (change (m.urbs u)).submitted = (m.urbs u).submitted)
    (hcpriv : (m.urbs u).hcpriv = true → (change (m.urbs u)).hcpriv = true)
    (pipe : (change (m.urbs u)).pipe = (m.urbs u).pipe) :
    (m.setUrb u change).Custody place nodes own := by
  have retains : m.Retains (m.setUrb u change) := .of_urb rfl rfl hcpriv pipe
  exact ⟨Memory.Shape.setUrb custody.shape u submitted hcpriv,
    fun v somewhere => (retains.settled v (custody.settled v somewhere)).1, custody.marked,
    custody.transfers, custody.busy⟩

/-- A change of a private state that leaves it where it is. -/
theorem setState (custody : m.Custody place nodes own) (u : U)
    (change : UrbState → UrbState)
    (alike : (m.states u).Alike (change (m.states u))) :
    (m.setState u change).Custody place nodes own := by
  have retains : m.Retains (m.setState u change) := .of_state rfl rfl fun _ => alike
  refine ⟨Memory.Shape.setState custody.shape u alike.queue alike.pipe,
    fun v somewhere => (retains.settled v (custody.settled v somewhere)).1, fun v => ?_,
    fun v e flying queue => ?_, custody.busy⟩
  · by_cases same : v = u
    · subst same
      simpa [alike.queued] using custody.marked v
    · simpa [same] using custody.marked v
  · rw [(retains.settled v (custody.settled v (by simp [flying]))).2] at queue
    exact custody.transfers v e flying queue

omit [DecidableEq U] in
/-- The history is not looked at. -/
theorem history (custody : m.Custody place nodes own) (quiesced : U → Bool)
    (released : U → Nat) :
    ({ m with quiesced := quiesced, released := released }).Custody place nodes own :=
  ⟨Memory.Shape.history custody.shape quiesced released, custody.settled, custody.marked,
    custody.transfers, custody.busy⟩

/-- A URB that is neither pending nor in flight, before and after, changes hands. -/
theorem move (custody : m.Custody place nodes own) {u : U} {x : Place Id}
    (here : place u ≠ .queued ∧ place u ≠ .flying) (there : x ≠ .queued ∧ x ≠ .flying)
    {change : Urb → Urb} (submitted : x ≠ .out → (change (m.urbs u)).submitted = true)
    (hcpriv : (change (m.urbs u)).hcpriv = (m.urbs u).hcpriv)
    (pipe : (change (m.urbs u)).pipe = (m.urbs u).pipe) (settled : m.Settled u) :
    (m.setUrb u change).Custody (Function.update place u x) nodes own := by
  have retains : m.Retains (m.setUrb u change) := .of_urb rfl rfl hcpriv.trans pipe
  refine ⟨Memory.Shape.move custody.shape here there submitted hcpriv, fun v somewhere => ?_,
    fun v => ?_, fun v e flying queue => ?_, custody.busy⟩
  · by_cases same : v = u
    · exact same ▸ (retains.settled u settled).1
    · rw [Function.update_of_ne same] at somewhere
      exact (retains.settled v (custody.settled v somewhere)).1
  · by_cases same : v = u
    · subst same
      simpa [there.1, here.1] using custody.marked v
    · simpa [same] using custody.marked v
  · by_cases same : v = u
    · subst same
      simp [there.2] at flying
    · rw [Function.update_of_ne same] at flying
      exact custody.transfers v e flying queue

/-- A held URB whose endpoint is driven, and not by a transfer, goes into flight and drives it. -/
theorem fly (custody : m.Custody place nodes own) {u : U} {t : Id} (here : place u = .held t)
    (pipe : (m.states u).nativePipe ≠ none)
    (driven : ∀ e, (m.states u).queue = some e →
      own e ≠ .nobody ∧ ∀ v, own e ≠ .transfer v) :
    (m.setInFlight u (· + 1)).Custody (Function.update place u .flying) nodes
      (handTo own (m.states u).queue (.transfer u)) := by
  refine ⟨Memory.Shape.fly custody.shape here pipe, fun v somewhere => ?_, fun v => ?_,
    fun v e flying queue => ?_, fun e driven' => ?_⟩
  · by_cases same : v = u
    · exact same ▸ custody.settled u (by simp [here])
    · rw [Function.update_of_ne same] at somewhere
      exact custody.settled v somewhere
  · by_cases same : v = u
    · subst same
      simpa [here] using custody.marked v
    · simpa [same] using custody.marked v
  · by_cases same : v = u
    · subst same
      rw [show (m.states v).queue = some e from queue, handTo_self]
    · rw [Function.update_of_ne same] at flying
      have before := custody.transfers v e flying queue
      rw [handTo_of_ne own _ fun own' => (driven e own').2 v before]
      exact before
  · by_cases same : (m.states u).queue = some e
    · exact custody.busy e (driven e same).1
    · rw [handTo_of_ne own _ same] at driven'
      exact custody.busy e driven'

/-- A flying URB is taken by a completion, which drives its endpoint from then on. -/
theorem land (custody : m.Custody place nodes own) {u : U} (t : Id)
    (here : place u = .flying) :
    (m.setInFlight u (· - 1)).Custody (Function.update place u (.held t)) nodes
      (handTo own (m.states u).queue (.completer t)) := by
  refine ⟨Memory.Shape.land custody.shape here, fun v somewhere => ?_, fun v => ?_,
    fun v e flying queue => ?_, fun e driven => ?_⟩
  · by_cases same : v = u
    · exact same ▸ custody.settled u (by simp [here])
    · rw [Function.update_of_ne same] at somewhere
      exact custody.settled v somewhere
  · by_cases same : v = u
    · subst same
      simpa [here] using custody.marked v
    · simpa [same] using custody.marked v
  · by_cases same : v = u
    · subst same
      simp at flying
    · rw [Function.update_of_ne same] at flying
      have before := custody.transfers v e flying queue
      rw [handTo_of_ne own _ fun own' => ?_]
      · exact before
      · have mine := custody.transfers u e here own'
        rw [before] at mine
        exact same (Driver.transfer.inj mine)
  · by_cases same : (m.states u).queue = some e
    · refine custody.busy e ?_
      simp [custody.transfers u e here same]
    · rw [handTo_of_ne own _ same] at driven
      exact custody.busy e driven

omit [DecidableEq U] in
/-- An idle endpoint is made busy, and driven. -/
theorem claim (custody : m.Custody place nodes own) {e : Endpoint}
    (idle : m.pipeBusy e = false) (driver : Driver Id U) :
    (m.setBusy e true).Custody place nodes (Function.update own e driver) := by
  have nobody : own e = .nobody := by
    by_contra driven
    simp [custody.busy e driven] at idle
  refine ⟨custody.shape, custody.settled, custody.marked, fun v f flying queue => ?_,
    fun f driven => ?_⟩
  · have before := custody.transfers v f flying queue
    have apart : f ≠ e := by
      rintro rfl
      simp [nobody] at before
    rwa [Function.update_of_ne apart]
  · by_cases same : f = e
    · simp [same]
    · rw [Function.update_of_ne same] at driven
      simpa [same] using custody.busy f driven

omit [DecidableEq U] in
/-- An endpoint that no transfer drives is given up. -/
theorem release (custody : m.Custody place nodes own) {e : Endpoint}
    (free : ∀ v, own e ≠ .transfer v) :
    (m.setBusy e false).Custody place nodes (Function.update own e .nobody) := by
  refine ⟨custody.shape, custody.settled, custody.marked, fun v f flying queue => ?_,
    fun f driven => ?_⟩
  · have before := custody.transfers v f flying queue
    have apart : f ≠ e := by
      rintro rfl
      exact free v before
    rwa [Function.update_of_ne apart]
  · by_cases same : f = e
    · simp [same] at driven
    · rw [Function.update_of_ne same] at driven
      simpa [same] using custody.busy f driven

/-- The links and flags of a URB that is not pending are reset. -/
theorem reset (custody : m.Custody place nodes own) {u : U} (here : place u ≠ .queued) :
    ({ m.setState u (fun state => { state with
        completedLength := 0, zlpPending := false, queued := false }) with
      pendingNext := Function.update m.pendingNext u none }).Custody place nodes own := by
  have clear : (m.states u).queued = false := by
    have marked := custody.marked u
    simpa [here] using marked
  have set := custody.setState u (fun state => { state with
    completedLength := 0, zlpPending := false, queued := false }) ⟨rfl, rfl, clear.symm⟩
  exact ⟨Memory.Shape.resetLink set.shape here, set.settled, set.marked, set.transfers, set.busy⟩

/-- A held URB is appended to the pending queue of its endpoint. -/
theorem append (custody : m.Custody place nodes own) {u : U} {t : Id} {e : Endpoint}
    (here : place u = .held t) (queue : (m.states u).queue = some e) :
    (queueAppend e u m).Custody (Function.update place u .queued)
      (Function.update nodes e (nodes e ++ [u])) own := by
  have shape : (queueAppend e u m.raised).Shape (Function.update place u .queued)
      (Function.update nodes e (nodes e ++ [u])) :=
    custody.shape.append here queue rfl
  refine ⟨shape, fun v somewhere => ?_, fun v => ?_, fun v f flying => ?_, custody.busy⟩
  · by_cases same : v = u
    · subst same
      simpa [queueAppend, Settled] using custody.settled v (by simp [here])
    · rw [Function.update_of_ne same] at somewhere
      simpa [queueAppend, Settled, same] using custody.settled v somewhere
  · by_cases same : v = u
    · simp [same, queueAppend]
    · simpa [same, queueAppend] using custody.marked v
  · by_cases same : v = u
    · simp [same] at flying
    · rw [Function.update_of_ne same] at flying
      simpa [queueAppend, same] using custody.transfers v f flying

/-- A task takes the first pending URB of an endpoint. -/
theorem pop_cons (custody : m.Custody place nodes own) {e : Endpoint} {u : U} {rest : List U}
    (t : Id) (first : nodes e = u :: rest) :
    (queuePop e m).2 = some u ∧
      (queuePop e m).1.Custody (Function.update place u (.held t))
        (Function.update nodes e rest) own := by
  obtain ⟨popped, moved⟩ := Memory.Shape.pop_cons custody.shape t first
  have here := (custody.shape.queued e u (by simp [first])).1
  have head : m.pendingHead e = some u := by
    cases found : m.pendingHead e with
    | none => simp [queuePop, raised, found] at popped
    | some v => simpa [queuePop, raised, found] using popped
  have lifted : (queuePop e m.raised).1 = (queuePop e m).1.raised := by
    have head' : m.raised.pendingHead e = some u := head
    simp only [queuePop, head, head']
    rfl
  refine ⟨by simp [queuePop, head], lifted ▸ moved, fun v somewhere => ?_, fun v => ?_,
    fun v f flying => ?_, ?_⟩
  · by_cases same : v = u
    · subst same
      simpa [queuePop, head, Settled] using custody.settled v (by simp [here])
    · rw [Function.update_of_ne same] at somewhere
      simpa [queuePop, head, Settled, same] using custody.settled v somewhere
  · by_cases same : v = u
    · simp [same, queuePop, head]
    · simpa [same, queuePop, head] using custody.marked v
  · by_cases same : v = u
    · simp [same] at flying
    · rw [Function.update_of_ne same] at flying
      simpa [queuePop, head, same] using custody.transfers v f flying
  · simpa [queuePop, head] using custody.busy

/-- The private state of an unallocated URB is allocated. -/
theorem allocate (custody : m.Custody place nodes own) {u : U}
    (missing : (m.urbs u).hcpriv = false) :
    ((m.setState u fun _ => .zero).setUrb u fun urb => { urb with hcpriv := true }).Custody
      place nodes own := by
  have unsettled : ¬m.Settled u := by simp [Settled, missing]
  have here := custody.out unsettled
  have zeroed : m.Retains (m.setState u fun _ => .zero) :=
    .of_state rfl rfl fun settled => absurd settled unsettled
  have retains : m.Retains ((m.setState u fun _ => .zero).setUrb u fun urb =>
      { urb with hcpriv := true }) := by
    refine zeroed.trans (.of_urb rfl rfl (fun _ => ?_) ?_) <;> rfl
  refine ⟨Memory.Shape.allocate custody.shape missing,
    fun v somewhere => (retains.settled v (custody.settled v somewhere)).1, fun v => ?_,
    fun v e flying queue => ?_, custody.busy⟩
  · by_cases same : v = u
    · simp [same, here, UrbState.zero]
    · simpa [same] using custody.marked v
  · rw [(retains.settled v (custody.settled v (by simp [flying]))).2] at queue
    exact custody.transfers v e flying queue

/-- A URB gets its native pipe, and with it its queue. -/
theorem setPipe (custody : m.Custody place nodes own) {u : U} (unsettled : ¬m.Settled u)
    (allocated : (m.urbs u).hcpriv = true) {state : UrbState} (pipe : state.nativePipe ≠ none)
    (queued : state.queued = (m.states u).queued) (pipes : Endpoint → Option UsbPipe) :
    ({ m.setState u (fun _ => state) with nativePipes := pipes }).Custody place nodes own := by
  have here := custody.out unsettled
  have retains : m.Retains { m.setState u (fun _ => state) with nativePipes := pipes } :=
    .of_state rfl rfl fun settled => absurd settled unsettled
  refine ⟨Memory.Shape.setPipe custody.shape here allocated pipe pipes,
    fun v somewhere => (retains.settled v (custody.settled v somewhere)).1, fun v => ?_,
    fun v e flying queue => ?_, custody.busy⟩
  · by_cases same : v = u
    · subst same
      simpa [queued] using custody.marked v
    · simpa [same] using custody.marked v
  · rw [(retains.settled v (custody.settled v (by simp [flying]))).2] at queue
    exact custody.transfers v e flying queue

/-- Freeing moves nothing. -/
theorem freeUrb (custody : m.Custody place nodes own) (u : U) :
    (freeUrb u m).Custody place nodes own := by
  have dropped : (m.setUrb u fun urb =>
      { urb with refcount := (m.urbs u).refcount - 1 }).Custody place nodes own :=
    custody.setUrb u _ rfl id rfl
  simp only [Usb.freeUrb]
  split
  · exact dropped.history _ _
  · exact dropped

end Memory.Custody

/-- What other tasks hold and drive stays theirs. -/
structure Spares (t : Id) (place place' : U → Place Id) (own own' : Endpoint → Driver Id U) :
    Prop where
  /-- The URBs they hold. -/
  held : ∀ s, s ≠ t → ∀ u, place u = .held s → place' u = .held s
  /-- The endpoints their submissions drive. -/
  submitter : ∀ s, s ≠ t → ∀ e, own e = .submitter s → own' e = .submitter s
  /-- The endpoints their completions drive. -/
  completer : ∀ s, s ≠ t → ∀ e, own e = .completer s → own' e = .completer s

namespace Spares

variable {t : Id} {place place' : U → Place Id} {own own' : Endpoint → Driver Id U}

/-- Nothing changes. -/
theorem refl : Spares t place place own own :=
  ⟨fun _ _ _ => id, fun _ _ _ => id, fun _ _ _ => id⟩

variable [DecidableEq U]

/-- A URB that no other task holds changes its place. -/
theorem move (spares : Spares t place place own own') {u : U}
    (here : ∀ s, s ≠ t → place u ≠ .held s) (x : Place Id) :
    Spares t place (Function.update place u x) own own' := by
  refine ⟨fun s apart v held => ?_, spares.submitter, spares.completer⟩
  rwa [Function.update_of_ne]
  rintro rfl
  exact here s apart held

omit [DecidableEq U] in
/-- An endpoint that no other task drives changes its driver. -/
theorem drive {e : Endpoint} {driver : Driver Id U}
    (here : ∀ s, s ≠ t → own e ≠ .submitter s ∧ own e ≠ .completer s) :
    Spares t place place own (Function.update own e driver) := by
  refine ⟨fun _ _ _ => id, fun s apart f driven => ?_, fun s apart f driven => ?_⟩ <;>
    rwa [Function.update_of_ne] <;> rintro rfl
  · exact (here s apart).1 driven
  · exact (here s apart).2 driven

omit [DecidableEq U] in
/-- So does the endpoint of a URB, if the URB has one. -/
theorem handTo {queue : Option Endpoint} {driver : Driver Id U}
    (here : ∀ e, queue = some e → ∀ s, s ≠ t → own e ≠ .submitter s ∧ own e ≠ .completer s) :
    Spares t place place own (handTo own queue driver) := by
  cases queue with
  | none => exact .refl
  | some e => exact .drive (here e rfl)

end Spares

/-- A submission that drives its endpoint holds its URB. -/
theorem SubmitPc.holds_of_drives {pc : SubmitPc} (drives : pc.drives = true) :
    pc.holds = true := by
  cases pc <;> simp_all [SubmitPc.drives, SubmitPc.holds]

/-- A submission keeps agreeing when another task moves. -/
theorem SubmitPc.Owns.frame {pc : SubmitPc} {m m' : Memory U} {place place' : U → Place Id}
    {own own' : Endpoint → Driver Id U} {t s : Id} {u : U} (owns : pc.Owns m place own s u)
    (settled : ∀ v, place v ≠ .out → m.Settled v) (retains : m.Retains m')
    (spares : Spares t place place' own own') (apart : s ≠ t) :
    pc.Owns m' place' own' s u := by
  have queue : pc.holds = true → (m'.states u).queue = (m.states u).queue := fun holds =>
    (retains.settled u (settled u (by simp [owns.held holds]))).2
  refine ⟨fun here => retains.hcpriv u (owns.allocated here),
    fun here => (retains.settled u (owns.settled here)).1,
    fun here => spares.held s apart u (owns.held here), fun here => ?_, fun here e own => ?_⟩
  · rw [queue (by rw [here]; rfl)]
    exact owns.queues here
  · rw [queue (SubmitPc.holds_of_drives here)] at own
    exact spares.submitter s apart e (owns.drives here e own)

/-- A completion keeps agreeing when another task moves. -/
theorem CompletePc.Owns.frame {pc : CompletePc U} {m m' : Memory U} {place place' : U → Place Id}
    {own own' : Endpoint → Driver Id U} {t s : Id} {u : U} (owns : pc.Owns m place own s u)
    (settled : ∀ v, place v ≠ .out → m.Settled v) (retains : m.Retains m')
    (spares : Spares t place place' own own') (apart : s ≠ t) :
    pc.Owns m' place' own' s u := by
  obtain ⟨mine, queue⟩ := retains.settled u owns.settled
  refine ⟨mine, fun v holds => spares.held s apart v (owns.held v holds), fun v here => ?_,
    fun here e own => spares.completer s apart e (owns.drives here e (queue ▸ own))⟩
  obtain ⟨e, first, second⟩ := owns.hands v here
  have held := owns.held v (by rw [here]; rfl)
  exact ⟨e, queue.trans first, (retains.settled v (settled v (by simp [held]))).2.trans second⟩

section Steps

variable [DecidableEq Id] [DecidableEq U] {bus : Bus} {p : Tasks Id U}
variable {place place' : U → Place Id} {nodes nodes' : Endpoint → List U}
variable {own own' : Endpoint → Driver Id U} {t : Id} {u : U} {m' : Memory U}

omit [DecidableEq U] in
/-- The invariant after a move, given the moved task and what it did to the memory. -/
theorem Owned.moved {task' : Task U} (owned : Owned p place nodes own)
    (custody : m'.Custody place' nodes' own') (retains : p.shared.Retains m')
    (spares : Spares t place place' own own') (task : task'.Owns m' place' own' t) :
    Owned ⟨m', Function.update p.threads t task'⟩ place' nodes' own' := by
  refine ⟨custody, (Function.forall_update_iff p.threads fun s task =>
    task.Owns m' place' own' s).mpr ⟨task, fun s apart => ?_⟩⟩
  have owns := owned.tasks s
  have settled := owned.custody.settled
  exact ⟨owns.nested, fun v pc on => (owns.submits v pc on).frame settled retains spares apart,
    fun v pc on => (owns.completes v pc on).frame settled retains spares apart⟩

omit [DecidableEq U] in
/-- The invariant after a step of `usb_submit_urb`. -/
theorem Owned.inSubmit {pc : SubmitPc} {next : Next SubmitPc Int}
    (owned : Owned p place nodes own) (here : (p.threads t).submitting = some (u, pc))
    (custody : m'.Custody place' nodes' own') (retains : p.shared.Retains m')
    (spares : Spares t place place' own own')
    (mine : ∀ e, own e = .completer t → own' e = .completer t)
    (goes : ∀ pc', next = .goto pc' → pc'.Owns m' place' own' t u) :
    Owned ⟨m', Function.update p.threads t ((p.threads t).inSubmit u next)⟩
      place' nodes' own' := by
  have owns := owned.tasks t
  refine owned.moved custody retains spares ⟨fun _ => owns.nested (by simp [here]),
    fun v pc' on => ?_, fun v pc' on => ?_⟩
  · obtain ⟨rfl, after⟩ := Next.after_eq_some on
    exact goes pc' after
  · -- the completion it is nested in stands in a callback and holds nothing
    have completing : (p.threads t).completing = some (v, pc') := on
    have calling := owns.nested (by simp [here]) (by simp [completing])
    rw [Task.callbackOf, completing] at calling
    have before := owns.completes v pc' completing
    obtain ⟨settled, queue⟩ := retains.settled v before.settled
    refine ⟨settled, fun w holds => ?_, fun w handing => ?_,
      fun drives e own => mine e (before.drives drives e (queue ▸ own))⟩
    · cases pc' <;> simp_all [CompletePc.callbackOf, CompletePc.holds]
    · simp [handing, CompletePc.callbackOf] at calling

omit [DecidableEq U] in
/-- The invariant after a step of `lcompat_usb_urb_complete`. -/
theorem Owned.inComplete {pc : CompletePc U} {next : Next (CompletePc U) Unit}
    (owned : Owned p place nodes own) (free : (p.threads t).submitting = none)
    (here : (p.threads t).completing = some (u, pc))
    (custody : m'.Custody place' nodes' own') (retains : p.shared.Retains m')
    (spares : Spares t place place' own own')
    (goes : ∀ pc', next = .goto pc' → pc'.Owns m' place' own' t u) :
    Owned ⟨m', Function.update p.threads t ((p.threads t).inComplete u next)⟩
      place' nodes' own' := by
  refine owned.moved custody retains spares ⟨fun on => absurd free on, fun v pc' on => ?_,
    fun v pc' on => ?_⟩
  · have submitting : (p.threads t).submitting = some (v, pc') := on
    simp [free] at submitting
  · obtain ⟨rfl, after⟩ := Next.after_eq_some on
    exact goes pc' after

/-- Every step of `usb_submit_urb` keeps the invariant, if it marks a URB that is not marked. -/
theorem Owned.submitUrb {pc : SubmitPc} {inside : Bool} {env : Env}
    (owned : Owned p place nodes own) (here : (p.threads t).submitting = some (u, pc))
    (clear : pc = .submitted → (p.shared.urbs u).submitted = false) :
    ∃ place' nodes' own', Owned ⟨(submitUrb bus u inside env p.shared pc).1,
      Function.update p.threads t ((p.threads t).inSubmit u
        (submitUrb bus u inside env p.shared pc).2)⟩ place' nodes' own' := by
  have custody := owned.custody
  have owns := (owned.tasks t).submits u pc here
  have mine : ∀ s, s ≠ t → place u = .held t → place u ≠ .held s := by
    intro s apart held other
    exact apart (Place.held.inj (other.symm.trans held))
  cases pc with
  | check =>
    refine ⟨place, nodes, own, owned.inSubmit here custody (.of_eq rfl rfl) .refl (fun _ => id)
      fun pc' after => ?_⟩
    have goes : pc' = .state := by grind -ring -linarith [Usb.submitUrb]
    subst goes
    constructor <;> simp [SubmitPc.holds, SubmitPc.drives]
  | state =>
    have onward : ∀ m : Memory U, (m.urbs u).hcpriv = true → ∀ pc',
        (Next.goto .pipe : Next SubmitPc Int) = .goto pc' → pc'.Owns m place own t u := by
      rintro m allocated _ ⟨rfl⟩
      constructor <;> simp [allocated, SubmitPc.holds, SubmitPc.drives]
    simp only [Usb.submitUrb]
    split
    · rename_i found
      exact ⟨place, nodes, own, owned.inSubmit here custody (.of_eq rfl rfl) .refl (fun _ => id)
        (onward _ found)⟩
    · rename_i missing
      have missing : (p.shared.urbs u).hcpriv = false := by simpa using missing
      split
      · have unsettled : ¬p.shared.Settled u := by simp [Memory.Settled, missing]
        have zeroed : p.shared.Retains (p.shared.setState u fun _ => .zero) :=
          .of_state rfl rfl fun settled => absurd settled unsettled
        refine ⟨place, nodes, own, owned.inSubmit here (custody.allocate missing)
          (zeroed.trans (.of_urb rfl rfl (fun _ => ?_) ?_)) .refl (fun _ => id) (onward _ ?_)⟩
        · rfl
        · rfl
        · simp
      · exact ⟨place, nodes, own, owned.inSubmit here custody (.of_eq rfl rfl) .refl
          (fun _ => id) fun pc' after => by simp at after⟩
  | pipe =>
    have allocated := owns.allocated rfl
    have onward : ∀ m : Memory U, m.Settled u → ∀ pc',
        Next.goto .submitted = (.goto pc' : Next SubmitPc Int) → pc'.Owns m place own t u := by
      rintro m settled _ ⟨rfl⟩
      constructor <;> simp [settled, SubmitPc.holds, SubmitPc.drives]
    have refused : ∀ m : Memory U, ∀ pc',
        Next.ret (-ENOENT) = (.goto pc' : Next SubmitPc Int) → pc'.Owns m place own t u := by
      intro m pc' after
      simp at after
    simp only [Usb.submitUrb]
    split
    · exact ⟨place, nodes, own, owned.inSubmit here custody (.of_eq rfl rfl) .refl (fun _ => id)
        (refused _)⟩
    · rename_i dev _
      have found := getNativePipe_found bus dev (p.shared.urbs u).pipe u env p.shared
      rcases getNativePipe_cases bus dev (p.shared.urbs u).pipe u env p.shared with
        same | ⟨missing, typed, state, pipes, piped, changed, queued⟩
      · split <;> rename_i answer <;> rw [answer] at same found
        · exact ⟨place, nodes, own, owned.inSubmit here (same ▸ custody) (same ▸ .of_eq rfl rfl)
            .refl (fun _ => id) (onward _ ⟨same ▸ allocated, same ▸ found _ rfl⟩)⟩
        · exact ⟨place, nodes, own, owned.inSubmit here (same ▸ custody) (same ▸ .of_eq rfl rfl)
            .refl (fun _ => id) (refused _)⟩
      · have unsettled : ¬p.shared.Settled u := fun settled =>
          settled.2.elim (fun piped => piped missing) typed
        have set := custody.setPipe unsettled allocated piped queued pipes
        have retains : p.shared.Retains
            { p.shared.setState u (fun _ => state) with nativePipes := pipes } :=
          .of_state rfl rfl fun settled => absurd settled unsettled
        split <;> rename_i answer <;> rw [answer] at changed <;> subst changed
        · refine ⟨place, nodes, own, owned.inSubmit here set retains .refl (fun _ => id)
            (onward _ ⟨allocated, .inl ?_⟩)⟩
          simpa using piped
        · exact ⟨place, nodes, own, owned.inSubmit here set retains .refl (fun _ => id)
            (refused _)⟩
  | submitted =>
    have out := custody.shape.out (clear rfl)
    simp only [Usb.submitUrb]
    refine ⟨Function.update place u (.held t), nodes, own, owned.inSubmit here
      ((custody.move (by simp [out]) (by simp) ?_ ?_ ?_ (owns.settled rfl)).history _ _)
      (.of_urb rfl rfl ?_ ?_) (.move .refl (by simp [out]) _) (fun _ => id) ?_⟩
    · exact fun _ => rfl
    · rfl
    · rfl
    · exact id
    · rfl
    · rintro _ ⟨rfl⟩
      constructor <;> simp [SubmitPc.drives]
  | killed =>
    simp only [Usb.submitUrb]
    refine ⟨place, nodes, own, owned.inSubmit here (custody.setUrb u _ ?_ ?_ ?_)
      (.of_urb rfl rfl ?_ ?_) .refl (fun _ => id) ?_⟩
    · rfl
    · exact id
    · rfl
    · exact id
    · rfl
    · rintro _ ⟨rfl⟩
      constructor <;> simp [SubmitPc.drives, owns.held rfl]
  | reset =>
    have held := owns.held rfl
    simp only [Usb.submitUrb]
    refine ⟨place, nodes, own, owned.inSubmit here (custody.reset (by simp [held]))
      (.of_state rfl rfl fun _ => ⟨?_, ?_, ?_⟩) .refl (fun _ => id) ?_⟩
    · rfl
    · rfl
    · have marked := custody.marked u
      simp only [held, reduceCtorEq, iff_false, Bool.not_eq_true] at marked
      exact marked.symm
    · rintro _ ⟨rfl⟩
      constructor <;> simp [SubmitPc.drives, held]
  | ref =>
    simp only [Usb.submitUrb]
    refine ⟨place, nodes, own, owned.inSubmit here (custody.setUrb u _ ?_ ?_ ?_)
      (.of_urb rfl rfl ?_ ?_) .refl (fun _ => id) ?_⟩
    · rfl
    · exact id
    · rfl
    · exact id
    · rfl
    · rintro _ ⟨rfl⟩
      constructor <;> simp [SubmitPc.drives, owns.held rfl]
  | busy =>
    have held := owns.held rfl
    simp only [Usb.submitUrb]
    split
    · rename_i none
      refine ⟨place, nodes, own, owned.inSubmit here custody (.of_eq rfl rfl) .refl
        (fun _ => id) ?_⟩
      rintro _ ⟨rfl⟩
      constructor <;> simp [none, held]
    · rename_i e queue
      split
      · refine ⟨place, nodes, own, owned.inSubmit here custody (.of_eq rfl rfl) .refl
          (fun _ => id) ?_⟩
        rintro _ ⟨rfl⟩
        constructor <;> simp [SubmitPc.drives, queue, held]
      · -- the endpoint was idle, so nobody drives it
        rename_i idle
        have idle : p.shared.pipeBusy e = false := by simpa using idle
        have nobody : own e = .nobody := by
          by_contra driven
          simp [custody.busy e driven] at idle
        refine ⟨place, nodes, _, owned.inSubmit here (custody.claim idle (.submitter t))
          (.of_eq rfl rfl) (.drive (by simp [nobody])) (fun f driven => ?_) ?_⟩
        · rwa [Function.update_of_ne]
          rintro rfl
          simp [nobody] at driven
        · rintro _ ⟨rfl⟩
          constructor <;> simp [queue, held]
  | append =>
    have held := owns.held rfl
    simp only [Usb.submitUrb]
    split
    · rename_i none
      exact absurd none (owns.queues rfl)
    · rename_i e queue
      have marked : p.shared.Retains (queueAppend e u p.shared) := by
        refine ⟨fun _ => id, fun v settled => ?_⟩
        by_cases same : v = u
        · subst same
          simpa [queueAppend, Memory.Settled] using settled
        · simpa [queueAppend, Memory.Settled, same] using settled
      refine ⟨_, _, own, owned.inSubmit here (custody.append held queue) marked
        (.move .refl (fun s apart => mine s apart held) _) (fun _ => id) ?_⟩
      intro pc' after
      simp at after
  | native =>
    have held := owns.held rfl
    obtain ⟨state, alike, outcome⟩ := prepareAndSubmit_cases u env p.shared
    have queue : ((p.shared.setState u fun _ => state).states u).queue =
        (p.shared.states u).queue := by simpa using alike.queue
    have drives : ∀ e, (p.shared.states u).queue = some e → own e = .submitter t :=
      owns.drives rfl
    have kept : p.shared.Retains (p.shared.setState u fun _ => state) :=
      .of_state rfl rfl fun _ => alike
    have set := custody.setState u (fun _ => state) alike
    rcases outcome with ⟨accepted, piped⟩ | ⟨ret, negative, refused⟩
    · simp only [Usb.submitUrb, accepted]
      refine ⟨_, _, _, owned.inSubmit here (set.fly held ?_ fun e own' => ?_)
        (kept.trans (.of_eq rfl rfl)) (.move (.handTo fun e own' s apart => ?_)
          (fun s apart => mine s apart held) _) (fun e driven => ?_) ?_⟩
      · simpa [alike.pipe] using piped
      · simp [drives e (queue ▸ own')]
      · simp [drives e (queue ▸ own'), Ne.symm apart]
      · rwa [handTo_of_ne own _ fun own' => ?_]
        rw [drives e (queue ▸ own')] at driven
        simp at driven
      · intro pc' after
        simp at after
    · simp only [Usb.submitUrb, refused, if_pos negative]
      refine ⟨place, nodes, own, owned.inSubmit here set kept .refl (fun _ => id) ?_⟩
      rintro _ ⟨rfl⟩
      exact ⟨by simp, by simp, fun _ => held, by simp, fun _ e own' => drives e (queue ▸ own')⟩
  | idle ret =>
    have held := owns.held rfl
    simp only [Usb.submitUrb]
    split
    · refine ⟨place, nodes, own, owned.inSubmit here custody (.of_eq rfl rfl) .refl
        (fun _ => id) ?_⟩
      rintro _ ⟨rfl⟩
      constructor <;> simp [SubmitPc.drives, held]
    · rename_i e queue
      have drives := owns.drives rfl e queue
      refine ⟨place, nodes, _, owned.inSubmit here (custody.release (by simp [drives]))
        (.of_eq rfl rfl) (.drive fun s apart => ?_) (fun f driven => ?_) ?_⟩
      · simp [drives, Ne.symm apart]
      · rwa [Function.update_of_ne]
        rintro rfl
        simp [drives] at driven
      · rintro _ ⟨rfl⟩
        constructor <;> simp [SubmitPc.drives, held]
  | clear ret =>
    have held := owns.held rfl
    simp only [Usb.submitUrb]
    refine ⟨Function.update place u .out, nodes, own, owned.inSubmit here
      (custody.move (by simp [held]) (by simp) ?_ ?_ ?_ (custody.settled u (by simp [held])))
      (.of_urb rfl rfl ?_ ?_) (.move .refl (fun s apart => mine s apart held) _)
      (fun _ => id) ?_⟩
    · simp
    · rfl
    · rfl
    · exact id
    · rfl
    · rintro _ ⟨rfl⟩
      constructor <;> simp [SubmitPc.holds, SubmitPc.drives]
  | free ret =>
    simp only [Usb.submitUrb]
    refine ⟨place, nodes, own, owned.inSubmit here (custody.freeUrb u) (.freeUrb u) .refl
      (fun _ => id) ?_⟩
    intro pc' after
    simp at after

/-- Every step of `lcompat_usb_urb_complete` keeps the invariant. -/
theorem Owned.urbComplete {pc : CompletePc U} {env : Env} (owned : Owned p place nodes own)
    (free : (p.threads t).submitting = none) (here : (p.threads t).completing = some (u, pc)) :
    ∃ place' nodes' own', Owned ⟨(urbComplete bus u env p.shared pc).1,
      Function.update p.threads t ((p.threads t).inComplete u
        (urbComplete bus u env p.shared pc).2)⟩ place' nodes' own' := by
  have custody := owned.custody
  have owns := (owned.tasks t).completes u pc here
  have settled := owns.settled
  have mine : ∀ v, place v = .held t → ∀ s, s ≠ t → place v ≠ .held s := by
    intro v held s apart other
    exact apart (Place.held.inj (other.symm.trans held))
  -- a step that leaves everything where it is
  have quiet : ∀ {m' : Memory U} {next : Next (CompletePc U) Unit},
      m'.Custody place nodes own → p.shared.Retains m' →
      (∀ pc', next = .goto pc' → (∀ v, pc'.holds u = some v → pc.holds u = some v) ∧
        (∀ v, pc' ≠ .handOver v) ∧ (pc'.drives = true → pc.drives = true)) →
      ∃ place' nodes' own', Owned ⟨m', Function.update p.threads t
        ((p.threads t).inComplete u next)⟩ place' nodes' own' := by
    intro m' next custody' retains goes
    refine ⟨place, nodes, own, owned.inComplete free here custody' retains .refl
      fun pc' after => ?_⟩
    obtain ⟨holds, hands, drives⟩ := goes pc' after
    obtain ⟨settled', queue⟩ := retains.settled u settled
    exact ⟨settled', fun v held => owns.held v (holds v held), fun v hand => absurd hand (hands v),
      fun drives' e own' => owns.drives (drives drives') e (queue ▸ own')⟩
  -- a held URB of the endpoint that the completion drives goes into flight
  have launch : ∀ v state, place v = .held t → (p.shared.states v).Alike state →
      (p.shared.states v).nativePipe ≠ none →
      (∀ e, (p.shared.states v).queue = some e → own e = .completer t) →
      ∀ next : Next (CompletePc U) Unit, (∀ pc', next = .goto pc' → pc' = .free) →
      ∃ place' nodes' own', Owned ⟨(p.shared.setState v fun _ => state).setInFlight v (· + 1),
        Function.update p.threads t ((p.threads t).inComplete u next)⟩ place' nodes' own' := by
    intro v state held alike piped drives next goes
    have retains : p.shared.Retains ((p.shared.setState v fun _ => state).setInFlight v (· + 1)) :=
      .of_state rfl rfl fun _ => alike
    have set := custody.setState v (fun _ => state) alike
    have queue : ((p.shared.setState v fun _ => state).states v).queue =
        (p.shared.states v).queue := by simpa using alike.queue
    refine ⟨_, _, _, owned.inComplete free here (set.fly held ?_ fun e own' => ?_) retains
      (.move (.handTo fun e own' s apart => ?_) (mine v held) _) fun pc' after => ?_⟩
    · simpa [alike.pipe] using piped
    · simp [drives e (queue ▸ own')]
    · simp [drives e (queue ▸ own'), Ne.symm apart]
    · obtain rfl := goes pc' after
      exact ⟨(retains.settled u settled).1, by simp [CompletePc.holds], by simp,
        by simp [CompletePc.drives]⟩
  -- a held URB is no longer submitted
  have unmark : ∀ v, place v = .held t → ∀ pc', (∀ w, pc'.holds u ≠ some w) →
      (∀ w, pc' ≠ .handOver w) → (pc'.drives = true → pc.drives = true) →
      ∃ place' nodes' own', Owned ⟨p.shared.setUrb v fun urb => { urb with submitted := false },
        Function.update p.threads t ((p.threads t).inComplete u (.goto pc'))⟩
          place' nodes' own' := by
    intro v held pc' holds hands drives
    have retains : p.shared.Retains
        (p.shared.setUrb v fun urb => { urb with submitted := false }) :=
      .of_urb rfl rfl id rfl
    refine ⟨Function.update place v .out, nodes, own, owned.inComplete free here
      (custody.move (by simp [held]) (by simp) ?_ ?_ ?_ (custody.settled v (by simp [held])))
      retains (.move .refl (mine v held) _) ?_⟩
    · simp
    · rfl
    · rfl
    · rintro _ ⟨rfl⟩
      obtain ⟨settled', queue⟩ := retains.settled u settled
      exact ⟨settled', fun w hold => absurd hold (holds w), fun w hand => absurd hand (hands w),
        fun drives' e own' => owns.drives (drives drives') e (queue ▸ own')⟩
  -- the endpoint is given up
  have yield : ∀ e, (p.shared.states u).queue = some e → pc.drives = true → ∀ pc',
      (∀ w, pc'.holds u ≠ some w) → (∀ w, pc' ≠ .handOver w) → pc'.drives = false →
      ∃ place' nodes' own', Owned ⟨p.shared.setBusy e false,
        Function.update p.threads t ((p.threads t).inComplete u (.goto pc'))⟩
          place' nodes' own' := by
    intro e queue drives pc' holds hands stops
    have driven := owns.drives drives e queue
    refine ⟨place, nodes, _, owned.inComplete free here (custody.release (by simp [driven]))
      (.of_eq rfl rfl) (.drive fun s apart => ?_) ?_⟩
    · simp [driven, Ne.symm apart]
    · rintro _ ⟨rfl⟩
      exact ⟨settled, fun w hold => absurd hold (holds w), fun w hand => absurd hand (hands w),
        by simp [stops]⟩
  cases pc with
  | check status actual =>
    have submitted : (p.shared.urbs u).submitted = true :=
      custody.shape.submitted u (by simp [owns.held u rfl])
    obtain ⟨state, next, alike, goes, checked⟩ :=
      urbComplete_check_cases bus u env submitted status actual
    simp only [checked]
    refine quiet (custody.setState u (fun _ => state) alike) (.of_state rfl rfl fun _ => alike) ?_
    rintro _ ⟨rfl⟩
    rcases goes with ⟨_, rfl⟩ | ⟨_, _, rfl⟩ <;> simp [CompletePc.holds, CompletePc.drives]
  | zlp actual =>
    have held := owns.held u rfl
    obtain ⟨state, alike, outcome⟩ := submitNativeUrb_cases u 0 env p.shared
    rcases outcome with ⟨accepted, piped⟩ | ⟨ret, negative, refused⟩
    · -- the continuation is in flight again as a transfer of the same URB
      simp only [Usb.urbComplete, accepted]
      refine launch u state held alike piped (owns.drives rfl) _ fun pc' after => ?_
      simp at after
    · have twice : ∀ change : UrbState → UrbState,
          (p.shared.setState u fun _ => state).setState u change =
            p.shared.setState u fun _ => change state := fun change => by simp
      have alike' : (p.shared.states u).Alike { state with zlpPending := false } :=
        ⟨alike.queue, alike.pipe, alike.queued⟩
      simp only [Usb.urbComplete, refused, if_neg negative.ne, twice]
      refine quiet (custody.setState u _ alike') (.of_state rfl rfl fun _ => alike') ?_
      rintro _ ⟨rfl⟩
      simp [CompletePc.holds, CompletePc.drives]
  | copy mapped actual =>
    simp only [Usb.urbComplete]
    split
    · dsimp only
      refine quiet (custody.setUrb u _ ?_ ?_ ?_) (.of_urb rfl rfl ?_ ?_) ?_
      · rfl
      · exact id
      · rfl
      · exact id
      · rfl
      · rintro _ ⟨rfl⟩
        simp [CompletePc.holds, CompletePc.drives]
    · refine quiet custody (.of_eq rfl rfl) ?_
      rintro _ ⟨rfl⟩
      simp [CompletePc.holds, CompletePc.drives]
  | cas mapped actual =>
    have held := owns.held u rfl
    have submitted : (p.shared.urbs u).submitted = true :=
      custody.shape.submitted u (by simp [held])
    simp only [Usb.urbComplete, submitted, if_true]
    refine unmark u held _ ?_ ?_ ?_ <;> simp [CompletePc.holds, CompletePc.drives]
  | store mapped actual =>
    simp only [Usb.urbComplete]
    refine quiet (custody.setUrb u _ ?_ ?_ ?_) (.of_urb rfl rfl ?_ ?_) ?_
    · rfl
    · exact id
    · rfl
    · exact id
    · rfl
    · rintro _ ⟨rfl⟩
      split <;> simp [CompletePc.holds, CompletePc.drives]
  | killed =>
    simp only [Usb.urbComplete]
    refine quiet custody (.of_eq rfl rfl) ?_
    rintro _ ⟨rfl⟩
    split <;> simp [CompletePc.holds, CompletePc.drives]
  | enter | callback =>
    simp only [Usb.urbComplete]
    refine quiet custody (.of_eq rfl rfl) ?_
    rintro _ ⟨rfl⟩
    simp [CompletePc.holds, CompletePc.drives]
  | pop =>
    simp only [Usb.urbComplete]
    split
    · refine quiet custody (.of_eq rfl rfl) ?_
      rintro _ ⟨rfl⟩
      simp [CompletePc.holds, CompletePc.drives]
    · rename_i e queue
      cases first : nodes e with
      | nil =>
        have head : p.shared.pendingHead e = none :=
          (custody.shape.head_eq_none_iff e).mpr first
        have empty : queuePop e p.shared = (p.shared, none) := by simp [queuePop, head]
        simp only [empty]
        refine yield e queue rfl _ ?_ ?_ ?_ <;> simp [CompletePc.holds, CompletePc.drives]
      | cons v rest =>
        -- the task takes the first pending URB, which it will hand over on the same endpoint
        obtain ⟨popped, moved⟩ := custody.pop_cons t first
        obtain ⟨pending, queue'⟩ := custody.shape.queued e v (by simp [first])
        obtain ⟨_, _, _, states⟩ := queuePop_frame e p.shared
        have retains : p.shared.Retains (queuePop e p.shared).1 := .queuePop e
        have answer : queuePop e p.shared = ((queuePop e p.shared).1, some v) := by
          rw [← popped]
        rw [answer]
        refine ⟨_, _, own, owned.inComplete free here moved retains
          (.move .refl (by simp [pending]) _) ?_⟩
        rintro _ ⟨rfl⟩
        refine ⟨(retains.settled u settled).1, ?_, ?_, fun _ f own' => owns.drives rfl f ?_⟩
        · simp [CompletePc.holds]
        · rintro w ⟨rfl⟩
          exact ⟨e, (states u).1.trans queue, (states v).1.trans queue'⟩
        · rwa [← (states u).1]
  | handOver v =>
    obtain ⟨e, queue, queue'⟩ := owns.hands v rfl
    have held := owns.held v rfl
    obtain ⟨state, alike, outcome⟩ := prepareAndSubmit_cases v env p.shared
    rcases outcome with ⟨accepted, piped⟩ | ⟨ret, negative, refused⟩
    · simp only [Usb.urbComplete, accepted]
      refine launch v state held alike piped (fun f own' => ?_) _ ?_
      · obtain rfl : e = f := Option.some.inj (queue'.symm.trans own')
        exact owns.drives rfl e queue
      · rintro _ ⟨rfl⟩
        simp
    · simp only [Usb.urbComplete, refused, if_pos negative]
      refine quiet (custody.setState v (fun _ => state) alike) (.of_state rfl rfl fun _ => alike) ?_
      rintro _ ⟨rfl⟩
      simp [CompletePc.holds, CompletePc.drives]
  | nextStatus v ret =>
    simp only [Usb.urbComplete]
    refine quiet (custody.setUrb v _ ?_ ?_ ?_) (.of_urb rfl rfl ?_ ?_) ?_
    · rfl
    · exact id
    · rfl
    · exact id
    · rfl
    · rintro _ ⟨rfl⟩
      simp [CompletePc.holds, CompletePc.drives]
  | nextSubmitted v =>
    simp only [Usb.urbComplete]
    refine unmark v (owns.held v rfl) _ ?_ ?_ ?_ <;> simp [CompletePc.holds, CompletePc.drives]
  | nextIdle v =>
    simp only [Usb.urbComplete]
    split
    · refine quiet custody (.of_eq rfl rfl) ?_
      rintro _ ⟨rfl⟩
      simp [CompletePc.holds, CompletePc.drives]
    · rename_i e queue
      refine yield e queue rfl _ ?_ ?_ ?_ <;> simp [CompletePc.holds, CompletePc.drives]
  | nextKilled v =>
    simp only [Usb.urbComplete]
    refine quiet custody (.of_eq rfl rfl) ?_
    rintro _ ⟨rfl⟩
    split <;> simp [CompletePc.holds, CompletePc.drives]
  | nextEnter v | nextCallback v =>
    simp only [Usb.urbComplete]
    refine quiet custody (.of_eq rfl rfl) ?_
    rintro _ ⟨rfl⟩
    simp [CompletePc.holds, CompletePc.drives]
  | nextFree v =>
    simp only [Usb.urbComplete]
    refine quiet (custody.freeUrb v) (.freeUrb v) ?_
    rintro _ ⟨rfl⟩
    simp [CompletePc.holds, CompletePc.drives]
  | free =>
    simp only [Usb.urbComplete]
    refine quiet (custody.freeUrb u) (.freeUrb u) ?_
    intro pc' after
    simp at after

omit [DecidableEq U] in
/-- A step of a task that stays where it is in its submission and its completion. -/
theorem Owned.aside {task' : Task U} (owned : Owned p place nodes own)
    (custody : m'.Custody place nodes own) (retains : p.shared.Retains m')
    (submitting : task'.submitting = (p.threads t).submitting)
    (completing : task'.completing = (p.threads t).completing) :
    Owned ⟨m', Function.update p.threads t task'⟩ place nodes own := by
  have owns := owned.tasks t
  refine owned.moved custody retains .refl ⟨?_, fun v pc on => ?_, fun v pc on => ?_⟩
  · rw [submitting, completing, Task.callbackOf, completing]
    exact owns.nested
  · have before := owns.submits v pc (submitting ▸ on)
    have queue : pc.holds = true → (m'.states v).queue = (p.shared.states v).queue :=
      fun holds => (retains.settled v (owned.custody.settled v (by simp [before.held holds]))).2
    refine ⟨fun here => retains.hcpriv v (before.allocated here),
      fun here => (retains.settled v (before.settled here)).1, before.held, fun here => ?_,
      fun drives e own' => before.drives drives e ?_⟩
    · rw [queue (by rw [here]; rfl)]
      exact before.queues here
    · rwa [← queue (SubmitPc.holds_of_drives drives)]
  · have before := owns.completes v pc (completing ▸ on)
    obtain ⟨settled, queue⟩ := retains.settled v before.settled
    refine ⟨settled, before.held, fun w here => ?_,
      fun drives e own' => before.drives drives e (queue ▸ own')⟩
    obtain ⟨e, first, second⟩ := before.hands w here
    have held := before.held w (by rw [here]; rfl)
    have same := (retains.settled w (owned.custody.settled w (by simp [held]))).2
    exact ⟨e, queue.trans first, same.trans second⟩

/-- A native completion takes its URB out of flight, and drives its endpoint. -/
theorem Owned.deliver {status actual : Int} {data : List UInt8} (owned : Owned p place nodes own)
    (flying : 0 < p.shared.inFlight u) (outside : p.threads t = .outside) :
    ∃ place' own', Owned ⟨deliver u data p.shared, Function.update p.threads t
      ((p.threads t).inComplete u (.goto (.check status actual)))⟩ place' nodes own' := by
  have custody := owned.custody
  have here : place u = .flying := by
    by_contra grounded
    have none : p.shared.inFlight u = 0 := custody.shape.grounded u grounded
    omega
  have settled := custody.settled u (by simp [here])
  obtain ⟨urb, state, ⟨submitted, hcpriv, pipe, _⟩, alike, delivered⟩ :=
    deliver_cases u data p.shared
  have written : p.shared.Retains ((p.shared.setInFlight u (· - 1)).setState u fun _ => state) :=
    .of_state rfl rfl fun _ => alike
  have kept : p.shared.Retains (((p.shared.setInFlight u (· - 1)).setState u fun _ =>
      state).setUrb u fun _ => urb) := written.trans (.of_urb rfl rfl hcpriv.trans pipe)
  have landed := ((custody.land t here).setState u (fun _ => state) alike).setUrb u
    (fun _ => urb) submitted hcpriv.trans pipe
  rw [delivered]
  refine ⟨_, _, owned.moved landed kept (.move (.handTo fun e own' s _ => ?_) (by simp [here]) _)
    ⟨?_, ?_, ?_⟩⟩
  · simp [custody.transfers u e here own']
  · simp [Task.inComplete, outside, Task.outside]
  · simp [Task.inComplete, outside, Task.outside]
  · rintro v pc on
    obtain ⟨rfl, rfl⟩ : u = v ∧ CompletePc.check status actual = pc := by
      simpa [Task.inComplete] using on
    obtain ⟨settled', queue⟩ := kept.settled u settled
    refine ⟨settled', by simp [CompletePc.holds], by simp, fun _ e own' => ?_⟩
    rw [← queue, own', handTo_self]

/-- Every step that marks no URB twice keeps the invariant. -/
theorem Owned.step {q : Tasks Id U} {a : Id × Choice U} (owned : Owned p place nodes own)
    (clear : MarksClear p a) (stepped : (system Id U bus).step p a = some q) :
    ∃ place' nodes' own', Owned q place' nodes' own' := by
  have custody := owned.custody
  obtain ⟨m, task, executed, rfl⟩ := Pool.step_eq_some.mp stepped
  obtain ⟨t, choice⟩ := a
  cases exec_moved executed with
  | submitUrb u pc env here =>
    refine owned.submitUrb here ?_
    rintro rfl
    exact clear u here
  | killUrb u pc env free here =>
    refine ⟨place, nodes, own, ?_⟩
    cases pc with
    | store =>
      simp only [killUrb]
      refine owned.aside (custody.setUrb u _ ?_ ?_ ?_) (.of_urb rfl rfl ?_ ?_) rfl rfl
      · rfl
      · exact id
      · rfl
      · exact id
      · rfl
    | wait =>
      simp only [killUrb]
      split
      · exact owned.aside custody (.of_eq rfl rfl) rfl rfl
      · exact owned.aside (custody.history _ _) (.of_eq rfl rfl) rfl rfl
  | urbComplete u pc env free idle here => exact owned.urbComplete free here
  | deliver u status actual data flying outside =>
    obtain ⟨place', own', owned'⟩ := owned.deliver flying outside
    exact ⟨place', nodes, own', owned'⟩
  | kill u outside => exact ⟨place, nodes, own, owned.aside custody (.of_eq rfl rfl) rfl rfl⟩
  | submit u free calls =>
    refine ⟨place, nodes, own, owned.moved custody (.of_eq rfl rfl) .refl
      ⟨fun _ => calls, fun v pc on => ?_, (owned.tasks t).completes⟩⟩
    obtain ⟨rfl, rfl⟩ : u = v ∧ SubmitPc.check = pc := by simpa [Task.inSubmit] using on
    constructor <;> simp [SubmitPc.holds, SubmitPc.drives]
  | free u free calls =>
    exact ⟨place, nodes, own, owned.aside (custody.freeUrb u) (.freeUrb u) rfl rfl⟩

omit [DecidableEq Id] [DecidableEq U] in
/-- Fresh tasks hold nothing and drive nothing. -/
theorem Fresh.owned (fresh : Fresh p) :
    Owned p (fun _ => .out) (fun _ => []) fun _ => .nobody := by
  refine ⟨⟨⟨fun _ => ?_, fun _ => ?_, fun u _ => (fresh.history u).1, fun e => ?_, fun e u => ?_,
    fun u => ?_, fun u => ?_, fun u => ?_, fun e => ?_⟩, fun u => ?_, fun u => ?_, fun u => ?_,
    fun e => ?_⟩, fun t => ⟨?_, ?_, ?_⟩⟩
  · simp
  · simp
  · obtain ⟨head, tail⟩ := fresh.pending e
    simpa [Memory.raised, Memory.pending, head, tail] using
      LinkedQueue.repr_empty p.shared.pendingNext
  · simp
  all_goals simp [Memory.raised, fresh.states, fresh.outside, UrbState.zero, Task.outside]

/-- Every state of a run that marks no URB twice satisfies the invariant. -/
theorem owned_of_reach (reach : (system Id U bus).Reach MarksClear p) :
    ∃ place nodes own, Owned p place nodes own := by
  refine reach.invariant (fun p => ∃ place nodes own, Owned p place nodes own) ?_ ?_
  · exact fun p fresh => ⟨_, _, _, fresh.owned⟩
  · rintro p a q ⟨place, nodes, own, owned⟩ clear stepped
    exact owned.step clear stepped

/-- In every run that marks no URB as submitted twice, one URB of each endpoint is with the native
driver at a time, and no URB is pending twice or both pending and in flight. -/
theorem exclusive_of_marksClear (reach : (system Id U bus).Reach MarksClear p) : Exclusive p := by
  obtain ⟨place, nodes, own, owned⟩ := owned_of_reach reach
  exact owned.exclusive

end Steps

instance {Id U : Type} (p : Tasks Id U) (a : Id × Choice U) : Decidable (MarksClear p a) :=
  match here : (p.threads a.1).submitting with
  | some (u, .submitted) =>
    decidable_of_iff ((p.shared.urbs u).submitted = false) (by simp [MarksClear, here])
  | some (_, .check) | some (_, .state) | some (_, .pipe) | some (_, .killed) | some (_, .reset)
  | some (_, .ref) | some (_, .busy) | some (_, .append) | some (_, .native) | some (_, .idle _)
  | some (_, .clear _) | some (_, .free _) | none => .isTrue (by simp [MarksClear, here])

/-- The second URB of an endpoint is in flight once the first one has completed, and alone. -/
theorem queuedBehind_exclusive :
    ∃ p, (system (Fin 2) Bool boundBus).run (freshTasks boundUrb) queuedBehind = some p ∧
      p.shared.inFlight true = 1 ∧ Exclusive p := by
  have ran : ∃ p, (system (Fin 2) Bool boundBus).runWith MarksClear (freshTasks boundUrb)
      queuedBehind = some p ∧ p.shared.inFlight true = 1 := ⟨_, rfl, rfl⟩
  obtain ⟨p, executed, flying⟩ := ran
  have path := System.path_of_runWith executed
  exact ⟨p, (System.along_of_runWith executed).2, flying,
    exclusive_of_marksClear ⟨_, freshTasks_fresh rfl, path⟩⟩

/-- Two tasks submit the same URB: both find it not submitted; the first one sends it, the second
one sees the busy pipe and appends it. -/
def submittedTwice : List (Fin 2 × Choice Bool) :=
  (0, .submit false) :: (1, .submit false) :: go 1 1 ++ go 9 0 ++ go 8 1

/-- A URB that is in flight and pending. -/
theorem submittedTwice_not_exclusive :
    ¬∀ p, (system (Fin 2) Bool boundBus).Reachable p → Exclusive p := by
  intro always
  have ran : ∃ p, (system (Fin 2) Bool boundBus).run (freshTasks boundUrb) submittedTwice =
      some p ∧ p.shared.pendingHead (0, 0) = some false ∧ p.shared.inFlight false = 1 :=
    ⟨_, rfl, rfl, rfl⟩
  obtain ⟨p, executed, pending, flying⟩ := ran
  have fresh : (system (Fin 2) Bool boundBus).init (freshTasks boundUrb) := freshTasks_fresh rfl
  have reached := System.reachable_of_run fresh executed
  obtain ⟨waiting, repr, _, handed⟩ := (always p reached).pending (0, 0)
  have member : false ∈ waiting := by
    cases waiting with
    | nil =>
      have ended : p.shared.pendingHead (0, 0) = none := repr.chain
      simp [pending] at ended
    | cons u rest =>
      have first : p.shared.pendingHead (0, 0) = some u := repr.chain.1
      simp_all
  exact (handed false member).2 (.inl (by omega))

end Lcompat.Usb
