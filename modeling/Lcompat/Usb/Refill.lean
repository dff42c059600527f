import Lcompat.Usb.Exclusive
import Lcompat.Usb.Kill

/-!
# URBs that are filled again

`usb_fill_bulk_urb` gives a URB that is not submitted another device and another pipe value. The
native pipe and the pending queue that `usb_submit_urb` finds for it are kept in its private state,
and the next submissions take them from there without a look at the device and the pipe value. So a
URB must stay with the endpoint that it was first submitted to.
-/

namespace Lcompat.Usb

open Lcompat.Logic

/-- What `usb_fill_bulk_urb` writes. -/
structure Filling where
  /-- `dev`. -/
  dev : Option UsbDevice
  /-- `pipe`. -/
  pipe : BitVec 32
  /-- The bytes at `transfer_buffer`, or null. -/
  transferBuffer : Option (List UInt8)
  /-- `buffer_length`. -/
  bufferLength : Int
  /-- Whether `complete_fn` is set. -/
  complete : Bool

/-- `usb_fill_bulk_urb`. -/
def fillBulkUrb (filling : Filling) (urb : Urb) : Urb :=
  { urb with
    dev := filling.dev
    pipe := filling.pipe
    transferBuffer := filling.transferBuffer
    transferBufferLength := filling.bufferLength
    complete := filling.complete }

/-- What happens: a task takes a step, or a URB is filled. -/
inductive Refill (Id U : Type) where
  /-- A step of a task. -/
  | task (a : Id × Choice U)
  /-- `usb_fill_bulk_urb` for a URB. -/
  | fill (u : U) (filling : Filling)

/-- A native pipe leads to the endpoint of a native device that a pipe value denotes. -/
structure UsbPipe.Serves (native : UsbPipe) (nativeDev : Nat) (pipe : BitVec 32) : Prop where
  /-- The device. -/
  device : native.nativeDev = nativeDev
  /-- The endpoint address. -/
  address : native.address = pipeAddress pipe
  /-- The transfer type. -/
  xferType : native.xferType = pipeXferType pipe

variable {Id U : Type}

/-- The native pipe of a URB, if it has one, is that of its device and its pipe value. The default
pipe of a device is never kept in a private state. -/
def Memory.Named (m : Memory U) (u : U) : Prop :=
  ∀ native, (m.states u).nativePipe = some native → ∃ dev nativeDev,
    (m.urbs u).dev = some dev ∧ dev.native = some nativeDev ∧ pipeType (m.urbs u).pipe ≠ 0 ∧
      native.Serves nativeDev (m.urbs u).pipe

/-- A lookup of the native pipe of a URB comes to a native pipe of its device and its pipe value, if
it comes to one. -/
def Memory.Current (bus : Bus) (m : Memory U) (u : U) : Prop :=
  ∀ native dev nativeDev, (m.states u).nativePipe = some native →
    (m.urbs u).dev = some dev → dev.native = some nativeDev →
      (pipeType (m.urbs u).pipe = 0 → bus.defpipe nativeDev ≠ none) →
        pipeType (m.urbs u).pipe ≠ 0 ∧ native.Serves nativeDev (m.urbs u).pipe

/-- A task has a submitted URB in its hands: it puts it into a pending queue, hands it to
`usb_submit_xfer` or completes it. -/
def Task.Holds (task : Task U) (u : U) : Prop :=
  (∃ pc, task.submitting = some (u, pc) ∧ pc.holds = true) ∨
    ∃ v pc, task.completing = some (v, pc) ∧ pc.holds v = some u

/-- A submitted URB uses the native pipe and the pending queue of its endpoint. -/
structure Directed (bus : Bus) (p : Tasks Id U) : Prop where
  /-- A URB that is in the hands of a task is submitted. -/
  held : ∀ t u, (p.threads t).Holds u → (p.shared.urbs u).submitted = true
  /-- A URB that is with the native driver is submitted. -/
  flying : ∀ u, 0 < p.shared.inFlight u → (p.shared.urbs u).submitted = true
  /-- The native pipe is that of the device and the pipe value of the URB, and the queue is that of
  the endpoint which these denote, whose native pipe it is. -/
  endpoint : ∀ u native, (p.shared.urbs u).submitted = true →
    (p.shared.states u).nativePipe = some native → ∃ dev nativeDev,
      (p.shared.urbs u).dev = some dev ∧ dev.native = some nativeDev ∧
      pipeType (p.shared.urbs u).pipe ≠ 0 ∧ native.Serves nativeDev (p.shared.urbs u).pipe ∧
      (p.shared.states u).queue = findWrapperForPipe bus nativeDev (p.shared.urbs u).pipe ∧
      ∀ e, (p.shared.states u).queue = some e → p.shared.nativePipes e = some native

/-- What is kept about native pipes agrees with the endpoints. -/
structure Memory.Kept (bus : Bus) (m : Memory U) : Prop where
  /-- The native pipes of the endpoints lead there. -/
  table : ∀ e native, m.nativePipes e = some native → ∃ nativeDev pipe,
    native.Serves nativeDev pipe ∧ findWrapperForPipe bus nativeDev pipe = some e
  /-- The queue of a URB is that of the endpoint its native pipe leads to. -/
  states : ∀ u native, (m.states u).nativePipe = some native → ∃ nativeDev pipe,
    native.Serves nativeDev pipe ∧
      (m.states u).queue = findWrapperForPipe bus nativeDev pipe ∧
      ∀ e, (m.states u).queue = some e → m.nativePipes e = some native

section Endpoints

variable {bus : Bus} {nativeDev nativeDev' : Nat} {pipe pipe' : BitVec 32}

/-- The endpoint that is found depends on the address and the type only. -/
theorem findWrapperForPipe_congr (address : pipeAddress pipe = pipeAddress pipe')
    (xferType : pipeXferType pipe = pipeXferType pipe') :
    findWrapperForPipe bus nativeDev pipe = findWrapperForPipe bus nativeDev pipe' := by
  have index : ∀ wrapper, findWrapperEpIndex wrapper pipe = findWrapperEpIndex wrapper pipe' := by
    intro wrapper
    unfold findWrapperEpIndex
    rw [address, xferType]
  unfold findWrapperForPipe
  generalize 0 = i
  induction bus.wrappers generalizing i with
  | nil => rfl
  | cons wrapper rest ih =>
    unfold findWrapperFrom
    rw [index wrapper, ih]

/-- What is found is an endpoint of the device with the address and the type. -/
theorem findWrapperFrom_eq_some {wrappers : List Wrapper} {i : Nat} {e : Endpoint}
    (found : findWrapperFrom nativeDev pipe i wrappers = some e) :
    i ≤ e.1 ∧ ∃ wrapper epd, wrappers[e.1 - i]? = some wrapper ∧ wrapper.nativeDev = nativeDev ∧
      wrapper.endpoints[e.2]? = some epd ∧ epd.bEndpointAddress = pipeAddress pipe ∧
      epd.bmAttributes &&& 3 = pipeXferType pipe := by
  induction wrappers generalizing i with
  | nil => cases found
  | cons wrapper rest ih =>
    have later : findWrapperFrom nativeDev pipe (i + 1) rest = some e →
        i ≤ e.1 ∧ ∃ wrapper' epd, (wrapper :: rest)[e.1 - i]? = some wrapper' ∧
          wrapper'.nativeDev = nativeDev ∧ wrapper'.endpoints[e.2]? = some epd ∧
          epd.bEndpointAddress = pipeAddress pipe ∧ epd.bmAttributes &&& 3 = pipeXferType pipe := by
      intro found
      obtain ⟨least, wrapper', epd, here, others⟩ := ih found
      have next : e.1 - i = e.1 - (i + 1) + 1 := by omega
      refine ⟨by omega, wrapper', epd, ?_, others⟩
      rw [next, List.getElem?_cons_succ]
      exact here
    unfold findWrapperFrom at found
    split at found
    · rename_i mine
      split at found
      · rename_i epIndex at_
        obtain rfl := Option.some.inj found
        obtain ⟨inside, matched, -⟩ := List.findIdx?_eq_some_iff_getElem.mp at_
        simp only [Bool.and_eq_true, beq_iff_eq] at matched
        refine ⟨Nat.le_refl i, wrapper, wrapper.endpoints[epIndex], ?_, mine.2, ?_, matched⟩
        · rw [Nat.sub_self]
          rfl
        · exact List.getElem?_eq_getElem inside
      · exact later found
    · exact later found

/-- Two devices and pipe values for which one endpoint is found agree. -/
theorem findWrapperForPipe_inj {e : Endpoint}
    (found : findWrapperForPipe bus nativeDev pipe = some e)
    (found' : findWrapperForPipe bus nativeDev' pipe' = some e) :
    nativeDev = nativeDev' ∧ pipeAddress pipe = pipeAddress pipe' ∧
      pipeXferType pipe = pipeXferType pipe' := by
  obtain ⟨-, wrapper, epd, first, device, second, address, xferType⟩ :=
    findWrapperFrom_eq_some found
  obtain ⟨-, wrapper', epd', first', device', second', address', xferType'⟩ :=
    findWrapperFrom_eq_some found'
  obtain rfl := Option.some.inj (first.symm.trans first')
  obtain rfl := Option.some.inj (second.symm.trans second')
  exact ⟨device.symm.trans device', address.symm.trans address', xferType.symm.trans xferType'⟩

/-- A native pipe leads to one endpoint. -/
theorem UsbPipe.Serves.find_eq {native : UsbPipe} (serves : native.Serves nativeDev pipe)
    (serves' : native.Serves nativeDev' pipe') :
    findWrapperForPipe bus nativeDev pipe = findWrapperForPipe bus nativeDev' pipe' := by
  have same : nativeDev = nativeDev' := serves.device.symm.trans serves'.device
  rw [same]
  exact findWrapperForPipe_congr (serves.address.symm.trans serves'.address)
    (serves.xferType.symm.trans serves'.xferType)

/-- A native pipe of an endpoint that is found leads there. -/
theorem Memory.Kept.serves {m : Memory U} (kept : m.Kept bus) {e : Endpoint} {native : UsbPipe}
    (found : findWrapperForPipe bus nativeDev pipe = some e)
    (piped : m.nativePipes e = some native) : native.Serves nativeDev pipe := by
  obtain ⟨nativeDev', pipe', serves, found'⟩ := kept.table e native piped
  obtain ⟨device, address, xferType⟩ := findWrapperForPipe_inj found' found
  exact ⟨serves.device.trans device, serves.address.trans address,
    serves.xferType.trans xferType⟩

/-- A native pipe that is allocated leads to its endpoint. -/
theorem allocPipe_serves {env : Env} {native : UsbPipe}
    (made : allocPipe nativeDev pipe env = some native) : native.Serves nativeDev pipe := by
  obtain ⟨maxpacket, -, rfl⟩ := Option.map_eq_some_iff.mp made
  exact ⟨rfl, rfl, rfl⟩

end Endpoints

/-- What steps do with what is kept about native pipes, and with the marks of URBs. -/
structure Memory.Upholds (bus : Bus) (m m' : Memory U) : Prop where
  /-- What is kept about native pipes still agrees with the endpoints. -/
  kept : m.Kept bus → m'.Kept bus
  /-- The native pipe of a URB is still that of its device and its pipe value. -/
  named : ∀ u, m.Named u → m'.Named u
  /-- A lookup still comes to such a native pipe. -/
  current : ∀ u, m.Current bus u → m'.Current bus u
  /-- A URB keeps its native pipe. -/
  piped : ∀ u, (m.states u).nativePipe ≠ none → (m'.states u).nativePipe ≠ none

/-- Nothing about native pipes changes. -/
structure Memory.SamePipes (m m' : Memory U) : Prop where
  /-- The devices and the pipe values. -/
  urbs : ∀ u, (m'.urbs u).dev = (m.urbs u).dev ∧ (m'.urbs u).pipe = (m.urbs u).pipe
  /-- The native pipes and the queues of the URBs. -/
  states : ∀ u, (m'.states u).nativePipe = (m.states u).nativePipe ∧
    (m'.states u).queue = (m.states u).queue
  /-- The native pipes of the endpoints. -/
  table : m'.nativePipes = m.nativePipes

namespace Memory

variable {m m' m'' : Memory U} {bus : Bus}

/-- A native pipe that is the right one is found. -/
theorem Named.current {u : U} (named : m.Named u) : m.Current bus u := by
  intro native dev nativeDev piped here attached _
  obtain ⟨dev', nativeDev', here', attached', other, serves⟩ := named native piped
  obtain rfl := Option.some.inj (here.symm.trans here')
  obtain rfl := Option.some.inj (attached.symm.trans attached')
  exact ⟨other, serves⟩

/-- Where nothing about native pipes changes, all of it is upheld. -/
theorem SamePipes.upholds (same : m.SamePipes m') (bus : Bus) : m.Upholds bus m' where
  kept kept := by
    refine ⟨fun e native piped => ?_, fun u native piped => ?_⟩
    · rw [same.table] at piped
      exact kept.table e native piped
    · rw [(same.states u).1] at piped
      rw [(same.states u).2, same.table]
      exact kept.states u native piped
  named u named native piped := by
    rw [(same.states u).1] at piped
    rw [(same.urbs u).1, (same.urbs u).2]
    exact named native piped
  current u current native dev nativeDev piped := by
    rw [(same.states u).1] at piped
    rw [(same.urbs u).1, (same.urbs u).2]
    exact current native dev nativeDev piped
  piped u piped := by
    rw [(same.states u).1]
    exact piped

/-- Steps that uphold all of it compose. -/
theorem Upholds.trans (first : m.Upholds bus m') (second : m'.Upholds bus m'') :
    m.Upholds bus m'' where
  kept := second.kept ∘ first.kept
  named u := second.named u ∘ first.named u
  current u := second.current u ∘ first.current u
  piped u := second.piped u ∘ first.piped u

namespace SamePipes

/-- Nothing changes. -/
theorem refl (m : Memory U) : m.SamePipes m :=
  ⟨fun _ => ⟨rfl, rfl⟩, fun _ => ⟨rfl, rfl⟩, rfl⟩

/-- Such changes compose. -/
theorem trans (first : m.SamePipes m') (second : m'.SamePipes m'') : m.SamePipes m'' where
  urbs u := ⟨(second.urbs u).1.trans (first.urbs u).1, (second.urbs u).2.trans (first.urbs u).2⟩
  states u :=
    ⟨(second.states u).1.trans (first.states u).1, (second.states u).2.trans (first.states u).2⟩
  table := second.table.trans first.table

/-- Changes of other things. -/
theorem of_eq (urbs : m'.urbs = m.urbs) (states : m'.states = m.states)
    (table : m'.nativePipes = m.nativePipes) : m.SamePipes m' := by
  refine ⟨fun u => ?_, fun u => ?_, table⟩
  · rw [urbs]
    exact ⟨rfl, rfl⟩
  · rw [states]
    exact ⟨rfl, rfl⟩

variable [DecidableEq U]

/-- A change of a URB that keeps its device and its pipe value. -/
theorem setUrb (m : Memory U) (u : U) {change : Urb → Urb}
    (dev : (change (m.urbs u)).dev = (m.urbs u).dev)
    (pipe : (change (m.urbs u)).pipe = (m.urbs u).pipe) : m.SamePipes (m.setUrb u change) := by
  refine ⟨fun v => ?_, fun _ => ⟨rfl, rfl⟩, rfl⟩
  by_cases same : v = u
  · subst same
    simpa using ⟨dev, pipe⟩
  · simp [same]

/-- A change of a private state that keeps its native pipe and its queue. -/
theorem setState (m : Memory U) (u : U) {change : UrbState → UrbState}
    (pipe : (change (m.states u)).nativePipe = (m.states u).nativePipe)
    (queue : (change (m.states u)).queue = (m.states u).queue) :
    m.SamePipes (m.setState u change) := by
  refine ⟨fun _ => ⟨rfl, rfl⟩, fun v => ?_, rfl⟩
  by_cases same : v = u
  · subst same
    simpa using ⟨pipe, queue⟩
  · simp [same]

/-- Freeing. -/
theorem freeUrb (m : Memory U) (u : U) : m.SamePipes (freeUrb u m) := by
  have dropped : m.SamePipes (m.setUrb u fun urb =>
      { urb with refcount := (m.urbs u).refcount - 1 }) := setUrb m u rfl rfl
  simp only [Usb.freeUrb]
  split
  · exact dropped.trans (.of_eq rfl rfl rfl)
  · exact dropped

/-- Appending. -/
theorem queueAppend (m : Memory U) (e : Endpoint) (u : U) :
    m.SamePipes (queueAppend e u m) := by
  have marked : m.SamePipes (m.setState u fun state => { state with queued := true }) :=
    setState m u rfl rfl
  exact marked.trans (.of_eq rfl rfl rfl)

/-- Popping. -/
theorem queuePop (m : Memory U) (e : Endpoint) : m.SamePipes (queuePop e m).1 := by
  unfold Usb.queuePop
  split
  · exact refl m
  · have popped : m.SamePipes (m.setPending e (m.pending e).pop.1) := of_eq rfl rfl rfl
    dsimp only
    refine popped.trans (setState _ _ ?_ ?_) <;> rfl

/-- A native submission. -/
theorem submitNativeUrb (m : Memory U) (u : U) (len : Int) (env : Env) :
    m.SamePipes (submitNativeUrb u len env m).1 := by
  obtain ⟨state, alike, ⟨same, -⟩ | ⟨ret, -, same⟩⟩ := submitNativeUrb_cases u len env m
  · rw [same]
    refine (@setState _ _ m u (fun _ => state) alike.pipe alike.queue).trans ?_
    refine of_eq ?_ ?_ ?_ <;> rfl
  · rw [same]
    exact @setState _ _ m u (fun _ => state) alike.pipe alike.queue

/-- A native submission of the data. -/
theorem prepareAndSubmit (m : Memory U) (u : U) (env : Env) :
    m.SamePipes (prepareAndSubmit u env m).1 := by
  obtain ⟨state, alike, ⟨same, -⟩ | ⟨ret, -, same⟩⟩ := prepareAndSubmit_cases u env m
  · rw [same]
    refine (@setState _ _ m u (fun _ => state) alike.pipe alike.queue).trans ?_
    refine of_eq ?_ ?_ ?_ <;> rfl
  · rw [same]
    exact @setState _ _ m u (fun _ => state) alike.pipe alike.queue

/-- What a transfer received. -/
theorem deliver (m : Memory U) (u : U) (data : List UInt8) : m.SamePipes (deliver u data m) := by
  have landed : m.SamePipes (m.setInFlight u (· - 1)) := of_eq rfl rfl rfl
  unfold Usb.deliver
  dsimp only
  split
  · split
    · refine landed.trans (setState _ u ?_ ?_) <;> rfl
    · refine landed.trans (setUrb _ u ?_ ?_) <;> rfl
  · exact landed

/-- Every step of `lcompat_usb_urb_complete`. -/
theorem urbComplete (m : Memory U) (u : U) (env : Env) (pc : CompletePc U) :
    m.SamePipes (urbComplete bus u env m pc).1 := by
  cases pc with
  | check status actual =>
    simp only [Usb.urbComplete]
    repeat' split
    all_goals dsimp only
    all_goals first
      | exact refl m
      | refine setState m u ?_ ?_ <;> rfl
  | zlp actual =>
    have sent := submitNativeUrb m u 0 env
    simp only [Usb.urbComplete]
    split
    · exact sent
    · dsimp only
      refine sent.trans (setState _ u ?_ ?_) <;> rfl
  | copy mapped actual =>
    simp only [Usb.urbComplete]
    split
    · dsimp only
      refine setUrb m u ?_ ?_ <;> rfl
    · exact refl m
  | cas mapped actual =>
    simp only [Usb.urbComplete]
    split
    · dsimp only
      refine setUrb m u ?_ ?_ <;> rfl
    · exact refl m
  | store mapped actual =>
    simp only [Usb.urbComplete]
    refine setUrb m u ?_ ?_ <;> rfl
  | pop =>
    simp only [Usb.urbComplete]
    split
    · exact refl m
    · rename_i e _
      have popped := queuePop m e
      split <;> rename_i answer <;> rw [answer] at popped
      · exact popped.trans (.of_eq rfl rfl rfl)
      · exact popped
  | handOver next => exact prepareAndSubmit m next env
  | nextStatus next ret =>
    simp only [Usb.urbComplete]
    refine setUrb m next ?_ ?_ <;> rfl
  | nextSubmitted next =>
    simp only [Usb.urbComplete]
    refine setUrb m next ?_ ?_ <;> rfl
  | nextIdle next =>
    simp only [Usb.urbComplete]
    split
    · exact refl m
    · exact of_eq rfl rfl rfl
  | nextFree next => exact freeUrb m next
  | free => exact freeUrb m u
  | killed | enter | callback | nextKilled next | nextEnter next | nextCallback next =>
    exact refl m

/-- Every step of `usb_kill_urb`. -/
theorem killUrb (m : Memory U) (u : U) (pc : KillPc) : m.SamePipes (killUrb u m pc).1 := by
  cases pc with
  | store =>
    simp only [Usb.killUrb]
    refine setUrb m u ?_ ?_ <;> rfl
  | wait =>
    simp only [Usb.killUrb]
    split
    · exact refl m
    · exact of_eq rfl rfl rfl

/-- A step of `usb_submit_urb`, unless it allocates the private state or looks for the native
pipe. -/
theorem submitUrb (m : Memory U) (u : U) (inside : Bool) (env : Env) {pc : SubmitPc}
    (state : pc ≠ .state) (pipe : pc ≠ .pipe) :
    m.SamePipes (submitUrb bus u inside env m pc).1 := by
  cases pc with
  | check => exact refl m
  | state => exact absurd rfl state
  | pipe => exact absurd rfl pipe
  | submitted =>
    have marked : m.SamePipes (m.setUrb u fun urb =>
        { urb with status := -EINPROGRESS, actualLength := 0, submitted := true }) :=
      setUrb m u rfl rfl
    exact marked.trans (.of_eq rfl rfl rfl)
  | killed =>
    simp only [Usb.submitUrb]
    refine setUrb m u ?_ ?_ <;> rfl
  | reset =>
    have cleared : m.SamePipes (m.setState u fun state =>
        { state with completedLength := 0, zlpPending := false, queued := false }) :=
      setState m u rfl rfl
    exact cleared.trans (.of_eq rfl rfl rfl)
  | ref =>
    simp only [Usb.submitUrb]
    refine setUrb m u ?_ ?_ <;> rfl
  | busy =>
    simp only [Usb.submitUrb]
    split
    · exact refl m
    · split
      · exact refl m
      · exact of_eq rfl rfl rfl
  | append =>
    simp only [Usb.submitUrb]
    split
    · exact refl m
    · exact queueAppend m _ u
  | native => exact prepareAndSubmit m u env
  | idle ret =>
    simp only [Usb.submitUrb]
    split
    · exact refl m
    · exact of_eq rfl rfl rfl
  | clear ret =>
    simp only [Usb.submitUrb]
    refine setUrb m u ?_ ?_ <;> rfl
  | free ret => exact freeUrb m u

end SamePipes

end Memory

section Lookup

variable {bus : Bus} {m : Memory U}

variable [DecidableEq U]

/-- A private state gets a native pipe that leads to an endpoint, and the queue of that. -/
theorem Memory.Kept.setState (kept : m.Kept bus) (u : U) {state : UrbState} {native : UsbPipe}
    {nativeDev : Nat} {pipe : BitVec 32} (piped : state.nativePipe = some native)
    (serves : native.Serves nativeDev pipe)
    (queue : state.queue = findWrapperForPipe bus nativeDev pipe)
    (table : ∀ e, state.queue = some e → m.nativePipes e = some native) :
    (m.setState u fun _ => state).Kept bus := by
  refine ⟨kept.table, fun v other there => ?_⟩
  by_cases same : v = u
  · subst same
    simp only [Memory.setState, Function.update_self] at there ⊢
    obtain rfl := Option.some.inj (piped.symm.trans there)
    exact ⟨nativeDev, pipe, serves, queue, table⟩
  · simp only [Memory.setState, Function.update_of_ne same] at there ⊢
    exact kept.states v other there

omit [DecidableEq U] in
/-- An endpoint gets a native pipe that leads to it. -/
theorem Memory.Kept.setPipe (kept : m.Kept bus) {e : Endpoint} {native : UsbPipe}
    {nativeDev : Nat} {pipe : BitVec 32} (empty : m.nativePipes e = none)
    (serves : native.Serves nativeDev pipe)
    (found : findWrapperForPipe bus nativeDev pipe = some e) :
    ({ m with nativePipes := Function.update m.nativePipes e (some native) }).Kept bus := by
  refine ⟨fun f other there => ?_, fun v other there => ?_⟩
  · dsimp only at there
    by_cases same : f = e
    · subst same
      rw [Function.update_self] at there
      obtain rfl := Option.some.inj there
      exact ⟨nativeDev, pipe, serves, found⟩
    · rw [Function.update_of_ne same] at there
      exact kept.table f other there
  · obtain ⟨nativeDev', pipe', serves', queue, table⟩ := kept.states v other there
    refine ⟨nativeDev', pipe', serves', queue, fun f here => ?_⟩
    have apart : f ≠ e := by
      intro same
      have filled := table f here
      rw [same, empty] at filled
      cases filled
    dsimp only
    rw [Function.update_of_ne apart]
    exact table f here

/-- What a lookup of the native pipe of a URB does: it keeps what the URB has, or gives it a native
pipe of the device and the pipe value. -/
theorem getNativePipe_spec (kept : m.Kept bus) (dev : UsbDevice) (pipe : BitVec 32) (u : U)
    (env : Env) :
    let answer := getNativePipe bus dev pipe u env m
    answer.1.Kept bus ∧ answer.1.urbs = m.urbs ∧ (∀ v, v ≠ u → answer.1.states v = m.states v) ∧
      (answer.1 = m ∨ (m.states u).nativePipe = none ∧ ∃ native nativeDev,
        (answer.1.states u).nativePipe = some native ∧ dev.native = some nativeDev ∧
          pipeType pipe ≠ 0 ∧ native.Serves nativeDev pipe) ∧
      (answer.2 ≠ none → ∃ nativeDev, dev.native = some nativeDev ∧
        (pipeType pipe = 0 → bus.defpipe nativeDev ≠ none)) := by
  unfold getNativePipe
  cases attached : dev.native with
  | none => exact ⟨kept, rfl, fun _ _ => rfl, .inl rfl, fun found => absurd rfl found⟩
  | some nativeDev =>
    dsimp only
    by_cases default_ : pipeType pipe = 0
    · rw [if_pos default_]
      exact ⟨kept, rfl, fun _ _ => rfl, .inl rfl, fun found => ⟨nativeDev, rfl, fun _ => found⟩⟩
    · rw [if_neg default_]
      have attached' : ∀ answer : Option UsbPipe, answer ≠ none → ∃ nativeDev',
          some nativeDev = some nativeDev' ∧
            (pipeType pipe = 0 → bus.defpipe nativeDev' ≠ none) :=
        fun _ _ => ⟨nativeDev, rfl, fun zero => absurd zero default_⟩
      have others : ∀ (state : UrbState) v, v ≠ u →
          (m.setState u fun _ => state).states v = m.states v :=
        fun state v apart => Function.update_of_ne apart ..
      have mine : ∀ state : UrbState, (m.setState u fun _ => state).states u = state :=
        fun state => Function.update_self ..
      cases piped : (m.states u).nativePipe with
      | some native => exact ⟨kept, rfl, fun _ _ => rfl, .inl rfl, attached' _⟩
      | none =>
        dsimp only
        cases found : findWrapperForPipe bus nativeDev pipe with
        | some e =>
          dsimp only
          cases there : m.nativePipes e with
          | some native =>
            have serves := kept.serves found there
            dsimp only
            refine ⟨kept.setState u rfl serves found.symm ?_, rfl, others _,
              .inr ⟨rfl, native, nativeDev, ?_, rfl, default_, serves⟩, attached' _⟩
            · intro f here
              obtain rfl := Option.some.inj here
              exact there
            · exact congrArg UrbState.nativePipe (mine _)
          | none =>
            dsimp only
            cases made : allocPipe nativeDev pipe env with
            | none => exact ⟨kept, rfl, fun _ _ => rfl, .inl rfl, attached' _⟩
            | some native =>
              have serves := allocPipe_serves made
              refine ⟨(kept.setPipe there serves found).setState u rfl serves found.symm ?_, rfl,
                others _, .inr ⟨rfl, native, nativeDev, ?_, rfl, default_, serves⟩,
                attached' _⟩
              · intro f here
                obtain rfl := Option.some.inj here
                exact Function.update_self ..
              · exact congrArg UrbState.nativePipe (mine _)
        | none =>
          dsimp only
          cases made : allocPipe nativeDev pipe env with
          | none => exact ⟨kept, rfl, fun _ _ => rfl, .inl rfl, attached' _⟩
          | some native =>
            have serves := allocPipe_serves made
            refine ⟨kept.setState u rfl serves found.symm ?_, rfl, others _,
              .inr ⟨rfl, native, nativeDev, ?_, rfl, default_, serves⟩, attached' _⟩
            · rintro f here
              cases here
            · exact congrArg UrbState.nativePipe (mine _)

end Lookup

section Steps

variable [DecidableEq U] {bus : Bus} {m : Memory U} {u : U} {inside : Bool} {env : Env}
  {pc : SubmitPc}

/-- A step of `usb_submit_urb` but for one sets `submitted` of no URB. -/
theorem submitUrb_unmarked (other : pc ≠ .submitted) {v : U}
    (submitted : ((submitUrb bus u inside env m pc).1.urbs v).submitted = true) :
    (m.urbs v).submitted = true := by
  have data : ∀ change : Urb → Urb,
      ((change (m.urbs u)).submitted = true → (m.urbs u).submitted = true) →
      ((m.setUrb u change).urbs v).submitted = true → (m.urbs v).submitted = true := by
    intro change less marked
    rw [Memory.setUrb] at marked
    dsimp only at marked
    by_cases same : v = u
    · subst same
      rw [Function.update_self] at marked
      exact less marked
    · rw [Function.update_of_ne same] at marked
      exact marked
  cases pc with
  | submitted => exact absurd rfl other
  | check => exact submitted
  | state =>
    simp only [submitUrb] at submitted
    split at submitted
    · exact submitted
    · split at submitted
      · exact data (fun urb => { urb with hcpriv := true }) id submitted
      · exact submitted
  | pipe =>
    have found : ∀ dev, ((getNativePipe bus dev (m.urbs u).pipe u env m).1.urbs) = m.urbs := by
      intro dev
      obtain same | ⟨-, -, state, pipes, -, same, -⟩ :=
        getNativePipe_cases bus dev (m.urbs u).pipe u env m
      · rw [same]
      · rw [same]
        rfl
    simp only [submitUrb] at submitted
    split at submitted
    · exact submitted
    · rename_i dev _
      have same := found dev
      split at submitted <;> rename_i answer <;> rw [answer] at same <;> dsimp only at same
      · rw [same] at submitted
        exact submitted
      · rw [same] at submitted
        exact submitted
  | killed => exact data (fun urb => { urb with killed := false }) id submitted
  | reset => exact submitted
  | ref => exact data (fun urb => { urb with refcount := urb.refcount + 1 }) id submitted
  | busy =>
    simp only [submitUrb] at submitted
    split at submitted
    · exact submitted
    · split at submitted <;> exact submitted
  | append =>
    simp only [submitUrb] at submitted
    split at submitted <;> exact submitted
  | native =>
    have sent : (prepareAndSubmit u env m).1.urbs = m.urbs := by
      obtain ⟨state, -, ⟨same, -⟩ | ⟨ret, -, same⟩⟩ := prepareAndSubmit_cases u env m
      · rw [same]
        rfl
      · rw [same]
        rfl
    have here : ((prepareAndSubmit u env m).1.urbs v).submitted = true := submitted
    rw [sent] at here
    exact here
  | idle ret =>
    simp only [submitUrb] at submitted
    split at submitted <;> exact submitted
  | clear ret =>
    exact data (fun urb => { urb with submitted := false }) (fun no => by cases no) submitted
  | free ret =>
    have here : ((freeUrb u m).urbs v).submitted = true := submitted
    rw [Memory.freeUrb_submitted] at here
    exact here

/-- A private state that is allocated has no native pipe. -/
theorem submitUrb_state_upholds
    (allocated : (m.states u).nativePipe ≠ none → (m.urbs u).hcpriv = true) :
    m.Upholds bus (submitUrb bus u inside env m .state).1 := by
  simp only [submitUrb]
  split
  · exact (Memory.SamePipes.refl m).upholds bus
  · rename_i missing
    split
    · have bare : (m.states u).nativePipe = none := by
        by_contra piped
        exact missing (allocated piped)
      have zeroed : ∀ v native,
          ((m.setState u fun _ => UrbState.zero).states v).nativePipe = some native →
            v ≠ u ∧ (m.setState u fun _ => UrbState.zero).states v = m.states v := by
        intro v native piped
        have apart : v ≠ u := by
          intro same
          have zero : ((m.setState u fun _ => UrbState.zero).states u) = .zero :=
            Function.update_self ..
          rw [same, zero] at piped
          cases piped
        exact ⟨apart, Function.update_of_ne apart ..⟩
      have reset : m.Upholds bus (m.setState u fun _ => .zero) := by
        refine ⟨fun kept => ⟨kept.table, fun v native piped => ?_⟩,
          fun v named native piped => ?_, fun v current native dev nativeDev piped => ?_,
          fun v piped => ?_⟩
        · have same := (zeroed v native piped).2
          rw [same] at piped ⊢
          exact kept.states v native piped
        · rw [(zeroed v native piped).2] at piped
          exact named native piped
        · rw [(zeroed v native piped).2] at piped
          exact current native dev nativeDev piped
        · have apart : v ≠ u := by
            intro same
            rw [same] at piped
            exact piped bare
          have same : (m.setState u fun _ => UrbState.zero).states v = m.states v :=
            Function.update_of_ne apart ..
          rw [same]
          exact piped
      dsimp only
      refine reset.trans (Memory.SamePipes.upholds ?_ bus)
      refine .setUrb _ u ?_ ?_ <;> rfl
    · exact (Memory.SamePipes.refl m).upholds bus

/-- A lookup gives a URB the native pipe that it needs. -/
theorem getNativePipe_upholds (kept : m.Kept bus) {dev : UsbDevice}
    (here : (m.urbs u).dev = some dev) :
    let answer := getNativePipe bus dev (m.urbs u).pipe u env m
    m.Upholds bus answer.1 ∧
      (answer.2 ≠ none → m.Current bus u → answer.1.Named u) := by
  obtain ⟨kept', urbs, others, changed, found⟩ :=
    getNativePipe_spec kept dev (m.urbs u).pipe u env
  dsimp only
  obtain same | ⟨bare, native, nativeDev, piped, attached, other, serves⟩ := changed
  · rw [same]
    refine ⟨(Memory.SamePipes.refl m).upholds bus, fun answered current native piped => ?_⟩
    obtain ⟨nativeDev, attached, default_⟩ := found answered
    obtain ⟨other, serves⟩ := current native dev nativeDev piped here attached default_
    exact ⟨dev, nativeDev, here, attached, other, serves⟩
  · have mine : (getNativePipe bus dev (m.urbs u).pipe u env m).1.Named u := by
      intro native' piped'
      obtain rfl := Option.some.inj (piped.symm.trans piped')
      rw [urbs]
      exact ⟨dev, nativeDev, here, attached, other, serves⟩
    refine ⟨⟨fun _ => kept', fun v named => ?_, fun v current => ?_, fun v held => ?_⟩,
      fun _ _ => mine⟩
    · by_cases same : v = u
      · rw [same]
        exact mine
      · intro native' piped'
        rw [others v same] at piped'
        rw [urbs]
        exact named native' piped'
    · by_cases same : v = u
      · rw [same]
        exact mine.current
      · intro native' dev' nativeDev' piped'
        rw [others v same] at piped'
        rw [urbs]
        exact current native' dev' nativeDev' piped'
    · have apart : v ≠ u := by
        intro same
        rw [same] at held
        exact held bare
      rw [others v apart]
      exact held

/-- Every step of `usb_submit_urb` upholds what is kept about native pipes. -/
theorem submitUrb_upholds (kept : m.Kept bus)
    (allocated : (m.states u).nativePipe ≠ none → (m.urbs u).hcpriv = true) :
    m.Upholds bus (submitUrb bus u inside env m pc).1 := by
  by_cases state : pc = .state
  · rw [state]
    exact submitUrb_state_upholds allocated
  · by_cases pipe : pc = .pipe
    · rw [pipe]
      simp only [submitUrb]
      cases here : (m.urbs u).dev with
      | none => exact (Memory.SamePipes.refl m).upholds bus
      | some dev =>
        obtain ⟨upholds, -⟩ := @getNativePipe_upholds _ _ bus m u env kept dev here
        dsimp only
        split <;> rename_i answer <;> rw [answer] at upholds <;> exact upholds
    · exact (Memory.SamePipes.submitUrb m u inside env state pipe).upholds bus

/-- A URB is marked only with the native pipe that it needs. -/
theorem submitUrb_goto_submitted (kept : m.Kept bus) (current : m.Current bus u)
    (next : (submitUrb bus u inside env m pc).2 = .goto .submitted) :
    (submitUrb bus u inside env m pc).1.Named u := by
  have looked : pc = .pipe := by
    cases pc <;> grind -ring -linarith [submitUrb]
  rw [looked] at next ⊢
  simp only [submitUrb] at next ⊢
  cases here : (m.urbs u).dev with
  | none =>
    rw [here] at next
    cases next
  | some dev =>
    obtain ⟨-, named⟩ := @getNativePipe_upholds _ _ bus m u env kept dev here
    rw [here] at next
    dsimp only at next ⊢
    split at next <;> rename_i answer <;> rw [answer] at named
    · exact named (Option.some_ne_none _) current
    · cases next

/-- What `usb_submit_urb` does before it marks a URB, it does for a URB that is not submitted. -/
theorem submitUrb_goto_before {pc' : SubmitPc}
    (clear : pc.before = true → (m.urbs u).submitted = false)
    (next : (submitUrb bus u inside env m pc).2 = .goto pc') (before : pc'.before = true) :
    pc ≠ .submitted ∧ (m.urbs u).submitted = false := by
  have earlier : pc ≠ .submitted ∧ (pc.before = true ∨ (m.urbs u).submitted = false) := by
    cases pc <;> cases pc' <;> grind -ring -linarith [submitUrb, SubmitPc.before]
  exact ⟨earlier.1, earlier.2.elim clear id⟩

end Steps

section Runs

variable [DecidableEq Id] [DecidableEq U] {bus : Bus}

/-- Tasks that submit, kill and free URBs, with URBs that are filled in between. -/
def refillSystem (Id U : Type) [DecidableEq Id] [DecidableEq U] (bus : Bus) :
    System (Tasks Id U) (Refill Id U) where
  init p := Fresh p ∧ ∀ e, p.shared.nativePipes e = none
  step p
    | .task a => (system Id U bus).step p a
    | .fill u filling => some ⟨p.shared.setUrb u (fillBulkUrb filling), p.threads⟩

/-- A URB is submitted by one call at a time, and filled while it is not submitted and no such call
is under way. -/
def Resubmitted (p : Tasks Id U) : Refill Id U → Prop
  | .task a => Distinct p a
  | .fill u _ => (p.shared.urbs u).submitted = false ∧ ∀ t, ¬(p.threads t).Submits u

/-- A URB is submitted only if a lookup comes to the native pipe of its device and its pipe value.
-/
def SameEndpoint (bus : Bus) (p : Tasks Id U) : Refill Id U → Prop
  | .task (_, .submit u) => p.shared.Current bus u
  | _ => True

/-- The invariant: URBs are where they should be, each is submitted by one task at a time, and their
native pipes are those of their devices and their pipe values. -/
structure Filled (bus : Bus) (p : Tasks Id U) : Prop where
  /-- The memory and the tasks agree with some places and drivers. -/
  owned : ∃ place nodes own, Owned p place nodes own
  /-- No two tasks submit the same URB. -/
  alone : ∀ t s u, (p.threads t).Submits u → (p.threads s).Submits u → t = s
  /-- A URB that is to be marked is not submitted. -/
  before : ∀ t u pc, (p.threads t).submitting = some (u, pc) → pc.before = true →
    (p.shared.urbs u).submitted = false
  /-- A URB that is being completed has a native pipe. -/
  piped : ∀ t u pc, (p.threads t).completing = some (u, pc) →
    (p.shared.states u).nativePipe ≠ none
  /-- What is kept about native pipes agrees with the endpoints. -/
  kept : p.shared.Kept bus
  /-- A lookup comes to the right native pipe for a URB that is being submitted. -/
  current : ∀ t u, (p.threads t).Submits u → p.shared.Current bus u
  /-- A submitted URB, or one about to be marked, has the right native pipe. -/
  named : ∀ u, (p.shared.urbs u).submitted = true ∨
    (∃ t, (p.threads t).submitting = some (u, .submitted)) → p.shared.Named u

variable {p q : Tasks Id U}

omit [DecidableEq Id] [DecidableEq U] in
/-- The invariant gives the property. -/
theorem Filled.directed (filled : Filled bus p) : Directed bus p := by
  obtain ⟨place, nodes, own, owned⟩ := filled.owned
  have submitted : ∀ u, place u ≠ .out → (p.shared.urbs u).submitted = true :=
    owned.custody.shape.submitted
  refine ⟨fun t u holds => ?_, fun u flies => ?_, fun u native marked piped => ?_⟩
  · have held : place u = .held t := by
      obtain ⟨pc, here, holds⟩ | ⟨v, pc, here, holds⟩ := holds
      · exact ((owned.tasks t).submits u pc here).held holds
      · exact ((owned.tasks t).completes v pc here).held u holds
    refine submitted u ?_
    rw [held]
    exact fun out => by cases out
  · refine submitted u fun out => ?_
    have grounded : p.shared.inFlight u = 0 := by
      refine owned.custody.shape.grounded u ?_
      rw [out]
      exact fun same => by cases same
    omega
  · obtain ⟨dev, nativeDev, here, attached, other, serves⟩ :=
      filled.named u (.inl marked) native piped
    obtain ⟨nativeDev', pipe, serves', queue, table⟩ := filled.kept.states u native piped
    refine ⟨dev, nativeDev, here, attached, other, serves, ?_, table⟩
    rw [queue]
    exact serves'.find_eq serves

omit [DecidableEq U] in
/-- The invariant after a move, given what the moved task is in and what it did to the memory. -/
theorem Filled.moved {t : Id} {m' : Memory U} {task' : Task U} (filled : Filled bus p)
    (owned : ∃ place nodes own, Owned ⟨m', Function.update p.threads t task'⟩ place nodes own)
    (upholds : p.shared.Upholds bus m')
    (unmarked : ∀ u, (m'.urbs u).submitted = true → (p.shared.urbs u).submitted = true ∨
      (p.threads t).submitting = some (u, .submitted))
    (completes : ∀ u pc, task'.completing = some (u, pc) → (m'.states u).nativePipe ≠ none)
    (submits : ∀ u pc, task'.submitting = some (u, pc) →
      ((p.threads t).Submits u ∨
        (∀ s, ¬(p.threads s).Submits u) ∧ p.shared.Current bus u) ∧
      (pc.before = true → (m'.urbs u).submitted = false) ∧
      (pc = .submitted → m'.Named u)) :
    Filled bus ⟨m', Function.update p.threads t task'⟩ := by
  have unchanged : ∀ {s}, s ≠ t → Function.update p.threads t task' s = p.threads s :=
    fun apart => Function.update_of_ne apart ..
  have moved : Function.update p.threads t task' t = task' := Function.update_self ..
  have others : ∀ s u, s ≠ t → (p.threads s).Submits u → task'.Submits u → False := by
    rintro s u apart other ⟨pc, mine⟩
    obtain ⟨before | ⟨nobody, -⟩, -⟩ := submits u pc mine
    · exact apart (filled.alone s t u other before)
    · exact nobody s other
  refine ⟨owned, fun r s u left right => ?_, fun s u pc here before => ?_,
    fun s u pc here => ?_, upholds.kept filled.kept, fun s u here => ?_, fun u marked => ?_⟩
  · dsimp only at left right
    by_cases first : r = t <;> by_cases second : s = t
    · rw [first, second]
    · rw [first, moved] at left
      rw [unchanged second] at right
      exact (others s u second right left).elim
    · rw [unchanged first] at left
      rw [second, moved] at right
      exact (others r u first left right).elim
    · rw [unchanged first] at left
      rw [unchanged second] at right
      exact filled.alone r s u left right
  · dsimp only at here ⊢
    by_cases same : s = t
    · rw [same, moved] at here
      exact (submits u pc here).2.1 before
    · rw [unchanged same] at here
      have clear := filled.before s u pc here before
      by_contra set
      obtain marked | mover := unmarked u (by simpa using set)
      · rw [clear] at marked
        cases marked
      · exact same (filled.alone s t u ⟨pc, here⟩ ⟨_, mover⟩)
  · dsimp only at here ⊢
    by_cases same : s = t
    · rw [same, moved] at here
      exact completes u pc here
    · rw [unchanged same] at here
      exact upholds.piped u (filled.piped s u pc here)
  · dsimp only at here ⊢
    by_cases same : s = t
    · rw [same, moved] at here
      obtain ⟨pc, here⟩ := here
      obtain ⟨before | ⟨-, current⟩, -⟩ := submits u pc here
      · exact upholds.current u (filled.current t u before)
      · exact upholds.current u current
    · rw [unchanged same] at here
      exact upholds.current u (filled.current s u here)
  · dsimp only at marked ⊢
    obtain marked | ⟨s, here⟩ := marked
    · obtain before | mover := unmarked u marked
      · exact upholds.named u (filled.named u (.inl before))
      · exact upholds.named u (filled.named u (.inr ⟨t, mover⟩))
    · by_cases same : s = t
      · rw [same, moved] at here
        exact (submits u _ here).2.2 rfl
      · rw [unchanged same] at here
        exact upholds.named u (filled.named u (.inr ⟨s, here⟩))

/-- A step of a task keeps the invariant. -/
theorem Filled.step {a : Id × Choice U} (filled : Filled bus p) (distinct : Distinct p a)
    (endpoint : SameEndpoint bus p (.task a)) (stepped : (system Id U bus).step p a = some q) :
    Filled bus q := by
  obtain ⟨place, nodes, own, owns⟩ := filled.owned
  have owned : ∃ place nodes own, Owned q place nodes own :=
    owns.step (fun u here => filled.before a.1 u _ here rfl) stepped
  obtain ⟨m, task, executed, rfl⟩ := Pool.step_eq_some.mp stepped
  obtain ⟨t, choice⟩ := a
  have stays : ∀ {m' : Memory U}, p.shared.Upholds bus m' → ∀ u pc,
      (p.threads t).completing = some (u, pc) → (m'.states u).nativePipe ≠ none :=
    fun upholds u pc here => upholds.piped u (filled.piped t u pc here)
  have settles : ∀ {m' : Memory U}, (∀ u, p.shared.Settles m' u) → ∀ u,
      (m'.urbs u).submitted = true → (p.shared.urbs u).submitted = true ∨
        (p.threads t).submitting = some (u, .submitted) := by
    intro m' settles u marked
    refine .inl ?_
    by_contra clear
    rw [(settles u).submitted (by simpa using clear)] at marked
    cases marked
  cases exec_moved executed with
  | submitUrb u pc env here =>
    have allocated : (p.shared.states u).nativePipe ≠ none →
        (p.shared.urbs u).hcpriv = true := owns.custody.shape.allocated u
    have current := filled.current t u ⟨pc, here⟩
    have upholds := @submitUrb_upholds _ _ bus p.shared u ((p.threads t).callbackOf == some u) env
      pc filled.kept allocated
    refine filled.moved owned upholds (fun v marked => ?_) (stays upholds) fun v pc' mine => ?_
    · by_cases marks : pc = .submitted
      · by_cases same : v = u
        · rw [same, ← marks]
          exact .inr here
        · refine .inl ?_
          rw [marks] at marked
          simpa [submitUrb, same] using marked
      · exact .inl (submitUrb_unmarked marks marked)
    · obtain ⟨rfl, next⟩ := Next.after_eq_some mine
      refine ⟨.inl ⟨pc, here⟩, fun before => ?_, fun marks => ?_⟩
      · obtain ⟨other, clear⟩ :=
          submitUrb_goto_before (filled.before t v pc here) next before
        by_contra set
        have marked := submitUrb_unmarked other (by simpa using set)
        rw [clear] at marked
        cases marked
      · rw [marks] at next
        exact submitUrb_goto_submitted filled.kept current next
  | killUrb u pc env free here =>
    have upholds := (Memory.SamePipes.killUrb p.shared u pc).upholds bus
    refine filled.moved owned upholds (fun v marked => .inl ?_) (stays upholds) fun v pc' mine => ?_
    · cases pc with
      | store =>
        simp only [killUrb, Memory.setUrb] at marked
        by_cases same : v = u
        · rw [same] at marked ⊢
          rw [Function.update_self] at marked
          exact marked
        · rw [Function.update_of_ne same] at marked
          exact marked
      | wait =>
        simp only [killUrb] at marked
        split at marked <;> exact marked
    · exact absurd (free.symm.trans mine) (by simp)
  | urbComplete u pc env free idle here =>
    have upholds := (@Memory.SamePipes.urbComplete _ bus _ p.shared u env pc).upholds bus
    refine filled.moved owned upholds
      (settles fun v => settles_urbComplete p.shared v u env pc) (fun v pc' mine => ?_)
      fun v pc' mine => ?_
    · obtain ⟨rfl, -⟩ := Next.after_eq_some mine
      exact upholds.piped v (filled.piped t v pc here)
    · exact absurd (free.symm.trans mine) (by simp)
  | deliver u status actual data flying outside =>
    have upholds := (Memory.SamePipes.deliver p.shared u data).upholds bus
    refine filled.moved owned upholds
      (settles fun v => settles_deliver p.shared v u data) (fun v pc' mine => ?_)
      fun v pc' mine => ?_
    · have same : u = v ∧ CompletePc.check status actual = pc' := by
        simpa [Task.inComplete] using mine
      rw [← same.1]
      refine upholds.piped u (owns.custody.shape.flies u ?_)
      by_contra grounded
      have none : p.shared.inFlight u = 0 := owns.custody.shape.grounded u grounded
      omega
    · rw [outside] at mine
      cases mine
  | kill u outside =>
    have upholds := (Memory.SamePipes.refl p.shared).upholds bus
    refine filled.moved owned upholds (fun v marked => .inl marked) (stays upholds)
      fun v pc' mine => ?_
    rw [outside] at mine
    cases mine
  | submit u free calls =>
    have upholds := (Memory.SamePipes.refl p.shared).upholds bus
    refine filled.moved owned upholds (fun v marked => .inl marked) (stays upholds)
      fun v pc' mine => ?_
    obtain ⟨rfl, rfl⟩ : u = v ∧ SubmitPc.check = pc' := by simpa [Task.inSubmit] using mine
    refine ⟨.inr ⟨distinct u rfl, endpoint⟩, fun before => ?_, fun marks => ?_⟩
    · cases before
    · cases marks
  | free u free calls =>
    have upholds := (Memory.SamePipes.freeUrb p.shared u).upholds bus
    refine filled.moved owned upholds
      (settles fun v => Memory.settles_freeUrb p.shared v u) (stays upholds) fun v pc' mine => ?_
    exact absurd (free.symm.trans mine) (by simp)

omit [DecidableEq Id] in
/-- A URB that is not submitted, nor about to be, can be filled: the places and the drivers do not
depend on it. -/
theorem Owned.fill {place : U → Place Id} {nodes : Endpoint → List U}
    {own : Endpoint → Driver Id U} (owned : Owned p place nodes own) {u : U} (filling : Filling)
    (clear : (p.shared.urbs u).submitted = false) (nobody : ∀ t, ¬(p.threads t).Submits u)
    (piped : ∀ t pc, (p.threads t).completing = some (u, pc) →
      (p.shared.states u).nativePipe ≠ none) :
    Owned ⟨p.shared.setUrb u (fillBulkUrb filling), p.threads⟩ place nodes own := by
  have custody := owned.custody
  have out : place u = .out := by
    by_contra somewhere
    have marked : (p.shared.urbs u).submitted = true := custody.shape.submitted u somewhere
    rw [clear] at marked
    cases marked
  have others : ∀ v, v ≠ u →
      (p.shared.setUrb u (fillBulkUrb filling)).urbs v = p.shared.urbs v :=
    fun v apart => Function.update_of_ne apart ..
  have mine : (p.shared.setUrb u (fillBulkUrb filling)).urbs u =
      fillBulkUrb filling (p.shared.urbs u) := Function.update_self ..
  have settled : ∀ v, v ≠ u → p.shared.Settled v →
      (p.shared.setUrb u (fillBulkUrb filling)).Settled v := by
    intro v apart settled
    unfold Memory.Settled
    rw [others v apart]
    exact settled
  refine ⟨⟨Memory.Shape.setUrb custody.shape u rfl id, fun v somewhere => ?_, custody.marked,
    custody.transfers, custody.busy⟩, fun t => ⟨(owned.tasks t).nested, fun v pc here => ?_,
    fun v pc here => ?_⟩⟩
  · have apart : v ≠ u := by
      intro same
      rw [same] at somewhere
      exact somewhere out
    exact settled v apart (custody.settled v somewhere)
  · have owns := (owned.tasks t).submits v pc here
    have apart : v ≠ u := by
      intro same
      rw [same] at here
      exact nobody t ⟨pc, here⟩
    refine ⟨fun looks => ?_, fun marks => settled v apart (owns.settled marks), owns.held,
      owns.queues, owns.drives⟩
    rw [others v apart]
    exact owns.allocated looks
  · have owns := (owned.tasks t).completes v pc here
    refine ⟨?_, owns.held, owns.hands, owns.drives⟩
    by_cases same : v = u
    · subst same
      refine ⟨?_, .inl (piped t pc here)⟩
      rw [mine]
      exact owns.settled.1
    · exact settled v same owns.settled

omit [DecidableEq Id] in
/-- Filling a URB keeps the invariant. -/
theorem Filled.fill (filled : Filled bus p) {u : U} (filling : Filling)
    (clear : (p.shared.urbs u).submitted = false) (nobody : ∀ t, ¬(p.threads t).Submits u) :
    Filled bus ⟨p.shared.setUrb u (fillBulkUrb filling), p.threads⟩ := by
  obtain ⟨place, nodes, own, owned⟩ := filled.owned
  have others : ∀ v, v ≠ u →
      (p.shared.setUrb u (fillBulkUrb filling)).urbs v = p.shared.urbs v :=
    fun v apart => Function.update_of_ne apart ..
  have marks : ∀ v, ((p.shared.setUrb u (fillBulkUrb filling)).urbs v).submitted =
      (p.shared.urbs v).submitted := fun v => p.shared.setUrb_submitted rfl v
  have away : ∀ t v, (p.threads t).Submits v → v ≠ u := by
    intro t v submits same
    rw [same] at submits
    exact nobody t submits
  refine ⟨⟨place, nodes, own, owned.fill filling clear nobody fun t pc here => ?_⟩, filled.alone,
    fun t v pc here before => ?_, filled.piped, ⟨filled.kept.table, filled.kept.states⟩,
    fun t v submits => ?_, fun v marked => ?_⟩
  · exact filled.piped t u pc here
  · rw [marks]
    exact filled.before t v pc here before
  · intro native dev nativeDev piped
    dsimp only
    rw [others v (away t v submits)]
    exact filled.current t v submits native dev nativeDev piped
  · dsimp only at marked
    rw [marks] at marked
    have apart : v ≠ u := by
      intro same
      obtain marked | ⟨t, here⟩ := marked
      · rw [same, clear] at marked
        cases marked
      · exact away t v ⟨_, here⟩ same
    intro native piped
    dsimp only
    rw [others v apart]
    exact filled.named v marked native piped

omit [DecidableEq Id] [DecidableEq U] in
/-- Fresh tasks satisfy the invariant, if no endpoint has a native pipe yet. -/
theorem Fresh.filled (fresh : Fresh p) (empty : ∀ e, p.shared.nativePipes e = none) :
    Filled bus p := by
  have bare : ∀ u, (p.shared.states u).nativePipe = none := by
    intro u
    rw [fresh.states]
    rfl
  have outside : ∀ t, (p.threads t).submitting = none ∧ (p.threads t).completing = none := by
    intro t
    rw [fresh.outside]
    exact ⟨rfl, rfl⟩
  refine ⟨⟨_, _, _, fresh.owned⟩, fun t s u submits => ?_, fun t u pc here => ?_,
    fun t u pc here => ?_, ⟨fun e native there => ?_, fun u native piped => ?_⟩,
    fun t u submits => ?_, fun u _ native piped => ?_⟩
  · obtain ⟨pc, here⟩ := submits
    rw [(outside t).1] at here
    cases here
  · rw [(outside t).1] at here
    cases here
  · rw [(outside t).2] at here
    cases here
  · rw [empty] at there
    cases there
  · rw [bare] at piped
    cases piped
  · obtain ⟨pc, here⟩ := submits
    rw [(outside t).1] at here
    cases here
  · rw [bare] at piped
    cases piped

/-- In every run in which each URB is submitted only while a lookup comes to the native pipe of its
device and its pipe value, submitted URBs use the native pipe and the queue of their endpoint. -/
theorem directed_of_sameEndpoint (reach : (refillSystem Id U bus).Reach
    (fun p a => Resubmitted p a ∧ SameEndpoint bus p a) p) : Directed bus p := by
  have filled : Filled bus p := by
    refine reach.invariant (Filled bus) ?_ ?_
    · exact fun p fresh => fresh.1.filled fresh.2
    · rintro p a q filled ⟨orderly, endpoint⟩ stepped
      cases a with
      | task a => exact filled.step orderly endpoint stepped
      | fill u filling =>
        obtain rfl := Option.some.inj stepped
        exact filled.fill filling orderly.1 orderly.2
  exact filled.directed

end Runs

section Instances

variable [DecidableEq U]

instance (native : UsbPipe) (nativeDev : Nat) (pipe : BitVec 32) :
    Decidable (native.Serves nativeDev pipe) :=
  decidable_of_iff (native.nativeDev = nativeDev ∧ native.address = pipeAddress pipe ∧
      native.xferType = pipeXferType pipe)
    ⟨fun all => ⟨all.1, all.2.1, all.2.2⟩, fun all => ⟨all.1, all.2, all.3⟩⟩

instance (bus : Bus) (m : Memory U) (u : U) : Decidable (m.Current bus u) :=
  decidable_of_iff (∀ native ∈ (m.states u).nativePipe, ∀ dev ∈ (m.urbs u).dev,
      ∀ nativeDev ∈ dev.native, (pipeType (m.urbs u).pipe = 0 → bus.defpipe nativeDev ≠ none) →
        pipeType (m.urbs u).pipe ≠ 0 ∧ native.Serves nativeDev (m.urbs u).pipe)
    ⟨fun all native dev nativeDev piped here attached =>
      all native piped dev here nativeDev attached,
      fun all native piped dev here nativeDev attached =>
        all native dev nativeDev piped here attached⟩

instance [DecidableEq Id] [Fintype Id] [Fintype U] (p : Tasks Id U) :
    (a : Refill Id U) → Decidable (Resubmitted p a)
  | .task a => inferInstanceAs (Decidable (Distinct p a))
  | .fill u _ => inferInstanceAs
      (Decidable ((p.shared.urbs u).submitted = false ∧ ∀ t, ¬(p.threads t).Submits u))

instance (bus : Bus) (p : Tasks Id U) : (a : Refill Id U) → Decidable (SameEndpoint bus p a)
  | .task (_, .submit u) => inferInstanceAs (Decidable (p.shared.Current bus u))
  | .task (_, .deliver ..) | .task (_, .kill _) | .task (_, .free _) | .task (_, .go _)
  | .fill _ _ => .isTrue trivial

/-- A URB is filled for a pipe value of a device, without data. -/
def fillFor (pipe : BitVec 32) : Refill (Fin 2) Unit :=
  .fill () ⟨some ⟨some 0⟩, pipe, none, 0, true⟩

/-- A URB is submitted, and its data is sent. -/
def sendOnce : List (Refill (Fin 2) Unit) := ((0, .submit ()) :: go 9 0).map .task

/-- Its completion. -/
def completeOnce : List (Refill (Fin 2) Unit) := ((1, .deliver () 0 0 []) :: go 9 1).map .task

/-- Two pipe values that denote one endpoint: the URB can be filled for either of them. -/
theorem directed_other_value : ∃ p : Tasks (Fin 2) Unit,
    (refillSystem (Fin 2) Unit boundBus).run (freshTasks boundUrb)
      (fillFor 0x10001 :: sendOnce ++ completeOnce ++ fillFor 0x30001 :: sendOnce) = some p ∧
      p.shared.inFlight () = 1 ∧ Directed boundBus p := by
  have ran : ∃ p, (refillSystem (Fin 2) Unit boundBus).runWith
      (fun p a => Resubmitted p a ∧ SameEndpoint boundBus p a) (freshTasks boundUrb)
      (fillFor 0x10001 :: sendOnce ++ completeOnce ++ fillFor 0x30001 :: sendOnce) = some p ∧
        p.shared.inFlight () = 1 := ⟨_, rfl, rfl⟩
  obtain ⟨p, executed, flying⟩ := ran
  have path := System.path_of_runWith executed
  exact ⟨p, (System.along_of_runWith executed).2, flying, directed_of_sameEndpoint
    ⟨_, ⟨freshTasks_fresh rfl, fun _ => rfl⟩, path⟩⟩

/-- A device with two bulk OUT endpoints that belong to a bound interface. -/
def twinBus : Bus := { boundBus with wrappers := [⟨true, 0, [⟨0x01, 2⟩, ⟨0x02, 2⟩]⟩] }

/-- A URB that is filled for the other endpoint is sent to the first one again. -/
theorem refilled_not_directed :
    ¬∀ p, (refillSystem (Fin 2) Unit twinBus).Reach Resubmitted p → Directed twinBus p := by
  intro always
  have ran : ∃ p, (refillSystem (Fin 2) Unit twinBus).runWith Resubmitted (freshTasks boundUrb)
      (fillFor 0x10001 :: sendOnce ++ completeOnce ++ fillFor 0x10002 :: sendOnce) = some p ∧
        (p.shared.urbs ()).submitted = true ∧ (p.shared.urbs ()).pipe = 0x10002 ∧
          (p.shared.states ()).nativePipe = some ⟨0, 1, 2, 512⟩ := ⟨_, rfl, rfl, rfl, rfl⟩
  obtain ⟨p, executed, submitted, pipe, piped⟩ := ran
  have reached := System.path_of_runWith executed
  have directed := always p ⟨_, ⟨freshTasks_fresh rfl, fun _ => rfl⟩, reached⟩
  obtain ⟨_, _, -, -, -, serves, -⟩ := directed.endpoint () _ submitted piped
  rw [pipe] at serves
  exact absurd serves.address (by decide)

end Instances

end Lcompat.Usb
