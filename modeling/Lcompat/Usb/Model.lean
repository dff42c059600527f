import Lcompat.Logic.LinkedQueue
import Lcompat.Logic.Pool
import Lcompat.Usb.Urb

/-!
# Submission, completion and cancellation of URBs

`usb_submit_urb`, the native completion `lcompat_usb_urb_complete`, `usb_kill_urb` and
`usb_free_urb` as sequences of atomic steps over the memory of any number of URBs. One step
is one spin-locked section, one atomic operation, one access to `submitted` or `killed`, one
native call, or the entry or exit of a completion callback; accesses to fields that only the
holder of the URB reads go with a neighbouring step. `usb_poison_urb` is `usb_kill_urb`.

A task that is in a completion callback may call `usb_submit_urb` and `usb_free_urb` from
it. The wrappers of bound interfaces are constants, since no device is removed. Native calls
answer with the `Env` of their step: a refused transfer carries its negative code.
-/

namespace Lcompat.Usb

open Lcompat.Logic

/-- The two fields of `struct usb_endpoint_descriptor` that are looked at. -/
structure EndpointDescriptor where
  /-- `bEndpointAddress`. -/
  bEndpointAddress : BitVec 8
  /-- `bmAttributes`. -/
  bmAttributes : BitVec 8

/-- `lcompat_usb_wrapper_t`: the fields that stay as they are while the device is there. -/
structure Wrapper where
  /-- `used`. -/
  used : Bool
  /-- `native_dev`. -/
  nativeDev : Nat
  /-- `endpoints`, the first `endpoint_count` of them. -/
  endpoints : List EndpointDescriptor

/-- What does not change during the runs considered here. -/
structure Bus where
  /-- Event codes of the native completions. -/
  codes : EventCodes
  /-- `lcompat_usb_wrappers`. -/
  wrappers : List Wrapper
  /-- `defpipe` of a native device. -/
  defpipe : Nat → Option UsbPipe

/-- The endpoint address a pipe value denotes. -/
def pipeAddress (pipe : BitVec 32) : BitVec 8 :=
  ((pipeEp pipe).setWidth 8 &&& 0x0f) ||| (if pipeDirIn pipe then 0x80 else 0)

/-- The transfer type a pipe value denotes: `USB_ENDPOINT_XFER_INT` or
`USB_ENDPOINT_XFER_BULK`. -/
def pipeXferType (pipe : BitVec 32) : BitVec 8 := if pipeType pipe = 2 then 3 else 2

/-- `lcompat_usb_find_wrapper_ep_index`. -/
def findWrapperEpIndex (wrapper : Wrapper) (pipe : BitVec 32) : Option Nat :=
  wrapper.endpoints.findIdx? fun epd =>
    epd.bEndpointAddress == pipeAddress pipe && epd.bmAttributes &&& 3 == pipeXferType pipe

/-- The loop of `lcompat_usb_find_wrapper_for_pipe` from the wrapper with a number. -/
def findWrapperFrom (nativeDev : Nat) (pipe : BitVec 32) : Nat → List Wrapper → Option Endpoint
  | _, [] => none
  | i, wrapper :: rest =>
    if wrapper.used ∧ wrapper.nativeDev = nativeDev then
      match findWrapperEpIndex wrapper pipe with
      | some epIndex => some (i, epIndex)
      | none => findWrapperFrom nativeDev pipe (i + 1) rest
    else findWrapperFrom nativeDev pipe (i + 1) rest

/-- `lcompat_usb_find_wrapper_for_pipe` on a native device. -/
def findWrapperForPipe (bus : Bus) (nativeDev : Nat) (pipe : BitVec 32) : Option Endpoint :=
  findWrapperFrom nativeDev pipe 0 bus.wrappers

/-- Memory shared by all tasks. A URB and its private state have one name. -/
structure Memory (U : Type) where
  /-- The URBs. -/
  urbs : U → Urb
  /-- Their private states. -/
  states : U → UrbState
  /-- `pending_next` of the private states. -/
  pendingNext : U → Option U
  /-- `pending_head` of each endpoint. -/
  pendingHead : Endpoint → Option U
  /-- `pending_tail` of each endpoint. -/
  pendingTail : Endpoint → Option U
  /-- `pipe_busy` of each endpoint. -/
  pipeBusy : Endpoint → Bool
  /-- `native_pipes` of each endpoint. -/
  nativePipes : Endpoint → Option UsbPipe
  /-- Transfers of each URB that the native driver has accepted and not completed. -/
  inFlight : U → Nat
  /-- How often each URB was released. -/
  released : U → Nat
  /-- History that no function reads: `usb_kill_urb` has returned for the URB, and the URB
  was not submitted from outside its callback since. -/
  quiesced : U → Bool

/-- What the native kernel answers in one step. -/
structure Env where
  /-- Whether an allocation or reallocation succeeds. -/
  allocated : Bool
  /-- `maxpacket` of the pipe that `usb_alloc_pipe` makes, none when there is no such
  endpoint or the allocation fails. -/
  maxpacket : Option Int
  /-- The code `-(n + 1)` with which `usb_submit_xfer` refuses, none when it returns 0. -/
  refused : Option Nat
  deriving DecidableEq

variable {U : Type} [DecidableEq U]

namespace Memory

/-- Change one URB. -/
@[simp]
def setUrb (m : Memory U) (u : U) (change : Urb → Urb) : Memory U :=
  { m with urbs := Function.update m.urbs u (change (m.urbs u)) }

/-- Change one private state. -/
@[simp]
def setState (m : Memory U) (u : U) (change : UrbState → UrbState) : Memory U :=
  { m with states := Function.update m.states u (change (m.states u)) }

/-- Set `pipe_busy` of one endpoint. -/
@[simp]
def setBusy (m : Memory U) (e : Endpoint) (busy : Bool) : Memory U :=
  { m with pipeBusy := Function.update m.pipeBusy e busy }

/-- The pending queue of one endpoint. -/
def pending (m : Memory U) (e : Endpoint) : LinkedQueue U :=
  ⟨m.pendingHead e, m.pendingTail e, m.pendingNext⟩

/-- Write back the pending queue of one endpoint. -/
@[simp]
def setPending (m : Memory U) (e : Endpoint) (q : LinkedQueue U) : Memory U :=
  { m with
    pendingHead := Function.update m.pendingHead e q.head
    pendingTail := Function.update m.pendingTail e q.tail
    pendingNext := q.next }

/-- Count native transfers of one URB. -/
@[simp]
def setInFlight (m : Memory U) (u : U) (change : Nat → Nat) : Memory U :=
  { m with inFlight := Function.update m.inFlight u (change (m.inFlight u)) }

end Memory

/-- `usb_alloc_pipe` for the endpoint a pipe value denotes. -/
def allocPipe (nativeDev : Nat) (pipe : BitVec 32) (env : Env) : Option UsbPipe :=
  env.maxpacket.map fun maxpacket =>
    ⟨nativeDev, pipeAddress pipe, pipeXferType pipe, maxpacket⟩

/-- `lcompat_usb_get_native_pipe` with the private state of a URB. -/
def getNativePipe (bus : Bus) (dev : UsbDevice) (pipe : BitVec 32) (u : U) (env : Env)
    (m : Memory U) : Memory U × Option UsbPipe :=
  match dev.native with
  | none => (m, none)
  | some nativeDev =>
    if pipeType pipe = 0 then (m, bus.defpipe nativeDev)
    else match (m.states u).nativePipe with
      | some found => (m, some found)
      | none =>
        match findWrapperForPipe bus nativeDev pipe with
        | some e =>
          match m.nativePipes e with
          | some found =>
            (m.setState u fun state => { state with
              nativePipe := some found, ownsPipe := false, queue := some e }, some found)
          | none =>
            match allocPipe nativeDev pipe env with
            | none => (m, none)
            | some made =>
              ({ m.setState u (fun state => { state with
                  nativePipe := some made, ownsPipe := false, queue := some e }) with
                nativePipes := Function.update m.nativePipes e (some made) }, some made)
        | none =>
          match allocPipe nativeDev pipe env with
          | none => (m, none)
          | some made =>
            (m.setState u fun state => { state with
              nativePipe := some made, ownsPipe := true, queue := none }, some made)

/-- `lcompat_usb_submit_native_urb`: an accepted transfer is in flight. -/
def submitNativeUrb (u : U) (len : Int) (env : Env) (m : Memory U) : Memory U × Int :=
  if (m.states u).nativePipe = none then (m, -EINVAL)
  else
    let m := m.setState u fun state => { state with submittedLength := len }
    match env.refused with
    | none => (m.setInFlight u (· + 1), 0)
    | some code => (m, -(code + 1))

/-- `lcompat_usb_prepare_urb_buffer` followed, when it returns 0, by
`lcompat_usb_submit_native_urb` on its result. -/
def prepareAndSubmit (u : U) (env : Env) (m : Memory U) : Memory U × Int :=
  match prepareUrbBuffer (m.urbs u) (m.states u) env.allocated with
  | (state, .error ret) => (m.setState u fun _ => state, ret)
  | (state, .ok len) => submitNativeUrb u len env (m.setState u fun _ => state)

/-- `lcompat_usb_queue_append`. -/
def queueAppend (e : Endpoint) (u : U) (m : Memory U) : Memory U :=
  (m.setState u fun state => { state with queued := true }).setPending e
    ((m.pending e).append u)

/-- `lcompat_usb_queue_pop`. -/
def queuePop (e : Endpoint) (m : Memory U) : Memory U × Option U :=
  match m.pendingHead e with
  | none => (m, none)
  | some u =>
    ((m.setPending e (m.pending e).pop.1).setState u fun state =>
      { state with queued := false }, some u)

/-- `usb_free_urb`: the reference that takes the counter to zero releases the URB and its
private state. -/
def freeUrb (u : U) (m : Memory U) : Memory U :=
  let refs := (m.urbs u).refcount - 1
  let m := m.setUrb u fun urb => { urb with refcount := refs }
  if refs = 0 then { m with released := Function.update m.released u (m.released u + 1) } else m

/-- Steps of `usb_submit_urb`. After a failed submission they carry the result. -/
inductive SubmitPc where
  | check | state | pipe | submitted | killed | reset | ref | busy | append | native
  | idle (ret : Int) | clear (ret : Int) | free (ret : Int)
  deriving DecidableEq

/-- `usb_submit_urb`; `inside` says whether the call is made by the completion callback of
the same URB. -/
def submitUrb (bus : Bus) (u : U) (inside : Bool) (env : Env) (m : Memory U) :
    SubmitPc → Memory U × Next SubmitPc Int
  | .check =>
    (m, if (m.urbs u).dev = none then .ret (-EINVAL)
      else if (m.urbs u).submitted then .ret (-EBUSY) else .goto .state)
  | .state =>
    if (m.urbs u).hcpriv then (m, .goto .pipe)
    else if env.allocated then
      ((m.setState u fun _ => .zero).setUrb u fun urb => { urb with hcpriv := true },
        .goto .pipe)
    else (m, .ret (-ENOMEM))
  | .pipe =>
    match (m.urbs u).dev with
    | none => (m, .ret (-ENOENT))
    | some dev =>
      match getNativePipe bus dev (m.urbs u).pipe u env m with
      | (m, some _) => (m, .goto .submitted)
      | (m, none) => (m, .ret (-ENOENT))
  | .submitted =>
    ({ m.setUrb u (fun urb => { urb with
        status := -EINPROGRESS, actualLength := 0, submitted := true }) with
      quiesced := Function.update m.quiesced u (m.quiesced u && inside) }, .goto .killed)
  | .killed => (m.setUrb u fun urb => { urb with killed := false }, .goto .reset)
  | .reset =>
    ({ m.setState u (fun state => { state with
        completedLength := 0, zlpPending := false, queued := false }) with
      pendingNext := Function.update m.pendingNext u none }, .goto .ref)
  | .ref => (m.setUrb u fun urb => { urb with refcount := urb.refcount + 1 }, .goto .busy)
  | .busy =>
    match (m.states u).queue with
    | none => (m, .goto .native)
    | some e => if m.pipeBusy e then (m, .goto .append) else (m.setBusy e true, .goto .native)
  | .append =>
    match (m.states u).queue with
    | none => (m, .ret 0)
    | some e => (queueAppend e u m, .ret 0)
  | .native =>
    match prepareAndSubmit u env m with
    | (m, ret) => (m, if ret < 0 then .goto (.idle ret) else .ret 0)
  | .idle ret =>
    match (m.states u).queue with
    | none => (m, .goto (.clear ret))
    | some e => (m.setBusy e false, .goto (.clear ret))
  | .clear ret => (m.setUrb u fun urb => { urb with submitted := false }, .goto (.free ret))
  | .free ret => (freeUrb u m, .ret ret)

/-- Steps of `lcompat_usb_urb_complete`. They carry the status and length computed so far,
and after the pop the URB that is handed over. -/
inductive CompletePc (U : Type) where
  | check (status actual : Int)
  | zlp (actual : Int)
  | copy (mapped actual : Int)
  | cas (mapped actual : Int)
  | store (mapped actual : Int)
  | killed
  | enter
  | callback
  | pop
  | handOver (next : U)
  | nextStatus (next : U) (ret : Int)
  | nextSubmitted (next : U)
  | nextIdle (next : U)
  | nextKilled (next : U)
  | nextEnter (next : U)
  | nextCallback (next : U)
  | nextFree (next : U)
  | free
  deriving DecidableEq

/-- Whether a completion is continued with a zero-length transfer. -/
def zeroPacket (urb : Urb) (state : UrbState) (mapped actual : Int) : Bool :=
  mapped == 0 && !pipeDirIn urb.pipe && urb.transferFlags &&& URB_ZERO_PACKET != 0 &&
    decide (0 < urb.transferBufferLength) &&
      match state.nativePipe with
      | none => false
      | some pipe => decide (0 < pipe.maxpacket) && actual == urb.transferBufferLength &&
          actual.tmod pipe.maxpacket == 0

/-- `lcompat_usb_urb_complete`. -/
def urbComplete (bus : Bus) (u : U) (env : Env) (m : Memory U) :
    CompletePc U → Memory U × Next (CompletePc U) Unit
  | .check status actual =>
    if !(m.urbs u).submitted then (m, .ret ())
    else
      let state := m.states u
      let mapped := urbStatus bus.codes status
      let past := mapped = 0 ∧ state.submittedLength < actual
      let actual := if past then state.submittedLength else actual
      let mapped := if past then -EOVERFLOW else mapped
      if state.zlpPending then
        (m.setState u fun state => { state with zlpPending := false },
          .goto (.copy mapped state.completedLength))
      else if zeroPacket (m.urbs u) state mapped actual then
        (m.setState u fun state => { state with
          completedLength := actual, zlpPending := true }, .goto (.zlp actual))
      else (m, .goto (.copy mapped actual))
  | .zlp actual =>
    match submitNativeUrb u 0 env m with
    | (m, ret) =>
      if ret = 0 then (m, .ret ())
      else (m.setState u fun state => { state with zlpPending := false },
        .goto (.copy (urbStatus bus.codes ret) actual))
  | .copy mapped actual =>
    if mapped = 0 ∧ pipeDirIn (m.urbs u).pipe ∧ 0 < actual ∧ (m.states u).submittedSg then
      match sgCopyToUrb (m.urbs u) (m.states u).sgBuffer actual with
      | (entries, ret) => (m.setUrb u fun urb => { urb with sg := entries },
          .goto (.cas ret actual))
    else (m, .goto (.cas mapped actual))
  | .cas mapped actual =>
    if (m.urbs u).submitted then
      (m.setUrb u fun urb => { urb with submitted := false }, .goto (.store mapped actual))
    else (m, .ret ())
  | .store mapped actual =>
    (m.setUrb u fun urb => { urb with status := mapped, actualLength := actual },
      .goto (if (m.urbs u).complete then .killed else .pop))
  | .killed => (m, .goto (if (m.urbs u).killed then .pop else .enter))
  | .enter => (m, .goto .callback)
  | .callback => (m, .goto .pop)
  | .pop =>
    match (m.states u).queue with
    | none => (m, .goto .free)
    | some e =>
      match queuePop e m with
      | (m, none) => (m.setBusy e false, .goto .free)
      | (m, some next) => (m, .goto (.handOver next))
  | .handOver next =>
    match prepareAndSubmit next env m with
    | (m, ret) => (m, .goto (if ret < 0 then .nextStatus next ret else .free))
  | .nextStatus next ret =>
    (m.setUrb next fun urb => { urb with status := ret, actualLength := 0 },
      .goto (.nextSubmitted next))
  | .nextSubmitted next =>
    (m.setUrb next fun urb => { urb with submitted := false }, .goto (.nextIdle next))
  | .nextIdle next =>
    match (m.states u).queue with
    | none => (m, .goto (.nextKilled next))
    | some e => (m.setBusy e false, .goto (.nextKilled next))
  | .nextKilled next =>
    (m, .goto (if !(m.urbs next).killed && (m.urbs next).complete then .nextEnter next
      else .nextFree next))
  | .nextEnter next => (m, .goto (.nextCallback next))
  | .nextCallback next => (m, .goto (.nextFree next))
  | .nextFree next => (freeUrb next m, .goto .free)
  | .free => (freeUrb u m, .ret ())

/-- Steps of `usb_kill_urb`. -/
inductive KillPc where
  | store | wait
  deriving DecidableEq

/-- `usb_kill_urb`, and `usb_poison_urb`, which is the same. -/
def killUrb (u : U) (m : Memory U) : KillPc → Memory U × Next KillPc Unit
  | .store => (m.setUrb u fun urb => { urb with killed := true }, .goto .wait)
  | .wait =>
    if (m.urbs u).submitted then (m, .goto .wait)
    else ({ m with quiesced := Function.update m.quiesced u true }, .ret ())

end Lcompat.Usb
