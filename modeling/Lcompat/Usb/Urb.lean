import Lcompat.Errno

/-!
# URBs and their data

`struct urb`, the private state a URB gets when it is first submitted, and the functions of
`usb.c` that compute lengths, statuses and buffer contents from them. A scatter-gather list
is the list of its entries, empty when `sg` is null or `num_sgs` is not positive; the memory
behind an entry is its own list of bytes. `int` values are integers, and the one conversion
from `unsigned int` that can leave their range is explicit.
-/

namespace Lcompat.Usb

/-- `INT_MAX`. -/
def INT_MAX : Int := 2 ^ 31 - 1

/-- An entry of a scatter-gather list. -/
structure Scatterlist where
  /-- `length`. -/
  length : Nat
  /-- The bytes at `sg_virt`, or null. -/
  virt : Option (List UInt8)
  deriving DecidableEq

/-- `struct usb_device`. -/
structure UsbDevice where
  /-- `native`, null or the number of a native device. -/
  native : Option Nat
  deriving DecidableEq

/-- A native pipe. -/
structure UsbPipe where
  /-- The native device it belongs to. -/
  nativeDev : Nat
  /-- Endpoint address. -/
  address : BitVec 8
  /-- Transfer type of the endpoint. -/
  xferType : BitVec 8
  /-- `maxpacket`. -/
  maxpacket : Int
  deriving DecidableEq

/-- `struct urb`. -/
structure Urb where
  /-- `dev`. -/
  dev : Option UsbDevice
  /-- `pipe`. -/
  pipe : BitVec 32
  /-- The bytes at `transfer_buffer`, or null. -/
  transferBuffer : Option (List UInt8)
  /-- `transfer_buffer_length`. -/
  transferBufferLength : Int
  /-- `actual_length`. -/
  actualLength : Int
  /-- `status`. -/
  status : Int
  /-- `transfer_flags`. -/
  transferFlags : BitVec 32
  /-- Whether `complete` is set. -/
  complete : Bool
  /-- Whether `hcpriv` is set. -/
  hcpriv : Bool
  /-- The entries of `sg`. -/
  sg : List Scatterlist
  /-- `submitted`. -/
  submitted : Bool
  /-- `killed`. -/
  killed : Bool
  /-- `refcount`. -/
  refcount : Int

/-- An endpoint of a bound interface: its wrapper and its index there. -/
abbrev Endpoint := Nat × Nat

/-- `lcompat_usb_urb_state_t` without its link in the pending queue. -/
structure UrbState where
  /-- `native_pipe`. -/
  nativePipe : Option UsbPipe
  /-- `owns_pipe`. -/
  ownsPipe : Bool
  /-- `completed_length`. -/
  completedLength : Int
  /-- `submitted_length`. -/
  submittedLength : Int
  /-- `submitted_sg`. -/
  submittedSg : Bool
  /-- `zlp_pending`. -/
  zlpPending : Bool
  /-- The bytes of `sg_buffer`, or null. -/
  sgBuffer : Option (List UInt8)
  /-- `sg_buffer_len`. -/
  sgBufferLen : Int
  /-- `queue_owner` with `queue_ep_index`, none when the owner is null. -/
  queue : Option Endpoint
  /-- `queued`. -/
  queued : Bool
  deriving DecidableEq

/-- The state `kzalloc` returns. -/
def UrbState.zero : UrbState where
  nativePipe := none
  ownsPipe := false
  completedLength := 0
  submittedLength := 0
  submittedSg := false
  zlpPending := false
  sgBuffer := none
  sgBufferLen := 0
  queue := none
  queued := false

/-- The event codes of the native controller driver. -/
structure EventCodes where
  /-- `EVENT_SUCCESS`. -/
  success : Int
  /-- `EVENT_SHORT_PACKET`. -/
  shortPacket : Int
  /-- `EVENT_STALL`. -/
  stall : Int
  /-- `EVENT_BABBLE`. -/
  babble : Int
  /-- `EVENT_TIMEOUT`. -/
  timeout : Int
  /-- `EVENT_ERROR`. -/
  error : Int

/-- `USB_DIR_IN` as a bit of a pipe value. -/
def USB_DIR_IN : BitVec 32 := 0x80

/-- `URB_ZERO_PACKET`. -/
def URB_ZERO_PACKET : BitVec 32 := 1

/-- `lcompat_usb_pipe_ep`. -/
def pipeEp (pipe : BitVec 32) : BitVec 32 := pipe &&& 0xff

/-- `lcompat_usb_pipe_type`. -/
def pipeType (pipe : BitVec 32) : BitVec 32 := (pipe >>> 16) &&& 0xff

/-- `lcompat_usb_pipe_dir_in`. -/
def pipeDirIn (pipe : BitVec 32) : Bool := pipe &&& USB_DIR_IN != 0

/-- `(int)` of an `unsigned int`. -/
def castInt (n : Nat) : Int := if n < 2 ^ 31 then n else n - 2 ^ 32

/-- The loop of `lcompat_usb_sg_total_len` from a running total. -/
def sgTotalLenFrom (total : Int) : List Scatterlist → Int
  | [] => total
  | entry :: rest =>
    if entry.virt = none then -EINVAL
    else if INT_MAX - total < entry.length then -EOVERFLOW
    else sgTotalLenFrom (total + entry.length) rest

/-- `lcompat_usb_sg_total_len`. -/
def sgTotalLen (urb : Urb) : Int := sgTotalLenFrom 0 urb.sg

/-- `lcompat_usb_urb_data_len`. -/
def urbDataLen (urb : Urb) : Int :=
  if urb.sg = [] then urb.transferBufferLength
  else if sgTotalLen urb < 0 then sgTotalLen urb
  else if urb.transferBufferLength ≤ 0 then sgTotalLen urb
  else if sgTotalLen urb < urb.transferBufferLength then -EINVAL
  else urb.transferBufferLength

/-- The loop of `lcompat_usb_sg_copy_from_urb`: the bytes gathered, and whether the loop ran
to its end. -/
def sgGather (copied len : Int) : List Scatterlist → List UInt8 × Int
  | [] => ([], if copied = len then 0 else -EINVAL)
  | entry :: rest =>
    if len ≤ copied then ([], if copied = len then 0 else -EINVAL)
    else match entry.virt with
      | none => ([], -EINVAL)
      | some src =>
        let fragLen := min (castInt entry.length) (len - copied)
        let (bytes, ret) := sgGather (copied + fragLen) len rest
        (src.take fragLen.toNat ++ bytes, ret)

/-- `lcompat_usb_sg_copy_from_urb` into a buffer. -/
def sgCopyFromUrb (urb : Urb) (dst : Option (List UInt8)) (len : Int) :
    Option (List UInt8) × Int :=
  match dst with
  | none => (none, -EINVAL)
  | some dst =>
    if len < 0 then (some dst, -EINVAL)
    else
      let (bytes, ret) := sgGather 0 len urb.sg
      (some (bytes ++ dst.drop bytes.length), ret)

/-- The loop of `lcompat_usb_sg_copy_to_urb`: the entries written, and the result. -/
def sgScatter (src : List UInt8) (copied len : Int) :
    List Scatterlist → List Scatterlist × Int
  | [] => ([], if copied = len then 0 else -EINVAL)
  | entry :: rest =>
    if len ≤ copied then (entry :: rest, if copied = len then 0 else -EINVAL)
    else match entry.virt with
      | none => (entry :: rest, -EINVAL)
      | some dst =>
        let fragLen := min (castInt entry.length) (len - copied)
        let frag := (src.drop copied.toNat).take fragLen.toNat
        let (entries, ret) := sgScatter src (copied + fragLen) len rest
        ({ entry with virt := some (frag ++ dst.drop frag.length) } :: entries, ret)

/-- `lcompat_usb_sg_copy_to_urb` from a buffer. -/
def sgCopyToUrb (urb : Urb) (src : Option (List UInt8)) (len : Int) :
    List Scatterlist × Int :=
  match src with
  | none => (urb.sg, -EINVAL)
  | some src => if len < 0 then (urb.sg, -EINVAL) else sgScatter src 0 len urb.sg

/-- `lcompat_usb_urb_status`. -/
def urbStatus (codes : EventCodes) (status : Int) : Int :=
  if status = codes.success ∨ status = codes.shortPacket then 0
  else if status = codes.stall then -EPIPE
  else if status = codes.babble then -EOVERFLOW
  else if status = codes.timeout then -ETIMEDOUT
  else if status = codes.error then -EPROTO
  else if status < 0 then status
  else - EIO

/-- `lcompat_usb_prepare_urb_buffer`, given whether `krealloc` succeeds: the new state and
either the length to submit or the error. -/
def prepareUrbBuffer (urb : Urb) (state : UrbState) (reallocated : Bool) :
    UrbState × Except Int Int :=
  let len := urbDataLen urb
  if len < 0 then (state, .error len)
  else
    let state := { state with submittedLength := len, submittedSg := urb.sg != [] }
    if !state.submittedSg then (state, .ok len)
    else if state.sgBufferLen < len ∧ !reallocated then (state, .error (-ENOMEM))
    else
      let state := if state.sgBufferLen < len then
          { state with sgBuffer := some (state.sgBuffer.getD []), sgBufferLen := len }
        else state
      if pipeDirIn urb.pipe then (state, .ok len)
      else match sgCopyFromUrb urb state.sgBuffer len with
        | (buffer, ret) =>
          ({ state with sgBuffer := buffer }, if ret < 0 then .error ret else .ok len)

end Lcompat.Usb
