import Lcompat.Usb.Scatter
import Lcompat.Usb.Holding

/-!
# One submission of a URB

The data of a URB from its preparation to its callback, with nobody else at the URB in between: the
steps of `lcompat_usb_urb_complete` are taken one behind the other for each transfer that the native
driver completes, and the lengths that are handed to `usb_submit_xfer` are listed.
-/

namespace Lcompat.Usb

open Lcompat.Logic

variable {U : Type} [DecidableEq U]

/-- A transfer is completed: its status, its length, what it received, and what the native kernel
answers meanwhile. -/
structure Event where
  /-- The status. -/
  status : Int
  /-- The actual length. -/
  actual : Int
  /-- The bytes that an IN transfer received. -/
  data : List UInt8
  /-- The answers of the native kernel. -/
  env : Env

/-- Where some steps lead. -/
structure Stop (U : Type) where
  /-- The memory. -/
  memory : Memory U
  /-- The lengths with which `usb_submit_xfer` was called. -/
  calls : List Int
  /-- Where the callback is considered, unless the function has returned before. -/
  due : Option (CompletePc U)

/-- The steps of `lcompat_usb_urb_complete` before the callback is considered. -/
def CompletePc.stores : CompletePc U → Bool
  | .check _ _ | .zlp _ | .copy _ _ | .cas _ _ | .store _ _ => true
  | _ => false

/-- The lengths with which a step calls `usb_submit_xfer`. -/
def CompletePc.calls (m : Memory U) (u : U) : CompletePc U → List Int
  | .zlp _ => if (m.states u).nativePipe = none then [] else [0]
  | _ => []

/-- Steps of `lcompat_usb_urb_complete`, one behind the other, until the callback is considered or
the function returns. -/
def completeAlone (bus : Bus) (u : U) (env : Env) : Nat → CompletePc U → Memory U → Stop U
  | 0, pc, m => ⟨m, [], some pc⟩
  | turns + 1, pc, m =>
    if pc.stores then
      match urbComplete bus u env m pc with
      | (m', .goto next) =>
        let stop := completeAlone bus u env turns next m'
        { stop with calls := pc.calls m u ++ stop.calls }
      | (m', .ret _) => ⟨m', pc.calls m u, none⟩
    else ⟨m, [], some pc⟩

/-- A transfer is completed, and `lcompat_usb_urb_complete` runs up to the callback. -/
def nativeComplete (bus : Bus) (u : U) (event : Event) (m : Memory U) : Stop U :=
  completeAlone bus u event.env 5 (.check event.status event.actual) (deliver u event.data m)

/-- Transfers are completed as long as there are some, until the callback is considered. -/
def completions (bus : Bus) (u : U) : List Event → Memory U → Stop U
  | [], m => ⟨m, [], none⟩
  | event :: events, m =>
    if m.inFlight u = 0 then ⟨m, [], none⟩
    else
      let stop := nativeComplete bus u event m
      if stop.due.isSome then stop
      else
        let rest := completions bus u events stop.memory
        { rest with calls := stop.calls ++ rest.calls }

/-- The length with which `usb_submit_xfer` is called for the data of a URB, if it is. -/
def dataCalls (u : U) (env : Env) (m : Memory U) : List Int :=
  match prepareUrbBuffer (m.urbs u) (m.states u) env.allocated with
  | (_, .error _) => []
  | (state, .ok len) => if state.nativePipe = none then [] else [len]

/-- The data of a URB is submitted, and its transfers are completed. -/
def submission (bus : Bus) (u : U) (env : Env) (events : List Event) (m : Memory U) : Stop U :=
  let (m', ret) := prepareAndSubmit u env m
  if ret = 0 then
    let stop := completions bus u events m'
    { stop with calls := dataCalls u env m ++ stop.calls }
  else ⟨m', dataCalls u env m, none⟩

/-- A URB that `usb_submit_urb` has marked and given a pipe, and that has no transfer yet. -/
structure Marked (m : Memory U) (u : U) (pipe : UsbPipe) : Prop where
  /-- It is submitted. -/
  submitted : (m.urbs u).submitted = true
  /-- It has a pipe. -/
  pipe : (m.states u).nativePipe = some pipe
  /-- `zlp_pending` is not set. -/
  zlp : (m.states u).zlpPending = false
  /-- No transfer is in flight. -/
  idle : m.inFlight u = 0

/-- A transfer of a URB is in flight. -/
structure Flying (m : Memory U) (u : U) (pipe : UsbPipe) : Prop where
  /-- The URB is submitted. -/
  submitted : (m.urbs u).submitted = true
  /-- It has a pipe. -/
  pipe : (m.states u).nativePipe = some pipe
  /-- There is one transfer. -/
  flying : m.inFlight u = 1

/-- What a completion makes of a status and a length. -/
def clamp (codes : EventCodes) (submitted status actual : Int) : Int × Int :=
  if urbStatus codes status = 0 ∧ submitted < actual then (-EOVERFLOW, submitted)
  else (urbStatus codes status, actual)

/-- What a completion copies to the list of a URB, and the status after that. -/
def copyBack (m : Memory U) (u : U) (mapped actual : Int) : List Scatterlist × Int :=
  if mapped = 0 ∧ pipeDirIn (m.urbs u).pipe ∧ 0 < actual ∧ (m.states u).submittedSg then
    sgCopyToUrb (m.urbs u) (m.states u).sgBuffer actual
  else ((m.urbs u).sg, mapped)

section Steps

variable {bus : Bus} {u : U} {env : Env} {m : Memory U}

/-- The preparation of a buffer that succeeds. -/
theorem prepareUrbBuffer_ok {urb : Urb} {state state' : UrbState} {reallocated : Bool} {len : Int}
    (prepared : prepareUrbBuffer urb state reallocated = (state', .ok len)) :
    len = urbDataLen urb ∧ 0 ≤ len ∧ state'.submittedLength = len ∧
      state'.submittedSg = (urb.sg != []) ∧ state'.nativePipe = state.nativePipe ∧
      state'.zlpPending = state.zlpPending := by
  -- What follows the reallocation leaves these fields as they are.
  have rest : ∀ grown : UrbState,
      (if pipeDirIn urb.pipe then (grown, Except.ok (urbDataLen urb))
        else
          ({ grown with sgBuffer := (sgCopyFromUrb urb grown.sgBuffer (urbDataLen urb)).1 },
            if (sgCopyFromUrb urb grown.sgBuffer (urbDataLen urb)).2 < 0 then
              .error (sgCopyFromUrb urb grown.sgBuffer (urbDataLen urb)).2
            else .ok (urbDataLen urb))) = (state', .ok len) →
      grown.submittedLength = urbDataLen urb → grown.submittedSg = (urb.sg != []) →
      grown.nativePipe = state.nativePipe → grown.zlpPending = state.zlpPending →
      len = urbDataLen urb ∧ state'.submittedLength = len ∧
        state'.submittedSg = (urb.sg != []) ∧ state'.nativePipe = state.nativePipe ∧
        state'.zlpPending = state.zlpPending := by
    intro grown same length sg pipe zlp
    split at same
    · obtain ⟨rfl, answer⟩ := Prod.mk.inj same
      obtain rfl := Except.ok.inj answer
      exact ⟨rfl, length, sg, pipe, zlp⟩
    · obtain ⟨rfl, answer⟩ := Prod.mk.inj same
      split at answer
      · cases answer
      · obtain rfl := Except.ok.inj answer
        exact ⟨rfl, length, sg, pipe, zlp⟩
  unfold prepareUrbBuffer at prepared
  dsimp only at prepared
  split at prepared
  · cases (Prod.mk.inj prepared).2
  · next least =>
    split at prepared
    · obtain ⟨rfl, same⟩ := Prod.mk.inj prepared
      obtain rfl := Except.ok.inj same
      exact ⟨rfl, Int.not_lt.mp least, rfl, rfl, rfl, rfl⟩
    · split at prepared
      · cases (Prod.mk.inj prepared).2
      · by_cases grow : state.sgBufferLen < urbDataLen urb
        · rw [if_pos grow] at prepared
          obtain ⟨rfl, others⟩ := rest _ prepared rfl rfl rfl rfl
          exact ⟨rfl, Int.not_lt.mp least, others⟩
        · rw [if_neg grow] at prepared
          obtain ⟨rfl, others⟩ := rest _ prepared rfl rfl rfl rfl
          exact ⟨rfl, Int.not_lt.mp least, others⟩

/-- A step that goes on. -/
theorem completeAlone_goto {turns : Nat} {pc next : CompletePc U} {m' : Memory U}
    (stores : pc.stores = true) (step : urbComplete bus u env m pc = (m', .goto next)) :
    completeAlone bus u env (turns + 1) pc m =
      ⟨(completeAlone bus u env turns next m').memory,
        pc.calls m u ++ (completeAlone bus u env turns next m').calls,
        (completeAlone bus u env turns next m').due⟩ := by
  rw [completeAlone, if_pos stores, step]

/-- A step that returns. -/
theorem completeAlone_ret {turns : Nat} {pc : CompletePc U} {m' : Memory U} {value : Unit}
    (stores : pc.stores = true) (step : urbComplete bus u env m pc = (m', .ret value)) :
    completeAlone bus u env (turns + 1) pc m = ⟨m', pc.calls m u, none⟩ := by
  rw [completeAlone, if_pos stores, step]

/-- From the copy on, a completion stores the status and the length. -/
theorem completeAlone_copy (submitted : (m.urbs u).submitted = true) (turns : Nat)
    (mapped actual : Int) :
    let stop := completeAlone bus u env (turns + 3) (.copy mapped actual) m
    stop.calls = [] ∧ stop.due.isSome = true ∧ stop.memory.urbs u =
      { m.urbs u with
        sg := (copyBack m u mapped actual).1
        submitted := false
        status := (copyBack m u mapped actual).2
        actualLength := actual } := by
  have ends : ∀ (m : Memory U) (pc : CompletePc U), pc = .killed ∨ pc = .pop →
      completeAlone bus u env turns pc m = ⟨m, [], some pc⟩ := by
    rintro m pc (rfl | rfl) <;> cases turns <;> rfl
  have stored : ∀ (m : Memory U) (status : Int), (m.urbs u).submitted = true →
      let stop := completeAlone bus u env (turns + 2) (.cas status actual) m
      stop.calls = [] ∧ stop.due.isSome = true ∧ stop.memory.urbs u =
        { m.urbs u with submitted := false, status := status, actualLength := actual } := by
    intro m status here
    have swapped : urbComplete bus u env m (.cas status actual) =
        (m.setUrb u fun urb => { urb with submitted := false }, .goto (.store status actual)) := by
      rw [urbComplete, if_pos here]
    rw [completeAlone_goto rfl swapped, completeAlone_goto rfl rfl, ends]
    · simp [CompletePc.calls, Memory.setUrb]
    · split
      · exact .inl rfl
      · exact .inr rfl
  by_cases copies : mapped = 0 ∧ pipeDirIn (m.urbs u).pipe ∧ 0 < actual ∧
      (m.states u).submittedSg
  · have step : urbComplete bus u env m (.copy mapped actual) =
        (m.setUrb u fun urb => { urb with sg := (copyBack m u mapped actual).1 },
          .goto (.cas (copyBack m u mapped actual).2 actual)) := by
      simp only [urbComplete, copyBack, if_pos copies]
    obtain ⟨calls, due, urb⟩ := stored
      (m.setUrb u fun urb => { urb with sg := (copyBack m u mapped actual).1 })
      (copyBack m u mapped actual).2 (by simp [Memory.setUrb, submitted])
    rw [completeAlone_goto rfl step]
    refine ⟨calls, due, urb.trans ?_⟩
    simp only [Memory.setUrb, Function.update_self]
  · have step : urbComplete bus u env m (.copy mapped actual) =
        (m, .goto (.cas mapped actual)) := by
      simp only [urbComplete, if_neg copies]
    rw [completeAlone_goto rfl step, copyBack, if_neg copies]
    exact stored m mapped submitted

/-- The first step of a completion in the first phase, without a zero-length packet. -/
theorem completeAlone_plain (submitted : (m.urbs u).submitted = true)
    (first : (m.states u).zlpPending = false) {turns : Nat} {status actual : Int}
    (plain : zeroPacket (m.urbs u) (m.states u)
      (clamp bus.codes (m.states u).submittedLength status actual).1
      (clamp bus.codes (m.states u).submittedLength status actual).2 = false) :
    completeAlone bus u env (turns + 1) (.check status actual) m =
      completeAlone bus u env turns
        (.copy (clamp bus.codes (m.states u).submittedLength status actual).1
          (clamp bus.codes (m.states u).submittedLength status actual).2) m := by
  have step : urbComplete bus u env m (.check status actual) =
      (m, .goto (.copy (clamp bus.codes (m.states u).submittedLength status actual).1
        (clamp bus.codes (m.states u).submittedLength status actual).2)) := by
    unfold clamp at plain ⊢
    simp only [urbComplete, submitted, first, Bool.not_true, Bool.false_eq_true, if_false]
    split at plain <;> rename_i past
    · simp only [past, and_self, if_true] at plain ⊢
      simp only [plain, Bool.false_eq_true, if_false]
    · simp only [past, if_false] at plain ⊢
      simp only [plain, Bool.false_eq_true, if_false]
  rw [completeAlone_goto rfl step]
  rfl

/-- The first step of a completion in the second phase. -/
theorem completeAlone_second (submitted : (m.urbs u).submitted = true)
    (second : (m.states u).zlpPending = true) {turns : Nat} {status actual : Int} :
    completeAlone bus u env (turns + 1) (.check status actual) m =
      completeAlone bus u env turns
        (.copy (clamp bus.codes (m.states u).submittedLength status actual).1
          (m.states u).completedLength)
        (m.setState u fun state => { state with zlpPending := false }) := by
  have step : urbComplete bus u env m (.check status actual) =
      (m.setState u fun state => { state with zlpPending := false },
        .goto (.copy (clamp bus.codes (m.states u).submittedLength status actual).1
          (m.states u).completedLength)) := by
    unfold clamp
    simp only [urbComplete, submitted, second, Bool.not_true, Bool.false_eq_true, if_false, if_true]
    split <;> rfl
  rw [completeAlone_goto rfl step]
  rfl

/-- The first step of a completion in the first phase, with a zero-length packet. -/
theorem completeAlone_packet (submitted : (m.urbs u).submitted = true)
    (first : (m.states u).zlpPending = false) {turns : Nat} {status actual : Int}
    (packet : zeroPacket (m.urbs u) (m.states u)
      (clamp bus.codes (m.states u).submittedLength status actual).1
      (clamp bus.codes (m.states u).submittedLength status actual).2 = true) :
    completeAlone bus u env (turns + 1) (.check status actual) m =
      completeAlone bus u env turns
        (.zlp (clamp bus.codes (m.states u).submittedLength status actual).2)
        (m.setState u fun state => { state with
          completedLength := (clamp bus.codes (m.states u).submittedLength status actual).2
          zlpPending := true }) := by
  have step : urbComplete bus u env m (.check status actual) =
      (m.setState u fun state => { state with
          completedLength := (clamp bus.codes (m.states u).submittedLength status actual).2
          zlpPending := true },
        .goto (.zlp (clamp bus.codes (m.states u).submittedLength status actual).2)) := by
    unfold clamp at packet ⊢
    simp only [urbComplete, submitted, first, Bool.not_true, Bool.false_eq_true, if_false]
    split at packet <;> rename_i past
    · simp only [past, and_self, if_true] at packet ⊢
      simp only [packet, if_true]
    · simp only [past, if_false] at packet ⊢
      simp only [packet, if_true]
  rw [completeAlone_goto rfl step]
  rfl

/-- A zero-length packet that the native driver accepts. -/
theorem completeAlone_zlp_accepted {pipe : UsbPipe}
    (piped : (m.states u).nativePipe = some pipe) (accepted : env.refused = none) {turns : Nat}
    {actual : Int} :
    completeAlone bus u env (turns + 1) (.zlp actual) m =
      ⟨(m.setState u fun state => { state with submittedLength := 0 }).setInFlight u (· + 1), [0],
        none⟩ := by
  have some_ : ¬(m.states u).nativePipe = none := by
    rw [piped]
    exact Option.some_ne_none pipe
  have step : urbComplete bus u env m (.zlp actual) =
      ((m.setState u fun state => { state with submittedLength := 0 }).setInFlight u (· + 1),
        .ret ()) := by
    simp only [urbComplete, submitNativeUrb, if_neg some_, accepted, if_true]
  rw [completeAlone_ret rfl step, CompletePc.calls, if_neg some_]

/-- A zero-length packet that the native driver refuses. -/
theorem completeAlone_zlp_refused {pipe : UsbPipe} {code : Nat}
    (piped : (m.states u).nativePipe = some pipe) (refused : env.refused = some code)
    {turns : Nat} {actual : Int} :
    let m' := (m.setState u fun state => { state with submittedLength := 0 }).setState u
      fun state => { state with zlpPending := false }
    let next := CompletePc.copy (urbStatus bus.codes (-(code + 1))) actual
    completeAlone bus u env (turns + 1) (.zlp actual) m =
      ⟨(completeAlone bus u env turns next m').memory,
        [0] ++ (completeAlone bus u env turns next m').calls,
        (completeAlone bus u env turns next m').due⟩ := by
  have some_ : ¬(m.states u).nativePipe = none := by
    rw [piped]
    exact Option.some_ne_none pipe
  have negative : ¬(-((code : Int) + 1) = 0) := by omega
  have step : urbComplete bus u env m (.zlp actual) =
      ((m.setState u fun state => { state with submittedLength := 0 }).setState u
          fun state => { state with zlpPending := false },
        .goto (.copy (urbStatus bus.codes (-(code + 1))) actual)) := by
    simp only [urbComplete, submitNativeUrb, if_neg some_, refused, if_neg negative]
  rw [completeAlone_goto rfl step, CompletePc.calls, if_neg some_]

end Steps

section Phases

variable {bus : Bus} {u : U} {m : Memory U} {pipe : UsbPipe} {event : Event}

/-- The native driver leaves a URB as it is, except for its buffer. -/
theorem deliver_urb (u : U) (data : List UInt8) (m : Memory U) :
    (deliver u data m).urbs u =
      { m.urbs u with transferBuffer := ((deliver u data m).urbs u).transferBuffer } := by
  unfold deliver
  dsimp only
  split
  · split
    · rfl
    · simp [Memory.setUrb, Memory.setInFlight]
  · rfl

/-- It leaves the private state as it is, except for `sg_buffer`. -/
theorem deliver_state (u : U) (data : List UInt8) (m : Memory U) :
    (deliver u data m).states u =
      { m.states u with sgBuffer := ((deliver u data m).states u).sgBuffer } := by
  unfold deliver
  dsimp only
  split
  · split
    · simp [Memory.setState, Memory.setInFlight]
    · rfl
  · rfl

/-- One transfer less is in flight. -/
theorem deliver_inFlight (u : U) (data : List UInt8) (m : Memory U) :
    (deliver u data m).inFlight u = m.inFlight u - 1 := by
  unfold deliver
  dsimp only
  split
  · split <;> simp [Memory.setState, Memory.setUrb, Memory.setInFlight]
  · simp [Memory.setInFlight]

/-- What decides on a zero-length packet is as before. -/
theorem zeroPacket_deliver (data : List UInt8) (mapped actual : Int) :
    zeroPacket ((deliver u data m).urbs u) ((deliver u data m).states u) mapped actual =
      zeroPacket (m.urbs u) (m.states u) mapped actual := by
  rw [deliver_urb, deliver_state]
  rfl

/-- A completion in the first phase, without a zero-length packet. -/
theorem nativeComplete_plain (flying : Flying m u pipe) (first : (m.states u).zlpPending = false)
    (plain : zeroPacket (m.urbs u) (m.states u)
      (clamp bus.codes (m.states u).submittedLength event.status event.actual).1
      (clamp bus.codes (m.states u).submittedLength event.status event.actual).2 = false) :
    let result := clamp bus.codes (m.states u).submittedLength event.status event.actual
    let copied := copyBack (deliver u event.data m) u result.1 result.2
    let stop := nativeComplete bus u event m
    stop.calls = [] ∧ stop.due.isSome = true ∧ stop.memory.urbs u =
      { (deliver u event.data m).urbs u with
        sg := copied.1, submitted := false, status := copied.2, actualLength := result.2 } := by
  have length : ((deliver u event.data m).states u).submittedLength =
      (m.states u).submittedLength := by rw [deliver_state]
  have submitted : ((deliver u event.data m).urbs u).submitted = true := by
    rw [deliver_urb]
    exact flying.submitted
  have first' : ((deliver u event.data m).states u).zlpPending = false := by
    rw [deliver_state]
    exact first
  have begins := @completeAlone_plain _ _ bus u event.env _ submitted first' 4 event.status
    event.actual (by rw [length, zeroPacket_deliver]; exact plain)
  rw [length] at begins
  dsimp only
  rw [nativeComplete, begins]
  exact completeAlone_copy submitted 1 _ _

/-- A completion in the second phase. -/
theorem nativeComplete_second (flying : Flying m u pipe) (second : (m.states u).zlpPending = true)
    (out : pipeDirIn (m.urbs u).pipe = false) :
    let stop := nativeComplete bus u event m
    stop.calls = [] ∧ stop.due.isSome = true ∧
      (stop.memory.urbs u).actualLength = (m.states u).completedLength ∧
      (stop.memory.urbs u).status =
        (clamp bus.codes (m.states u).submittedLength event.status event.actual).1 := by
  have state := deliver_state u event.data m
  have submitted : ((deliver u event.data m).urbs u).submitted = true := by
    rw [deliver_urb]
    exact flying.submitted
  have second' : ((deliver u event.data m).states u).zlpPending = true := by
    rw [state]
    exact second
  have begins := @completeAlone_second _ _ bus u event.env _ submitted second' 4 event.status
    event.actual
  obtain ⟨calls, due, urb⟩ := @completeAlone_copy _ _ bus u event.env
    ((deliver u event.data m).setState u fun state => { state with zlpPending := false })
    submitted 1 (clamp bus.codes ((deliver u event.data m).states u).submittedLength event.status
      event.actual).1 ((deliver u event.data m).states u).completedLength
  have away : pipeDirIn (((deliver u event.data m).setState u fun state =>
      { state with zlpPending := false }).urbs u).pipe = false := by
    show pipeDirIn ((deliver u event.data m).urbs u).pipe = false
    rw [deliver_urb]
    exact out
  dsimp only
  rw [nativeComplete, begins]
  refine ⟨calls, due, ?_, ?_⟩
  · rw [urb, state]
  · rw [urb, copyBack, if_neg (by rw [away]; simp), state]

/-- A completion in the first phase, with a zero-length packet. -/
theorem nativeComplete_packet (flying : Flying m u pipe) (first : (m.states u).zlpPending = false)
    (out : pipeDirIn (m.urbs u).pipe = false)
    (packet : zeroPacket (m.urbs u) (m.states u)
      (clamp bus.codes (m.states u).submittedLength event.status event.actual).1
      (clamp bus.codes (m.states u).submittedLength event.status event.actual).2 = true) :
    let result := clamp bus.codes (m.states u).submittedLength event.status event.actual
    let stop := nativeComplete bus u event m
    stop.calls = [0] ∧
      match event.env.refused with
      | none => stop.due = none ∧ Flying stop.memory u pipe ∧
        pipeDirIn (stop.memory.urbs u).pipe = false ∧ (stop.memory.states u).zlpPending = true ∧
        (stop.memory.states u).completedLength = result.2 ∧
        (stop.memory.states u).submittedLength = 0
      | some code => stop.due.isSome = true ∧ (stop.memory.urbs u).actualLength = result.2 ∧
        (stop.memory.urbs u).status = urbStatus bus.codes (-(code + 1)) := by
  have state := deliver_state u event.data m
  have urb := deliver_urb u event.data m
  have length : ((deliver u event.data m).states u).submittedLength =
      (m.states u).submittedLength := by rw [state]
  have submitted : ((deliver u event.data m).urbs u).submitted = true := by
    rw [urb]
    exact flying.submitted
  have first' : ((deliver u event.data m).states u).zlpPending = false := by
    rw [state]
    exact first
  have piped : ((deliver u event.data m).states u).nativePipe = some pipe := by
    rw [state]
    exact flying.pipe
  have away : pipeDirIn ((deliver u event.data m).urbs u).pipe = false := by
    rw [urb]
    exact out
  have begins := @completeAlone_packet _ _ bus u event.env _ submitted first' 4 event.status
    event.actual (by rw [length, zeroPacket_deliver]; exact packet)
  rw [length] at begins
  dsimp only
  rw [nativeComplete, begins]
  generalize clamp bus.codes (m.states u).submittedLength event.status event.actual = result
  have piped' : (((deliver u event.data m).setState u fun state => { state with
      completedLength := result.2, zlpPending := true }).states u).nativePipe = some pipe := by
    simpa [Memory.setState] using piped
  cases answer : event.env.refused with
  | none =>
    rw [completeAlone_zlp_accepted piped' answer]
    refine ⟨rfl, rfl, ⟨submitted, ?_, ?_⟩, away, ?_, ?_, ?_⟩
    · simpa [Memory.setState, Memory.setInFlight] using piped
    · simp [Memory.setState, Memory.setInFlight, deliver_inFlight, flying.flying]
    · simp [Memory.setState, Memory.setInFlight]
    · simp [Memory.setState, Memory.setInFlight]
    · simp [Memory.setState, Memory.setInFlight]
  | some code =>
    rw [completeAlone_zlp_refused piped' answer]
    obtain ⟨calls, due, stored⟩ := @completeAlone_copy _ _ bus u event.env
      ((((deliver u event.data m).setState u fun state => { state with
        completedLength := result.2, zlpPending := true }).setState u fun state =>
          { state with submittedLength := 0 }).setState u fun state =>
            { state with zlpPending := false })
      submitted 0 (urbStatus bus.codes (-(code + 1))) result.2
    refine ⟨?_, due, ?_, ?_⟩
    · dsimp only
      rw [calls]
      rfl
    · dsimp only
      rw [stored]
    · dsimp only
      rw [stored, copyBack, if_neg]
      rintro ⟨-, inwards, -⟩
      exact absurd (inwards.symm.trans away) (by decide)

end Phases

end Lcompat.Usb
