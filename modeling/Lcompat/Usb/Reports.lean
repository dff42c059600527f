import Lcompat.Usb.Transfer

/-!
# What callbacks see

A submission comes to at most two native transfers: that of the data, and a zero-length packet that
ends the data of an OUT transfer. The condition for the packet looks at `transfer_buffer_length`,
which is not the length of the data where a scatter-gather list is given without it. A length that
comes with an error is stored as it is.
-/

namespace Lcompat.Usb

open Lcompat.Logic

variable {U : Type} [DecidableEq U]

/-- The data of a URB asks for a zero-length packet. -/
structure AsksPacket (urb : Urb) (pipe : UsbPipe) : Prop where
  /-- `URB_ZERO_PACKET` is set. -/
  flag : urb.transferFlags &&& URB_ZERO_PACKET ≠ 0
  /-- There is some data. -/
  positive : 0 < urbDataLen urb
  /-- The packets of the pipe have a size. -/
  sized : 0 < pipe.maxpacket
  /-- The data fills some packets. -/
  multiple : pipe.maxpacket ∣ urbDataLen urb

/-- The transfer of the data of a URB completes fully, without an error. -/
def CompletesFully (bus : Bus) (u : U) (env : Env) (events : List Event) (m : Memory U) : Prop :=
  (prepareAndSubmit u env m).2 = 0 ∧ ∃ event rest, events = event :: rest ∧
    urbStatus bus.codes event.status = 0 ∧ event.actual = urbDataLen (m.urbs u)

/-- What should come to the data of an OUT URB: a zero-length packet, if it is asked for and the
data completes fully; then the callback sees the length of the data. -/
def PacketSent (bus : Bus) (u : U) (pipe : UsbPipe) (env : Env) (events : List Event)
    (m : Memory U) : Prop :=
  let stop := submission bus u env events m
  (AsksPacket (m.urbs u) pipe ∧ CompletesFully bus u env events m →
    stop.calls = [urbDataLen (m.urbs u), 0] ∧
      (stop.due.isSome = true → (stop.memory.urbs u).actualLength = urbDataLen (m.urbs u))) ∧
  (¬(AsksPacket (m.urbs u) pipe ∧ CompletesFully bus u env events m) →
    stop.calls = dataCalls u env m)

/-- A list is given, and its length is not in `transfer_buffer_length`. -/
def Unmeasured (urb : Urb) : Prop := urb.sg ≠ [] ∧ urb.transferBufferLength ≤ 0

section Submissions

variable {bus : Bus} {u : U} {m : Memory U} {pipe : UsbPipe} {env : Env}

/-- The data of a URB is in flight when it has been submitted. -/
theorem Marked.launched (marked : Marked m u pipe) (accepted : (prepareAndSubmit u env m).2 = 0) :
    Flying (prepareAndSubmit u env m).1 u pipe ∧ dataCalls u env m = [urbDataLen (m.urbs u)] ∧
      0 ≤ urbDataLen (m.urbs u) ∧ (prepareAndSubmit u env m).1.urbs = m.urbs ∧
      ((prepareAndSubmit u env m).1.states u).submittedLength = urbDataLen (m.urbs u) ∧
      ((prepareAndSubmit u env m).1.states u).submittedSg = ((m.urbs u).sg != []) ∧
      ((prepareAndSubmit u env m).1.states u).zlpPending = false := by
  unfold prepareAndSubmit dataCalls at *
  rcases prepared : prepareUrbBuffer (m.urbs u) (m.states u) env.allocated with
    ⟨state, failed | len⟩
  · rw [prepared] at accepted
    have negative := (prepareUrbBuffer_spec (m.urbs u) (m.states u) env.allocated).2 failed
      (by rw [prepared])
    dsimp only at accepted
    omega
  · obtain ⟨rfl, least, length, sg, piped, zlp⟩ := prepareUrbBuffer_ok prepared
    have some_ : ¬state.nativePipe = none := by
      rw [piped, marked.pipe]
      exact Option.some_ne_none pipe
    rw [prepared] at accepted
    simp only [submitNativeUrb, Memory.setState, Function.update_self, if_neg some_] at accepted ⊢
    cases answer : env.refused with
    | none =>
      refine ⟨⟨marked.submitted, ?_, ?_⟩, trivial, least, rfl, ?_, ?_, ?_⟩
      · simp [Memory.setInFlight, piped, marked.pipe]
      · simp [Memory.setInFlight, marked.idle]
      · simp [Memory.setInFlight]
      · simp [Memory.setInFlight, sg]
      · simp [Memory.setInFlight, zlp, marked.zlp]
    | some code =>
      rw [answer] at accepted
      dsimp only at accepted
      omega

/-- Where `transfer_buffer_length` is positive, it is the length that is accepted. -/
theorem urbDataLen_of_pos {urb : Urb} (least : 0 ≤ urbDataLen urb)
    (positive : 0 < urb.transferBufferLength) : urbDataLen urb = urb.transferBufferLength := by
  by_cases bare : urb.sg = []
  · exact if_pos bare
  · unfold urbDataLen at *
    rw [if_neg bare] at least ⊢
    by_cases failed : sgTotalLen urb < 0
    · rw [if_pos failed] at least
      omega
    · rw [if_neg failed, if_neg (Int.not_le.mpr positive)] at least ⊢
      by_cases short : sgTotalLen urb < urb.transferBufferLength
      · rw [if_pos short] at least
        exact absurd least (by decide)
      · rw [if_neg short]

/-- When a completion goes on with a zero-length packet. -/
theorem zeroPacket_iff {urb : Urb} {state : UrbState} {status actual : Int}
    (out : pipeDirIn urb.pipe = false) (piped : state.nativePipe = some pipe)
    (least : 0 ≤ urbDataLen urb) :
    zeroPacket urb state (clamp bus.codes (urbDataLen urb) status actual).1
        (clamp bus.codes (urbDataLen urb) status actual).2 = true ↔
      AsksPacket urb pipe ∧ urbStatus bus.codes status = 0 ∧ actual = urbDataLen urb ∧
        ¬Unmeasured urb := by
  have failed : ¬(-EOVERFLOW = 0) := by decide
  unfold zeroPacket
  rw [piped, out]
  simp only [Bool.not_false, Bool.and_true, Bool.and_eq_true, beq_iff_eq, bne_iff_ne, ne_eq,
    decide_eq_true_eq]
  constructor
  · rintro ⟨⟨⟨mapped, flag⟩, positive⟩, ⟨sized, whole⟩, multiple⟩
    have same := urbDataLen_of_pos least positive
    unfold clamp at mapped whole multiple
    split at mapped <;> rename_i past
    · exact absurd mapped failed
    · rw [if_neg past] at whole multiple
      refine ⟨⟨flag, by omega, sized, ?_⟩, mapped, by omega, ?_⟩
      · rw [same, ← whole]
        exact Int.dvd_of_tmod_eq_zero multiple
      · rintro ⟨-, none⟩
        omega
  · rintro ⟨asks, good, whole, measured⟩
    have positive : 0 < urb.transferBufferLength := by
      by_contra none
      refine measured ⟨?_, by omega⟩
      intro bare
      have same : urbDataLen urb = urb.transferBufferLength := if_pos bare
      have some_ := asks.positive
      omega
    have same := urbDataLen_of_pos least positive
    have fits : ¬(urbStatus bus.codes status = 0 ∧ urbDataLen urb < actual) := by
      rintro ⟨-, past⟩
      omega
    simp only [clamp, if_neg fits]
    refine ⟨⟨⟨good, asks.flag⟩, positive⟩, ⟨asks.sized, by omega⟩, ?_⟩
    rw [whole]
    exact Int.tmod_eq_zero_of_dvd asks.multiple

/-- In the second phase the next completion is the last one, and the length is that of the data. -/
theorem completions_second (flying : Flying m u pipe) (second : (m.states u).zlpPending = true)
    (out : pipeDirIn (m.urbs u).pipe = false) (events : List Event) :
    let stop := completions bus u events m
    stop.calls = [] ∧ (stop.due.isSome = true →
      (stop.memory.urbs u).actualLength = (m.states u).completedLength ∧
        ∃ event rest, events = event :: rest ∧ (stop.memory.urbs u).status =
          (clamp bus.codes (m.states u).submittedLength event.status event.actual).1) := by
  cases events with
  | nil => exact ⟨rfl, fun due => by cases due⟩
  | cons event rest =>
    obtain ⟨calls, due, actual, status⟩ :=
      @nativeComplete_second _ _ bus u m pipe event flying second out
    have busy : ¬m.inFlight u = 0 := by
      rw [flying.flying]
      exact Nat.one_ne_zero
    dsimp only
    rw [completions, if_neg busy]
    dsimp only
    rw [if_pos due]
    exact ⟨calls, fun _ => ⟨actual, event, rest, rfl, status⟩⟩

/-- A completion that goes on with a zero-length packet: there is no further transfer, and the
callback sees the length of the data. -/
theorem completions_packet (flying : Flying m u pipe) (first : (m.states u).zlpPending = false)
    (out : pipeDirIn (m.urbs u).pipe = false) {event : Event} (rest : List Event)
    (packet : zeroPacket (m.urbs u) (m.states u)
      (clamp bus.codes (m.states u).submittedLength event.status event.actual).1
      (clamp bus.codes (m.states u).submittedLength event.status event.actual).2 = true) :
    let stop := completions bus u (event :: rest) m
    stop.calls = [0] ∧ (stop.due.isSome = true → (stop.memory.urbs u).actualLength =
      (clamp bus.codes (m.states u).submittedLength event.status event.actual).2 ∧
      ((∃ code, event.env.refused = some code ∧
          (stop.memory.urbs u).status = urbStatus bus.codes (-(code + 1))) ∨
        ∃ last events, event.env.refused = none ∧ rest = last :: events ∧
          (stop.memory.urbs u).status = (clamp bus.codes 0 last.status last.actual).1)) := by
  have busy : ¬m.inFlight u = 0 := by
    rw [flying.flying]
    exact Nat.one_ne_zero
  obtain ⟨calls, goes⟩ := @nativeComplete_packet _ _ bus u m pipe event flying first out packet
  dsimp only
  rw [completions, if_neg busy]
  dsimp only
  cases answer : event.env.refused with
  | some code =>
    rw [answer] at goes
    obtain ⟨due, actual, status⟩ := goes
    rw [if_pos due]
    exact ⟨calls, fun _ => ⟨actual, .inl ⟨code, rfl, status⟩⟩⟩
  | none =>
    rw [answer] at goes
    obtain ⟨due, flying', out', second, completed, submitted⟩ := goes
    obtain ⟨quiet, ends⟩ := @completions_second _ _ bus u _ pipe flying' second out' rest
    rw [if_neg (by rw [due]; exact Bool.false_ne_true)]
    refine ⟨?_, fun finished => ?_⟩
    · dsimp only
      rw [calls, quiet]
      rfl
    · obtain ⟨actual, last, events, same, status⟩ := ends finished
      refine ⟨actual.trans completed, .inr ⟨last, events, rfl, same, ?_⟩⟩
      rw [submitted] at status
      exact status

/-- A completion that does not go on with a zero-length packet is the last one. -/
theorem completions_plain (flying : Flying m u pipe) (first : (m.states u).zlpPending = false)
    {event : Event} (rest : List Event)
    (plain : zeroPacket (m.urbs u) (m.states u)
      (clamp bus.codes (m.states u).submittedLength event.status event.actual).1
      (clamp bus.codes (m.states u).submittedLength event.status event.actual).2 = false) :
    completions bus u (event :: rest) m = nativeComplete bus u event m := by
  have busy : ¬m.inFlight u = 0 := by
    rw [flying.flying]
    exact Nat.one_ne_zero
  obtain ⟨-, due, -⟩ := @nativeComplete_plain _ _ bus u m pipe event flying first plain
  rw [completions, if_neg busy]
  dsimp only
  rw [if_pos due]

end Submissions

/-- The data of an OUT URB is followed by a zero-length packet as it should be exactly where the
length of the data is in `transfer_buffer_length`, or no packet is due. -/
theorem packetSent_iff {bus : Bus} {u : U} {m : Memory U} {pipe : UsbPipe}
    (marked : Marked m u pipe) (out : pipeDirIn (m.urbs u).pipe = false) (env : Env)
    (events : List Event) :
    PacketSent bus u pipe env events m ↔
      ¬(AsksPacket (m.urbs u) pipe ∧ CompletesFully bus u env events m ∧
        Unmeasured (m.urbs u)) := by
  unfold PacketSent submission
  by_cases accepted : (prepareAndSubmit u env m).2 = 0
  · obtain ⟨flying, calls, least, urbs, length, -, first⟩ := marked.launched accepted
    dsimp only
    rw [if_pos accepted, calls]
    cases events with
    | nil =>
      have unfinished : ¬CompletesFully bus u env [] m := by
        rintro ⟨-, event, rest, same, -⟩
        cases same
      refine iff_of_true ⟨fun both => absurd both.2 unfinished, fun _ => rfl⟩ ?_
      exact fun all => unfinished all.2.1
    | cons event rest =>
      have full : CompletesFully bus u env (event :: rest) m ↔
          urbStatus bus.codes event.status = 0 ∧ event.actual = urbDataLen (m.urbs u) := by
        constructor
        · rintro ⟨-, event', rest', same, done⟩
          obtain ⟨rfl, rfl⟩ := List.cons.inj same
          exact done
        · intro done
          exact ⟨accepted, event, rest, rfl, done⟩
      have decides := @zeroPacket_iff bus pipe (m.urbs u) ((prepareAndSubmit u env m).1.states u)
        event.status event.actual out flying.pipe least
      have out' : pipeDirIn ((prepareAndSubmit u env m).1.urbs u).pipe = false := by
        rw [urbs]
        exact out
      rw [← length, ← urbs] at decides
      by_cases packet : zeroPacket ((prepareAndSubmit u env m).1.urbs u)
          ((prepareAndSubmit u env m).1.states u)
          (clamp bus.codes ((prepareAndSubmit u env m).1.states u).submittedLength event.status
            event.actual).1
          (clamp bus.codes ((prepareAndSubmit u env m).1.states u).submittedLength event.status
            event.actual).2 = true
      · obtain ⟨asks, good, whole, measured⟩ := decides.mp packet
        obtain ⟨sent, seen⟩ := completions_packet flying first out' rest packet
        rw [urbs] at asks measured
        rw [length] at whole
        have both : AsksPacket (m.urbs u) pipe ∧ CompletesFully bus u env (event :: rest) m :=
          ⟨asks, full.mpr ⟨good, whole⟩⟩
        refine iff_of_true ⟨fun _ => ⟨?_, fun due => ?_⟩, fun other => absurd both other⟩
          fun all => measured all.2.2
        · rw [sent]
          rfl
        · have fits : ¬(urbStatus bus.codes event.status = 0 ∧
              urbDataLen (m.urbs u) < event.actual) := by
            rintro ⟨-, past⟩
            omega
          obtain ⟨actual, -⟩ := seen due
          rw [actual, length, clamp, if_neg fits]
          exact whole
      · have last := @completions_plain _ _ bus u _ pipe flying first event rest
          (Bool.not_eq_true _ ▸ packet)
        obtain ⟨quiet, -⟩ := @nativeComplete_plain _ _ bus u _ pipe event flying first
          (Bool.not_eq_true _ ▸ packet)
        rw [last, quiet]
        constructor
        · rintro ⟨sends, -⟩ ⟨asks, done, -⟩
          obtain ⟨same, -⟩ := sends ⟨asks, done⟩
          cases same
        · intro measured
          refine ⟨fun both => ?_, fun _ => rfl⟩
          refine absurd (decides.mpr ?_) packet
          obtain ⟨good, whole⟩ := full.mp both.2
          rw [urbs, length]
          exact ⟨both.1, good, whole, fun none => measured ⟨both.1, both.2, none⟩⟩
  · have unfinished : ¬CompletesFully bus u env events m := fun done => accepted done.1
    dsimp only
    rw [if_neg accepted]
    refine iff_of_true ⟨fun both => absurd both.2 unfinished, fun _ => rfl⟩ ?_
    exact fun all => unfinished all.2.1

/-- The codes for success are not those of errors, which are negative. -/
structure EventCodes.Signed (codes : EventCodes) : Prop where
  /-- `EVENT_SUCCESS` is not negative. -/
  success : 0 ≤ codes.success
  /-- `EVENT_SHORT_PACKET` is not negative. -/
  shortPacket : 0 ≤ codes.shortPacket

/-- What a callback should see: a length within that of the data, no error only if all transfers
were successful, and in the list of an IN URB what was received, with the rest of it untouched. -/
structure Reported (bus : Bus) (u : U) (env : Env) (events : List Event) (m : Memory U) : Prop where
  /-- The length. -/
  bounds : (submission bus u env events m).due.isSome = true →
    0 ≤ ((submission bus u env events m).memory.urbs u).actualLength ∧
      ((submission bus u env events m).memory.urbs u).actualLength ≤ urbDataLen (m.urbs u)
  /-- The status. -/
  honest : (submission bus u env events m).due.isSome = true →
    ((submission bus u env events m).memory.urbs u).status = 0 →
      (submission bus u env events m).calls.length ≤ events.length ∧
        ∀ transfer ∈ (submission bus u env events m).calls.zip events,
          urbStatus bus.codes transfer.2.status = 0 ∧ transfer.2.actual ≤ transfer.1
  /-- The list. -/
  received : (submission bus u env events m).due.isSome = true →
    ((submission bus u env events m).memory.urbs u).status = 0 →
      pipeDirIn (m.urbs u).pipe = true → (m.urbs u).sg ≠ [] →
        (∀ entry ∈ (m.urbs u).sg, entry.Backed) →
          ∀ event rest, events = event :: rest → event.data.length = event.actual →
            Rewrites event.data (m.urbs u).sg
              ((submission bus u env events m).memory.urbs u).sg
  /-- A URB that cannot be handed over is completed with its error. -/
  refused : ∀ own, (prepareAndSubmit u env m).2 < 0 →
    let m' := (urbComplete bus own env (prepareAndSubmit u env m).1
      (.nextStatus u (prepareAndSubmit u env m).2)).1
    (m'.urbs u).actualLength = 0 ∧ (m'.urbs u).status ≠ 0

/-- An error of the transfer of the data comes with a length within that of the data. -/
def ErrorsWithin (bus : Bus) (u : U) (env : Env) (events : List Event) (m : Memory U) : Prop :=
  (prepareAndSubmit u env m).2 = 0 → ∀ event rest, events = event :: rest →
    urbStatus bus.codes event.status ≠ 0 → event.actual ≤ urbDataLen (m.urbs u)

section Reports

variable {bus : Bus} {u : U} {m : Memory U} {pipe : UsbPipe} {env : Env}

/-- A code with which a transfer is refused is not a success. -/
theorem urbStatus_refused {codes : EventCodes} (signed : codes.Signed) (code : Nat) :
    urbStatus codes (-(code + 1)) ≠ 0 := by
  have success := signed.success
  have shortPacket := signed.shortPacket
  have numbers : -EPIPE ≠ 0 ∧ -EOVERFLOW ≠ 0 ∧ -ETIMEDOUT ≠ 0 ∧ -EPROTO ≠ 0 := by decide
  unfold urbStatus
  rw [if_neg (by omega)]
  split
  · exact numbers.1
  split
  · exact numbers.2.1
  split
  · exact numbers.2.2.1
  split
  · exact numbers.2.2.2
  rw [if_pos (by omega)]
  omega

/-- A completion is a success when the status is and the length is no more than was submitted. -/
theorem clamp_eq_zero {codes : EventCodes} {submitted status actual : Int}
    (good : (clamp codes submitted status actual).1 = 0) :
    urbStatus codes status = 0 ∧ actual ≤ submitted ∧
      (clamp codes submitted status actual).2 = actual := by
  have failed : ¬(-EOVERFLOW = 0) := by decide
  unfold clamp at *
  split at good <;> rename_i past
  · exact absurd good failed
  · rw [if_neg past]
    have good : urbStatus codes status = 0 := good
    exact ⟨good, by omega, rfl⟩

/-- The length that is stored is no more than was submitted unless an error comes with more. -/
theorem clamp_bounds {codes : EventCodes} {submitted status actual : Int} (least : 0 ≤ submitted)
    (positive : 0 ≤ actual) :
    0 ≤ (clamp codes submitted status actual).2 ∧
      ((clamp codes submitted status actual).2 ≤ submitted ↔
        (urbStatus codes status ≠ 0 → actual ≤ submitted)) := by
  unfold clamp
  split <;> rename_i past
  · exact ⟨least, iff_of_true (Int.le_refl _) fun failed => absurd past.1 failed⟩
  · refine ⟨positive, fun within _ => within, fun within => ?_⟩
    by_cases good : urbStatus codes status = 0
    · exact Int.not_lt.mp fun more => past ⟨good, more⟩
    · exact within good

omit [DecidableEq U] in
/-- The status after the copy is a success only if it was one before. -/
theorem copyBack_eq_zero {mapped actual : Int} (good : (copyBack m u mapped actual).2 = 0) :
    mapped = 0 := by
  unfold copyBack at good
  split at good <;> rename_i copies
  · exact copies.1
  · exact good

/-- What an IN transfer received is copied to the list. -/
theorem copyBack_received {data : List UInt8} {actual : Int}
    (inwards : pipeDirIn (m.urbs u).pipe = true) (listed : (m.states u).submittedSg = true)
    (present : ∀ entry ∈ (m.urbs u).sg, entry.Present)
    (enough : actual ≤ (sgBytes (m.urbs u).sg).length)
    (within : actual ≤ (m.states u).submittedLength) (length : data.length = actual)
    (good : (copyBack (deliver u data m) u 0 actual).2 = 0) :
    Rewrites data (m.urbs u).sg (copyBack (deliver u data m) u 0 actual).1 := by
  have urb := deliver_urb u data m
  have sg : ((deliver u data m).urbs u).sg = (m.urbs u).sg := by rw [urb]
  have whole : data.take (m.states u).submittedLength.toNat = data :=
    List.take_of_length_le (by omega)
  have buffer : ((deliver u data m).states u).sgBuffer =
      (m.states u).sgBuffer.map (overwrite · data) := by
    simp [deliver, inwards, listed, whole, Memory.setState, Memory.setInFlight]
  unfold copyBack at *
  split at good <;> rename_i copies
  · rw [if_pos copies]
    rw [buffer] at good ⊢
    cases there : (m.states u).sgBuffer with
    | none =>
      rw [there] at good
      exact absurd good (by show ¬(-EINVAL = 0); decide)
    | some bytes =>
      have present' : ∀ entry ∈ ((deliver u data m).urbs u).sg, entry.Present := by
        rw [sg]
        exact present
      have room : data.length ≤ (sgBytes ((deliver u data m).urbs u).sg).length := by
        rw [sg]
        omega
      have covers : data.length ≤ (overwrite bytes data).length := by
        rw [overwrite, List.length_append]
        exact Nat.le_add_right _ _
      obtain ⟨sg', ran, rewrites⟩ := sgCopyToUrb_spec present' room covers
      rw [← length, Option.map_some, ran, ← sg]
      rw [overwrite, List.take_left] at rewrites
      exact rewrites
  · have nothing : data = [] := by
      rw [urb, deliver_state] at copies
      have none : ¬0 < actual := fun some_ => copies ⟨rfl, inwards, some_, listed⟩
      exact List.eq_nil_of_length_eq_zero (by omega)
    rw [if_neg copies, sg, nothing]
    exact ⟨rfl, rfl, rfl, present⟩

/-- A URB that cannot be handed over is completed with its error. -/
theorem nextStatus_stores {own : U} {ret : Int} (negative : ret < 0) :
    let m' := (urbComplete bus own env m (.nextStatus u ret)).1
    (m'.urbs u).actualLength = 0 ∧ (m'.urbs u).status ≠ 0 := by
  simp only [urbComplete, Memory.setUrb, Function.update_self, ne_eq, true_and]
  omega

/-- A submission without a callback shows nothing. -/
theorem Reported.of_quiet {events : List Event}
    (quiet : ¬(submission bus u env events m).due.isSome = true) :
    Reported bus u env events m where
  bounds due := absurd due quiet
  honest due := absurd due quiet
  received due := absurd due quiet
  refused _ negative := nextStatus_stores negative

/-- The last completion of a submission without a zero-length packet. -/
theorem reported_plain (marked : Marked m u pipe) (accepted : (prepareAndSubmit u env m).2 = 0)
    {event : Event} (rest : List Event) (positive : 0 ≤ event.actual)
    (plain : zeroPacket ((prepareAndSubmit u env m).1.urbs u)
      ((prepareAndSubmit u env m).1.states u)
      (clamp bus.codes ((prepareAndSubmit u env m).1.states u).submittedLength event.status
        event.actual).1
      (clamp bus.codes ((prepareAndSubmit u env m).1.states u).submittedLength event.status
        event.actual).2 = false) :
    Reported bus u env (event :: rest) m ↔
      (urbStatus bus.codes event.status ≠ 0 → event.actual ≤ urbDataLen (m.urbs u)) := by
  obtain ⟨flying, calls, least, urbs, length, listed, first⟩ := marked.launched accepted
  have last := @completions_plain _ _ bus u _ pipe flying first event rest plain
  obtain ⟨quiet, due, stored⟩ := @nativeComplete_plain _ _ bus u _ pipe event flying first plain
  rw [length] at stored
  have bounds := @clamp_bounds bus.codes (urbDataLen (m.urbs u)) event.status event.actual least
    positive
  have sends : (submission bus u env (event :: rest) m).calls = [urbDataLen (m.urbs u)] := by
    simp only [submission, if_pos accepted, last, quiet, calls, List.append_nil]
  have ends : (submission bus u env (event :: rest) m).memory =
      (nativeComplete bus u event (prepareAndSubmit u env m).1).memory := by
    simp only [submission, if_pos accepted, last]
  have seen : (submission bus u env (event :: rest) m).due.isSome = true := by
    simp only [submission, if_pos accepted, last, due]
  constructor
  · intro reported
    obtain ⟨-, most⟩ := reported.bounds seen
    rw [ends, stored] at most
    exact bounds.2.mp most
  · intro within
    refine ⟨fun _ => ?_, fun _ good => ?_, ?_, fun _ negative => nextStatus_stores negative⟩
    · rw [ends, stored]
      exact ⟨bounds.1, bounds.2.mpr within⟩
    · rw [ends, stored] at good
      obtain ⟨success, most, -⟩ := clamp_eq_zero (copyBack_eq_zero good)
      rw [sends]
      refine ⟨Nat.le_add_left _ _, fun transfer member => ?_⟩
      rw [List.zip_cons_cons, List.zip_nil_left, List.mem_singleton] at member
      rw [member]
      exact ⟨success, most⟩
    · intro _ good inwards some_ backed event' rest' same exact_
      obtain ⟨rfl, rfl⟩ := List.cons.inj same
      rw [ends, stored] at good ⊢
      have mapped := copyBack_eq_zero good
      obtain ⟨success, most, whole⟩ := clamp_eq_zero mapped
      obtain ⟨present, fits, -⟩ := urbDataLen_spec some_ backed least
      have total := length_sgBytes present
      dsimp only at good ⊢
      rw [mapped, whole] at good ⊢
      have enough : event.actual ≤ (sgBytes (m.urbs u).sg).length := by omega
      rw [← urbs] at inwards present enough ⊢
      refine copyBack_received inwards ?_ present enough (by omega) exact_ good
      rw [listed, bne_iff_ne]
      exact some_

/-- A submission with a zero-length packet shows what it should. -/
theorem reported_packet (signed : bus.codes.Signed) (marked : Marked m u pipe)
    (accepted : (prepareAndSubmit u env m).2 = 0) (out : pipeDirIn (m.urbs u).pipe = false)
    {event : Event} (rest : List Event)
    (packet : zeroPacket ((prepareAndSubmit u env m).1.urbs u)
      ((prepareAndSubmit u env m).1.states u)
      (clamp bus.codes ((prepareAndSubmit u env m).1.states u).submittedLength event.status
        event.actual).1
      (clamp bus.codes ((prepareAndSubmit u env m).1.states u).submittedLength event.status
        event.actual).2 = true) :
    Reported bus u env (event :: rest) m ∧ urbStatus bus.codes event.status = 0 := by
  obtain ⟨flying, calls, least, urbs, length, -, first⟩ := marked.launched accepted
  have out' : pipeDirIn ((prepareAndSubmit u env m).1.urbs u).pipe = false := by
    rw [urbs]
    exact out
  obtain ⟨sent, seen⟩ := completions_packet flying first out' rest packet
  have decides := @zeroPacket_iff bus pipe (m.urbs u) ((prepareAndSubmit u env m).1.states u)
    event.status event.actual out flying.pipe least
  rw [← length, ← urbs] at decides
  obtain ⟨-, success, whole, -⟩ := decides.mp packet
  rw [length] at whole seen
  have fits : ¬(urbStatus bus.codes event.status = 0 ∧ urbDataLen (m.urbs u) < event.actual) := by
    rintro ⟨-, past⟩
    omega
  have stays : (clamp bus.codes (urbDataLen (m.urbs u)) event.status event.actual).2 =
      urbDataLen (m.urbs u) := by
    rw [clamp, if_neg fits]
    exact whole
  rw [stays] at seen
  have sends : (submission bus u env (event :: rest) m).calls = [urbDataLen (m.urbs u), 0] := by
    simp only [submission, if_pos accepted, sent, calls]
    rfl
  have ends : (submission bus u env (event :: rest) m).memory =
      (completions bus u (event :: rest) (prepareAndSubmit u env m).1).memory := by
    simp only [submission, if_pos accepted]
  have finishes : (submission bus u env (event :: rest) m).due =
      (completions bus u (event :: rest) (prepareAndSubmit u env m).1).due := by
    simp only [submission, if_pos accepted]
  refine ⟨⟨fun due => ?_, fun due good => ?_, fun _ _ inwards => ?_,
    fun _ negative => nextStatus_stores negative⟩, success⟩
  · rw [finishes] at due
    obtain ⟨actual, -⟩ := seen due
    rw [ends, actual]
    exact ⟨least, Int.le_refl _⟩
  · rw [finishes] at due
    rw [ends] at good
    obtain ⟨-, ⟨code, -, status⟩ | ⟨last, events, -, same, status⟩⟩ := seen due
    · rw [status] at good
      exact absurd good (urbStatus_refused signed code)
    · rw [status] at good
      obtain ⟨success', most, -⟩ := clamp_eq_zero good
      rw [sends, same]
      refine ⟨Nat.le_add_left _ _, fun transfer member => ?_⟩
      rw [List.zip_cons_cons, List.zip_cons_cons, List.zip_nil_left, List.mem_cons,
        List.mem_singleton] at member
      cases member with
      | inl data =>
        rw [data]
        exact ⟨success, Int.le_of_eq whole⟩
      | inr zero =>
        rw [zero]
        exact ⟨success', most⟩
  · exact absurd (inwards.symm.trans out) (by decide)

end Reports

/-- Callbacks see what they should exactly where no error of the transfer of the data comes with a
length that is larger than that of the data. -/
theorem reported_iff {bus : Bus} {u : U} {m : Memory U} {pipe : UsbPipe}
    (signed : bus.codes.Signed) (marked : Marked m u pipe) (env : Env)
    (events : List Event) (positive : ∀ event ∈ events, 0 ≤ event.actual) :
    Reported bus u env events m ↔ ErrorsWithin bus u env events m := by
  by_cases accepted : (prepareAndSubmit u env m).2 = 0
  · cases events with
    | nil =>
      refine iff_of_true (Reported.of_quiet ?_) fun _ event rest same => ?_
      · simp [submission, accepted, completions]
      · cases same
    | cons event rest =>
      have first : ErrorsWithin bus u env (event :: rest) m ↔
          (urbStatus bus.codes event.status ≠ 0 → event.actual ≤ urbDataLen (m.urbs u)) := by
        constructor
        · exact fun within => within accepted event rest rfl
        · rintro within - event' rest' same
          obtain ⟨rfl, rfl⟩ := List.cons.inj same
          exact within
      rw [first]
      cases packet : zeroPacket ((prepareAndSubmit u env m).1.urbs u)
          ((prepareAndSubmit u env m).1.states u)
          (clamp bus.codes ((prepareAndSubmit u env m).1.states u).submittedLength event.status
            event.actual).1
          (clamp bus.codes ((prepareAndSubmit u env m).1.states u).submittedLength event.status
            event.actual).2 with
      | false =>
        exact reported_plain marked accepted rest (positive event (List.mem_cons_self ..)) packet
      | true =>
        have out : pipeDirIn (m.urbs u).pipe = false := by
          obtain ⟨-, -, -, urbs, -⟩ := marked.launched accepted
          unfold zeroPacket at packet
          rw [urbs] at packet
          simp only [Bool.and_eq_true, Bool.not_eq_true'] at packet
          exact packet.1.1.1.2
        obtain ⟨reported, success⟩ := reported_packet signed marked accepted out rest packet
        exact iff_of_true reported fun failed => absurd success failed
  · refine iff_of_true (Reported.of_quiet ?_) fun ok => absurd ok accepted
    simp [submission, accepted]

section Instances

/-- A bus without wrappers. -/
def emptyBus : Bus := ⟨⟨0, 1, -1, -2, -3, -4⟩, [], fun _ => none⟩

/-- A bulk pipe for packets of two bytes. -/
def narrowPipe : UsbPipe := ⟨0, 1, 2, 2⟩

/-- Everything succeeds. -/
def granting : Env := ⟨true, none, none⟩

/-- A URB that is submitted, with two bytes in a buffer and a flag for a zero-length packet. -/
def twoBytes : Urb where
  dev := some ⟨some 0⟩
  pipe := 0x30001
  transferBuffer := some [1, 2]
  transferBufferLength := 2
  actualLength := 0
  status := -EINPROGRESS
  transferFlags := URB_ZERO_PACKET
  complete := true
  hcpriv := true
  sg := []
  submitted := true
  killed := false
  refcount := 2

/-- The same bytes in a list. -/
def twoListed : Urb :=
  { twoBytes with
    transferBuffer := none, transferBufferLength := 0, sg := [⟨2, some [1, 2]⟩] }

/-- A memory of one URB with a pipe. -/
def oneUrb (urb : Urb) (pipe : UsbPipe) : Memory Unit where
  urbs := fun _ => urb
  states := fun _ => { UrbState.zero with nativePipe := some pipe }
  pendingNext := fun _ => none
  pendingHead := fun _ => none
  pendingTail := fun _ => none
  pipeBusy := fun _ => false
  nativePipes := fun _ => none
  inFlight := fun _ => 0
  released := fun _ => 0
  quiesced := fun _ => false

/-- The URB is marked. -/
theorem marked_oneUrb {urb : Urb} (submitted : urb.submitted = true) (pipe : UsbPipe) :
    Marked (oneUrb urb pipe) () pipe := ⟨submitted, rfl, rfl, rfl⟩

/-- Two bytes are followed by a zero-length packet. -/
theorem packetSent_twoBytes : PacketSent emptyBus () narrowPipe granting
    [⟨0, 2, [], granting⟩, ⟨0, 0, [], granting⟩] (oneUrb twoBytes narrowPipe) := by
  refine (packetSent_iff (marked_oneUrb rfl narrowPipe) (by decide) _ _).mpr ?_
  rintro ⟨-, -, listed, -⟩
  exact listed rfl

/-- Two bytes in a list are not. -/
theorem packetSent_twoListed : ¬∀ (bus : Bus) (m : Memory Unit) (pipe : UsbPipe),
    Marked m () pipe → pipeDirIn (m.urbs ()).pipe = false → ∀ (env : Env) (events : List Event),
      PacketSent bus () pipe env events m := by
  intro always
  have sent := always emptyBus (oneUrb twoListed narrowPipe) narrowPipe (marked_oneUrb rfl _)
    (by decide) granting [⟨0, 2, [], granting⟩]
  have asks : AsksPacket twoListed narrowPipe :=
    ⟨by decide, by decide, by decide, by decide⟩
  have full : CompletesFully emptyBus () granting [⟨0, 2, [], granting⟩]
      (oneUrb twoListed narrowPipe) := ⟨by decide, _, _, rfl, by decide, by decide⟩
  exact absurd (sent.1 ⟨asks, full⟩).1 (by decide)

/-- The codes of the bus without wrappers. -/
theorem emptyBus_signed : emptyBus.codes.Signed := ⟨by decide, by decide⟩

/-- Two bytes are received in a list of two entries. -/
theorem reported_twoReceived : Reported emptyBus () granting [⟨0, 2, [7, 8], granting⟩]
    (oneUrb { twoListed with pipe := 0x30081, sg := [⟨1, some [1]⟩, ⟨4, some [2, 3, 4, 5]⟩] }
      { narrowPipe with address := 0x81 }) := by
  refine (reported_iff emptyBus_signed (marked_oneUrb rfl _) _ _ ?_).mpr ?_
  · simp
  · rintro - event rest same failed
    obtain ⟨rfl, -⟩ := List.cons.inj same
    exact absurd (by decide) failed

/-- An endpoint that stalls after more bytes than there were to send. -/
theorem reported_stalled : ¬∀ (bus : Bus) (m : Memory Unit) (pipe : UsbPipe),
    bus.codes.Signed → Marked m () pipe → ∀ (env : Env) (events : List Event),
      (∀ event ∈ events, 0 ≤ event.actual) → Reported bus () env events m := by
  intro always
  have reported := always emptyBus (oneUrb twoBytes narrowPipe) narrowPipe emptyBus_signed
    (marked_oneUrb rfl _) granting [⟨-1, 5, [], granting⟩] (by simp)
  exact absurd (reported.bounds (by decide)).2 (by decide)

end Instances

end Lcompat.Usb
