import Lcompat.Mac80211.Subframe

/-!
# A-MSDUs

The loop that takes an A-MSDU apart and queues an Ethernet frame for each subframe that carries
one. The loop reads frame memory only where its two length checks allow it to, and what it queues
is what the subframes of the string carry, in order, as far as there is memory for it.
-/

namespace Lcompat.Mac80211

open Lcompat.Logic
open Lcompat.Net

/-- The payload of an Ethernet frame, put behind its header if there is one. -/
def putPayload (skb : SkBuff) (payload : List UInt8) : Option SkBuff :=
  if payload = [] then some skb else (skbPutData skb payload).map Prod.snd

/-- `lcompat_ieee80211_build_eth_skb`: the buffer, if one is built. -/
def buildEthSkb (env : Env) (memory : Memory) (dst src payload : Nat) (payloadLen : UInt32) :
    Kernel (Option SkBuff) := do
  let some (proto, skip) ← .require (snapToEthertype memory payload payloadLen) | return none
  let ethPayloadLen := payloadLen - skip
  if ethPayloadLen.toNat > uintMax - ethhdrLen.toNat then return none
  let some skb ← allocSkb env (ethhdrLen.toNat + ethPayloadLen.toNat) | return none
  let some (eth, skb) := skbPutZero skb ethhdrLen
    | do
      devKfreeSkbAny skb
      return none
  let dstAddr ← .require (readAddr memory dst)
  let srcAddr ← .require (readAddr memory src)
  let skb := writeEthHeader skb eth dstAddr srcAddr proto
  let moved ← .require (memory.read (payload + skip.toNat) ethPayloadLen.toNat)
  let some out := putPayload skb moved
    | do
      devKfreeSkbAny skb
      return none
  return some { out with protocol := proto }

/-- `skb_queue_tail` on `rx_queue`, and the count of what has been queued, if there is a buffer. -/
def queueBuilt (built : Option SkBuff) (queued : UInt32) : Kernel UInt32 :=
  match built with
  | none => return queued
  | some skb => do
    change fun rt => { rt with rxQueue := rt.rxQueue ++ [skb] }
    return queued + 1

/-- The length of a subframe with its header and its padding. -/
def paddedLen (msduLen : UInt16) : UInt32 := (ethhdrLen + msduLen.toUInt32 + 3) &&& ~~~3

/-- Clearing the last two bits rounds down to four. -/
theorem toNat_and_not_three (value : UInt32) : (value &&& ~~~3).toNat = value.toNat / 4 * 4 := by
  have mask : (~~~(3 : UInt32)).toNat = (2 ^ 30 - 1) * 2 ^ 2 := rfl
  have four : value.toNat / 4 * 4 = value.toNat / 2 ^ 2 * 2 ^ 2 := rfl
  rw [UInt32.toNat_and, mask, four]
  refine Nat.eq_of_testBit_eq fun bit => ?_
  rw [Nat.testBit_and, Nat.testBit_mul_two_pow, Nat.testBit_mul_two_pow, Nat.testBit_div_two_pow,
    Nat.testBit_two_pow_sub_one]
  by_cases low : 2 ≤ bit
  · by_cases high : bit < 32
    · have inside : bit - 2 < 30 := by omega
      simp [low, inside]
    · have clear : value.toNat.testBit bit = false :=
        Nat.testBit_lt_two_pow (lt_of_lt_of_le value.toNat_lt
          (Nat.pow_le_pow_right (by decide) (by omega)))
      simp [low, clear]
  · simp [low]

/-- The length of a subframe is that of its header, its MSDU and its padding. -/
theorem toNat_paddedLen (msduLen : UInt16) :
    (paddedLen msduLen).toNat = 14 + (msduLen.toNat + padding msduLen.toNat) := by
  have small := msduLen.toNat_lt
  have sum : (ethhdrLen + msduLen.toUInt32 + 3).toNat = msduLen.toNat + 17 := by
    simp only [ethhdrLen, UInt32.toNat_add, UInt16.toNat_toUInt32, UInt32.reduceToNat]
    omega
  rw [paddedLen, toNat_and_not_three, sum, padding]
  omega

/-- What is skipped for a subframe behind its header. -/
theorem toNat_skip (msduLen : UInt16) :
    (paddedLen msduLen - ethhdrLen).toNat = msduLen.toNat + padding msduLen.toNat := by
  have least : ethhdrLen ≤ paddedLen msduLen := by
    rw [UInt32.le_iff_toNat_le, toNat_paddedLen]
    simp only [ethhdrLen, UInt32.reduceToNat]
    omega
  rw [UInt32.toNat_sub_of_le _ _ least, toNat_paddedLen]
  simp only [ethhdrLen, UInt32.reduceToNat]
  omega

/-- The loop stops behind a subframe when its padding is not there. -/
theorem stops_behind_iff (msduLen : UInt16) (rest : UInt32) :
    (paddedLen msduLen < ethhdrLen + msduLen.toUInt32 || paddedLen msduLen - ethhdrLen > rest) =
      decide (rest.toNat < msduLen.toNat + padding msduLen.toNat) := by
  have small := msduLen.toNat_lt
  have least : ¬paddedLen msduLen < ethhdrLen + msduLen.toUInt32 := by
    rw [UInt32.lt_iff_toNat_lt, toNat_paddedLen]
    simp only [ethhdrLen, UInt32.toNat_add, UInt16.toNat_toUInt32, UInt32.reduceToNat]
    omega
  simp only [least, decide_false, Bool.false_or, gt_iff_lt, UInt32.lt_iff_toNat_lt, toNat_skip]

/-- What remains behind the header of a subframe. -/
theorem toNat_behind_header {remaining : UInt32} (long : ¬remaining < ethhdrLen) :
    (remaining - ethhdrLen).toNat + 14 = remaining.toNat := by
  have least := UInt32.le_iff_toNat_le.mp (UInt32.not_lt.mp long)
  rw [UInt32.toNat_sub_of_le _ _ (UInt32.not_lt.mp long)]
  simp only [ethhdrLen, UInt32.reduceToNat] at least ⊢
  omega

/-- What remains behind a subframe. -/
theorem toNat_behind_subframe {remaining skip : UInt32} (long : ¬remaining < ethhdrLen)
    (fits : ¬skip > remaining - ethhdrLen) :
    (remaining - ethhdrLen - skip).toNat + (14 + skip.toNat) = remaining.toNat := by
  have behind := toNat_behind_header long
  have least := UInt32.le_iff_toNat_le.mp (UInt32.not_lt.mp fits)
  rw [UInt32.toNat_sub_of_le _ _ (UInt32.not_lt.mp fits)]
  omega

/-- The loop of `lcompat_ieee80211_enqueue_amsdu`: how many buffers have been queued. -/
def enqueueFrom (env : Env) (memory : Memory) (pos : Nat) (remaining queued : UInt32) :
    Kernel UInt32 :=
  if remaining < ethhdrLen then return queued
  else do
    let msduLen ← .require (getUnalignedBe16 memory (pos + 12))
    let rest := remaining - ethhdrLen
    if msduLen = 0 || msduLen.toUInt32 > rest then return queued
    let built ← buildEthSkb env memory pos (pos + 6) (pos + 14) msduLen.toUInt32
    let queued ← queueBuilt built queued
    let skip := paddedLen msduLen - ethhdrLen
    if paddedLen msduLen < ethhdrLen + msduLen.toUInt32 || skip > rest then return queued
    enqueueFrom env memory (pos + 14 + skip.toNat) (rest - skip) queued
termination_by remaining.toNat
decreasing_by
  rename_i long _ fits
  have fits : ¬paddedLen msduLen - ethhdrLen > remaining - ethhdrLen := fun past =>
    fits (by rw [Bool.or_eq_true, decide_eq_true_iff, decide_eq_true_iff]; exact .inr past)
  have step := toNat_behind_subframe long fits
  omega

/-- `lcompat_ieee80211_enqueue_amsdu`. -/
def enqueueAmsdu (env : Env) (skb : SkBuff) (hdrLen : UInt32) : Kernel Int := do
  if skb.len < hdrLen then return -EINVAL
  let memory ← .require skb.head
  let queued ← enqueueFrom env memory (skb.data + hdrLen.toNat) (skb.len - hdrLen) 0
  return if queued = 0 then -EINVAL else 0

/-- The EtherType that is found in an MSDU is that of the Ethernet frame it carries. -/
theorem snapToEthertype_eq {memory : Memory} {payload : Nat} {payloadLen : UInt32} {sub : Subframe}
    (holds : memory.Holds payload sub.msdu) (count : payloadLen.toNat = sub.msdu.length) :
    snapToEthertype memory payload payloadLen =
      some (sub.ethernet.map fun frame => (frame.ethertype, llcSnapLen)) := by
  have limit : payloadLen < llcSnapLen ↔ sub.msdu.length < 8 := by
    rw [UInt32.lt_iff_toNat_lt, count]
    rfl
  by_cases short : sub.msdu.length < 8
  · have none : sub.ethernet = none := by
      cases found : sub.ethernet with
      | none => rfl
      | some frame =>
        obtain ⟨-, -, header, msdu, known⟩ := Subframe.ethernet_eq_some_iff.mp found
        have six := length_of_knownSnap (knownSnap_iff.mpr known)
        rw [msdu, List.length_append, List.length_append, six, length_cpuToBe16] at short
        omega
    rw [snapToEthertype, if_pos (limit.mpr short), none]
    rfl
  · obtain ⟨header, high, low, rest, msdu, six⟩ : ∃ header high low rest,
        sub.msdu = header ++ ([high, low] ++ rest) ∧ header.length = 6 := by
      have two : 2 ≤ (sub.msdu.drop 6).length := by
        rw [List.length_drop]
        omega
      obtain ⟨high, others, found⟩ := List.exists_cons_of_length_pos
        (Nat.lt_of_lt_of_le Nat.zero_lt_two two)
      rw [found, List.length_cons] at two
      obtain ⟨low, rest, rfl⟩ := List.exists_cons_of_length_pos (Nat.le_of_succ_le_succ two)
      refine ⟨sub.msdu.take 6, high, low, rest, ?_, ?_⟩
      · rw [List.cons_append, List.cons_append, List.nil_append, ← found, List.take_append_drop]
      · rw [List.length_take]
        omega
    have front : memory.Holds payload (header ++ [high, low]) := by
      rw [msdu, ← List.append_assoc] at holds
      exact (Memory.holds_append.mp holds).1
    rw [snapToEthertype_of_holds (fun less => short (limit.mp less)) six front, Subframe.ethernet,
      msdu, List.drop_left' six, List.take_left' six]
    simp only [List.cons_append]
    split <;> rfl

/-- A buffer holds an Ethernet frame. -/
structure HoldsFrame (skb : SkBuff) (frame : EthFrame) : Prop where
  /-- Its bytes are those of the frame. -/
  linear : skb.Linear frame.bytes
  /-- Its protocol is the EtherType of the frame. -/
  protocol : skb.protocol = frame.ethertype

/-- A payload that fits is put behind the bytes of a linear buffer. -/
theorem linear_putPayload {skb : SkBuff} {bytes payload : List UInt8} (linear : skb.Linear bytes)
    (room : skb.tail.toNat + payload.length ≤ skb.limit.toNat) :
    ∃ out, putPayload skb payload = some out ∧ out.Linear (bytes ++ payload) := by
  by_cases none : payload = []
  · exact ⟨skb, by simp [putPayload, none], by simpa [none] using linear⟩
  · exact ⟨skb.appended payload, by simp [putPayload, none, linear.skbPutData_eq room],
      linear.appended room⟩

/-- What is built for a subframe: a buffer with its Ethernet frame, if it carries one and there
is memory for it. -/
theorem runs_buildEthSkb {env : Env} {memory : Memory} {dst src payload : Nat}
    {payloadLen : UInt32} {sub : Subframe} {m : Machine}
    (dest : readAddr memory dst = some sub.dest) (source : readAddr memory src = some sub.source)
    (holds : memory.Holds payload sub.msdu) (count : payloadLen.toNat = sub.msdu.length)
    (small : sub.msdu.length < 2 ^ 16) :
    (buildEthSkb env memory dst src payload payloadLen).runs (fun built m' => m'.rt = m.rt ∧
      match sub.ethernet with
      | none => built = none ∧ m'.calls = m.calls
      | some frame => m'.calls = m.calls + 1 ∧
        if (env.page m.calls).isMapped then ∃ skb, built = some skb ∧ HoldsFrame skb frame
        else built = none) m := by
  unfold buildEthSkb
  simp only [Program.runs_bind, snapToEthertype_eq holds count, Program.runs_require,
    Option.some.injEq, exists_eq_left']
  cases carried : sub.ethernet with
  | none => simp
  | some frame =>
    obtain ⟨toDest, fromSource, header, msdu, known⟩ := Subframe.ethernet_eq_some_iff.mp carried
    have six := length_of_knownSnap (knownSnap_iff.mpr known)
    have length : sub.msdu.length = 8 + frame.payload.length := by
      rw [msdu, List.length_append, List.length_append, six, length_cpuToBe16]
      omega
    have rest : (payloadLen - llcSnapLen).toNat = frame.payload.length := by
      rw [UInt32.toNat_sub_of_le]
      · rw [count, length, llcSnapLen]
        simp
      · rw [UInt32.le_iff_toNat_le, count, length, llcSnapLen]
        simp
    have moved : memory.read (payload + llcSnapLen.toNat) frame.payload.length =
        some frame.payload := by
      rw [msdu, Memory.holds_append, Memory.holds_append, six, length_cpuToBe16,
        Nat.add_assoc] at holds
      exact holds.2.2
    have fits : ¬frame.payload.length > uintMax - ethhdrLen.toNat := by
      simp only [uintMax, ethhdrLen, UInt32.reduceToNat]
      omega
    have size : ethhdrLen.toNat + frame.payload.length ≤ uintMax := by
      simp only [uintMax, ethhdrLen, UInt32.reduceToNat]
      omega
    simp only [Option.map_some, rest, fits, ↓reduceIte, Program.runs_bind, runs_allocSkb]
    cases page : env.page m.calls with
    | failed => simp [Net.allocSkb, Page.isMapped]
    | unmapped =>
      cases allocated : Net.allocSkb .unmapped m.calls (ethhdrLen.toNat + frame.payload.length) with
      | none => simp [Page.isMapped]
      | some skb =>
        have unmapped : skb.head.isSome = false := by
          cases here : skb.head.isSome with
          | false => rfl
          | true => cases (mapped_of_allocSkb allocated here).choose_spec
        simp [skbPutZero, skbPut_of_unmapped unmapped, Page.isMapped, devKfreeSkbAny]
    | mapped given =>
      obtain ⟨skb, allocated⟩ := exists_allocSkb size given m.calls
      obtain ⟨empty, limit, data⟩ := linear_of_allocSkb allocated
      have tail : skb.tail.toNat = 0 := by simpa [data] using empty.tail
      have room : skb.tail.toNat + ((List.replicate ethhdrLen.toNat (0 : UInt8)).length +
          frame.payload.length) ≤ skb.limit.toNat := by
        rw [List.length_replicate]
        omega
      have zeros : (skb.appended (List.replicate ethhdrLen.toNat 0)).Linear
          (List.replicate ethhdrLen.toNat 0 ++ []) := by
        simpa using empty.appended (by omega)
      have written := linear_writeEthHeader zeros rfl sub.dest sub.source frame.ethertype
      obtain ⟨out, put, linear⟩ := linear_putPayload written (SkBuff.Linear.room_appended room)
      have place : skb.tail.toNat = skb.data := by omega
      have header : skb.tail.toNat + ethhdrLen.toNat ≤ skb.limit.toNat := by omega
      have putZero := empty.skbPutZero_eq header
      simp only [SkBuff.appended_data] at put
      simp only [allocated, putZero, place, Program.runs_bind, Program.runs_require, dest, source,
        moved, Option.some.injEq, exists_eq_left', put, Program.runs_pure, Page.isMapped, true_and,
        ↓reduceIte]
      refine ⟨?_, rfl⟩
      rw [EthFrame.bytes, toDest, fromSource]
      simpa using linear.mark frame.ethertype _ _ _

/-- The Ethernet frames, from a number of calls on, for which there is memory. -/
def delivered (env : Env) : Nat → List EthFrame → List EthFrame
  | _, [] => []
  | calls, frame :: frames =>
    if (env.page calls).isMapped then frame :: delivered env (calls + 1) frames
    else delivered env (calls + 1) frames

/-- Frames behind others are delivered behind them. -/
theorem delivered_append (env : Env) (calls : Nat) (front back : List EthFrame) :
    delivered env calls (front ++ back) =
      delivered env calls front ++ delivered env (calls + front.length) back := by
  induction front generalizing calls with
  | nil => rfl
  | cons frame front ih =>
    rw [List.length_cons, Nat.add_comm front.length, ← Nat.add_assoc]
    simp only [List.cons_append, delivered, ih]
    split <;> rfl

/-- Some Ethernet frames have been queued, as far as there was memory for them. -/
structure Queued (env : Env) (m : Machine) (frames : List EthFrame) (new : List SkBuff)
    (m' : Machine) : Prop where
  /-- Only the queue has changed, and only at its end. -/
  rt : m'.rt = { m.rt with rxQueue := m.rt.rxQueue ++ new }
  /-- An allocation has been made for each frame. -/
  calls : m'.calls = m.calls + frames.length
  /-- The new buffers hold the frames. -/
  held : List.Forall₂ HoldsFrame new (delivered env m.calls frames)

/-- The bytes of the new buffers. -/
theorem Queued.map_bytes {env : Env} {m m' : Machine} {frames : List EthFrame}
    {new : List SkBuff} (queued : Queued env m frames new m') :
    new.map SkBuff.bytes = (delivered env m.calls frames).map fun frame => some frame.bytes := by
  rw [← List.forall₂_eq_eq_eq, List.forall₂_map_left_iff, List.forall₂_map_right_iff]
  exact queued.held.imp fun skb frame held => held.linear.bytes_eq

/-- Nothing has been queued. -/
theorem Queued.none (env : Env) (m : Machine) : Queued env m [] [] m :=
  ⟨by simp, rfl, .nil⟩

/-- Frames are queued behind others. -/
theorem Queued.trans {env : Env} {m m' m'' : Machine} {frames frames' : List EthFrame}
    {new new' : List SkBuff} (first : Queued env m frames new m')
    (second : Queued env m' frames' new' m'') :
    Queued env m (frames ++ frames') (new ++ new') m'' := by
  refine ⟨?_, ?_, ?_⟩
  · rw [second.rt, first.rt, List.append_assoc]
  · rw [second.calls, first.calls, List.length_append, Nat.add_assoc]
  · rw [delivered_append, ← first.calls]
    exact List.rel_append first.held second.held

/-- A subframe is queued if it carries an Ethernet frame and there is memory. -/
theorem runs_queueSubframe {env : Env} {memory : Memory} {dst src payload : Nat}
    {payloadLen queued : UInt32} {sub : Subframe} {m : Machine}
    (dest : readAddr memory dst = some sub.dest) (source : readAddr memory src = some sub.source)
    (holds : memory.Holds payload sub.msdu) (count : payloadLen.toNat = sub.msdu.length)
    (small : sub.msdu.length < 2 ^ 16) (room : queued.toNat + 1 < 2 ^ 32) :
    (buildEthSkb env memory dst src payload payloadLen).runs (fun built =>
      (queueBuilt built queued).runs
      fun queued' m' => ∃ new, Queued env m sub.ethernet.toList new m' ∧ new.length ≤ 1 ∧
        queued'.toNat = queued.toNat + new.length) m := by
  refine (runs_buildEthSkb dest source holds count small).mono fun built m' outcome => ?_
  obtain ⟨same, carried⟩ := outcome
  have more : (queued + 1).toNat = queued.toNat + 1 := by
    rw [UInt32.toNat_add]
    exact Nat.mod_eq_of_lt room
  cases ethernet : sub.ethernet with
  | none =>
    obtain ⟨rfl, calls⟩ : built = none ∧ m'.calls = m.calls := by simpa [ethernet] using carried
    simp only [queueBuilt, Program.runs_pure]
    exact ⟨[], ⟨by simp [same], calls, .nil⟩, Nat.zero_le _, rfl⟩
  | some frame =>
    obtain ⟨calls, found⟩ : m'.calls = m.calls + 1 ∧ (if (env.page m.calls).isMapped then
        ∃ skb, built = some skb ∧ HoldsFrame skb frame else built = none) := by
      simpa [ethernet] using carried
    cases mapped : (env.page m.calls).isMapped with
    | false =>
      obtain rfl : built = none := by simpa [mapped] using found
      simp only [queueBuilt, Program.runs_pure]
      exact ⟨[], ⟨by simp [same], calls, by simp [delivered, mapped]⟩, Nat.zero_le _, rfl⟩
    | true =>
      obtain ⟨skb, rfl, held⟩ : ∃ skb, built = some skb ∧ HoldsFrame skb frame := by
        simpa [mapped] using found
      simp only [queueBuilt, Program.runs_bind, runs_change, Program.runs_pure]
      exact ⟨[skb], ⟨by simp [same], calls, by simpa [delivered, mapped] using held⟩,
        Nat.le_refl _, more⟩

/-- The loop at a subframe header. -/
theorem enqueueFrom_header {env : Env} {memory : Memory} {pos : Nat} {remaining queued : UInt32}
    {frame : EthFrame} (holds : memory.Holds pos frame.bytes)
    (count : remaining.toNat = frame.bytes.length) :
    enqueueFrom env memory pos remaining queued =
      if frame.ethertype.toNat = 0 ∨ frame.payload.length < frame.ethertype.toNat then pure queued
      else (do
        let built ← buildEthSkb env memory pos (pos + 6) (pos + 14) frame.ethertype.toUInt32
        let queued ← queueBuilt built queued
        if frame.payload.length < frame.ethertype.toNat + padding frame.ethertype.toNat then
          return queued
        enqueueFrom env memory
          (pos + 14 + (frame.ethertype.toNat + padding frame.ethertype.toNat))
          (remaining - ethhdrLen - (paddedLen frame.ethertype - ethhdrLen)) queued) := by
  rw [frame.bytes_length] at count
  have long : ¬remaining < ethhdrLen := by
    rw [UInt32.lt_iff_toNat_lt]
    simp only [ethhdrLen, UInt32.reduceToNat]
    omega
  have rest : (remaining - ethhdrLen).toNat = frame.payload.length := by
    have behind := toNat_behind_header long
    omega
  have stops : (decide (frame.ethertype = 0) ||
      decide (frame.ethertype.toUInt32 > remaining - ethhdrLen)) =
        decide (frame.ethertype.toNat = 0 ∨ frame.payload.length < frame.ethertype.toNat) := by
    simp [UInt32.lt_iff_toNat_lt, rest, ← UInt16.toNat_inj]
  rw [enqueueFrom]
  simp only [long, ↓reduceIte, (EthFrame.read_of_holds holds).ethertype,
    Program.require_some_bind, stops, stops_behind_iff, rest, toNat_skip, decide_eq_true_iff]

/-- The loop queues the Ethernet frames of the subframes. -/
theorem runs_enqueueFrom {env : Env} {memory : Memory} {pos : Nat} {remaining queued : UInt32}
    {bytes : List UInt8} {m : Machine} (holds : memory.Holds pos bytes)
    (count : remaining.toNat = bytes.length) (room : queued.toNat + bytes.length < 2 ^ 32) :
    (enqueueFrom env memory pos remaining queued).runs (fun queued' m' => ∃ new,
      Queued env m ((subframes bytes).filterMap Subframe.ethernet) new m' ∧
        queued'.toNat = queued.toNat + new.length) m := by
  induction total : bytes.length using Nat.strongRecOn generalizing pos remaining queued bytes m
    with
  | ind size ih =>
    by_cases short : bytes.length < 14
    · have less : remaining < ethhdrLen := by
        rw [UInt32.lt_iff_toNat_lt, count]
        exact short
      rw [enqueueFrom, if_pos less, subframes_of_short short]
      exact (Program.runs_pure _).mpr ⟨[], .none env m, rfl⟩
    · obtain ⟨frame, rfl⟩ := EthFrame.exists_of_length (Nat.not_lt.mp short)
      obtain ⟨dest, source, -, payload⟩ := EthFrame.read_of_holds holds
      rw [enqueueFrom_header holds count, subframes_bytes]
      rw [frame.bytes_length] at count room total
      by_cases empty : frame.ethertype.toNat = 0 ∨ frame.payload.length < frame.ethertype.toNat
      · rw [if_pos empty, if_pos empty]
        exact (Program.runs_pure _).mpr ⟨[], .none env m, rfl⟩
      · rw [if_neg empty, if_neg empty]
        set sub : Subframe :=
          ⟨frame.dest, frame.source, frame.payload.take frame.ethertype.toNat⟩ with first
        have small := frame.ethertype.toNat_lt
        have msdu : sub.msdu.length = frame.ethertype.toNat := by
          rw [first, List.length_take]
          omega
        have held : memory.Holds (pos + 14) sub.msdu := by
          simpa using payload.slice 0 frame.ethertype.toNat (Nat.zero_le _)
        have whole : frame.ethertype.toUInt32.toNat = sub.msdu.length := by
          rw [UInt16.toNat_toUInt32, msdu]
        have few : sub.msdu.length < 2 ^ 16 := by omega
        have more : queued.toNat + 1 < 2 ^ 32 := by omega
        simp only [Program.runs_bind]
        refine (runs_queueSubframe dest source held whole few more).mono
          fun built m₁ queuing => queuing.mono fun queued' m₂ later => ?_
        obtain ⟨new, one, most, counted⟩ := later
        have others : (sub :: subframes (frame.payload.drop (frame.ethertype.toNat +
            padding frame.ethertype.toNat))).filterMap Subframe.ethernet = sub.ethernet.toList ++
              (subframes (frame.payload.drop (frame.ethertype.toNat +
                padding frame.ethertype.toNat))).filterMap Subframe.ethernet := by
          cases ethernet : sub.ethernet <;> simp [ethernet]
        rw [others]
        by_cases last : frame.payload.length < frame.ethertype.toNat + padding frame.ethertype.toNat
        · have nothing : subframes (frame.payload.drop (frame.ethertype.toNat +
              padding frame.ethertype.toNat)) = [] :=
            subframes_of_short (by rw [List.length_drop]; omega)
          rw [if_pos last, nothing, List.filterMap_nil, List.append_nil]
          exact (Program.runs_pure _).mpr ⟨new, one, counted⟩
        · have long : ¬remaining < ethhdrLen := by
            rw [UInt32.lt_iff_toNat_lt]
            simp only [ethhdrLen, UInt32.reduceToNat]
            omega
          have header := toNat_behind_header long
          have fits : ¬paddedLen frame.ethertype - ethhdrLen > remaining - ethhdrLen := by
            rw [gt_iff_lt, UInt32.lt_iff_toNat_lt, toNat_skip]
            omega
          have skipped := toNat_behind_subframe long fits
          rw [toNat_skip] at skipped
          have behind := payload.drop (frame.ethertype.toNat + padding frame.ethertype.toNat)
            (Nat.not_lt.mp last)
          rw [if_neg last]
          refine (ih _ ?_ behind ?_ ?_ rfl).mono fun queued'' m₃ later => ?_
          · rw [List.length_drop]
            omega
          · rw [List.length_drop]
            omega
          · rw [List.length_drop]
            omega
          · obtain ⟨new', two, counted'⟩ := later
            refine ⟨new ++ new', one.trans two, ?_⟩
            rw [counted', counted, List.length_append, Nat.add_assoc]

/-- An A-MSDU queues the Ethernet frames of its subframes. -/
theorem runs_enqueueAmsdu {env : Env} {skb : SkBuff} {hdrLen : UInt32} {memory : Memory}
    {bytes : List UInt8} {m : Machine} (head : skb.head = some memory)
    (holds : memory.Holds (skb.data + hdrLen.toNat) bytes)
    (count : bytes.length = skb.len.toNat - hdrLen.toNat) :
    (enqueueAmsdu env skb hdrLen).runs (fun ret m' => ∃ new,
      Queued env m ((subframes bytes).filterMap Subframe.ethernet) new m' ∧
        ret = if new = [] then -EINVAL else 0) m := by
  unfold enqueueAmsdu
  by_cases short : skb.len < hdrLen
  · have less := UInt32.lt_iff_toNat_lt.mp short
    rw [if_pos short, subframes_of_short (by omega)]
    exact (Program.runs_pure _).mpr ⟨[], .none env m, rfl⟩
  · have least := UInt32.not_lt.mp short
    have total : (skb.len - hdrLen).toNat = bytes.length := by
      rw [UInt32.toNat_sub_of_le _ _ least, count]
    have room : (0 : UInt32).toNat + bytes.length < 2 ^ 32 := by
      have small := skb.len.toNat_lt
      simp only [UInt32.toNat_zero]
      omega
    rw [if_neg short, head, Program.require_some_bind, Program.runs_bind]
    refine (runs_enqueueFrom holds total room).mono fun queued m' outcome => ?_
    obtain ⟨new, done, counted⟩ := outcome
    refine (Program.runs_pure _).mpr ⟨new, done, ?_⟩
    have none : queued = 0 ↔ new = [] := by
      rw [← UInt32.toNat_inj, counted, ← List.length_eq_zero_iff]
      simp
    simp only [none]

/-- A string is two parts of another, eight bytes apart, the first of them twelve bytes long. -/
def IsCut (bytes frame : List UInt8) : Prop :=
  ∃ addrs header rest, frame = addrs ++ rest ∧ addrs.length = 12 ∧ header.length = 8 ∧
    addrs ++ (header ++ rest) <:+: bytes

/-- The Ethernet frame of a subframe is cut out of the string that the subframe is a part of. -/
theorem isCut_of_carries {sub : Subframe} {frame : EthFrame} {bytes : List UInt8}
    (carries : sub.Carries frame) (here : sub.bytes <:+: bytes) : IsCut bytes frame.bytes := by
  obtain ⟨dest, source, header, msdu, known⟩ := carries
  have six := length_of_knownSnap (knownSnap_iff.mpr known)
  refine ⟨frame.dest.bytes ++ frame.source.bytes,
    cpuToBe16 (UInt16.ofNat sub.msdu.length) ++ header,
    cpuToBe16 frame.ethertype ++ frame.payload, ?_, ?_, ?_, ?_⟩
  · rw [EthFrame.bytes, List.append_assoc]
  · rw [List.length_append, frame.dest.length_eq, frame.source.length_eq]
  · rw [List.length_append, length_cpuToBe16, six]
  · simpa [Subframe.bytes, Subframe.framed, EthFrame.bytes, dest, source, ← msdu] using here

/-- What is delivered is among the frames. -/
theorem mem_of_mem_delivered {env : Env} {calls : Nat} {frames : List EthFrame} {frame : EthFrame}
    (here : frame ∈ delivered env calls frames) : frame ∈ frames := by
  induction frames generalizing calls with
  | nil => cases here
  | cons first frames ih =>
    rw [delivered] at here
    split at here
    · obtain rfl | later := List.mem_cons.mp here
      · exact List.mem_cons_self
      · exact List.mem_cons_of_mem _ (ih later)
    · exact List.mem_cons_of_mem _ (ih here)

/-- All frames are delivered when there is memory for all. -/
theorem delivered_of_mapped {env : Env} (mapped : ∀ call, (env.page call).isMapped = true)
    (calls : Nat) (frames : List EthFrame) : delivered env calls frames = frames := by
  induction frames generalizing calls with
  | nil => rfl
  | cons frame frames ih => rw [delivered, if_pos (mapped calls), ih]

/-- Subframes that each carry a frame carry those frames. -/
theorem filterMap_ethernet_of_carries {subs : List Subframe} {frames : List EthFrame}
    (carry : List.Forall₂ Subframe.Carries subs frames) :
    subs.filterMap Subframe.ethernet = frames := by
  induction carry with
  | nil => rfl
  | cons first _ ih => rw [List.filterMap_cons_some (Subframe.ethernet_eq_some_iff.mpr first), ih]

/-- Taking an A-MSDU apart ends and reads only the bytes behind its header, whatever they are,
since nothing is said of the memory elsewhere. It queues frames that are cut out of these bytes,
and if the bytes are a serialization of subframes that all carry Ethernet frames, and there is
memory for them, it queues exactly these frames, in order, and returns 0. -/
theorem enqueueAmsdu_queues {env : Env} {skb : SkBuff} {hdrLen : UInt32} {memory : Memory}
    {bytes : List UInt8} {m : Machine} (head : skb.head = some memory)
    (holds : memory.Holds (skb.data + hdrLen.toNat) bytes)
    (count : bytes.length = skb.len.toNat - hdrLen.toNat) :
    (enqueueAmsdu env skb hdrLen).runs (fun ret m' => ∃ new,
      m'.rt = { m.rt with rxQueue := m.rt.rxQueue ++ new } ∧
      (∀ out ∈ new, ∃ frame, out.bytes = some frame ∧ IsCut bytes frame) ∧
      ∀ subs frames, Serialized subs bytes → (∀ sub ∈ subs, sub.msdu.length < 2 ^ 16) →
        List.Forall₂ Subframe.Carries subs frames → (∀ call, (env.page call).isMapped = true) →
          ret = 0 ∧ new.map SkBuff.bytes = frames.map fun frame => some frame.bytes) m := by
  refine (runs_enqueueAmsdu head holds count).mono fun ret m' outcome => ?_
  obtain ⟨new, done, answer⟩ := outcome
  refine ⟨new, done.rt, ?_, ?_⟩
  · intro out here
    have read := List.mem_map_of_mem (f := SkBuff.bytes) here
    rw [done.map_bytes] at read
    obtain ⟨frame, kept, read⟩ := List.mem_map.mp read
    obtain ⟨sub, inside, carries⟩ := List.mem_filterMap.mp (mem_of_mem_delivered kept)
    exact ⟨frame.bytes, read.symm, isCut_of_carries (Subframe.ethernet_eq_some_iff.mp carries)
      (infix_of_mem_subframes inside)⟩
  · intro subs frames serialized small carry mapped
    have both : List.Forall₂ (fun sub frame => sub.msdu ≠ [] ∧ Subframe.Carries sub frame) subs
        frames := carry.imp fun sub frame carries => ⟨carries.msdu_ne_nil, carries⟩
    have fine : ∀ sub ∈ subs, sub.msdu ≠ [] := ((List.forall₂_and_left _ _).mp both).1
    have parsed := subframes_of_serialized serialized fun sub here =>
      ⟨fine sub here, small sub here⟩
    have read := done.map_bytes
    rw [parsed, filterMap_ethernet_of_carries carry, delivered_of_mapped mapped] at read
    refine ⟨?_, read⟩
    have queued : new ≠ [] := by
      rintro rfl
      have length := carry.length_eq
      rw [List.map_nil, eq_comm, List.map_eq_nil_iff] at read
      rw [read] at length
      exact serialized.ne_nil (List.eq_nil_of_length_eq_zero length)
    rw [answer, if_neg queued]

/-- A subframe with an empty IPv4 frame. -/
def plainSubframe : Subframe := ⟨stationAddr, pointAddr, rfc1042Header ++ [0x08, 0x00]⟩

/-- The empty IPv4 frame that it carries. -/
def plainFrame : EthFrame := ⟨stationAddr, pointAddr, 0x0800, []⟩

/-- It carries that frame. -/
theorem plainSubframe_carries : plainSubframe.Carries plainFrame :=
  ⟨rfl, rfl, rfc1042Header, rfl, .inl ⟨rfl, by decide, by decide⟩⟩

/-- A frame of a header with some frame control field and QoS control field, followed by two
subframes of which the second is not padded, in memory that gives nothing else. -/
def amsduFrame (fc qos : List UInt8) : SkBuff where
  id := 0
  head := some (.ofBytes (fc ++ [0, 0] ++ stationAddr.bytes ++ pointAddr.bytes ++ pointAddr.bytes ++
    [0, 0] ++ qos ++ (plainSubframe.bytes ++ ([0, 0] ++ plainSubframe.bytes))))
  data := 0
  len := 72
  tail := 72
  limit := 72
  dataLen := 0
  frags := []
  priority := 0
  queueMapping := 0
  protocol := 0
  status := .zero

/-- Both subframes of an A-MSDU are queued. -/
theorem enqueueAmsdu_queues_two :
    (enqueueAmsdu .kind (amsduFrame [0x88, 0x02] [0x80, 0x00]) 26).runs (fun ret m' => ret = 0 ∧
      m'.rt.rxQueue.map SkBuff.bytes = [some plainFrame.bytes, some plainFrame.bytes])
        (.start connectedRuntime) := by
  have serialized : Serialized [plainSubframe, plainSubframe]
      (plainSubframe.bytes ++ ([0, 0] ++ plainSubframe.bytes)) :=
    .cons plainSubframe [0, 0] [plainSubframe] plainSubframe.bytes (by decide)
      (by simpa using Serialized.last plainSubframe [] (.inl rfl))
  have whole := Memory.holds_ofBytes ([0x88, 0x02] ++ [0, 0] ++ stationAddr.bytes ++
    pointAddr.bytes ++ pointAddr.bytes ++ [0, 0] ++ [0x80, 0x00] ++
      (plainSubframe.bytes ++ ([0, 0] ++ plainSubframe.bytes)))
  have holds := (Memory.holds_append.mp whole).2
  refine (enqueueAmsdu_queues rfl holds rfl).mono fun ret m' outcome => ?_
  obtain ⟨new, same, _, exact⟩ := outcome
  obtain ⟨zero, read⟩ := exact _ [plainFrame, plainFrame] serialized (by decide)
    (.cons plainSubframe_carries (.cons plainSubframe_carries .nil)) fun _ => rfl
  refine ⟨zero, ?_⟩
  rw [same]
  exact read

end Lcompat.Mac80211
