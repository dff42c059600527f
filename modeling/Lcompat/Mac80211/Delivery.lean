import Lcompat.Mac80211.Calls
import Lcompat.Mac80211.Receive

/-!
# Delivery

What `ieee80211_rx_irqsafe` queues for the user is told by the bytes of the frame that it is given,
the runtime and the answers of the allocator. A frame is a header of 24 bytes with what is behind
it; a data frame from the access point stands for the Ethernet frames of its subframes, or for the
one that is behind its header.
-/

namespace Lcompat.Mac80211

open Lcompat.Logic
open Lcompat.Net

/-- A frame with a header of three addresses. -/
structure Received where
  /-- The frame control field. -/
  fc : UInt16
  /-- The duration field. -/
  duration : UInt16
  /-- The first address. -/
  addr1 : EtherAddr
  /-- The second address. -/
  addr2 : EtherAddr
  /-- The third address. -/
  addr3 : EtherAddr
  /-- The sequence control field. -/
  seqCtrl : UInt16
  /-- What is behind the first 24 bytes. -/
  rest : List UInt8

/-- The bytes of a frame. -/
def Received.bytes (frame : Received) : List UInt8 :=
  cpuToLe16 frame.fc ++ (cpuToLe16 frame.duration ++ (frame.addr1.bytes ++ (frame.addr2.bytes ++
    (frame.addr3.bytes ++ (cpuToLe16 frame.seqCtrl ++ frame.rest)))))

/-- An address in a string of bytes. -/
def addrAt (bytes : List UInt8) (place : Nat) (inside : place + 6 ≤ bytes.length) : EtherAddr :=
  ⟨(bytes.drop place).take 6, by rw [List.length_take, List.length_drop]; omega⟩

/-- The frame of a string of bytes that is long enough. -/
def Received.parse (bytes : List UInt8) : Option Received :=
  if long : 24 ≤ bytes.length then
    some
      { fc := word bytes[1] bytes[0]
        duration := word bytes[3] bytes[2]
        addr1 := addrAt bytes 4 (by omega)
        addr2 := addrAt bytes 10 (by omega)
        addr3 := addrAt bytes 16 (by omega)
        seqCtrl := word bytes[23] bytes[22]
        rest := bytes.drop 24 }
  else none

/-- The length of the header, as its frame control field says. -/
def Received.hdrLen (frame : Received) : Nat := (dataHdrLen frame.fc).toNat

/-- What is behind the header. -/
def Received.body (frame : Received) : List UInt8 := frame.rest.drop (frame.hdrLen - 24)

/-- Whether the bit is set that tells an A-MSDU, in the last but one byte of a header that has more
than three addresses. -/
def Received.isAmsdu (frame : Received) : Bool :=
  26 ≤ frame.hdrLen && frame.hdrLen ≤ 24 + frame.rest.length &&
    frame.rest[frame.hdrLen - 26]?.any fun qos => qos &&& 0x80 ≠ 0

/-- The Ethernet frames of the subframes of an A-MSDU. -/
def Received.parts (frame : Received) : List EthFrame :=
  if frame.isAmsdu then (subframes frame.body).filterMap Subframe.ethernet else []

/-- The Ethernet frame of a frame that is not protected, as a single MSDU. -/
def Received.single (frame : Received) : Option EthFrame :=
  if frame.fc &&& fctlProtected ≠ 0 then none
  else Subframe.ethernet ⟨frame.addr1, frame.addr3, frame.body⟩

/-- The Ethernet frames that are queued: those of the subframes for which there is memory, or else
the single one. -/
def Received.frames (env : Env) (calls : Nat) (frame : Received) : List EthFrame :=
  if delivered env calls frame.parts = [] then frame.single.toList
  else delivered env calls frame.parts

/-- A frame comes from the access point of a connected station, and goes to the station or to a
group. -/
def Runtime.admits (rt : Runtime) (frame : Received) : Bool :=
  match rt.vif with
  | none => false
  | some vif =>
    rt.connState = .connected && rt.connectParams.hasBssid &&
      (!hasTods frame.fc && hasFromds frame.fc) && frame.addr2 = rt.connectParams.bssid &&
        (frame.addr1 = vif.addr || isMulticastEtherAddr frame.addr1)

/-- A frame without its check sequence, if the device leaves one. -/
def Runtime.whole (rt : Runtime) (bytes : List UInt8) : Option (List UInt8) :=
  if rt.hw.flags &&& rxIncludesFcs ≠ 0 then
    if bytes.length ≤ 4 then none else some (bytes.take (bytes.length - 4))
  else some bytes

/-- The data frame that is taken of a string of bytes without a check sequence. -/
def Runtime.taken (rt : Runtime) (bytes : List UInt8) : Option Received :=
  (Received.parse bytes).filter fun frame => isDataPresent frame.fc && rt.admits frame

/-- What is queued of a string of bytes without a check sequence. -/
def Machine.queued (env : Env) (m : Machine) (bytes : List UInt8) : List EthFrame :=
  match m.rt.taken bytes with
  | none => []
  | some frame => frame.frames env m.calls

/-- What is queued of a buffer with some bytes. -/
def received (env : Env) (attached : Bool) (m : Machine) (status : RxStatus) (bytes : List UInt8) :
    List EthFrame :=
  if !attached || status.flag &&& rxFlagBroken ≠ 0 then []
  else
    match m.rt.whole bytes with
    | none => []
    | some bytes => m.queued env bytes

section Bytes

/-- The frame of a string of bytes has these bytes. -/
theorem Received.bytes_of_parse {bytes : List UInt8} {frame : Received}
    (parsed : Received.parse bytes = some frame) : frame.bytes = bytes := by
  unfold Received.parse at parsed
  split at parsed
  · next long =>
    obtain rfl := Option.some.inj parsed
    have low (high low : UInt8) : cpuToLe16 (word high low) = [low, high] := by
      rw [cpuToLe16, toUInt8_word, shiftRight_word]
    have cons (index : Nat) (inside : index < bytes.length) :
        bytes.drop index = bytes[index] :: bytes.drop (index + 1) :=
      List.drop_eq_getElem_cons inside
    have addr (place : Nat) :
        (bytes.drop place).take 6 ++ bytes.drop (place + 6) = bytes.drop place := by
      rw [← List.drop_drop, List.take_append_drop]
    simp only [Received.bytes, addrAt, low]
    have last : [bytes[22], bytes[23]] ++ bytes.drop 24 = bytes.drop 22 := by
      rw [cons 22 (by omega), cons 23 (by omega)]
      rfl
    rw [last, addr 16, addr 10, addr 4]
    have first := List.drop_zero (l := bytes)
    rw [cons 0 (by omega), cons 1 (by omega), cons 2 (by omega), cons 3 (by omega)] at first
    exact first
  · cases parsed

/-- A string of bytes that is no frame is short. -/
theorem Received.parse_eq_none_iff {bytes : List UInt8} :
    Received.parse bytes = none ↔ bytes.length < 24 := by
  unfold Received.parse
  split
  · next long => simp [Nat.not_lt.mpr long]
  · next short => simpa using short

/-- A frame has 24 bytes and what is behind them. -/
theorem Received.length_bytes (frame : Received) :
    frame.bytes.length = 24 + frame.rest.length := by
  simp only [Received.bytes, List.length_append, length_cpuToLe16, EtherAddr.length_eq]
  omega

/-- What is read from memory that holds a frame. -/
structure Received.Read (frame : Received) (memory : Memory) (place : Nat) : Prop where
  /-- The frame control field. -/
  fc : frameControl memory place = some frame.fc
  /-- The first address. -/
  addr1 : Mac80211.addr1 memory place = some frame.addr1
  /-- The second address. -/
  addr2 : Mac80211.addr2 memory place = some frame.addr2
  /-- The third address. -/
  addr3 : Mac80211.addr3 memory place = some frame.addr3
  /-- What is behind. -/
  rest : memory.Holds (place + 24) frame.rest

/-- The fields of a frame are read from memory that holds it. -/
theorem Received.read_of_holds {frame : Received} {memory : Memory} {place : Nat}
    (holds : memory.Holds place frame.bytes) : frame.Read memory place := by
  simp only [Received.bytes, Memory.holds_append, length_cpuToLe16, EtherAddr.length_eq,
    Nat.add_assoc, Nat.reduceAdd] at holds
  obtain ⟨fc, -, one, two, three, -, rest⟩ := holds
  exact ⟨getUnalignedLe16_of_holds_cpu fc, readAddr_of_holds one, readAddr_of_holds two,
    readAddr_of_holds three, rest⟩

/-- A header has at least 24 bytes. -/
theorem Received.le_hdrLen (frame : Received) : 24 ≤ frame.hdrLen := by
  unfold Received.hdrLen dataHdrLen
  simp only
  split <;> split <;> try split
  all_goals decide

end Bytes

section Fields

variable {frame : Received} {skb : SkBuff} {memory : Memory}

/-- The memory of a linear buffer with the bytes of a frame. -/
theorem Received.exists_read (linear : skb.Linear frame.bytes) :
    ∃ memory, skb.head = some memory ∧ frame.Read memory skb.data := by
  obtain ⟨memory, head, holds⟩ := linear.held
  exact ⟨memory, head, Received.read_of_holds holds⟩

/-- Whether a frame is admitted is read from its addresses. -/
theorem rxDataMatchesBss_eq {place : Nat} (read : frame.Read memory place) (rt : Runtime) :
    rxDataMatchesBss rt memory place frame.fc = some (rt.admits frame) := by
  unfold rxDataMatchesBss Runtime.admits
  cases rt.vif with
  | none => rfl
  | some vif =>
    by_cases state : rt.connState = .connected
    · by_cases named : rt.connectParams.hasBssid = true
      · cases tods : hasTods frame.fc with
        | true => simp [state, named]
        | false =>
          cases fromds : hasFromds frame.fc with
          | false => simp [state, named]
          | true =>
            by_cases same : frame.addr2 = rt.connectParams.bssid
            · simp [state, named, tods, fromds, dataBssid, read.addr1, read.addr2, same]
            · simp [state, named, tods, fromds, dataBssid, read.addr2, same]
      · simp [state, named]
    · simp [state]

/-- Whether a frame is an A-MSDU is read from its header. -/
theorem isAmsdu_eq (count : skb.len.toNat = frame.bytes.length)
    (read : frame.Read memory skb.data) :
    isAmsdu skb memory (dataHdrLen frame.fc) = some frame.isAmsdu := by
  rw [frame.length_bytes] at count
  have header : (dataHdrLen frame.fc).toNat = frame.hdrLen := rfl
  have least : (hdr3addrLen + 2).toNat = 26 := rfl
  unfold isAmsdu Received.isAmsdu
  simp only [UInt32.lt_iff_toNat_lt, count, header, least, Bool.or_eq_true, decide_eq_true_eq]
  by_cases short : 24 + frame.rest.length < frame.hdrLen ∨ frame.hdrLen < 26
  · rw [if_pos short]
    obtain short | short := short
    · simp [Nat.not_le.mpr short]
    · simp [Nat.not_le.mpr short]
  · rw [if_neg short]
    have inside : frame.hdrLen - 26 < frame.rest.length := by omega
    have place : skb.data + frame.hdrLen - 2 = skb.data + 24 + (frame.hdrLen - 26) := by omega
    have long : 26 ≤ frame.hdrLen ∧ frame.hdrLen ≤ 24 + frame.rest.length := by omega
    rw [place, read.rest.get inside, List.getElem?_eq_getElem inside]
    simp [long]

/-- What is behind the header is held behind it. -/
theorem Received.Read.body {place : Nat} (read : frame.Read memory place)
    (long : frame.hdrLen ≤ 24 + frame.rest.length) :
    memory.Holds (place + frame.hdrLen) frame.body := by
  have least := frame.le_hdrLen
  have behind := read.rest.drop (frame.hdrLen - 24) (by omega)
  have same : place + 24 + (frame.hdrLen - 24) = place + frame.hdrLen := by omega
  rwa [same] at behind

/-- How much is behind the header. -/
theorem Received.length_body (frame : Received) :
    frame.body.length = 24 + frame.rest.length - frame.hdrLen := by
  have least := frame.le_hdrLen
  rw [Received.body, List.length_drop]
  omega

end Fields

section Single

variable {frame : Received} {skb : SkBuff}

/-- A frame whose header has an LLC header behind it carries an MSDU. -/
theorem Received.exists_mpdu (frame : Received) (long : 8 ≤ frame.body.length) :
    ∃ mpdu : Mpdu, mpdu.bytes = frame.bytes ∧ mpdu.fc = frame.fc ∧ mpdu.addr1 = frame.addr1 ∧
      mpdu.addr3 = frame.addr3 ∧ mpdu.msdu = frame.body := by
  have least := frame.le_hdrLen
  have behind := frame.length_body
  have extra : 24 + (frame.rest.take (frame.hdrLen - 24)).length = (dataHdrLen frame.fc).toNat := by
    rw [List.length_take, Nat.min_eq_left (by omega)]
    exact Nat.add_sub_cancel' least
  obtain ⟨snap, high, low, payload, body, six⟩ : ∃ snap high low payload,
      frame.body = snap ++ (high :: low :: payload) ∧ snap.length = 6 := by
    refine ⟨frame.body.take 6, frame.body[6], frame.body[7], frame.body.drop 8, ?_, ?_⟩
    · rw [← List.drop_eq_getElem_cons (by omega), ← List.drop_eq_getElem_cons (by omega),
        List.take_append_drop]
    · rw [List.length_take, Nat.min_eq_left (by omega)]
  refine ⟨⟨frame.fc, frame.duration, frame.addr1, frame.addr2, frame.addr3, frame.seqCtrl,
    frame.rest.take (frame.hdrLen - 24), extra, snap, six, word high low, payload⟩,
    ?_, rfl, rfl, rfl, ?_⟩
  · have whole : frame.rest.take (frame.hdrLen - 24) ++ (snap ++ (high :: low :: payload)) =
        frame.rest := by
      rw [← body, Received.body, List.take_append_drop]
    simp only [Mpdu.bytes, Mpdu.front, Mpdu.msdu, cpuToBe16_word, Received.bytes,
      List.append_assoc, List.cons_append, List.nil_append, whole]
  · simp only [Mpdu.msdu, cpuToBe16_word, List.cons_append, List.nil_append, body]

/-- The Ethernet frame of a single MSDU behind its LLC header. -/
theorem Mpdu.ethernet_eq (mpdu : Mpdu) :
    Subframe.ethernet ⟨mpdu.addr1, mpdu.addr3, mpdu.msdu⟩ =
      if knownSnap mpdu.snap mpdu.ethertype then
        some ⟨mpdu.addr1, mpdu.addr3, mpdu.ethertype, mpdu.payload⟩
      else none := by
  have front : mpdu.msdu.take 6 = mpdu.snap := by rw [Mpdu.msdu, List.take_left' mpdu.snap_length]
  have behind : mpdu.msdu.drop 6 = (mpdu.ethertype >>> 8).toUInt8 :: mpdu.ethertype.toUInt8 ::
      mpdu.payload := by
    rw [Mpdu.msdu, List.drop_left' mpdu.snap_length]
    rfl
  simp only [Subframe.ethernet, behind, front, word_toUInt8]

/-- A protected frame is refused. -/
theorem dataToEthernet_of_protected (linear : skb.Linear frame.bytes)
    (isProtected : frame.fc &&& fctlProtected ≠ 0) :
    ∃ ret, ret ≠ 0 ∧ dataToEthernet skb = some (ret, skb) := by
  obtain ⟨memory, head, read⟩ := Received.exists_read linear
  unfold dataToEthernet
  simp only [linear.validBounds, head, read.fc, isProtected, Option.bind_eq_bind,
    Option.bind_some, Bool.not_true, Bool.false_or, decide_eq_true_eq, ite_true, ne_eq,
    not_false_eq_true]
  split
  · exact ⟨-EINVAL, by decide, rfl⟩
  · exact ⟨-EOPNOTSUPP, by decide, rfl⟩

/-- A frame without an LLC header behind its header is refused. -/
theorem dataToEthernet_of_short (linear : skb.Linear frame.bytes)
    (short : frame.body.length < 8) : ∃ ret, ret ≠ 0 ∧ dataToEthernet skb = some (ret, skb) := by
  obtain ⟨memory, head, read⟩ := Received.exists_read linear
  have count := linear.len
  have least := frame.le_hdrLen
  have behind := frame.length_body
  rw [frame.length_bytes] at count
  have header : (dataHdrLen frame.fc).toNat = frame.hdrLen := rfl
  have most : frame.hdrLen ≤ 36 := by
    rw [← header]
    unfold dataHdrLen
    simp only
    split <;> split <;> try split
    all_goals decide
  have less : skb.len < dataHdrLen frame.fc + llcSnapLen := by
    rw [UInt32.lt_iff_toNat_lt, UInt32.toNat_add, header, count, llcSnapLen]
    simp only [UInt32.reduceToNat]
    omega
  unfold dataToEthernet
  simp only [linear.validBounds, head, read.fc, less, Option.bind_eq_bind, Option.bind_some,
    Bool.not_true, Bool.false_or, decide_eq_true_eq, ite_true]
  split
  · exact ⟨-EINVAL, by decide, rfl⟩
  split
  · exact ⟨-EOPNOTSUPP, by decide, rfl⟩
  split
  · exact ⟨-EINVAL, by decide, rfl⟩
  · exact ⟨-EINVAL, by decide, rfl⟩

/-- A data frame from the access point is turned into its single Ethernet frame, or refused. -/
theorem dataToEthernet_received (linear : skb.Linear frame.bytes)
    (present : isDataPresent frame.fc = true) (tods : hasTods frame.fc = false)
    (fromds : hasFromds frame.fc = true) :
    match frame.single with
    | none => ∃ ret, ret ≠ 0 ∧ dataToEthernet skb = some (ret, skb)
    | some eth => ∃ out, dataToEthernet skb = some (0, out) ∧ HoldsFrame out eth := by
  unfold Received.single
  by_cases isProtected : frame.fc &&& fctlProtected ≠ 0
  · rw [if_pos isProtected]
    exact dataToEthernet_of_protected linear isProtected
  rw [if_neg isProtected]
  by_cases short : frame.body.length < 8
  · have none : Subframe.ethernet ⟨frame.addr1, frame.addr3, frame.body⟩ = none := by
      cases found : Subframe.ethernet ⟨frame.addr1, frame.addr3, frame.body⟩ with
      | none => rfl
      | some eth =>
        obtain ⟨-, -, header, msdu, known⟩ := Subframe.ethernet_eq_some_iff.mp found
        have six := length_of_knownSnap (knownSnap_iff.mpr known)
        simp only at msdu
        rw [msdu, List.length_append, List.length_append, six, length_cpuToBe16] at short
        omega
    rw [none]
    exact dataToEthernet_of_short linear short
  · obtain ⟨mpdu, bytes, fc, one, three, msdu⟩ := frame.exists_mpdu (Nat.not_lt.mp short)
    rw [← bytes] at linear
    rw [← fc] at isProtected present tods fromds
    have clear : mpdu.fc &&& fctlProtected = 0 := not_not.mp isProtected
    have decoded := dataToEthernet_of_linear linear clear present (by rw [tods, Bool.false_and])
    rw [← one, ← three, ← msdu, mpdu.ethernet_eq]
    by_cases known : knownSnap mpdu.snap mpdu.ethertype = true
    · rw [if_pos known] at decoded ⊢
      obtain ⟨out, zero, held, protocol⟩ := decoded
      refine ⟨out, zero, ?_, protocol⟩
      simpa [Mpdu.ethernet, tods, fromds] using held
    · rw [if_neg known] at decoded ⊢
      exact ⟨-EINVAL, by decide, decoded⟩

end Single

section Delivers

variable {env : Env} {frame : Received} {skb : SkBuff} {m m' : Machine}

/-- Some Ethernet frames have been queued, and nothing else of the runtime has changed. -/
def Delivers (frames : List EthFrame) (m m' : Machine) : Prop :=
  ∃ new, m'.rt = { m.rt with rxQueue := m.rt.rxQueue ++ new } ∧ List.Forall₂ HoldsFrame new frames

/-- A buffer is freed, and nothing is queued. -/
theorem runs_freed (skb : SkBuff) (m : Machine) :
    (devKfreeSkbAny skb).runs (fun _ m' => Delivers [] m m') m := by
  rw [devKfreeSkbAny, runs_note]
  exact ⟨[], by simp, .nil⟩

/-- Nothing is delivered before some frames. -/
theorem Delivers.behind {frames : List EthFrame} {m'' : Machine} (first : m'.rt = m.rt)
    (second : Delivers frames m' m'') : Delivers frames m m'' := by
  obtain ⟨new, same, held⟩ := second
  exact ⟨new, by rw [same, first], held⟩

/-- A single MSDU is queued. -/
theorem runs_rxMsdu (linear : skb.Linear frame.bytes) (present : isDataPresent frame.fc = true)
    (tods : hasTods frame.fc = false) (fromds : hasFromds frame.fc = true) (m : Machine) :
    (rxMsdu skb).runs (fun _ m' => Delivers frame.single.toList m m') m := by
  have decoded := dataToEthernet_received linear present tods fromds
  unfold rxMsdu
  cases single : frame.single with
  | none =>
    rw [single] at decoded
    obtain ⟨ret, nonzero, found⟩ := decoded
    simp only [found, Program.require_some_bind, nonzero, ne_eq, not_false_eq_true, ite_true]
    exact runs_freed skb m
  | some eth =>
    rw [single] at decoded
    obtain ⟨out, found, held⟩ := decoded
    simp only [found, Program.require_some_bind, ne_eq, not_true_eq_false, ite_false, runs_change]
    exact ⟨[out], rfl, .cons held .nil⟩

/-- The frames of a data frame from the access point are queued. -/
theorem runs_rxData {memory : Memory} (head : skb.head = some memory)
    (linear : skb.Linear frame.bytes) (present : isDataPresent frame.fc = true)
    (tods : hasTods frame.fc = false) (fromds : hasFromds frame.fc = true) (m : Machine) :
    (rxData env skb memory frame.fc).runs
      (fun _ m' => Delivers (frame.frames env m.calls) m m') m := by
  obtain ⟨memory', head', read⟩ := Received.exists_read linear
  obtain rfl := Option.some.inj (head.symm.trans head')
  have count := linear.len
  unfold rxData Received.frames
  rw [isAmsdu_eq count read, Program.require_some_bind]
  rw [frame.length_bytes] at count
  cases amsdu : frame.isAmsdu with
  | false =>
    have parts : frame.parts = [] := by rw [Received.parts, amsdu]; rfl
    rw [parts, delivered, if_pos rfl]
    exact runs_rxMsdu linear present tods fromds m
  | true =>
    have long : frame.hdrLen ≤ 24 + frame.rest.length := by
      simp only [Received.isAmsdu, Bool.and_eq_true, decide_eq_true_eq] at amsdu
      exact amsdu.1.2
    have parts : frame.parts = (subframes frame.body).filterMap Subframe.ethernet := by
      rw [Received.parts, amsdu]
      rfl
    have total : frame.body.length = skb.len.toNat - (dataHdrLen frame.fc).toNat := by
      rw [frame.length_body, count]
      rfl
    rw [if_pos rfl, Program.runs_bind]
    refine (runs_enqueueAmsdu head (read.body long) total).mono fun ret m' outcome => ?_
    obtain ⟨new, done, answer⟩ := outcome
    have held := done.held
    rw [← parts] at held
    by_cases none : new = []
    · subst none
      have nothing : delivered env m.calls frame.parts = [] := List.forall₂_nil_left_iff.mp held
      have same : m'.rt = m.rt := by rw [done.rt, List.append_nil]
      rw [answer, if_pos rfl, if_neg (by decide), if_pos nothing]
      exact (runs_rxMsdu linear present tods fromds m').mono fun _ m'' later => .behind same later
    · have some_ : delivered env m.calls frame.parts ≠ [] := by
        intro nothing
        rw [nothing] at held
        exact none (List.forall₂_nil_right_iff.mp held)
      rw [answer, if_neg none, if_pos rfl, if_neg some_, devKfreeSkbAny, runs_note]
      exact ⟨new, done.rt, held⟩

/-- Whether a short frame is a control frame is read from it. -/
theorem exists_earlyCtl {bytes : List UInt8} {memory : Memory} (head : skb.head = some memory)
    (linear : skb.Linear bytes) : ∃ ctl, earlyCtl skb memory = some ctl := by
  obtain ⟨memory', head', holds⟩ := linear.held
  obtain rfl := Option.some.inj (head.symm.trans head')
  unfold earlyCtl
  split
  · next two =>
    have long : 2 ≤ bytes.length := by
      rw [← linear.len]
      exact UInt32.le_iff_toNat_le.mp two
    have low := holds.get (Nat.lt_of_lt_of_le Nat.zero_lt_two long)
    have high := holds.get (Nat.lt_of_lt_of_le Nat.one_lt_two long)
    rw [Nat.add_zero] at low
    refine ⟨isCtl (word bytes[1] bytes[0]), ?_⟩
    rw [getUnalignedLe16, low, high]
    rfl
  · exact ⟨false, rfl⟩

/-- A control frame carries no data. -/
theorem isDataPresent_of_isCtl {fc : UInt16} (ctl : isCtl fc = true) :
    isDataPresent fc = false := by
  have other : isData fc = false := by
    simp only [isCtl, isData, decide_eq_true_eq, decide_eq_false_iff_not] at ctl ⊢
    rw [ctl]
    decide
  rw [isDataPresent, other, Bool.false_and]

/-- A frame that is not a management frame is queued as far as it is taken. -/
theorem runs_rxFrame {bytes : List UInt8} (linear : skb.Linear bytes)
    (other : ∀ frame, Received.parse bytes = some frame → isMgmt frame.fc = false) (m : Machine) :
    (rxFrame env skb).runs (fun _ m' => Delivers (m.queued env bytes) m m') m := by
  obtain ⟨memory, head, -⟩ := linear.held
  obtain ⟨ctl, early⟩ := exists_earlyCtl head linear
  have limit : skb.len < hdr3addrLen ↔ bytes.length < 24 := by
    rw [UInt32.lt_iff_toNat_lt, linear.len]
    rfl
  unfold rxFrame Machine.queued Runtime.taken
  simp only [head, early, Program.require_some_bind, limit]
  cases parsed : Received.parse bytes with
  | none =>
    rw [if_pos (Received.parse_eq_none_iff.mp parsed), ite_self]
    exact runs_freed skb m
  | some frame =>
    have long : ¬bytes.length < 24 := by
      rw [← Received.parse_eq_none_iff, parsed]
      exact Option.some_ne_none frame
    obtain rfl := Received.bytes_of_parse parsed
    obtain ⟨memory', head', read⟩ := Received.exists_read linear
    obtain rfl := Option.some.inj (head.symm.trans head')
    have same : ctl = isCtl frame.fc := by
      have two : skb.len ≥ 2 := by
        rw [ge_iff_le, UInt32.le_iff_toNat_le, linear.len]
        exact Nat.le_trans (by decide) (Nat.not_lt.mp long)
      have fc : getUnalignedLe16 memory skb.data = some frame.fc := read.fc
      rw [earlyCtl, if_pos two, fc] at early
      exact (Option.some.inj early).symm
    rw [Option.filter_some, if_neg long]
    simp only [read.fc, other frame parsed, Program.require_some_bind, Bool.false_eq_true,
      ite_false]
    cases control : isCtl frame.fc with
    | true =>
      rw [same, control, isDataPresent_of_isCtl control]
      exact runs_freed skb m
    | false =>
      rw [same, control]
      cases present : isDataPresent frame.fc with
      | false => exact runs_freed skb m
      | true =>
        simp only [Bool.false_eq_true, ite_false, Bool.not_true, Bool.true_and,
          Program.runs_bind, runs_runtime, rxDataMatchesBss_eq read, Program.require_some_bind]
        cases admitted : m.rt.admits frame with
        | false => exact runs_freed skb m
        | true =>
          have way : hasTods frame.fc = false ∧ hasFromds frame.fc = true := by
            unfold Runtime.admits at admitted
            split at admitted
            · cases admitted
            · simp only [Bool.and_eq_true, Bool.not_eq_true'] at admitted
              exact admitted.1.1.2
          exact runs_rxData head linear present way.1 way.2 m

end Delivers

section Reception

variable {env : Env} {skb : SkBuff} {bytes : List UInt8} {m m' : Machine}

/-- A turn to a runtime leaves the queue as it is there. -/
theorem Turns.rxQueue {rt : Runtime} {told : List Event} (turns : Turns rt told m m') :
    m'.rt.rxQueue = rt.rxQueue :=
  (congrArg Runtime.rxQueue turns.core :)

/-- No turn of the station changes the queue. -/
theorem Turn.rxQueue {call : Call} {ret : Int} (turn : Turn m call ret m') :
    m'.rt.rxQueue = m.rt.rxQueue := by
  cases turn with
  | quiet keeps => exact keeps.turns.rxQueue
  | began started idle fills named turns => exact turns.rxQueue
  | rejected started idle nonzero turns => exact turns.rxQueue
  | authenticated state heard fills turns => exact turns.rxQueue
  | failed failure kept turns => exact turns.rxQueue
  | stuck state positive asked fills turns => exact turns.rxQueue
  | completed state heard fills here named entry turns => exact turns.rxQueue
  | left leaving here turns => exact turns.rxQueue

/-- A management frame leaves the queue as it is. -/
theorem after_rxFrame_of_mgmt {frame : Received} (linear : skb.Linear frame.bytes)
    (mgmt : isMgmt frame.fc = true) (m : Machine) :
    (rxFrame env skb).after (fun _ m' => m'.rt.rxQueue = m.rt.rxQueue) m := by
  obtain ⟨memory, head, read⟩ := Received.exists_read linear
  have noted (m₁ : Machine) (same : m₁.rt.rxQueue = m.rt.rxQueue) :
      (devKfreeSkbAny skb).after (fun _ m' => m'.rt.rxQueue = m.rt.rxQueue) m₁ := by
    rw [devKfreeSkbAny, after_note]
    exact same
  unfold rxFrame
  simp only [head, read.fc, mgmt, Program.require_some_bind, Program.after_bind,
    Program.after_require, Program.after_ite, ite_true]
  intro ctl _
  split
  · exact noted m rfl
  split
  · exact noted m rfl
  · exact (after_handleMgmtRx env skb 0 m).mono fun _ m₁ turn => noted m₁ turn.rxQueue

/-- A management frame carries no data. -/
theorem isDataPresent_of_isMgmt {fc : UInt16} (mgmt : isMgmt fc = true) :
    isDataPresent fc = false := by
  have other : isData fc = false := by
    simp only [isMgmt, isData, decide_eq_true_eq, decide_eq_false_iff_not] at mgmt ⊢
    rw [mgmt]
    decide
  rw [isDataPresent, other, Bool.false_and]

/-- A frame is queued as far as it is taken. -/
theorem after_rxFrame (linear : skb.Linear bytes) (m : Machine) :
    (rxFrame env skb).after (fun _ m' => ∃ new, m'.rt.rxQueue = m.rt.rxQueue ++ new ∧
      List.Forall₂ HoldsFrame new (m.queued env bytes)) m := by
  by_cases mgmt : ∃ frame, Received.parse bytes = some frame ∧ isMgmt frame.fc = true
  · obtain ⟨frame, parsed, mgmt⟩ := mgmt
    obtain rfl := Received.bytes_of_parse parsed
    have nothing : m.queued env frame.bytes = [] := by
      rw [Machine.queued, Runtime.taken, parsed, Option.filter_some, isDataPresent_of_isMgmt mgmt]
      rfl
    rw [nothing]
    exact (after_rxFrame_of_mgmt linear mgmt m).mono fun _ m' same =>
      ⟨[], by rw [same, List.append_nil], .nil⟩
  · have other : ∀ frame, Received.parse bytes = some frame → isMgmt frame.fc = false := by
      intro frame parsed
      exact Bool.eq_false_iff.mpr fun here => mgmt ⟨frame, parsed, here⟩
    refine (runs_rxFrame linear other m).after.mono fun _ m' delivers => ?_
    obtain ⟨new, same, held⟩ := delivers
    exact ⟨new, by rw [same], held⟩

/-- What is received without the check sequence of a frame. -/
theorem exists_whole (linear : skb.Linear bytes) {rt : Runtime}
    (fcs : rt.hw.flags &&& rxIncludesFcs ≠ 0) (long : ¬skb.len ≤ fcsLen) :
    ∃ whole, rt.whole bytes = some whole ∧ (skbTrim skb (skb.len - fcsLen)).Linear whole ∧
      (skbTrim skb (skb.len - fcsLen)).id = skb.id := by
  have count := linear.len
  have four : fcsLen.toNat = 4 := rfl
  rw [UInt32.le_iff_toNat_le, four, count] at long
  have less : (skb.len - fcsLen).toNat = bytes.length - 4 := by
    rw [UInt32.toNat_sub_of_le _ _ (UInt32.le_iff_toNat_le.mpr (by omega)), four, count]
  have shorter : (skb.len - fcsLen).toNat ≤ bytes.length := by omega
  refine ⟨bytes.take (bytes.length - 4), ?_, ?_, ?_⟩
  · rw [Runtime.whole, if_pos fcs, if_neg long]
  · have trimmed := linear.skbTrim shorter
    rwa [less] at trimmed
  · obtain ⟨frags, same⟩ := linear.skbTrim_eq shorter
    rw [same]

/-- A frame that is shorter than its check sequence is dropped. -/
theorem whole_of_short (linear : skb.Linear bytes) {rt : Runtime}
    (fcs : rt.hw.flags &&& rxIncludesFcs ≠ 0) (short : skb.len ≤ fcsLen) :
    rt.whole bytes = none := by
  have few : bytes.length ≤ 4 := by
    rw [← linear.len]
    exact UInt32.le_iff_toNat_le.mp short
  rw [Runtime.whole, if_pos fcs, if_pos few]

/-- Nothing is queued of a buffer that is freed. -/
theorem after_freed (skb : SkBuff) (m : Machine) :
    (devKfreeSkbAny skb).after (fun _ m' => ∃ new, m'.rt.rxQueue = m.rt.rxQueue ++ new ∧
      List.Forall₂ HoldsFrame new []) m :=
  (runs_freed skb m).after.mono fun _ m' delivers => by
    obtain ⟨new, same, held⟩ := delivers
    exact ⟨new, by rw [same], held⟩

/-- A buffer that is received is freed, or what it has without the check sequence is received as a
frame. -/
theorem rxIrqsafe_cases (linear : skb.Linear bytes) (env : Env) (attached : Bool) (m : Machine) :
    rxIrqsafe env attached skb m = devKfreeSkbAny skb m ∧
        received env attached m skb.status bytes = [] ∨
      ∃ skb' whole, m.rt.whole bytes = some whole ∧ skb'.Linear whole ∧ skb'.id = skb.id ∧
        rxIrqsafe env attached skb m = rxFrame env skb' m ∧
          received env attached m skb.status bytes = m.queued env whole := by
  have started (next : Runtime → Kernel Unit) : (runtime >>= next) m = next m.rt m := rfl
  unfold rxIrqsafe received
  rw [linear.validBounds, Bool.not_true, Bool.or_false]
  cases attached with
  | false => exact .inl ⟨rfl, rfl⟩
  | true =>
    by_cases broken : skb.status.flag &&& rxFlagBroken ≠ 0
    · simp only [broken, Bool.not_true, Bool.false_eq_true, ite_false, ne_eq, not_false_eq_true,
        ite_true, decide_true, Bool.or_true]
      exact .inl ⟨trivial, trivial⟩
    simp only [broken, Bool.not_true, Bool.false_eq_true, ite_false, decide_false, Bool.or_false,
      started]
    by_cases fcs : m.rt.hw.flags &&& rxIncludesFcs ≠ 0
    · rw [if_pos fcs]
      by_cases short : skb.len ≤ fcsLen
      · rw [if_pos short, whole_of_short linear fcs short]
        exact .inl ⟨rfl, rfl⟩
      · rw [if_neg short]
        obtain ⟨whole, found, trimmed, same⟩ := exists_whole linear fcs short
        rw [found]
        exact .inr ⟨_, whole, rfl, trimmed, same, rfl, rfl⟩
    · have found : m.rt.whole bytes = some bytes := by rw [Runtime.whole, if_neg fcs]
      rw [if_neg fcs, found]
      exact .inr ⟨skb, bytes, rfl, linear, rfl, rfl, rfl⟩

/-- The frames that a buffer stands for are queued when it is received. -/
theorem after_rxIrqsafe (linear : skb.Linear bytes) (env : Env) (attached : Bool) (m : Machine) :
    (rxIrqsafe env attached skb).after (fun _ m' => ∃ new, m'.rt.rxQueue = m.rt.rxQueue ++ new ∧
      List.Forall₂ HoldsFrame new (received env attached m skb.status bytes)) m := by
  obtain ⟨same, none⟩ | ⟨skb', whole, found, linear', -, same, some⟩ :=
    rxIrqsafe_cases linear env attached m
  · rw [none, Program.after, same]
    exact after_freed skb m
  · rw [some, Program.after, same]
    exact after_rxFrame linear' m

/-- A buffer without a management frame is received without a fault. -/
theorem runs_rxIrqsafe (linear : skb.Linear bytes) (env : Env) (attached : Bool) {m : Machine}
    (other : ∀ whole frame, m.rt.whole bytes = some whole → Received.parse whole = some frame →
      isMgmt frame.fc = false) :
    (rxIrqsafe env attached skb).runs
      (fun _ m' => Delivers (received env attached m skb.status bytes) m m') m := by
  obtain ⟨same, none⟩ | ⟨skb', whole, found, linear', -, same, some⟩ :=
    rxIrqsafe_cases linear env attached m
  · rw [none, Program.runs, same]
    exact runs_freed skb m
  · rw [some, Program.runs, same]
    exact runs_rxFrame linear' (fun frame parsed => other whole frame found parsed) m

/-- What a buffer that is received comes to is told by its bytes: exactly the frames that they
stand for are queued, in their order, and behind what was queued before. If no management frame is
received, nothing else of the runtime changes, and the reception does not fault. -/
theorem rx_delivers (linear : skb.Linear bytes) (env : Env) (attached : Bool) (m : Machine) :
    (rxIrqsafe env attached skb).after (fun _ m' => ∃ new, m'.rt.rxQueue = m.rt.rxQueue ++ new ∧
        List.Forall₂ HoldsFrame new (received env attached m skb.status bytes)) m ∧
      ((∀ whole frame, m.rt.whole bytes = some whole → Received.parse whole = some frame →
        isMgmt frame.fc = false) →
      (rxIrqsafe env attached skb).runs
        (fun _ m' => Delivers (received env attached m skb.status bytes) m m') m) :=
  ⟨after_rxIrqsafe linear env attached m, runs_rxIrqsafe linear env attached⟩

/-- The frame of an A-MSDU with two subframes that is received in runs on fixed input. -/
def amsduReceived : Received :=
  ⟨0x0288, 0, stationAddr, pointAddr, pointAddr, 0,
    [0x80, 0x00] ++ (plainSubframe.bytes ++ ([0, 0] ++ plainSubframe.bytes))⟩

/-- A buffer has the bytes of the frame. -/
theorem linear_amsduReceived :
    (amsduFrame [0x88, 0x02] [0x80, 0x00]).Linear amsduReceived.bytes where
  held := ⟨_, rfl, Memory.holds_ofBytes _⟩
  len := rfl
  tail := rfl
  limit := Nat.le_refl _
  linear := rfl

/-- The frame stands for two Ethernet frames. -/
theorem frames_amsduReceived : amsduReceived.frames .kind 0 = [plainFrame, plainFrame] := by
  have amsdu : amsduReceived.isAmsdu = true := by decide +kernel
  have serialized : Serialized [plainSubframe, plainSubframe] amsduReceived.body :=
    .cons plainSubframe [0, 0] [plainSubframe] plainSubframe.bytes (by decide)
      (by simpa using Serialized.last plainSubframe [] (.inl rfl))
  have carries := List.Forall₂.cons plainSubframe_carries (.cons plainSubframe_carries .nil)
  have found : subframes amsduReceived.body = [plainSubframe, plainSubframe] :=
    subframes_of_serialized serialized (by
      have small : plainSubframe.msdu.length < 65536 := by decide
      simpa [plainSubframe_carries.msdu_ne_nil] using small)
  have parts : amsduReceived.parts = [plainFrame, plainFrame] := by
    rw [Received.parts, if_pos amsdu, found, filterMap_ethernet_of_carries carries]
  rw [Received.frames, parts, delivered_of_mapped fun _ => rfl, if_neg (by decide)]

/-- The bytes of the frame are parsed to it. -/
theorem parse_amsduReceived : Received.parse amsduReceived.bytes = some amsduReceived := by rfl

/-- A station that is connected receives the two Ethernet frames. -/
theorem received_amsduReceived :
    received .kind true (.start connectedRuntime) .zero amsduReceived.bytes =
      [plainFrame, plainFrame] := by
  have taken : connectedRuntime.taken amsduReceived.bytes = some amsduReceived := by
    have admitted : (isDataPresent amsduReceived.fc && connectedRuntime.admits amsduReceived) =
        true := by decide +kernel
    rw [Runtime.taken, parse_amsduReceived, Option.filter_some, if_pos admitted]
  have found : (Machine.start connectedRuntime).queued .kind amsduReceived.bytes =
      amsduReceived.frames .kind 0 := by
    rw [Machine.queued, Machine.start, taken]
  rw [← frames_amsduReceived, ← found]
  rfl

/-- The frame is no management frame. -/
theorem no_mgmt_amsduReceived (whole : List UInt8) (frame : Received)
    (same : (Machine.start connectedRuntime).rt.whole amsduReceived.bytes = some whole)
    (found : Received.parse whole = some frame) : isMgmt frame.fc = false := by
  obtain rfl := Option.some.inj same
  obtain rfl := Option.some.inj (parse_amsduReceived.symm.trans found)
  decide

/-- Both Ethernet frames of the A-MSDU are queued. -/
theorem rx_delivers_amsdu :
    (rxIrqsafe .kind true (amsduFrame [0x88, 0x02] [0x80, 0x00])).runs
      (fun _ m' => Delivers [plainFrame, plainFrame] (.start connectedRuntime) m')
        (.start connectedRuntime) := by
  have delivered := (rx_delivers linear_amsduReceived .kind true (.start connectedRuntime)).2
  have status : (amsduFrame [0x88, 0x02] [0x80, 0x00]).status = .zero := rfl
  rw [status, received_amsduReceived] at delivered
  exact delivered no_mgmt_amsduReceived

end Reception

end Lcompat.Mac80211
