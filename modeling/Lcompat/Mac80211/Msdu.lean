import Lcompat.Errno
import Lcompat.Mac80211.Runtime

/-!
# Single MSDUs

The data frame that is built from an Ethernet frame, and the Ethernet frame that a data frame is
turned into in place. A data frame is the bytes of its fields, and both functions are described
by those fields.
-/

namespace Lcompat.Mac80211

open Lcompat.Logic
open Lcompat.Net

/-- An Ethernet frame. -/
structure EthFrame where
  /-- Where it goes. -/
  dest : EtherAddr
  /-- Where it comes from. -/
  source : EtherAddr
  /-- Its EtherType. -/
  ethertype : UInt16
  /-- What it carries. -/
  payload : List UInt8
  deriving DecidableEq

/-- The bytes of an Ethernet frame. -/
def EthFrame.bytes (frame : EthFrame) : List UInt8 :=
  frame.dest.bytes ++ frame.source.bytes ++ cpuToBe16 frame.ethertype ++ frame.payload

/-- Bytes that are at least a header are an Ethernet frame. -/
theorem EthFrame.exists_of_length {bytes : List UInt8} (long : 14 ≤ bytes.length) :
    ∃ frame : EthFrame, frame.bytes = bytes := by
  have dest : (bytes.take 6).length = 6 := by
    rw [List.length_take]
    omega
  have source : ((bytes.drop 6).take 6).length = 6 := by
    rw [List.length_take, List.length_drop]
    omega
  obtain ⟨high, low, rest, found⟩ : ∃ high low rest, bytes.drop 12 = high :: low :: rest := by
    match found : bytes.drop 12 with
    | [] | [_] =>
      have count := congrArg List.length found
      simp only [List.length_drop, List.length_nil, List.length_cons] at count
      omega
    | high :: low :: rest => exact ⟨high, low, rest, rfl⟩
  refine ⟨⟨⟨bytes.take 6, dest⟩, ⟨(bytes.drop 6).take 6, source⟩, word high low, rest⟩, ?_⟩
  have tail : (bytes.drop 6).drop 6 = bytes.drop 12 := by rw [List.drop_drop]
  rw [EthFrame.bytes, cpuToBe16_word, List.append_assoc, List.append_assoc, List.cons_append,
    List.cons_append, List.nil_append, ← found, ← tail, List.take_append_drop,
    List.take_append_drop]

/-- The fields of a data frame that carries one MSDU behind an LLC header. -/
structure Mpdu where
  /-- The frame control field. -/
  fc : UInt16
  /-- The duration field. -/
  duration : UInt16
  /-- The first address. -/
  addr1 : EtherAddr
  /-- The second address. -/
  addr2 : EtherAddr
  /-- The third address. -/
  addr3 : EtherAddr
  /-- The sequence control field. -/
  seqCtrl : UInt16
  /-- What the header has behind the sequence control field. -/
  extra : List UInt8
  /-- The header is as long as its frame control field says. -/
  extra_length : 24 + extra.length = (dataHdrLen fc).toNat
  /-- The LLC header. -/
  snap : List UInt8
  /-- The LLC header has six bytes. -/
  snap_length : snap.length = 6
  /-- The EtherType. -/
  ethertype : UInt16
  /-- What the MSDU carries. -/
  payload : List UInt8

/-- The first 24 bytes of a data frame. -/
def Mpdu.front (mpdu : Mpdu) : List UInt8 :=
  cpuToLe16 mpdu.fc ++ (cpuToLe16 mpdu.duration ++ (mpdu.addr1.bytes ++ (mpdu.addr2.bytes ++
    (mpdu.addr3.bytes ++ cpuToLe16 mpdu.seqCtrl))))

/-- The MSDU of a data frame with its LLC header. -/
def Mpdu.msdu (mpdu : Mpdu) : List UInt8 :=
  mpdu.snap ++ (cpuToBe16 mpdu.ethertype ++ mpdu.payload)

/-- The bytes of a data frame. -/
def Mpdu.bytes (mpdu : Mpdu) : List UInt8 := mpdu.front ++ (mpdu.extra ++ mpdu.msdu)

/-- The Ethernet frame that a data frame stands for. -/
def Mpdu.ethernet (mpdu : Mpdu) : EthFrame where
  dest := if hasTods mpdu.fc then mpdu.addr3 else mpdu.addr1
  source := if hasFromds mpdu.fc then mpdu.addr3 else mpdu.addr2
  ethertype := mpdu.ethertype
  payload := mpdu.payload

/-- The destination and the source that `lcompat_ieee80211_data_to_ethernet` copies. -/
def dataAddrs (memory : Memory) (frame : Nat) (fc : UInt16) : Option (EtherAddr × EtherAddr) :=
  if !hasTods fc && hasFromds fc then do
    return (← addr1 memory frame, ← addr3 memory frame)
  else if hasTods fc && !hasFromds fc then do
    return (← addr3 memory frame, ← addr2 memory frame)
  else do
    return (← addr1 memory frame, ← addr2 memory frame)

/-- The fields of an Ethernet header, written at `eth`. -/
def writeEthHeader (skb : SkBuff) (eth : Nat) (dst src : EtherAddr) (proto : UInt16) : SkBuff :=
  let skb := skb.write eth dst.bytes
  let skb := skb.write (eth + 6) src.bytes
  skb.write (eth + 12) (cpuToBe16 proto)

/-- The end of `lcompat_ieee80211_data_to_ethernet`: the payload moves behind an Ethernet header
that is written at the front, and what is behind it is cut off. -/
def moveBehindHeader (skb : SkBuff) (dst src : EtherAddr) (proto : UInt16) (payload : List UInt8)
    (payloadLen : UInt32) : SkBuff :=
  let skb := skb.write (skb.data + 14) payload
  let skb := writeEthHeader skb skb.data dst src proto
  { skbTrim skb (ethhdrLen + payloadLen) with protocol := proto }

/-- `lcompat_ieee80211_data_to_ethernet`: the result, and the buffer. -/
def dataToEthernet (skb : SkBuff) : Option (Int × SkBuff) := do
  if !skbValidBounds skb || skb.len < hdr3addrLen + llcSnapLen then return (-EINVAL, skb)
  let memory ← skb.head
  let fc ← frameControl memory skb.data
  if fc &&& fctlProtected ≠ 0 then return (-EOPNOTSUPP, skb)
  if !isDataPresent fc || hasTods fc && hasFromds fc then return (-EINVAL, skb)
  let hdrLen := dataHdrLen fc
  if skb.len < hdrLen + llcSnapLen then return (-EINVAL, skb)
  let (dst, src) ← dataAddrs memory skb.data fc
  let payload := skb.data + hdrLen.toNat
  let payloadLen := skb.len - hdrLen
  let some (proto, skip) ← snapToEthertype memory payload payloadLen | return (-EINVAL, skb)
  let payloadLen := payloadLen - skip
  let moved ← memory.read (payload + skip.toNat) payloadLen.toNat
  return (0, moveBehindHeader skb dst src proto moved payloadLen)

/-- The frame control field of a data frame to an access point. -/
def txFrameControl (useQos : Bool) : UInt16 := 0x0008 ||| (if useQos then 0x0080 else 0) ||| 0x0100

/-- The fields of a header, written at `hdr`. -/
def writeHeader (skb : SkBuff) (hdr : Nat) (fc seqCtrl : UInt16) (a1 a2 a3 : EtherAddr) : SkBuff :=
  let skb := skb.write hdr (cpuToLe16 fc)
  let skb := skb.write (hdr + 4) a1.bytes
  let skb := skb.write (hdr + 10) a2.bytes
  let skb := skb.write (hdr + 16) a3.bytes
  skb.write (hdr + 22) (cpuToLe16 seqCtrl)

/-- Room for a QoS control field that is zero, if there is one. -/
def putQos (useQos : Bool) (skb : SkBuff) : Option SkBuff :=
  if useQos then (skbPutZero skb 2).map Prod.snd else some skb

/-- The end of `lcompat_ieee80211_build_data_frame`: the LLC header is written at `pos`, the
payload is put behind it, and the buffer is marked as best effort. -/
def putMsdu (skb : SkBuff) (pos : Nat) (proto : UInt16) (payload : List UInt8) : SkBuff :=
  let skb := skb.write pos rfc1042Header
  let skb := skb.write (pos + 6) (cpuToBe16 proto)
  let skb := ((skbPutData skb payload).map Prod.snd).getD skb
  { skb with protocol := proto, queueMapping := 2, priority := 0, status := .zero }

/-- `lcompat_ieee80211_build_data_frame`: the result, and the buffer that is handed out. -/
def buildDataFrame (env : Env) (data : Memory) (len : UInt32) : Kernel (Int × Option SkBuff) := do
  let rt ← runtime
  let some vif := rt.vif | return (-EINVAL, none)
  if len < ethhdrLen then return (-EINVAL, none)
  if !rt.started || !rt.hw.ops.tx then return (-ENODEV, none)
  if rt.connState ≠ .connected || isZeroEtherAddr vif.bssConf.bssid then
    return (-ENOTCONN, none)
  let payloadLen := len.toNat - ethhdrLen.toNat
  let hdrLen := hdr3addrLen.toNat + (if rt.useQos then 2 else 0)
  let some frameLen := (sizeAdd hdrLen llcSnapLen.toNat).bind (sizeAdd · payloadLen)
    | return (-EOVERFLOW, none)
  if frameLen > uintMax || payloadLen > uintMax then return (-EOVERFLOW, none)
  let some skb ← allocTxSkb env frameLen | return (-ENOMEM, none)
  let some (hdr, skb) := skbPutZero skb hdr3addrLen
    | do
      devKfreeSkbAny skb
      return (-ENOMEM, none)
  let dest ← .require (readAddr data 0)
  let skb := writeHeader skb hdr (txFrameControl rt.useQos) ((rt.txSeq &&& 0xfff) <<< 4)
    vif.bssConf.bssid vif.addr dest
  change fun rt => { rt with txSeq := rt.txSeq + 1 }
  let some skb := putQos rt.useQos skb
    | do
      devKfreeSkbAny skb
      return (-ENOMEM, none)
  let some (pos, skb) := skbPut skb llcSnapLen
    | do
      devKfreeSkbAny skb
      return (-ENOMEM, none)
  let proto ← .require (getUnalignedBe16 data 12)
  let payload ← .require (data.read 14 payloadLen)
  return (0, some (putMsdu skb pos proto payload))

/-- The first part of a header has 24 bytes. -/
@[simp]
theorem Mpdu.front_length (mpdu : Mpdu) : mpdu.front.length = 24 := by
  simp [Mpdu.front, mpdu.addr1.length_eq, mpdu.addr2.length_eq, mpdu.addr3.length_eq]

/-- An MSDU has an LLC header, an EtherType and what it carries. -/
@[simp]
theorem Mpdu.msdu_length (mpdu : Mpdu) : mpdu.msdu.length = 8 + mpdu.payload.length := by
  simp only [Mpdu.msdu, List.length_append, mpdu.snap_length, length_cpuToBe16]
  omega

/-- A data frame has a header and an MSDU. -/
theorem Mpdu.bytes_length (mpdu : Mpdu) :
    mpdu.bytes.length = (dataHdrLen mpdu.fc).toNat + 8 + mpdu.payload.length := by
  have extra := mpdu.extra_length
  simp only [Mpdu.bytes, List.length_append, front_length, msdu_length]
  omega

/-- What is read from memory that holds a data frame. -/
structure Mpdu.Read (mpdu : Mpdu) (memory : Memory) (frame : Nat) : Prop where
  /-- The frame control field. -/
  fc : frameControl memory frame = some mpdu.fc
  /-- The first address. -/
  addr1 : Mac80211.addr1 memory frame = some mpdu.addr1
  /-- The second address. -/
  addr2 : Mac80211.addr2 memory frame = some mpdu.addr2
  /-- The third address. -/
  addr3 : Mac80211.addr3 memory frame = some mpdu.addr3
  /-- The MSDU. -/
  msdu : memory.Holds (frame + (dataHdrLen mpdu.fc).toNat) mpdu.msdu

/-- The fields of a data frame are read from memory that holds it. -/
theorem Mpdu.read_of_holds {mpdu : Mpdu} {memory : Memory} {frame : Nat}
    (holds : memory.Holds frame mpdu.bytes) : mpdu.Read memory frame := by
  obtain ⟨front, behind⟩ := Memory.holds_append.mp holds
  obtain ⟨-, msdu⟩ := Memory.holds_append.mp behind
  simp only [Mpdu.front, Memory.holds_append, length_cpuToLe16, EtherAddr.length_eq,
    Nat.add_assoc, Nat.reduceAdd] at front
  obtain ⟨fc, -, one, two, three, -⟩ := front
  rw [front_length, Nat.add_assoc, mpdu.extra_length] at msdu
  exact ⟨getUnalignedLe16_of_holds_cpu fc, readAddr_of_holds one, readAddr_of_holds two,
    readAddr_of_holds three, msdu⟩

/-- Writing an Ethernet header over the first bytes of a linear buffer. -/
theorem linear_writeEthHeader {skb : SkBuff} {header rest : List UInt8}
    (linear : skb.Linear (header ++ rest)) (same : header.length = 14) (dst src : EtherAddr)
    (proto : UInt16) : (writeEthHeader skb skb.data dst src proto).Linear
      (dst.bytes ++ src.bytes ++ cpuToBe16 proto ++ rest) := by
  obtain ⟨d, s, p, rfl, six, six', two⟩ : ∃ d s p, header = d ++ s ++ p ∧ d.length = 6 ∧
      s.length = 6 ∧ p.length = 2 := by
    refine ⟨header.take 6, (header.drop 6).take 6, header.drop 12, ?_, ?_⟩
    · have cut : (header.drop 6).take 6 ++ header.drop 12 = header.drop 6 := by
        have tail : (header.drop 6).drop 6 = header.drop 12 := List.drop_drop
        rw [← tail, List.take_append_drop]
      rw [List.append_assoc, cut, List.take_append_drop]
    · simp only [List.length_take, List.length_drop]
      omega
  have opened : skb.Linear ([] ++ d ++ (s ++ (p ++ rest))) := by simpa using linear
  have first := opened.write_inside (dst.length_eq.trans six.symm)
  have second : (skb.write skb.data dst.bytes).Linear (dst.bytes ++ s ++ (p ++ rest)) := by
    simpa using first
  have second := second.write_inside (src.length_eq.trans six'.symm)
  have third : ((skb.write skb.data dst.bytes).write (skb.data + 6) src.bytes).Linear
      ((dst.bytes ++ src.bytes) ++ p ++ rest) := by
    simpa [dst.length_eq] using second
  have third := third.write_inside ((length_cpuToBe16 proto).trans two.symm)
  simpa [writeEthHeader, dst.length_eq, src.length_eq] using third

/-- What is left of a linear buffer whose payload has moved behind an Ethernet header. -/
theorem linear_moveBehindHeader {skb : SkBuff} {bytes : List UInt8} (linear : skb.Linear bytes)
    {dst src : EtherAddr} {proto : UInt16} {payload : List UInt8} {payloadLen : UInt32}
    (count : payloadLen.toNat = payload.length) (room : 14 + payload.length ≤ bytes.length) :
    (moveBehindHeader skb dst src proto payload payloadLen).Linear
      (dst.bytes ++ src.bytes ++ cpuToBe16 proto ++ payload) := by
  have short := linear.length_lt
  obtain ⟨header, m, r, rfl, size, same⟩ : ∃ header m r, bytes = header ++ m ++ r ∧
      header.length = 14 ∧ payload.length = m.length := by
    refine ⟨bytes.take 14, (bytes.drop 14).take payload.length,
      (bytes.drop 14).drop payload.length, ?_, ?_⟩
    · rw [List.append_assoc, List.take_append_drop, List.take_append_drop]
    · simp only [List.length_take, List.length_drop]
      omega
  have moved : (skb.write (skb.data + 14) payload).Linear (header ++ (payload ++ r)) := by
    have written := linear.write_inside same
    simpa [size] using written
  have whole : (writeEthHeader (skb.write (skb.data + 14) payload) skb.data dst src proto).Linear
      ((dst.bytes ++ src.bytes ++ cpuToBe16 proto ++ payload) ++ r) := by
    simpa using linear_writeEthHeader moved size dst src proto
  have total : (ethhdrLen + payloadLen).toNat =
      (dst.bytes ++ src.bytes ++ cpuToBe16 proto ++ payload).length := by
    simp only [List.length_append, dst.length_eq, src.length_eq, length_cpuToBe16] at short ⊢
    rw [UInt32.toNat_add, count]
    simp only [ethhdrLen, UInt32.reduceToNat]
    omega
  have shorter : (ethhdrLen + payloadLen).toNat ≤
      (dst.bytes ++ src.bytes ++ cpuToBe16 proto ++ payload ++ r).length := by
    rw [total]
    simp
  have trimmed := whole.skbTrim shorter
  rw [total, List.take_left] at trimmed
  exact trimmed.mark proto _ _ _

/-- Writing the fields of a header over zeros. -/
theorem linear_writeHeader {skb : SkBuff} (linear : skb.Linear (List.replicate 24 0))
    (fc seqCtrl : UInt16) (a1 a2 a3 : EtherAddr) :
    (writeHeader skb skb.data fc seqCtrl a1 a2 a3).Linear
      (cpuToLe16 fc ++ (cpuToLe16 0 ++ (a1.bytes ++ (a2.bytes ++ (a3.bytes ++
        cpuToLe16 seqCtrl))))) := by
  have zeros : skb.Linear ([] ++ [0, 0] ++ List.replicate 22 0) := linear
  have first : (skb.write skb.data (cpuToLe16 fc)).Linear
      ((cpuToLe16 fc ++ cpuToLe16 0) ++ List.replicate 6 0 ++ List.replicate 14 0) :=
    zeros.write_inside (length_cpuToLe16 fc)
  have second := first.write_inside (a1.length_eq.trans List.length_replicate.symm)
  have second : ((skb.write skb.data (cpuToLe16 fc)).write (skb.data + 4) a1.bytes).Linear
      ((cpuToLe16 fc ++ cpuToLe16 0 ++ a1.bytes) ++ List.replicate 6 0 ++ List.replicate 8 0) := by
    simpa using second
  have third := second.write_inside (a2.length_eq.trans List.length_replicate.symm)
  have third : (((skb.write skb.data (cpuToLe16 fc)).write (skb.data + 4) a1.bytes).write
      (skb.data + 10) a2.bytes).Linear ((cpuToLe16 fc ++ cpuToLe16 0 ++ a1.bytes ++ a2.bytes) ++
        List.replicate 6 0 ++ List.replicate 2 0) := by
    simpa [a1.length_eq] using third
  have fourth := third.write_inside (a3.length_eq.trans List.length_replicate.symm)
  have fourth : ((((skb.write skb.data (cpuToLe16 fc)).write (skb.data + 4) a1.bytes).write
      (skb.data + 10) a2.bytes).write (skb.data + 16) a3.bytes).Linear ((cpuToLe16 fc ++
        cpuToLe16 0 ++ a1.bytes ++ a2.bytes ++ a3.bytes) ++ List.replicate 2 0 ++ []) := by
    simpa [a1.length_eq, a2.length_eq] using fourth
  have fifth := fourth.write_inside ((length_cpuToLe16 seqCtrl).trans List.length_replicate.symm)
  simpa [writeHeader, a1.length_eq, a2.length_eq, a3.length_eq] using fifth

/-- A data frame that carries an MSDU behind a known LLC header is turned into the Ethernet frame
that it stands for, and no other data frame is. -/
theorem dataToEthernet_of_linear {skb : SkBuff} {mpdu : Mpdu} (linear : skb.Linear mpdu.bytes)
    (clear : mpdu.fc &&& fctlProtected = 0) (present : isDataPresent mpdu.fc = true)
    (three : (hasTods mpdu.fc && hasFromds mpdu.fc) = false) :
    if knownSnap mpdu.snap mpdu.ethertype then
      ∃ out, dataToEthernet skb = some (0, out) ∧ out.Linear mpdu.ethernet.bytes ∧
        out.protocol = mpdu.ethertype
    else dataToEthernet skb = some (-EINVAL, skb) := by
  obtain ⟨memory, head, holds⟩ := linear.held
  obtain ⟨fc, one, two, third, msdu⟩ := Mpdu.read_of_holds holds
  have count := linear.len
  rw [mpdu.bytes_length] at count
  have least := mpdu.extra_length
  have long : ¬skb.len < hdr3addrLen + llcSnapLen := by
    rw [UInt32.lt_iff_toNat_lt]
    simp only [hdr3addrLen, llcSnapLen, UInt32.reduceAdd, UInt32.reduceToNat]
    omega
  have longer : ¬skb.len < dataHdrLen mpdu.fc + llcSnapLen := by
    have small := skb.len.toNat_lt
    rw [UInt32.lt_iff_toNat_lt, UInt32.toNat_add, llcSnapLen]
    simp only [UInt32.reduceToNat]
    omega
  have payloadLen : (skb.len - dataHdrLen mpdu.fc).toNat = 8 + mpdu.payload.length := by
    have small := skb.len.toNat_lt
    rw [UInt32.toNat_sub]
    omega
  have enough : ¬skb.len - dataHdrLen mpdu.fc < llcSnapLen := by
    rw [UInt32.lt_iff_toNat_lt, payloadLen, llcSnapLen]
    simp only [UInt32.reduceToNat]
    omega
  have rest : (skb.len - dataHdrLen mpdu.fc - llcSnapLen).toNat = mpdu.payload.length := by
    have least := UInt32.le_iff_toNat_le.mp (UInt32.not_lt.mp enough)
    rw [UInt32.toNat_sub_of_le _ _ (UInt32.not_lt.mp enough), payloadLen, llcSnapLen]
    simp only [UInt32.reduceToNat]
    omega
  have addrs : dataAddrs memory skb.data mpdu.fc =
      some (mpdu.ethernet.dest, mpdu.ethernet.source) := by
    cases tods : hasTods mpdu.fc <;> cases fromds : hasFromds mpdu.fc <;>
      simp_all [dataAddrs, Mpdu.ethernet]
  have found : snapToEthertype memory (skb.data + (dataHdrLen mpdu.fc).toNat)
      (skb.len - dataHdrLen mpdu.fc) = some (if knownSnap mpdu.snap mpdu.ethertype then
        some (mpdu.ethertype, llcSnapLen) else none) := by
    have header : memory.Holds (skb.data + (dataHdrLen mpdu.fc).toNat)
        (mpdu.snap ++ cpuToBe16 mpdu.ethertype) := by
      rw [Mpdu.msdu, ← List.append_assoc] at msdu
      exact (Memory.holds_append.mp msdu).1
    have found := snapToEthertype_of_holds enough mpdu.snap_length header
    rwa [word_toUInt8] at found
  have payload : memory.read (skb.data + (dataHdrLen mpdu.fc).toNat + llcSnapLen.toNat)
      (skb.len - dataHdrLen mpdu.fc - llcSnapLen).toNat = some mpdu.payload := by
    obtain ⟨-, behind⟩ := Memory.holds_append.mp msdu
    obtain ⟨-, payload⟩ := Memory.holds_append.mp behind
    rw [mpdu.snap_length, length_cpuToBe16, Nat.add_assoc] at payload
    rw [rest]
    exact payload
  by_cases known : knownSnap mpdu.snap mpdu.ethertype
  · simp only [known, ↓reduceIte] at found ⊢
    refine ⟨moveBehindHeader skb mpdu.ethernet.dest mpdu.ethernet.source mpdu.ethertype
      mpdu.payload (skb.len - dataHdrLen mpdu.fc - llcSnapLen), ?_, ?_, rfl⟩
    · simp only [dataToEthernet, linear.validBounds, long, head, fc, clear, present, three, longer,
        addrs, found, payload, Option.bind_eq_bind, Option.bind_some, Bool.not_true,
        decide_false, Bool.or_self, Bool.false_eq_true, ↓reduceIte, ne_eq, not_true_eq_false]
      rfl
    · exact linear_moveBehindHeader linear rest (by rw [mpdu.bytes_length]; omega)
  · simp only [known] at found ⊢
    simp only [dataToEthernet, linear.validBounds, long, head, fc, clear, present, three, longer,
      addrs, found, Option.bind_eq_bind, Option.bind_some, Bool.not_true,
      decide_false, Bool.or_self, Bool.false_eq_true, ↓reduceIte, ne_eq, not_true_eq_false]
    rfl

/-- The data frame that an Ethernet frame is sent in. -/
def txMpdu (rt : Runtime) (vif : Vif) (frame : EthFrame) : Mpdu where
  fc := txFrameControl rt.useQos
  duration := 0
  addr1 := vif.bssConf.bssid
  addr2 := vif.addr
  addr3 := frame.dest
  seqCtrl := (rt.txSeq &&& 0xfff) <<< 4
  extra := if rt.useQos then [0, 0] else []
  extra_length := by cases rt.useQos <;> decide
  snap := rfc1042Header
  snap_length := rfl
  ethertype := frame.ethertype
  payload := frame.payload

/-- What is read from memory that holds an Ethernet frame at a place. -/
structure EthFrame.Read (frame : EthFrame) (memory : Memory) (place : Nat) : Prop where
  /-- Where it goes. -/
  dest : readAddr memory place = some frame.dest
  /-- Where it comes from. -/
  source : readAddr memory (place + 6) = some frame.source
  /-- Its EtherType. -/
  ethertype : getUnalignedBe16 memory (place + 12) = some frame.ethertype
  /-- What it carries. -/
  payload : memory.Holds (place + 14) frame.payload

/-- An Ethernet frame has a header and what it carries. -/
theorem EthFrame.bytes_length (frame : EthFrame) :
    frame.bytes.length = 14 + frame.payload.length := by
  simp only [EthFrame.bytes, List.length_append, EtherAddr.length_eq, length_cpuToBe16]

/-- The fields of an Ethernet frame are read from memory that holds it. -/
theorem EthFrame.read_of_holds {frame : EthFrame} {memory : Memory} {place : Nat}
    (holds : memory.Holds place frame.bytes) : frame.Read memory place := by
  simp only [EthFrame.bytes, Memory.holds_append, List.length_append, EtherAddr.length_eq,
    length_cpuToBe16, Nat.reduceAdd] at holds
  obtain ⟨⟨⟨dest, source⟩, ethertype⟩, payload⟩ := holds
  exact ⟨readAddr_of_holds dest, readAddr_of_holds source, getUnalignedBe16_of_holds_cpu ethertype,
    payload⟩

/-- A QoS control field that fits is put behind the bytes of a linear buffer. -/
theorem linear_putQos {skb : SkBuff} {bytes : List UInt8} {useQos : Bool} {rest : Nat}
    (linear : skb.Linear bytes)
    (room : skb.tail.toNat + ((if useQos then 2 else 0) + rest) ≤ skb.limit.toNat) :
    ∃ out, putQos useQos skb = some out ∧
      out.Linear (bytes ++ if useQos then [0, 0] else []) ∧
        out.tail.toNat + rest ≤ out.limit.toNat := by
  cases useQos with
  | false => exact ⟨skb, rfl, by simpa using linear, by simpa using room⟩
  | true =>
    simp only [↓reduceIte] at room ⊢
    have fits : skb.tail.toNat + (2 : UInt32).toNat ≤ skb.limit.toNat := by
      simp only [UInt32.reduceToNat]
      omega
    refine ⟨skb.appended [0, 0], ?_, linear.appended (by simp; omega), ?_⟩
    · simp only [putQos, ↓reduceIte, linear.skbPutZero_eq fits]
      rfl
    · exact SkBuff.Linear.room_appended room

/-- An MSDU that fits is put behind the bytes of a linear buffer. -/
theorem linear_putMsdu {skb : SkBuff} {bytes payload : List UInt8} {proto : UInt16}
    (linear : skb.Linear bytes)
    (room : skb.tail.toNat + (8 + payload.length) ≤ skb.limit.toNat) :
    ∃ pos out, skbPut skb llcSnapLen = some (pos, out) ∧
      (putMsdu out pos proto payload).Linear
        (bytes ++ (rfc1042Header ++ cpuToBe16 proto) ++ payload) := by
  have fits : skb.tail.toNat + llcSnapLen.toNat ≤ skb.limit.toNat := by
    simp only [llcSnapLen, UInt32.reduceToNat]
    omega
  refine ⟨_, _, linear.skbPut_eq fits, ?_⟩
  have eight : (rfc1042Header ++ cpuToBe16 proto).length = 8 := rfl
  have header : (skb.appended (rfc1042Header ++ cpuToBe16 proto)).Linear
      (bytes ++ (rfc1042Header ++ cpuToBe16 proto)) :=
    linear.appended (by omega)
  have behind := SkBuff.Linear.room_appended (eight.symm ▸ room)
  -- the header that is written behind the room is what appending it comes to
  have written : (({ skb with tail := skb.tail + llcSnapLen, len := skb.len + llcSnapLen }.write
      skb.tail.toNat rfc1042Header).write (skb.tail.toNat + 6) (cpuToBe16 proto)) =
        skb.appended (rfc1042Header ++ cpuToBe16 proto) := by
    have six : rfc1042Header.length = 6 := rfl
    simp only [SkBuff.write, SkBuff.appended, Option.map_map, Function.comp_def, eight, ← six,
      Memory.write_write, llcSnapLen]
    rfl
  simp only [putMsdu, written, header.skbPutData_eq behind, Option.map_some, Option.getD_some]
  exact (header.appended behind).mark _ _ _ _

/-- A data frame that is built holds the Ethernet frame behind an RFC 1042 header. -/
theorem after_buildDataFrame {env : Env} {data : Memory} {len : UInt32} {m : Machine} {vif : Vif}
    {frame : EthFrame} (attached : m.rt.vif = some vif) (holds : data.Holds 0 frame.bytes)
    (count : len.toNat = frame.bytes.length) :
    (buildDataFrame env data len).after (fun r _ => r.1 = 0 →
      ∃ skb, r.2 = some skb ∧ skb.Linear (txMpdu m.rt vif frame).bytes) m := by
  obtain ⟨dest, -, ethertype, payload⟩ := EthFrame.read_of_holds holds
  have payload : data.read 14 frame.payload.length = some frame.payload := payload
  rw [Nat.zero_add] at ethertype
  rw [frame.bytes_length] at count
  have length : len.toNat - ethhdrLen.toNat = frame.payload.length := by
    simp only [ethhdrLen, UInt32.reduceToNat]
    omega
  unfold buildDataFrame
  simp only [Program.after_bind, after_runtime, attached, length]
  split
  · simp [EINVAL]
  split
  · simp [ENODEV]
  split
  · simp [ENOTCONN]
  cases sum : (sizeAdd (hdr3addrLen.toNat + if m.rt.useQos = true then 2 else 0)
      llcSnapLen.toNat).bind fun a => sizeAdd a frame.payload.length with
  | none => simp [EOVERFLOW]
  | some frameLen =>
    obtain ⟨hdrLen, first, second⟩ := Option.bind_eq_some_iff.mp sum
    have whole := add_of_sizeAdd second
    rw [← add_of_sizeAdd first] at whole
    simp only
    split
    · simp [EOVERFLOW]
    simp only [Program.after_bind]
    refine (after_allocTxSkb env _ m).mono fun skb m' allocated => ?_
    obtain ⟨same, room⟩ := allocated
    cases skb with
    | none => simp [ENOMEM]
    | some skb =>
      simp only
      cases mapped : skb.head.isSome with
      | false => simp [skbPutZero, skbPut_of_unmapped mapped, ENOMEM]
      | true =>
        obtain ⟨empty, room⟩ := room skb rfl mapped
        simp only [hdr3addrLen, llcSnapLen, UInt32.reduceToNat] at whole
        have room : skb.tail.toNat + ((List.replicate hdr3addrLen.toNat (0 : UInt8)).length +
            ((if m.rt.useQos then 2 else 0) + (8 + frame.payload.length))) ≤ skb.limit.toNat := by
          simp only [hdr3addrLen, UInt32.reduceToNat, List.length_replicate]
          omega
        have fits : skb.tail.toNat + hdr3addrLen.toNat ≤ skb.limit.toNat := by
          simp only [hdr3addrLen, UInt32.reduceToNat]
          omega
        have place : skb.tail.toNat = skb.data := by simpa using empty.tail
        have zeros : (skb.appended (List.replicate hdr3addrLen.toNat 0)).Linear
            (List.replicate 24 0) := empty.appended (by simpa using fits)
        have written := linear_writeHeader zeros (txFrameControl m.rt.useQos)
          ((m.rt.txSeq &&& 0xfff) <<< 4) vif.bssConf.bssid vif.addr frame.dest
        obtain ⟨withQos, qos, linear, behind⟩ :=
          linear_putQos written (SkBuff.Linear.room_appended room)
        obtain ⟨pos, withLlc, llc, built⟩ := linear_putMsdu linear behind
        simp only [empty.skbPutZero_eq fits, place, Program.after_bind, Program.after_require, dest,
          Option.some.injEq, forall_eq', after_change, SkBuff.appended_data] at qos ⊢
        simp only [qos, llc, Program.after_bind, Program.after_require, ethertype, payload,
          Option.some.injEq, forall_eq', Program.after_pure, forall_const, exists_eq_left']
        simpa [Mpdu.bytes, Mpdu.front, Mpdu.msdu, txMpdu] using built

/-- A data frame to an access point is not protected. -/
theorem txFrameControl_clear (useQos : Bool) : txFrameControl useQos &&& fctlProtected = 0 := by
  cases useQos <;> decide

/-- A data frame to an access point carries data. -/
theorem isDataPresent_txFrameControl (useQos : Bool) :
    isDataPresent (txFrameControl useQos) = true := by
  cases useQos <;> decide

/-- A data frame to an access point goes to the distribution system. -/
theorem hasTods_txFrameControl (useQos : Bool) : hasTods (txFrameControl useQos) = true := by
  cases useQos <;> decide

/-- A data frame to an access point does not come from the distribution system. -/
theorem hasFromds_txFrameControl (useQos : Bool) : hasFromds (txFrameControl useQos) = false := by
  cases useQos <;> decide

/-- A data frame that is built turns back into the Ethernet frame, with the address of the
interface as its source, if its EtherType may stand behind an RFC 1042 header, and is refused
otherwise. -/
theorem dataToEthernet_of_built {env : Env} {data : Memory} {len : UInt32} {m m' : Machine}
    {vif : Vif} {frame : EthFrame} {skb : SkBuff} (attached : m.rt.vif = some vif)
    (holds : data.Holds 0 frame.bytes) (count : len.toNat = frame.bytes.length)
    (built : buildDataFrame env data len m = some ((0, some skb), m')) :
    if frame.ethertype ≠ ethPAarp ∧ frame.ethertype ≠ ethPIpx then
      ∃ out, dataToEthernet skb = some (0, out) ∧
        out.Linear { frame with source := vif.addr }.bytes ∧ out.protocol = frame.ethertype
    else dataToEthernet skb = some (-EINVAL, skb) := by
  obtain ⟨same, found, linear⟩ := after_buildDataFrame attached holds count _ _ built rfl
  obtain rfl := Option.some.inj found
  have three : (hasTods (txFrameControl m.rt.useQos) && hasFromds (txFrameControl m.rt.useQos)) =
      false := by
    rw [hasFromds_txFrameControl, Bool.and_false]
  have decoded := dataToEthernet_of_linear linear (txFrameControl_clear _)
    (isDataPresent_txFrameControl _) three
  have known : knownSnap rfc1042Header frame.ethertype =
      (frame.ethertype ≠ ethPAarp && frame.ethertype ≠ ethPIpx) := by
    simp [knownSnap, rfc1042Header, bridgeTunnelHeader]
  have ethernet : (txMpdu m.rt vif frame).ethernet = { frame with source := vif.addr } := by
    simp [Mpdu.ethernet, txMpdu, hasTods_txFrameControl, hasFromds_txFrameControl]
  rw [ethernet] at decoded
  simpa [txMpdu, known] using decoded

/-- A data frame that is built turns back into the Ethernet frame, with the address of the
interface as its source, if and only if its EtherType is neither AARP nor IPX. -/
theorem decodes_built_frame_iff {env : Env} {data : Memory} {len : UInt32} {m m' : Machine}
    {vif : Vif} {frame : EthFrame} {skb : SkBuff} (attached : m.rt.vif = some vif)
    (holds : data.Holds 0 frame.bytes) (count : len.toNat = frame.bytes.length)
    (built : buildDataFrame env data len m = some ((0, some skb), m')) :
    (∃ out, dataToEthernet skb = some (0, out) ∧
      out.bytes = some { frame with source := vif.addr }.bytes ∧
        out.protocol = frame.ethertype) ↔
      frame.ethertype ≠ ethPAarp ∧ frame.ethertype ≠ ethPIpx := by
  have decoded := dataToEthernet_of_built attached holds count built
  constructor
  · rintro ⟨out, zero, -, -⟩
    by_contra refused
    rw [if_neg refused, zero] at decoded
    simp [EINVAL] at decoded
  · intro fine
    rw [if_pos fine] at decoded
    obtain ⟨out, zero, linear, protocol⟩ := decoded
    exact ⟨out, zero, linear.bytes_eq, protocol⟩

/-- An Ethernet frame from the station to the access point without a payload. -/
def emptyFrame (ethertype : UInt16) : EthFrame := ⟨pointAddr, stationAddr, ethertype, []⟩

/-- Building a frame from an empty Ethernet frame in a connected runtime. -/
def buildEmptyFrame (ethertype : UInt16) : Option ((Int × Option SkBuff) × Machine) :=
  buildDataFrame .kind (.ofBytes (emptyFrame ethertype).bytes) 14 (.start connectedRuntime)

/-- A data frame is built from an empty Ethernet frame. -/
theorem exists_built (ethertype : UInt16) :
    ∃ skb m', buildEmptyFrame ethertype = some ((0, some skb), m') :=
  ⟨_, _, rfl⟩

/-- An empty frame with the EtherType of IPv4 is decoded again. -/
theorem decodes_built_frame_iff_ipv4 : ∃ skb m', buildEmptyFrame 0x0800 = some ((0, some skb), m') ∧
    ∃ out, dataToEthernet skb = some (0, out) ∧ out.bytes = some (emptyFrame 0x0800).bytes ∧
      out.protocol = 0x0800 := by
  obtain ⟨skb, m', built⟩ := exists_built 0x0800
  have attached : (Machine.start connectedRuntime).rt.vif = some connectedVif := rfl
  have holds := Memory.holds_ofBytes (emptyFrame 0x0800).bytes
  exact ⟨skb, m', built, (decodes_built_frame_iff attached holds rfl built).mpr (by decide)⟩

/-- An empty AppleTalk ARP frame is built and sent, and its data frame is refused. -/
theorem aarp_frame_not_decoded : ∃ skb m', buildEmptyFrame 0x80f3 = some ((0, some skb), m') ∧
    ¬∃ out, dataToEthernet skb = some (0, out) ∧ out.bytes = some (emptyFrame 0x80f3).bytes ∧
      out.protocol = 0x80f3 := by
  obtain ⟨skb, m', built⟩ := exists_built 0x80f3
  have attached : (Machine.start connectedRuntime).rt.vif = some connectedVif := rfl
  have holds := Memory.holds_ofBytes (emptyFrame 0x80f3).bytes
  have decoded := dataToEthernet_of_built attached holds rfl built
  refine ⟨skb, m', built, ?_⟩
  rintro ⟨out, zero, -⟩
  rw [if_neg (by decide), zero] at decoded
  simp [EINVAL] at decoded

end Lcompat.Mac80211
