import Lcompat.Mac80211.Elements
import Lcompat.Mac80211.Scan

/-!
# Frames that fill their buffers

An association request and a probe request are counted before they are written. The buffer that is
allocated for one has the headroom of the device in front and room for just what is counted, and the
frame fills it: behind its fixed part there are the elements of the request, and nothing else.
-/

namespace Lcompat.Mac80211

open Lcompat.Logic
open Lcompat.Net

/-- A buffer with the headroom that a device asks for, that holds some bytes and has room for some
more behind them and for nothing else. -/
structure Holding (hw : Hw) (bytes : List UInt8) (rest : Nat) (skb : SkBuff) : Prop where
  /-- It is linear. -/
  linear : skb.Linear bytes
  /-- The headroom is in front. -/
  headroom : skb.data = hw.extraTxHeadroom.toNat
  /-- The room ends with the buffer. -/
  room : skb.tail.toNat + rest = skb.limit.toNat

/-- A machine in which a buffer has been allocated. -/
def Machine.allocated (m : Machine) : Machine :=
  { m with calls := m.calls + 1, trace := .allocSkb m.calls :: m.trace }

/-- A machine in which a frame has been numbered. -/
def Machine.numbered (m : Machine) : Machine := { m with rt.txSeq := m.rt.txSeq + 1 }

section Buffers

variable {hw : Hw} {bytes : List UInt8} {rest : Nat} {skb : SkBuff}

/-- Bytes for which there is room are put behind the others. -/
theorem Holding.appended {data : List UInt8} (holding : Holding hw bytes (data.length + rest) skb) :
    Holding hw (bytes ++ data) rest (skb.appended data) := by
  have room := holding.room
  have linear : (skb.appended data).Linear (bytes ++ data) :=
    holding.linear.appended (by omega)
  have tail : skb.tail.toNat = skb.data + bytes.length := holding.linear.tail
  refine ⟨linear, holding.headroom, ?_⟩
  have limit : (skb.appended data).limit = skb.limit := rfl
  rw [linear.tail, SkBuff.appended_data, List.length_append, limit]
  omega

/-- Writing within the bytes leaves as many. -/
theorem Holding.write (holding : Holding hw bytes rest skb) (place : Nat) {written : List UInt8}
    (inside : place + written.length ≤ bytes.length) : ∃ bytes', bytes'.length = bytes.length ∧
      Holding hw bytes' rest (skb.write (skb.data + place) written) := by
  exact ⟨_, length_overwrite inside, holding.linear.write_within inside, holding.headroom,
    holding.room⟩

/-- Writing within the bytes of a linear buffer, behind a front of them. -/
theorem linear_write_behind {front written : List UInt8} {place : Nat} (linear : skb.Linear bytes)
    (isPrefix : front <+: bytes) (behind : front.length ≤ place)
    (inside : place + written.length ≤ bytes.length) : ∃ bytes', bytes'.length = bytes.length ∧
      front <+: bytes' ∧ (skb.write (skb.data + place) written).Linear bytes' :=
  ⟨_, length_overwrite inside, prefix_overwrite written isPrefix behind, linear.write_within inside⟩

/-- A header that is written within the bytes of a linear buffer leaves as many, and begins them
with its frame control field. -/
theorem linear_writeHeader_within (linear : skb.Linear bytes) (long : 24 ≤ bytes.length)
    (fc seqCtrl : UInt16) (a1 a2 a3 : EtherAddr) : ∃ bytes', bytes'.length = bytes.length ∧
      cpuToLe16 fc <+: bytes' ∧ (writeHeader skb skb.data fc seqCtrl a1 a2 a3).Linear bytes' := by
  have fcLen := length_cpuToLe16 fc
  have seqLen := length_cpuToLe16 seqCtrl
  have one := a1.length_eq
  have two := a2.length_eq
  have three := a3.length_eq
  have first := linear.write_within (show 0 + (cpuToLe16 fc).length ≤ _ by omega)
  have front : cpuToLe16 fc <+: overwrite bytes 0 (cpuToLe16 fc) := List.prefix_append _ _
  have same : (overwrite bytes 0 (cpuToLe16 fc)).length = bytes.length :=
    length_overwrite (by omega)
  obtain ⟨_, same₂, front, second⟩ := linear_write_behind first front
    (show _ ≤ 4 by omega) (show 4 + a1.bytes.length ≤ _ by omega)
  obtain ⟨_, same₃, front, third⟩ := linear_write_behind second front
    (show _ ≤ 10 by omega) (show 10 + a2.bytes.length ≤ _ by omega)
  obtain ⟨_, same₄, front, fourth⟩ := linear_write_behind third front
    (show _ ≤ 16 by omega) (show 16 + a3.bytes.length ≤ _ by omega)
  obtain ⟨fifth, same₅, front, linear⟩ := linear_write_behind fourth front
    (show _ ≤ 22 by omega) (show 22 + (cpuToLe16 seqCtrl).length ≤ _ by omega)
  exact ⟨fifth, by omega, front, linear⟩

/-- Writing a header within the bytes leaves as many. -/
theorem Holding.writeHeader (holding : Holding hw bytes rest skb) (long : 24 ≤ bytes.length)
    (fc seqCtrl : UInt16) (a1 a2 a3 : EtherAddr) : ∃ bytes', bytes'.length = bytes.length ∧
      Holding hw bytes' rest (writeHeader skb skb.data fc seqCtrl a1 a2 a3) := by
  obtain ⟨bytes', same, -, linear⟩ :=
    linear_writeHeader_within holding.linear long fc seqCtrl a1 a2 a3
  exact ⟨bytes', same, linear, holding.headroom, holding.room⟩

/-- A sum of sizes that fits 32 bits is the sum. -/
theorem sizeAdd_of_fits {a b : Nat} (fits : a + b ≤ uintMax) : sizeAdd a b = some (a + b) := by
  have small : uintMax ≤ sizeMax := by decide
  rw [sizeAdd, if_neg (by omega)]

/-- A buffer is allocated with just the room that is asked for. -/
theorem allocTxSkb_eq {env : Env} {m : Machine} {payloadLen : Nat} {memory : Memory}
    (mapped : env.page m.calls = .mapped memory) (positive : 0 ≤ m.rt.hw.extraTxHeadroom)
    (fits : m.rt.hw.extraTxHeadroom.toNat + payloadLen ≤ uintMax) : ∃ skb,
      allocTxSkb env payloadLen m = some (some skb, m.allocated) ∧
        Holding m.rt.hw [] payloadLen skb := by
  obtain ⟨skb, given⟩ := exists_allocSkb fits memory m.calls
  obtain ⟨empty, limit, data⟩ := linear_of_allocSkb given
  have id_eq : skb.id = m.calls := by
    obtain ⟨-, rfl⟩ : _ ∧ _ = skb := by simpa [Net.allocSkb] using given
    rfl
  have reserved : ∃ out, (if m.rt.hw.extraTxHeadroom.toNat = 0 then skb
      else skbReserve skb (UInt32.ofNat m.rt.hw.extraTxHeadroom.toNat)) = out ∧
        Holding m.rt.hw [] payloadLen out := by
    have tail : skb.tail.toNat = 0 := by
      rw [empty.tail, data]
      rfl
    split
    · rename_i none
      refine ⟨skb, rfl, empty, by rw [data, none], ?_⟩
      omega
    · have count : (UInt32.ofNat m.rt.hw.extraTxHeadroom.toNat).toNat =
          m.rt.hw.extraTxHeadroom.toNat := by
        rw [UInt32.toNat_ofNat']
        exact Nat.mod_eq_of_lt (by simp only [uintMax] at fits; omega)
      obtain ⟨linear, limit', data'⟩ := empty.skbReserve (by rw [count]; omega)
      have front : (skbReserve skb (UInt32.ofNat m.rt.hw.extraTxHeadroom.toNat)).data =
          m.rt.hw.extraTxHeadroom.toNat := by
        rw [data', count, data, Nat.zero_add]
      refine ⟨_, rfl, linear, front, ?_⟩
      rw [linear.tail, limit', front, limit, List.length_nil]
      omega
  obtain ⟨out, same, holding⟩ := reserved
  have ran : (allocTxSkb env payloadLen).runs
      (fun given m' => given = some out ∧ m' = m.allocated) m := by
    unfold allocTxSkb
    simp only [Program.runs_bind, runs_runtime]
    rw [if_neg (by omega), sizeAdd_of_fits fits]
    simp only
    rw [if_neg (by omega)]
    simp only [Program.runs_bind, runs_allocSkb, mapped, given, Program.runs_pure, same, true_and]
    simp [Machine.allocated, allocEvents, id_eq]
  obtain ⟨_, _, ran, rfl, rfl⟩ := ran
  exact ⟨out, ran, holding⟩

/-- A management frame starts with zeros, and has just the room that is asked for behind it. -/
theorem allocMgmt_eq {env : Env} {m : Machine} {frameLen : UInt32} {more : Nat} {memory : Memory}
    (mapped : env.page m.calls = .mapped memory) (positive : 0 ≤ m.rt.hw.extraTxHeadroom)
    (fits : m.rt.hw.extraTxHeadroom.toNat + (frameLen.toNat + more) ≤ uintMax) : ∃ skb,
      allocMgmt env frameLen more m = some (some (skb.data, skb), m.allocated) ∧
        Holding m.rt.hw (List.replicate frameLen.toNat 0) more skb := by
  obtain ⟨skb, ran, holding⟩ := allocTxSkb_eq mapped positive fits
  have room := holding.room
  have fits' : skb.tail.toNat + frameLen.toNat ≤ skb.limit.toNat := by omega
  have start : skb.tail.toNat = skb.data := by simpa using holding.linear.tail
  have zeros : Holding m.rt.hw [] ((List.replicate frameLen.toNat (0 : UInt8)).length + more) skb :=
    by rwa [List.length_replicate]
  refine ⟨skb.appended (List.replicate frameLen.toNat 0), ?_, zeros.appended⟩
  unfold allocMgmt
  rw [Program.bind_of_ran ran]
  simp only [holding.linear.skbPutZero_eq fits', start]
  rfl

/-- The header of a management frame to the access point is written within the frame. -/
theorem writeMgmtHeader_eq {m : Machine} {vif : Vif} (here : m.rt.vif = some vif)
    (holding : Holding hw bytes rest skb) (long : 24 ≤ bytes.length) (fc : UInt16) :
    ∃ bytes' skb', writeMgmtHeader skb skb.data fc m = some (skb', m.numbered) ∧
      bytes'.length = bytes.length ∧ Holding hw bytes' rest skb' := by
  obtain ⟨bytes', same, written⟩ := holding.writeHeader long fc ((m.rt.txSeq &&& 0xfff) <<< 4)
    m.rt.connectParams.bssid vif.addr m.rt.connectParams.bssid
  refine ⟨bytes', _, ?_, same, written⟩
  have ran : (writeMgmtHeader skb skb.data fc).runs (fun out m' =>
      out = writeHeader skb skb.data fc ((m.rt.txSeq &&& 0xfff) <<< 4)
        m.rt.connectParams.bssid vif.addr m.rt.connectParams.bssid ∧ m' = m.numbered) m := by
    simp only [writeMgmtHeader, nextSeqCtrl, Program.runs_bind, runs_runtime, here,
      Program.runs_require, Option.some.injEq, exists_eq_left', runs_change, Program.runs_pure]
    exact ⟨trivial, by simp only [Machine.numbered, here]⟩
  obtain ⟨_, _, ran, rfl, rfl⟩ := ran
  exact ran

/-- Elements for which there is room are put behind the fixed part, and the frame is sent. -/
theorem sendWithIes_eq {ies : List UInt8} (linear : skb.Linear bytes)
    (room : skb.tail.toNat + ies.length ≤ skb.limit.toNat) :
    sendWithIes skb ies.length ies = sendMgmt (skb.appended ies) := by
  have limit := skb.limit.toNat_lt
  have count : (UInt32.ofNat ies.length).toNat = ies.length := by
    rw [UInt32.toNat_ofNat']
    exact Nat.mod_eq_of_lt (by omega)
  have put := linear.skbPut_eq (show skb.tail.toNat + (UInt32.ofNat ies.length).toNat ≤
    skb.limit.toNat by omega)
  unfold sendWithIes
  rw [put]
  simp only [ne_eq, not_true_eq_false, ↓reduceIte]
  rfl

end Buffers

/-- The element of some rates, if there are any. -/
def ratesElement (eid : UInt8) (rates : List UInt8) : List Element :=
  if rates = [] then [] else [(eid, rates)]

/-- The element that asks for WMM. -/
def wmmElement : Element := (wlanEidVendorSpecific, [0x00, 0x50, 0xf2, 0x02, 0x00, 0x01, 0x00])

/-- The elements of a request. -/
def requestElements (ssid suppRates extRates : List UInt8) (wmm : Bool) : List Element :=
  (wlanEidSsid, ssid) :: (ratesElement wlanEidSuppRates suppRates ++
    ratesElement wlanEidExtSuppRates extRates ++ if wmm then [wmmElement] else [])

/-- At most one element of a kind, of at least one rate and at most some. -/
def AtMostOne (eid : UInt8) (most : Nat) (es : List Element) : Prop :=
  es = [] ∨ ∃ rates, es = [(eid, rates)] ∧ 1 ≤ rates.length ∧ rates.length ≤ most

/-- Rates that do not fit are left out. -/
theorem length_buildSupportedRatesIe_le (hw : Hw) (bss : ScanResult)
    (suppRatesSize extRatesSize : Nat) :
    (buildSupportedRatesIe hw bss suppRatesSize extRatesSize).1.length ≤ suppRatesSize ∧
      (buildSupportedRatesIe hw bss suppRatesSize extRatesSize).2.length ≤ extRatesSize := by
  unfold buildSupportedRatesIe
  split
  · simp
  · exact ⟨List.length_take_le _ _, List.length_take_le _ _⟩

section Lengths

variable {ssid suppRates extRates : List UInt8}

/-- The element of at most so many rates. -/
theorem atMostOne_ratesElement (eid : UInt8) {most : Nat} {rates : List UInt8}
    (few : rates.length ≤ most) : AtMostOne eid most (ratesElement eid rates) := by
  unfold ratesElement
  split
  · exact .inl rfl
  · rename_i some
    exact .inr ⟨rates, rfl, List.length_pos_of_ne_nil some, few⟩

/-- The bytes of an element that may be left out. -/
theorem optionalIe_eq (eid : UInt8) (rates : List UInt8) :
    optionalIe eid rates = Element.encode (ratesElement eid rates) := by
  by_cases empty : rates = []
  · simp [optionalIe, ratesElement, empty]
  · simp [optionalIe, ratesElement, empty, ieBytes]

/-- The bytes of the elements of an association request. -/
theorem assocReqIes_eq (wmm : Bool) : assocReqIes ssid suppRates extRates wmm =
    Element.encode (requestElements ssid suppRates extRates wmm) := by
  rw [assocReqIes, requestElements, Element.encode_cons, Element.encode_append,
    Element.encode_append, optionalIe_eq, optionalIe_eq, ieBytes]
  cases wmm
  · simp
  · simp [wmmElement, wmmInfoIe]

/-- The bytes of the elements of a probe request. -/
theorem probeReqIes_eq : probeReqIes ssid suppRates extRates =
    Element.encode (requestElements ssid suppRates extRates false) := by
  rw [← assocReqIes_eq, assocReqIes, probeReqIes]
  simp

/-- An element of a request can be counted. -/
theorem sized_requestElements (wmm : Bool) (ssid_le : ssid.length ≤ 255)
    (supp_le : suppRates.length ≤ 8) (ext_le : extRates.length ≤ 16) :
    ∀ e ∈ requestElements ssid suppRates extRates wmm, e.2.length < 256 := by
  have rates : ∀ eid, ∀ rates : List UInt8, rates.length ≤ 16 → ∀ e ∈ ratesElement eid rates,
      e.2.length < 256 := by
    intro eid rates few e member
    unfold ratesElement at member
    split at member
    · cases member
    · rw [List.mem_singleton.mp member]
      show rates.length < 256
      omega
  intro e member
  simp only [requestElements, List.mem_cons, List.mem_append] at member
  obtain rfl | (member | member) | member := member
  · show ssid.length < 256
    omega
  · exact rates _ _ (by omega) e member
  · exact rates _ _ ext_le e member
  · cases wmm
    · simp at member
    · rw [List.mem_singleton.mp member]
      decide

/-- Adding an element that can be counted adds its two bytes and its content. -/
theorem sizeAddIe_eq {total len : Nat} (short : len ≤ 255) (fits : total + (2 + len) ≤ uintMax) :
    sizeAddIe total len = some (total + (2 + len)) := by
  rw [sizeAddIe, if_neg (by omega), sizeAdd_of_fits (by omega), Option.bind_some,
    sizeAdd_of_fits fits]

/-- Adding an element that may be left out adds its bytes. -/
theorem sizeAddIe_optional {total : Nat} (eid : UInt8) {rates : List UInt8}
    (short : rates.length ≤ 255) (fits : total + (2 + rates.length) ≤ uintMax) :
    (if rates = [] then some total else sizeAddIe total rates.length) =
      some (total + (optionalIe eid rates).length) := by
  by_cases empty : rates = []
  · simp [optionalIe, empty]
  · rw [if_neg empty, sizeAddIe_eq short fits, optionalIe, if_neg empty]
    simp only [ieBytes, List.length_cons]
    congr 2
    omega

/-- What is counted behind an element that may be left out. -/
theorem sizeAddIe_optional_bind {total : Nat} (eid : UInt8) {rates : List UInt8}
    (short : rates.length ≤ 255) (fits : total + (2 + rates.length) ≤ uintMax)
    (next : Nat → Option Nat) :
    (if rates = [] then (some total).bind next else (sizeAddIe total rates.length).bind next) =
      next (total + (optionalIe eid rates).length) := by
  have counted := sizeAddIe_optional eid short fits
  by_cases empty : rates = []
  · simp [optionalIe, empty]
  · rw [if_neg empty] at counted ⊢
    rw [counted, Option.bind_some]

/-- An element that may be left out has at most two bytes more than its content. -/
theorem length_optionalIe_le (eid : UInt8) (rates : List UInt8) :
    (optionalIe eid rates).length ≤ 2 + rates.length := by
  unfold optionalIe
  split
  · simp
  · simp only [ieBytes, List.length_cons]
    omega

/-- What is counted for an association request is what its elements have. -/
theorem assocReqLen_eq (wmm : Bool) (ssid_le : ssid.length ≤ 255) (supp_le : suppRates.length ≤ 8)
    (ext_le : extRates.length ≤ 16) : assocReqLen ssid suppRates extRates wmm =
      some (assocReqFrameLen.toNat + (assocReqIes ssid suppRates extRates wmm).length) := by
  have supp := length_optionalIe_le wlanEidSuppRates suppRates
  have ext := length_optionalIe_le wlanEidExtSuppRates extRates
  have small : assocReqFrameLen.toNat = 28 := rfl
  have most : uintMax = 2 ^ 32 - 1 := rfl
  have wmm_len : wmmInfoIe.length = 9 := rfl
  unfold assocReqLen
  simp only [Option.bind_eq_bind]
  rw [sizeAddIe_eq (by omega) (by omega), Option.bind_some,
    sizeAddIe_optional_bind wlanEidSuppRates (by omega) (by omega),
    sizeAddIe_optional_bind wlanEidExtSuppRates (by omega) (by omega)]
  simp only [assocReqIes, List.length_append, ieBytes, List.length_cons]
  cases wmm
  · simp only [Bool.false_eq_true, ↓reduceIte, List.length_nil]
    congr 1
    omega
  · simp only [↓reduceIte]
    rw [sizeAdd_of_fits (by omega)]
    congr 1
    omega

/-- What is counted for a probe request is what its elements have. -/
theorem probeReqLen_eq (ssid_le : ssid.length ≤ 255) (supp_le : suppRates.length ≤ 8)
    (ext_le : extRates.length ≤ 16) : probeReqLen ssid suppRates extRates =
      some (hdr3addrLen.toNat + (probeReqIes ssid suppRates extRates).length) := by
  have supp := length_optionalIe_le wlanEidSuppRates suppRates
  have small : hdr3addrLen.toNat = 24 := rfl
  have most : uintMax = 2 ^ 32 - 1 := rfl
  unfold probeReqLen
  simp only [Option.bind_eq_bind]
  rw [sizeAddIe_eq (by omega) (by omega), Option.bind_some,
    sizeAddIe_optional_bind wlanEidSuppRates (by omega) (by omega),
    sizeAddIe_optional wlanEidExtSuppRates (by omega) (by omega)]
  simp only [probeReqIes, List.length_append, ieBytes, List.length_cons]
  congr 1
  omega

/-- The elements of a request have few bytes. -/
theorem length_assocReqIes_le (wmm : Bool) (ssid_le : ssid.length ≤ 255)
    (supp_le : suppRates.length ≤ 8) (ext_le : extRates.length ≤ 16) :
    (assocReqIes ssid suppRates extRates wmm).length ≤ 294 := by
  have supp := length_optionalIe_le wlanEidSuppRates suppRates
  have ext := length_optionalIe_le wlanEidExtSuppRates extRates
  have wmm_len : wmmInfoIe.length = 9 := rfl
  simp only [assocReqIes, List.length_append, ieBytes, List.length_cons]
  cases wmm
  · simp only [Bool.false_eq_true, ↓reduceIte, List.length_nil]
    omega
  · simp only [↓reduceIte]
    omega

end Lengths

/-- A frame fills its buffer: the headroom is in front, and behind a fixed part there are the bytes
of some elements, which are read back from them with nothing left. -/
def Filled (hw : Hw) (fixed : Nat) (es : List Element) (skb : SkBuff) : Prop :=
  ∃ front, front.length = fixed ∧ Holding hw (front ++ Element.encode es) 0 skb ∧
    Element.Longest es (Element.encode es)

section Requests

variable {env : Env} {m : Machine} {memory : Memory} {vif : Vif} {chan : Channel}
  {sband : SupportedBand}

/-- A management frame that is started leaves the runtime as it is, and is zeros with room for what
has been asked for behind them. -/
theorem after_allocMgmt (env : Env) (frameLen : UInt32) (more : Nat) (m : Machine) :
    (allocMgmt env frameLen more).after (fun out m' => m'.rt = m.rt ∧ ∀ frame skb,
      out = some (frame, skb) → frame = skb.data ∧
        skb.Linear (List.replicate frameLen.toNat 0) ∧
        skb.tail.toNat + more ≤ skb.limit.toNat) m := by
  unfold allocMgmt
  simp only [Program.after_bind]
  refine (after_allocTxSkb env _ m).mono ?_
  rintro given m' ⟨same, room⟩
  cases given with
  | none => simp [same]
  | some skb =>
    simp only
    cases mapped : skb.head.isSome with
    | false => simp [skbPutZero, skbPut_of_unmapped mapped, devKfreeSkbAny, same]
    | true =>
      obtain ⟨empty, room⟩ := room skb rfl mapped
      have zeros : (List.replicate frameLen.toNat (0 : UInt8)).length = frameLen.toNat :=
        List.length_replicate
      have start : skb.tail.toNat = skb.data := by simpa using empty.tail
      rw [empty.skbPutZero_eq (by omega)]
      simp only [Program.after_pure, Option.some.injEq, Prod.mk.injEq, same, true_and]
      rintro frame out ⟨rfl, rfl⟩
      refine ⟨start, empty.appended (by omega), SkBuff.Linear.room_appended ?_⟩
      rw [zeros]
      exact room

/-- What is counted for an association request, if it is not too much, and its elements. -/
theorem assocReqLen_eq_some_iff {ssid suppRates extRates : List UInt8} {wmm : Bool} {total : Nat}
    (supp_le : suppRates.length ≤ 8) (ext_le : extRates.length ≤ 16) :
    assocReqLen ssid suppRates extRates wmm = some total ↔ ssid.length ≤ 255 ∧
      total = assocReqFrameLen.toNat + (assocReqIes ssid suppRates extRates wmm).length := by
  by_cases ssid_le : ssid.length ≤ 255
  · rw [assocReqLen_eq wmm ssid_le supp_le ext_le, Option.some_inj]
    exact ⟨fun same => ⟨ssid_le, same.symm⟩, fun both => both.2.symm⟩
  · have long : assocReqLen ssid suppRates extRates wmm = none := by
      rw [assocReqLen, sizeAddIe, if_pos (by omega)]
      rfl
    rw [long]
    simp [ssid_le]

/-- The rates of an association request. -/
def assocReqRates (hw : Hw) (bss : ScanResult) : List UInt8 × List UInt8 :=
  ((buildSupportedRatesIe hw bss 8 16).1.takeWhile (· ≠ 0),
    (buildSupportedRatesIe hw bss 8 16).2.takeWhile (· ≠ 0))

/-- The rates of an association request fit its elements. -/
theorem length_assocReqRates_le (hw : Hw) (bss : ScanResult) :
    (assocReqRates hw bss).1.length ≤ 8 ∧ (assocReqRates hw bss).2.length ≤ 16 := by
  obtain ⟨supp_le, ext_le⟩ := length_buildSupportedRatesIe_le hw bss 8 16
  exact ⟨(List.takeWhile_prefix _).length_le.trans supp_le,
    (List.takeWhile_prefix _).length_le.trans ext_le⟩

/-- A frame that is handed over is noted with its bytes. -/
theorem after_sendMgmt (skb : SkBuff) (m : Machine) :
    (sendMgmt skb).after (fun ret m' => m'.rt = m.rt ∧ ret ≤ 0 ∧
      (ret = 0 → ∃ rest, m'.trace = .tx skb.id skb.bytes :: rest)) m := by
  simp only [sendMgmt, mgdPrepareTx, Program.after_bind, after_runtime, Program.after_ite,
    Program.after_pure, after_note]
  split
  · simp [EINVAL]
  · split
    · exact ⟨trivial, le_rfl, fun _ => ⟨_, rfl⟩⟩
    · exact ⟨trivial, le_rfl, fun _ => ⟨_, rfl⟩⟩

/-- Elements for which there is room stand behind the fixed part of a frame that is handed over. -/
theorem after_sendWithIes {skb : SkBuff} {bytes ies : List UInt8} (linear : skb.Linear bytes)
    (room : skb.tail.toNat + ies.length ≤ skb.limit.toNat) (m : Machine) :
    (sendWithIes skb ies.length ies).after (fun ret m' => ret ≤ 0 ∧ (ret = 0 →
      ∃ id rest, m'.trace = .tx id (some (bytes ++ ies)) :: rest)) m := by
  rw [sendWithIes_eq linear room]
  refine (after_sendMgmt _ m).mono fun ret m' outcome => ?_
  obtain ⟨-, least, sent⟩ := outcome
  refine ⟨least, fun zero => ?_⟩
  obtain ⟨rest, sent⟩ := sent zero
  rw [(linear.appended room).bytes_eq] at sent
  exact ⟨_, rest, sent⟩

/-- The header of a management frame is written within its bytes. -/
theorem after_writeMgmtHeader {skb : SkBuff} {bytes : List UInt8} (linear : skb.Linear bytes)
    (long : 24 ≤ bytes.length) (fc : UInt16) (m : Machine) :
    (writeMgmtHeader skb skb.data fc).after (fun skb' _ => skb'.data = skb.data ∧
      skb'.tail = skb.tail ∧ skb'.limit = skb.limit ∧
      ∃ bytes', bytes'.length = bytes.length ∧ cpuToLe16 fc <+: bytes' ∧ skb'.Linear bytes') m := by
  simp only [writeMgmtHeader, nextSeqCtrl, Program.after_bind, after_runtime, Program.after_require,
    after_change, Program.after_pure]
  intro vif _
  exact ⟨rfl, rfl, rfl, linear_writeHeader_within linear long _ _ _ _ _⟩

/-- An association request that is sent has the elements that the runtime and the access point call
for. -/
theorem after_sendAssocReq (env : Env) (bss : ScanResult) (m : Machine) :
    (sendAssocReq env bss).after (fun ret m' => ret ≤ 0 ∧ (ret = 0 →
      m.rt.connectParams.ssid.length ≤ 255 ∧
      ∃ id front rest, m'.trace = .tx id (some (front ++ Element.encode (requestElements
          m.rt.connectParams.ssid (assocReqRates m.rt.hw bss).1 (assocReqRates m.rt.hw bss).2
          (bssHasWmm bss)))) :: rest ∧
        cpuToLe16 fcAssocReq <+: front ∧ front.length = assocReqFrameLen.toNat)) m := by
  obtain ⟨supp_le, ext_le⟩ := length_assocReqRates_le m.rt.hw bss
  have supp_eq : (buildSupportedRatesIe m.rt.hw bss 8 16).1.takeWhile (· ≠ 0) =
    (assocReqRates m.rt.hw bss).1 := rfl
  have ext_eq : (buildSupportedRatesIe m.rt.hw bss 8 16).2.takeWhile (· ≠ 0) =
    (assocReqRates m.rt.hw bss).2 := rfl
  unfold sendAssocReq
  simp only [supp_eq, ext_eq, Program.after_bind, after_runtime, Program.after_ite,
    Program.after_pure, Program.after_require]
  split
  · simp [EINVAL]
  intro chan tuned
  split
  · simp [EINVAL]
  rw [← assocReqIes_eq]
  cases counted : assocReqLen m.rt.connectParams.ssid (assocReqRates m.rt.hw bss).1
      (assocReqRates m.rt.hw bss).2 (bssHasWmm bss) with
  | none => simp [EOVERFLOW]
  | some total =>
    obtain ⟨ssid_le, rfl⟩ := (assocReqLen_eq_some_iff supp_le ext_le).mp counted
    simp only [Program.after_ite, Program.after_pure, Program.after_bind, Nat.add_sub_cancel_left]
    split
    · simp [EOVERFLOW]
    refine (after_allocMgmt env _ _ m).mono ?_
    rintro given m₁ ⟨-, zeros⟩
    cases given with
    | none => simp [ENOMEM]
    | some frame =>
      obtain ⟨frame, skb₁⟩ := frame
      obtain ⟨rfl, linear₁, room₁⟩ := zeros frame skb₁ rfl
      have fixed : assocReqFrameLen.toNat = 28 := rfl
      refine Program.after_bind.mpr ((after_writeMgmtHeader linear₁
        (by rw [List.length_replicate]; omega) fcAssocReq m₁).mono ?_)
      rintro skb₂ m₂ ⟨data₂, tail₂, limit₂, header, length₂, begins, linear₂⟩
      rw [List.length_replicate] at length₂
      obtain ⟨front, length₃, begins, linear₃⟩ := linear_write_behind linear₂ begins
        (show _ ≤ 24 by rw [length_cpuToLe16]; omega)
        (show 24 + (cpuToLe16 (assocReqCapability m.rt) ++ cpuToLe16 10).length ≤ header.length by
          rw [List.length_append, length_cpuToLe16, length_cpuToLe16]
          omega)
      rw [data₂] at linear₃
      rw [← tail₂, ← limit₂] at room₁
      refine (after_sendWithIes linear₃ room₁ m₂).mono fun ret m' outcome => ?_
      obtain ⟨least, sent⟩ := outcome
      refine ⟨least, fun zero => ?_⟩
      obtain ⟨id, rest, sent⟩ := sent zero
      exact ⟨ssid_le, id, front, rest, sent, begins, by omega⟩

/-- An association request fills its buffer with the elements that are counted for it. -/
theorem sendAssocReq_eq (mapped : env.page m.calls = .mapped memory) (here : m.rt.vif = some vif)
    (tuned : m.rt.hw.chandef.chan = some chan) (known : m.rt.hw.bands chan.band = some sband)
    (positive : 0 ≤ m.rt.hw.extraTxHeadroom) (int : m.rt.hw.extraTxHeadroom ≤ intMax)
    (bss : ScanResult) (aimed : m.rt.connectParams.hasBssid = true)
    (ssid_le : m.rt.connectParams.ssid.length ≤ 255) :
    ∃ skb, sendAssocReq env bss m = sendMgmt skb m.allocated.numbered ∧
      Filled m.rt.hw assocReqFrameLen.toNat (requestElements m.rt.connectParams.ssid
        (assocReqRates m.rt.hw bss).1 (assocReqRates m.rt.hw bss).2 (bssHasWmm bss)) skb := by
  obtain ⟨supp_le, ext_le⟩ := length_assocReqRates_le m.rt.hw bss
  have supp_eq : (buildSupportedRatesIe m.rt.hw bss 8 16).1.takeWhile (· ≠ 0) =
    (assocReqRates m.rt.hw bss).1 := rfl
  have ext_eq : (buildSupportedRatesIe m.rt.hw bss 8 16).2.takeWhile (· ≠ 0) =
    (assocReqRates m.rt.hw bss).2 := rfl
  generalize (assocReqRates m.rt.hw bss).1 = suppRates at supp_le supp_eq ⊢
  generalize (assocReqRates m.rt.hw bss).2 = extRates at ext_le ext_eq ⊢
  have counted := assocReqLen_eq (bssHasWmm bss) ssid_le supp_le ext_le
  have few := length_assocReqIes_le (bssHasWmm bss) ssid_le supp_le ext_le
  have fixed : assocReqFrameLen.toNat = 28 := rfl
  have most : uintMax = 2 ^ 32 - 1 := rfl
  have largest : intMax = 2 ^ 31 - 1 := rfl
  generalize ies_eq : assocReqIes m.rt.connectParams.ssid suppRates extRates (bssHasWmm bss) = ies
    at counted few
  obtain ⟨skb₁, allocated, zeros⟩ := allocMgmt_eq mapped positive
    (show m.rt.hw.extraTxHeadroom.toNat + (assocReqFrameLen.toNat + ies.length) ≤ uintMax by omega)
  have here' : m.allocated.rt.vif = some vif := here
  obtain ⟨header, skb₂, headed, length₂, header_holding⟩ :=
    writeMgmtHeader_eq here' zeros (by rw [List.length_replicate]; omega) fcAssocReq
  rw [List.length_replicate] at length₂
  have start : skb₁.data = skb₂.data := zeros.headroom.trans header_holding.headroom.symm
  obtain ⟨front, length₃, holding⟩ := header_holding.write 24
    (show 24 + (cpuToLe16 (assocReqCapability m.rt) ++ cpuToLe16 10).length ≤ header.length by
      rw [List.length_append, length_cpuToLe16, length_cpuToLe16]
      omega)
  have whole := (show Holding m.rt.hw front (ies.length + 0) _ from holding).appended
  rw [← ies_eq, assocReqIes_eq] at whole
  refine ⟨_, ?_, front, by omega, whole,
    Element.longest_encode (sized_requestElements _ ssid_le supp_le ext_le)⟩
  unfold sendAssocReq
  have read : runtime m = some (m.rt, m) := rfl
  rw [Program.bind_of_ran read, aimed, tuned]
  simp only [Bool.not_true, Bool.false_eq_true, ↓reduceIte, Program.require_some_bind, known,
    Option.isNone_some, supp_eq, ext_eq, counted]
  rw [if_neg (by omega), Nat.add_sub_cancel_left, Program.bind_of_ran allocated]
  simp only
  rw [Program.bind_of_ran headed, ies_eq, start, sendWithIes_eq holding.linear holding.room.le,
    ← assocReqIes_eq, ies_eq]

/-- A probe request fills its buffer with the elements that are counted for it. -/
theorem sendProbeReq_eq (mapped : env.page m.calls = .mapped memory) (here : m.rt.vif = some vif)
    (tuned : m.rt.hw.chandef.chan = some chan) (known : m.rt.hw.bands chan.band = some sband)
    (positive : 0 ≤ m.rt.hw.extraTxHeadroom) (int : m.rt.hw.extraTxHeadroom ≤ intMax)
    {ssid : List UInt8} (ssid_le : ssid.length ≤ 255) :
    ∃ skb suppRates extRates, sendProbeReq env ssid m = sendMgmt skb m.allocated.numbered ∧
      suppRates.length ≤ 8 ∧ extRates.length ≤ 16 ∧
      Filled m.rt.hw hdr3addrLen.toNat (requestElements ssid suppRates extRates false) skb := by
  have band_eq : m.rt.hw.currentBand = some sband := by
    rw [Hw.currentBand, tuned, Option.bind_some, known]
  generalize supp_eq : (((sband.bitrates.map rateOf).take 16).take 8) = suppRates
  generalize ext_eq : (((sband.bitrates.map rateOf).take 16).drop 8) = extRates
  have supp_le : suppRates.length ≤ 8 := by
    rw [← supp_eq]
    exact List.length_take_le _ _
  have ext_le : extRates.length ≤ 16 := by
    rw [← ext_eq, List.length_drop, List.length_take]
    omega
  have counted := probeReqLen_eq ssid_le supp_le ext_le
  have few := length_assocReqIes_le false ssid_le supp_le ext_le
  have fixed : hdr3addrLen.toNat = 24 := rfl
  have most : uintMax = 2 ^ 32 - 1 := rfl
  have largest : intMax = 2 ^ 31 - 1 := rfl
  rw [assocReqIes_eq, ← probeReqIes_eq] at few
  generalize ies_eq : probeReqIes ssid suppRates extRates = ies at counted few
  obtain ⟨skb₁, allocated, zeros⟩ := allocMgmt_eq mapped positive
    (show m.rt.hw.extraTxHeadroom.toNat + (hdr3addrLen.toNat + ies.length) ≤ uintMax by omega)
  obtain ⟨front, length₂, holding⟩ := zeros.writeHeader (by rw [List.length_replicate]; omega)
    fcProbeReq ((m.rt.txSeq &&& 0xfff) <<< 4) .broadcast vif.addr .broadcast
  rw [List.length_replicate] at length₂
  have whole := (show Holding m.rt.hw front (ies.length + 0) _ from holding).appended
  rw [← ies_eq, probeReqIes_eq] at whole
  refine ⟨_, suppRates, extRates, ?_, supp_le, ext_le, front, length₂, whole,
    Element.longest_encode (sized_requestElements _ ssid_le supp_le ext_le)⟩
  unfold sendProbeReq
  have read : runtime m = some (m.rt, m) := rfl
  have number : nextSeqCtrl m.allocated =
      some ((m.rt.txSeq &&& 0xfff) <<< 4, m.allocated.numbered) := rfl
  rw [Program.bind_of_ran read, here, band_eq]
  simp only [supp_eq, ext_eq, counted]
  rw [if_neg (by omega), Nat.add_sub_cancel_left, Program.bind_of_ran allocated]
  simp only
  rw [Program.bind_of_ran number, ies_eq, sendWithIes_eq holding.linear holding.room.le,
    ← probeReqIes_eq, ies_eq]

/-- The association request and the probe request are written as they are counted: from every state
in which they are written at all they come to `lcompat_ieee80211_send_mgmt`, which takes a buffer
with the headroom of the device that the frame fills. Behind the fixed part there are the element of
the network, at most one element of up to eight rates, at most one of more rates and, in the
association request to an access point that advertises WMM, the element that asks for it. -/
theorem requests_fill_buffers (mapped : env.page m.calls = .mapped memory)
    (here : m.rt.vif = some vif) (tuned : m.rt.hw.chandef.chan = some chan)
    (known : m.rt.hw.bands chan.band = some sband) (positive : 0 ≤ m.rt.hw.extraTxHeadroom)
    (int : m.rt.hw.extraTxHeadroom ≤ intMax) :
    (∀ bss, m.rt.connectParams.hasBssid = true → m.rt.connectParams.ssid.length ≤ 32 →
      ∃ skb suppRates extRates info, sendAssocReq env bss m = sendMgmt skb m.allocated.numbered ∧
        Filled m.rt.hw assocReqFrameLen.toNat
          ((wlanEidSsid, m.rt.connectParams.ssid) :: (suppRates ++ extRates ++ info)) skb ∧
        AtMostOne wlanEidSuppRates 8 suppRates ∧ AtMostOne wlanEidExtSuppRates 16 extRates ∧
        ((∃ payload, (wlanEidVendorSpecific, payload) ∈ elements bss.ies ∧ IsWmm payload) →
          info = [wmmElement]) ∧
        ((¬∃ payload, (wlanEidVendorSpecific, payload) ∈ elements bss.ies ∧ IsWmm payload) →
          info = [])) ∧
    (∀ ssid : List UInt8, ssid.length ≤ 32 →
      ∃ skb suppRates extRates, sendProbeReq env ssid m = sendMgmt skb m.allocated.numbered ∧
        Filled m.rt.hw hdr3addrLen.toNat ((wlanEidSsid, ssid) :: (suppRates ++ extRates)) skb ∧
        AtMostOne wlanEidSuppRates 8 suppRates ∧ AtMostOne wlanEidExtSuppRates 16 extRates) := by
  constructor
  · intro bss aimed ssid_le
    obtain ⟨skb, sent, filled⟩ :=
      sendAssocReq_eq mapped here tuned known positive int bss aimed (by omega)
    obtain ⟨supp_le, ext_le⟩ := length_assocReqRates_le m.rt.hw bss
    refine ⟨skb, _, _, if bssHasWmm bss then [wmmElement] else [], sent, filled,
      atMostOne_ratesElement _ supp_le, atMostOne_ratesElement _ ext_le, ?_, ?_⟩
    · intro advertised
      rw [if_pos ((bssHasWmm_iff bss).mpr advertised)]
    · intro silent
      rw [if_neg fun found => silent ((bssHasWmm_iff bss).mp found)]
  · intro ssid ssid_le
    obtain ⟨skb, supp, ext, sent, supp_le, ext_le, filled⟩ :=
      sendProbeReq_eq mapped here tuned known positive int (ssid_le.trans (by decide))
    refine ⟨skb, _, _, sent, ?_, atMostOne_ratesElement _ supp_le, atMostOne_ratesElement _ ext_le⟩
    rw [requestElements, if_neg Bool.false_ne_true, List.append_nil] at filled
    exact filled

end Requests

/-- A machine on a channel, with an access point to ask. -/
def tunedMachine : Machine := .start { connectedRuntime with hw := tunedHw }

/-- A scan result that advertises WMM. -/
def wmmResult : ScanResult :=
  { ScanResult.zero with ies := [221, 6, 0x00, 0x50, 0xf2, 0x02, 0x00, 0x01] }

/-- Both requests fill their buffers in a machine that is on a channel. -/
theorem requests_fill_buffers_tuned :
    (∃ skb suppRates extRates, sendAssocReq .kind wmmResult tunedMachine =
        sendMgmt skb tunedMachine.allocated.numbered ∧
      Filled tunedHw 28 ((wlanEidSsid, []) :: (suppRates ++ extRates ++ [wmmElement])) skb) ∧
    (∃ skb suppRates extRates, sendProbeReq .kind [0x61, 0x70] tunedMachine =
        sendMgmt skb tunedMachine.allocated.numbered ∧
      Filled tunedHw 24 ((wlanEidSsid, [0x61, 0x70]) :: (suppRates ++ extRates)) skb) := by
  have mapped : Env.kind.page tunedMachine.calls = .mapped fun _ => some 0 := rfl
  have here : tunedMachine.rt.vif = some connectedVif := rfl
  have tuned : tunedMachine.rt.hw.chandef.chan = some ⟨0, 0, 2412⟩ := rfl
  have known : tunedMachine.rt.hw.bands 0 = some ⟨0, [⟨0, 0, 2412⟩], [10]⟩ := rfl
  obtain ⟨assoc, probe⟩ :=
    requests_fill_buffers mapped here tuned known (by decide) (by decide)
  obtain ⟨skb, supp, ext, info, sent, filled, -, -, asked, -⟩ :=
    assoc wmmResult rfl (by decide)
  obtain ⟨skb', supp', ext', sent', filled', -, -⟩ := probe [0x61, 0x70] (by decide)
  rw [asked ((bssHasWmm_iff wmmResult).mp (by decide +kernel))] at filled
  exact ⟨⟨skb, supp, ext, sent, filled⟩, skb', supp', ext', sent', filled'⟩

end Lcompat.Mac80211
