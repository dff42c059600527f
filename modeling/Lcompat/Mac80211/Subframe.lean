import Lcompat.Mac80211.Msdu

/-!
# Subframes of an A-MSDU

What an A-MSDU is a sequence of: subframes, each a header with two addresses and a length, an
MSDU, and padding up to four bytes. The subframes of a string of bytes are those of the string
that they were serialized to, and each of them is a part of the string.
-/

namespace Lcompat.Mac80211

open Lcompat.Net

/-- A subframe. -/
structure Subframe where
  /-- Where it goes. -/
  dest : EtherAddr
  /-- Where it comes from. -/
  source : EtherAddr
  /-- Its MSDU, with the LLC header. -/
  msdu : List UInt8
  deriving DecidableEq

/-- How much padding there is behind an MSDU. -/
def padding (count : Nat) : Nat := (count + 17) / 4 * 4 - (count + 14)

/-- The header of a subframe, in the shape of an Ethernet header, and what is behind it. -/
def Subframe.framed (sub : Subframe) (behind : List UInt8) : EthFrame where
  dest := sub.dest
  source := sub.source
  ethertype := UInt16.ofNat sub.msdu.length
  payload := sub.msdu ++ behind

/-- The bytes of a subframe without its padding. -/
def Subframe.bytes (sub : Subframe) : List UInt8 := (sub.framed []).bytes

/-- The Ethernet frame that a subframe carries behind a known LLC header. -/
def Subframe.ethernet (sub : Subframe) : Option EthFrame :=
  match sub.msdu.drop 6 with
  | high :: low :: payload =>
    if knownSnap (sub.msdu.take 6) (word high low) then
      some ⟨sub.dest, sub.source, word high low, payload⟩
    else none
  | _ => none

/-- The Ethernet frame that a subframe carries, told by its MSDU: behind an RFC 1042 header with
an EtherType other than AARP and IPX, or behind a bridge-tunnel header. -/
structure Subframe.Carries (sub : Subframe) (frame : EthFrame) : Prop where
  /-- They go to one place. -/
  dest : frame.dest = sub.dest
  /-- They come from one place. -/
  source : frame.source = sub.source
  /-- The MSDU is the LLC header, the EtherType and the payload. -/
  msdu : ∃ header, sub.msdu = header ++ (cpuToBe16 frame.ethertype ++ frame.payload) ∧
    (header = rfc1042Header ∧ frame.ethertype ≠ ethPAarp ∧ frame.ethertype ≠ ethPIpx ∨
      header = bridgeTunnelHeader)

/-- The subframes of a string of bytes, up to the first that is empty or not whole. -/
def subframes (bytes : List UInt8) : List Subframe :=
  if long : 14 ≤ bytes.length then
    let count := (word bytes[12] bytes[13]).toNat
    let rest := bytes.drop 14
    if count = 0 ∨ rest.length < count then []
    else
      ⟨⟨bytes.take 6, by rw [List.length_take]; omega⟩,
        ⟨(bytes.drop 6).take 6, by rw [List.length_take, List.length_drop]; omega⟩,
          rest.take count⟩ :: subframes (rest.drop (count + padding count))
  else []
termination_by bytes.length
decreasing_by simp only [List.length_drop]; omega

/-- A sequence of subframes is serialized to a string: padding is behind each of them, and may
be left out behind the last. -/
inductive Serialized : List Subframe → List UInt8 → Prop
  /-- The last subframe. -/
  | last (sub : Subframe) (pad : List UInt8)
      (fits : pad = [] ∨ pad.length = padding sub.msdu.length) :
      Serialized [sub] (sub.bytes ++ pad)
  /-- A subframe before others. -/
  | cons (sub : Subframe) (pad : List UInt8) (subs : List Subframe) (bytes : List UInt8)
      (fits : pad.length = padding sub.msdu.length) (behind : Serialized subs bytes) :
      Serialized (sub :: subs) (sub.bytes ++ (pad ++ bytes))

/-- The LLC headers that are known. -/
theorem knownSnap_iff {header : List UInt8} {ethertype : UInt16} :
    knownSnap header ethertype = true ↔
      header = rfc1042Header ∧ ethertype ≠ ethPAarp ∧ ethertype ≠ ethPIpx ∨
        header = bridgeTunnelHeader := by
  simp [knownSnap, and_assoc]

/-- A known LLC header has six bytes. -/
theorem length_of_knownSnap {header : List UInt8} {ethertype : UInt16}
    (known : knownSnap header ethertype = true) : header.length = 6 := by
  obtain ⟨rfl, -⟩ | rfl := knownSnap_iff.mp known <;> rfl

/-- The Ethernet frame of a subframe is the one that it carries. -/
theorem Subframe.ethernet_eq_some_iff {sub : Subframe} {frame : EthFrame} :
    sub.ethernet = some frame ↔ sub.Carries frame := by
  constructor
  · intro found
    unfold Subframe.ethernet at found
    split at found
    · rename_i high low payload behind
      split at found
      · rename_i known
        obtain rfl := Option.some.inj found
        refine ⟨rfl, rfl, sub.msdu.take 6, ?_, knownSnap_iff.mp known⟩
        rw [cpuToBe16_word, List.cons_append, List.cons_append, List.nil_append, ← behind,
          List.take_append_drop]
      · cases found
    · cases found
  · rintro ⟨dest, source, header, msdu, header_known⟩
    have known := knownSnap_iff.mpr header_known
    have six := length_of_knownSnap known
    have front : sub.msdu.take 6 = header := by rw [msdu, List.take_left' six]
    have behind : sub.msdu.drop 6 = (frame.ethertype >>> 8).toUInt8 ::
        frame.ethertype.toUInt8 :: frame.payload := by
      rw [msdu, List.drop_left' six]
      rfl
    simp only [Subframe.ethernet, behind, front, word_toUInt8, known, ↓reduceIte, ← dest, ← source]

/-- What is behind a subframe is behind its MSDU. -/
theorem Subframe.bytes_append (sub : Subframe) (behind : List UInt8) :
    sub.bytes ++ behind = (sub.framed behind).bytes := by
  simp [Subframe.bytes, Subframe.framed, EthFrame.bytes]

/-- The first subframe of a string, and the others. -/
theorem subframes_bytes (frame : EthFrame) : subframes frame.bytes =
    if frame.ethertype.toNat = 0 ∨ frame.payload.length < frame.ethertype.toNat then []
    else ⟨frame.dest, frame.source, frame.payload.take frame.ethertype.toNat⟩ ::
      subframes (frame.payload.drop (frame.ethertype.toNat + padding frame.ethertype.toNat)) := by
  have long : 14 ≤ frame.bytes.length := by
    rw [frame.bytes_length]
    omega
  have dest : frame.bytes.take 6 = frame.dest.bytes := by
    rw [EthFrame.bytes, List.append_assoc, List.append_assoc, List.take_left' frame.dest.length_eq]
  have source : (frame.bytes.drop 6).take 6 = frame.source.bytes := by
    rw [EthFrame.bytes, List.append_assoc, List.append_assoc, List.drop_left' frame.dest.length_eq,
      List.take_left' frame.source.length_eq]
  have header : (frame.dest.bytes ++ frame.source.bytes).length = 12 := by
    rw [List.length_append, frame.dest.length_eq, frame.source.length_eq]
  have count : word frame.bytes[12] frame.bytes[13] = frame.ethertype := by
    have high : frame.bytes[12] = (frame.ethertype >>> 8).toUInt8 := by
      simp [EthFrame.bytes, frame.dest.length_eq, frame.source.length_eq, cpuToBe16]
    have low : frame.bytes[13] = frame.ethertype.toUInt8 := by
      simp [EthFrame.bytes, frame.dest.length_eq, frame.source.length_eq, cpuToBe16]
    rw [high, low, word_toUInt8]
  have payload : frame.bytes.drop 14 = frame.payload := by
    rw [EthFrame.bytes, List.drop_left']
    rw [List.length_append, header, length_cpuToBe16]
  rw [subframes, dif_pos long]
  simp only [count, payload, dest, source]

/-- Nothing shorter than a header has subframes. -/
theorem subframes_of_short {bytes : List UInt8} (short : bytes.length < 14) :
    subframes bytes = [] := by
  rw [subframes, dif_neg (by omega)]

/-- The first subframe of a string that begins with one is that subframe. -/
theorem subframes_append {sub : Subframe} (some_msdu : sub.msdu ≠ [])
    (small : sub.msdu.length < 2 ^ 16) (behind : List UInt8) :
    subframes (sub.bytes ++ behind) =
      sub :: subframes (behind.drop (padding sub.msdu.length)) := by
  have count : (UInt16.ofNat sub.msdu.length).toNat = sub.msdu.length := by
    rw [UInt16.toNat_ofNat']
    exact Nat.mod_eq_of_lt small
  have positive := List.length_pos_iff.mpr some_msdu
  rw [sub.bytes_append, subframes_bytes, if_neg]
  · simp only [Subframe.framed, count, List.take_left, List.drop_append, Nat.add_sub_cancel_left]
    rw [List.drop_eq_nil_of_le (by omega), List.nil_append]
  · simp only [Subframe.framed, count, List.length_append]
    omega

/-- There is a subframe in a serialization. -/
theorem Serialized.ne_nil {subs : List Subframe} {bytes : List UInt8}
    (serialized : Serialized subs bytes) : subs ≠ [] := by
  cases serialized <;> exact List.cons_ne_nil _ _

/-- An MSDU that carries an Ethernet frame is not empty. -/
theorem Subframe.Carries.msdu_ne_nil {sub : Subframe} {frame : EthFrame}
    (carries : sub.Carries frame) : sub.msdu ≠ [] := by
  obtain ⟨header, msdu, -⟩ := carries.msdu
  simp [msdu, cpuToBe16]

/-- The subframes of a string are those that it was serialized from. -/
theorem subframes_of_serialized {subs : List Subframe} {bytes : List UInt8}
    (serialized : Serialized subs bytes)
    (fine : ∀ sub ∈ subs, sub.msdu ≠ [] ∧ sub.msdu.length < 2 ^ 16) : subframes bytes = subs := by
  induction serialized with
  | last sub pad fits =>
    obtain ⟨some_msdu, small⟩ := fine sub (by simp)
    have past : pad.drop (padding sub.msdu.length) = [] := by
      obtain rfl | full := fits
      · exact List.drop_nil
      · exact List.drop_eq_nil_of_le (by omega)
    rw [subframes_append some_msdu small, past, subframes_of_short (by decide)]
  | cons sub pad subs bytes fits behind ih =>
    obtain ⟨some_msdu, small⟩ := fine sub (by simp)
    rw [subframes_append some_msdu small, List.drop_left' fits]
    rw [ih fun sub here => fine sub (List.mem_cons_of_mem _ here)]

/-- A subframe of a string is a part of it. -/
theorem infix_of_mem_subframes {sub : Subframe} {bytes : List UInt8}
    (here : sub ∈ subframes bytes) : sub.bytes <:+: bytes := by
  induction total : bytes.length using Nat.strongRecOn generalizing bytes with
  | ind count ih =>
    by_cases long : 14 ≤ bytes.length
    · obtain ⟨frame, rfl⟩ := EthFrame.exists_of_length long
      have behind : frame.payload <:+ frame.bytes := ⟨_, rfl⟩
      rw [subframes_bytes] at here
      split at here
      · cases here
      · rename_i whole
        obtain rfl | later := List.mem_cons.mp here
        · -- the length of the MSDU is what its header says
          have count : (frame.payload.take frame.ethertype.toNat).length =
              frame.ethertype.toNat := by
            rw [List.length_take]
            omega
          have same : (Subframe.mk frame.dest frame.source
              (frame.payload.take frame.ethertype.toNat)).framed
                (frame.payload.drop frame.ethertype.toNat) = frame := by
            simp only [Subframe.framed, count, List.take_append_drop, UInt16.ofNat_toNat]
          refine List.IsPrefix.isInfix ⟨frame.payload.drop frame.ethertype.toNat, ?_⟩
          rw [Subframe.bytes_append, same]
        · have shorter : (frame.payload.drop (frame.ethertype.toNat +
              padding frame.ethertype.toNat)).length < count := by
            rw [← total, frame.bytes_length, List.length_drop]
            omega
          exact (ih _ shorter later rfl).trans
            ((List.drop_suffix _ _).isInfix.trans behind.isInfix)
    · rw [subframes_of_short (by omega)] at here
      cases here

end Lcompat.Mac80211
