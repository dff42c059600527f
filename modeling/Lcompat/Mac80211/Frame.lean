import Lcompat.Net.Skbuff

/-!
# Frames of IEEE 802.11

The frame control predicates of `mac80211.h`, the lengths and offsets of frame headers, and the
two LLC headers behind which an EtherType can stand. A frame is read from memory at the offset
where it begins.
-/

namespace Lcompat.Mac80211

open Lcompat.Logic
open Lcompat.Net

/-- `ieee80211_has_tods`. -/
def hasTods (fc : UInt16) : Bool := fc &&& 0x0100 ≠ 0

/-- `ieee80211_has_fromds`. -/
def hasFromds (fc : UInt16) : Bool := fc &&& 0x0200 ≠ 0

/-- `ieee80211_is_mgmt`. -/
def isMgmt (fc : UInt16) : Bool := (fc >>> 2) &&& 3 = 0

/-- `ieee80211_is_ctl`. -/
def isCtl (fc : UInt16) : Bool := (fc >>> 2) &&& 3 = 1

/-- `ieee80211_is_data`. -/
def isData (fc : UInt16) : Bool := (fc >>> 2) &&& 3 = 2

/-- `ieee80211_is_any_nullfunc`. -/
def isAnyNullfunc (fc : UInt16) : Bool :=
  isData fc && (fc &&& 0x00f0 = 0x0040 || fc &&& 0x00f0 = 0x00c0)

/-- `ieee80211_is_data_qos`. -/
def isDataQos (fc : UInt16) : Bool := isData fc && fc &&& 0x0080 ≠ 0

/-- `ieee80211_is_data_present`. -/
def isDataPresent (fc : UInt16) : Bool := isData fc && !isAnyNullfunc fc

/-- `ieee80211_is_beacon`. -/
def isBeacon (fc : UInt16) : Bool := isMgmt fc && fc &&& 0x00f0 = 0x0080

/-- `ieee80211_is_probe_resp`. -/
def isProbeResp (fc : UInt16) : Bool := isMgmt fc && fc &&& 0x00f0 = 0x0050

/-- `ieee80211_is_probe_req`. -/
def isProbeReq (fc : UInt16) : Bool := isMgmt fc && fc &&& 0x00f0 = 0x0040

/-- `ieee80211_is_auth`. -/
def isAuth (fc : UInt16) : Bool := isMgmt fc && fc &&& 0x00f0 = 0x00b0

/-- `ieee80211_is_assoc_resp`. -/
def isAssocResp (fc : UInt16) : Bool := isMgmt fc && fc &&& 0x00f0 = 0x0010

/-- `ieee80211_is_deauth`. -/
def isDeauth (fc : UInt16) : Bool := isMgmt fc && fc &&& 0x00f0 = 0x00c0

/-- `ieee80211_is_disassoc`. -/
def isDisassoc (fc : UInt16) : Bool := isMgmt fc && fc &&& 0x00f0 = 0x00a0

/-- `LCOMPAT_IEEE80211_FCTL_PROTECTED`. -/
def fctlProtected : UInt16 := 0x4000

/-- `LCOMPAT_IEEE80211_FCTL_ORDER`. -/
def fctlOrder : UInt16 := 0x8000

/-- `sizeof(struct ieee80211_hdr_3addr)`. -/
def hdr3addrLen : UInt32 := 24

/-- `sizeof(struct lcompat_ethhdr)`. -/
def ethhdrLen : UInt32 := 14

/-- `LCOMPAT_LLC_SNAP_LEN`. -/
def llcSnapLen : UInt32 := 8

/-- `LCOMPAT_ETH_P_AARP`. -/
def ethPAarp : UInt16 := 0x80f3

/-- `LCOMPAT_ETH_P_IPX`. -/
def ethPIpx : UInt16 := 0x8137

/-- `lcompat_rfc1042_header`. -/
def rfc1042Header : List UInt8 := [0xaa, 0xaa, 0x03, 0x00, 0x00, 0x00]

/-- `lcompat_bridge_tunnel_header`. -/
def bridgeTunnelHeader : List UInt8 := [0xaa, 0xaa, 0x03, 0x00, 0x00, 0xf8]

/-- `lcompat_ieee80211_data_hdr_len`. -/
def dataHdrLen (fc : UInt16) : UInt32 :=
  let hdrLen := if hasTods fc && hasFromds fc then hdr3addrLen + 6 else hdr3addrLen
  if isDataQos fc then
    let hdrLen := hdrLen + 2
    if fc &&& fctlOrder ≠ 0 then hdrLen + 4 else hdrLen
  else hdrLen

/-- The `frame_control` of a frame. -/
def frameControl (memory : Memory) (frame : Nat) : Option UInt16 := getUnalignedLe16 memory frame

/-- `addr1`, the `da` of a management frame. -/
def addr1 (memory : Memory) (frame : Nat) : Option EtherAddr := readAddr memory (frame + 4)

/-- `addr2`, the `sa` of a management frame. -/
def addr2 (memory : Memory) (frame : Nat) : Option EtherAddr := readAddr memory (frame + 10)

/-- `addr3`, the `bssid` of a management frame. -/
def addr3 (memory : Memory) (frame : Nat) : Option EtherAddr := readAddr memory (frame + 16)

/-- `lcompat_ieee80211_snap_to_ethertype`: the EtherType behind a known LLC header, with the
bytes to skip. -/
def snapToEthertype (memory : Memory) (payload : Nat) (payloadLen : UInt32) :
    Option (Option (UInt16 × UInt32)) :=
  if payloadLen < llcSnapLen then some none
  else do
    let ethertype ← getUnalignedBe16 memory (payload + 6)
    let header ← memory.read payload 6
    if header = rfc1042Header ∧ ethertype ≠ ethPAarp ∧ ethertype ≠ ethPIpx then
      return some (ethertype, llcSnapLen)
    if header = bridgeTunnelHeader then return some (ethertype, llcSnapLen)
    return none

/-- Whether an LLC header is one that an EtherType can stand behind. -/
def knownSnap (header : List UInt8) (ethertype : UInt16) : Bool :=
  header = rfc1042Header && ethertype ≠ ethPAarp && ethertype ≠ ethPIpx ||
    header = bridgeTunnelHeader

/-- What an EtherType is found in. -/
theorem snapToEthertype_of_holds {memory : Memory} {payload : Nat} {payloadLen : UInt32}
    {header : List UInt8} {high low : UInt8} (long : ¬payloadLen < llcSnapLen)
    (six : header.length = 6) (holds : memory.Holds payload (header ++ [high, low])) :
    snapToEthertype memory payload payloadLen =
      some (if knownSnap header (word high low)
        then some (word high low, llcSnapLen) else none) := by
  obtain ⟨front, back⟩ := Memory.holds_append.mp holds
  rw [six] at back
  have found : memory.read payload 6 = some header := six ▸ front
  simp only [snapToEthertype, long, ↓reduceIte, getUnalignedBe16_of_holds back, found,
    Option.bind_eq_bind, Option.bind_some]
  by_cases rfc : header = rfc1042Header ∧ word high low ≠ ethPAarp ∧ word high low ≠ ethPIpx
  · simp [knownSnap, rfc]
  · by_cases tunnel : header = bridgeTunnelHeader
    · simp [knownSnap, tunnel]
    · have unknown : knownSnap header (word high low) = false := by
        simp only [knownSnap, tunnel, decide_false, Bool.or_false]
        simpa using rfc
      simp [rfc, tunnel, unknown]

end Lcompat.Mac80211
