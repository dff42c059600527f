import Lcompat.Mac80211.Station

/-!
# Management frames

The handlers of the management frames that a station receives. A frame is read from the memory at
`data`, at the offsets of `struct ieee80211_mgmt`, wherever the length of the buffer allows it.
-/

namespace Lcompat.Mac80211

open Lcompat.Logic
open Lcompat.Net

/-- `sizeof(struct ieee80211_mgmt)`. -/
def mgmtLen : UInt32 := 40

/-- `offsetof(struct ieee80211_mgmt, u.beacon.variable)`, and that of `u.probe_resp.variable`. -/
def beaconVariable : UInt32 := 36

/-- `offsetof(struct ieee80211_mgmt, u.auth.variable)`. -/
def authVariable : UInt32 := 30

/-- `offsetof(struct ieee80211_mgmt, u.assoc_resp.variable)`. -/
def assocRespVariable : UInt32 := 30

/-- `offsetof(struct ieee80211_mgmt, u.deauth.variable)`, and that of `u.disassoc.variable`. -/
def reasonVariable : UInt32 := 26

/-- The read of an `__le64` field. -/
def getLe64 (memory : Memory) (place : Nat) : Option UInt64 :=
  (memory.read place 8).map fun bytes =>
    bytes.foldr (fun byte high => (high <<< 8) ||| byte.toUInt64) 0

/-- What a beacon or a probe response says of its access point. -/
def scanResultOf (env : Env) (rt : Runtime) (skb : SkBuff) (memory : Memory) :
    Option ScanResult := do
  let mgmt := skb.data
  let bssid ← addr3 memory mgmt
  let tsf ← getLe64 memory (mgmt + 24)
  let beaconInterval ← getUnalignedLe16 memory (mgmt + 32)
  let capability ← getUnalignedLe16 memory (mgmt + 34)
  let ieLen := min (skb.len - beaconVariable).toNat env.maxScanIeLen
  let ies ← memory.read (mgmt + beaconVariable.toNat) ieLen
  let frequency :=
    if skb.status.freq ≠ 0 then UInt32.ofInt skb.status.freq else rt.hw.chandef.centerFreq1
  return { valid := true, bssid, frequency, signalMbm := skb.status.signal * 100, tsf,
           beaconInterval, capability, ies }

/-- `lcompat_ieee80211_store_scan_result`, whose result its caller drops. -/
def storeScanResult (env : Env) (skb : SkBuff) : Kernel Unit := do
  let rt ← runtime
  if !rt.netdev || !skbValidBounds skb || skb.len < mgmtLen then return
  let memory ← .require skb.head
  let fc ← .require (frameControl memory skb.data)
  if !isBeacon fc && !isProbeResp fc then return
  if skb.len ≤ beaconVariable then return
  let result ← .require (scanResultOf env rt skb memory)
  note (.scanResult result)

/-- `lcompat_ieee80211_mgmt_matches`. -/
def mgmtMatches (memory : Memory) (mgmt : Nat) : Kernel Bool := do
  let rt ← runtime
  let vif ← .require rt.vif
  let da ← .require (addr1 memory mgmt)
  if da ≠ vif.addr then return false
  if !rt.connectParams.hasBssid then return true
  let bssid ← .require (addr3 memory mgmt)
  return bssid = rt.connectParams.bssid

/-- What is known of the access point when no scan result is found. -/
def knownBss (rt : Runtime) : ScanResult :=
  { ScanResult.zero with
    valid := true, frequency := rt.connectParams.frequency, bssid := rt.connectParams.bssid,
    beaconInterval := rt.beaconInterval, capability := rt.capability }

/-- The access point that the handlers go on with. -/
def reselectBss (env : Env) : Kernel ScanResult := do
  let (ret, selected) ← selectBss env
  let rt ← runtime
  return if ret < 0 then knownBss rt else selected

/-- Go on to association behind an authentication that succeeded. -/
def associate (env : Env) : Kernel Unit := do
  let selected ← reselectBss env
  change fun rt => { rt with connState := .associating }
  let ret ← sendAssocReq env selected
  if ret < 0 then connectFailed 1

/-- `lcompat_ieee80211_handle_auth_rx`. -/
def handleAuthRx (env : Env) (skb : SkBuff) : Kernel Bool := do
  if skb.len < authVariable then return false
  let rt ← runtime
  if rt.connState ≠ .authenticating then return true
  let memory ← .require skb.head
  let same ← mgmtMatches memory skb.data
  if !same then return true
  let statusCode ← .require (getUnalignedLe16 memory (skb.data + 28))
  let transaction ← .require (getUnalignedLe16 memory (skb.data + 26))
  if statusCode ≠ wlanStatusSuccess ∨ transaction ≠ 2 then connectFailed statusCode
  else associate env
  return true

/-- Complete the connection behind an association that succeeded. -/
def complete (env : Env) (aid : UInt16) : Kernel Unit := do
  let selected ← reselectBss env
  let ret ← connectComplete env selected aid
  if ret < 0 then connectFailed 1

/-- `lcompat_ieee80211_handle_assoc_resp_rx`. -/
def handleAssocRespRx (env : Env) (skb : SkBuff) : Kernel Bool := do
  if skb.len < assocRespVariable then return false
  let rt ← runtime
  if rt.connState ≠ .associating then return true
  let memory ← .require skb.head
  let same ← mgmtMatches memory skb.data
  if !same then return true
  let statusCode ← .require (getUnalignedLe16 memory (skb.data + 26))
  let aid ← .require (getUnalignedLe16 memory (skb.data + 28))
  if statusCode ≠ wlanStatusSuccess then connectFailed statusCode
  else complete env (aid &&& 0x3fff)
  return true

/-- `lcompat_ieee80211_handle_disconnect_rx`, for either kind of frame. -/
def handleDisconnectRx (skb : SkBuff) : Kernel Bool := do
  if skb.len < reasonVariable then return false
  let memory ← .require skb.head
  let reasonCode ← .require (getUnalignedLe16 memory (skb.data + 24))
  let rt ← runtime
  if rt.connState = .disconnected then return true
  let same ← mgmtMatches memory skb.data
  if !same then return true
  disconnectLocal reasonCode 0 true
  return true

/-- `lcompat_ieee80211_handle_mgmt_rx`. -/
def handleMgmtRx (env : Env) (skb : SkBuff) : Kernel Bool := do
  if !skbValidBounds skb || skb.len < hdr3addrLen then return false
  let memory ← .require skb.head
  let fc ← .require (frameControl memory skb.data)
  if isBeacon fc || isProbeResp fc then
    let rt ← runtime
    if rt.scanReq.isSome then storeScanResult env skb
    return true
  if isProbeReq fc then return true
  if isAuth fc then handleAuthRx env skb
  else if isAssocResp fc then handleAssocRespRx env skb
  else if isDeauth fc || isDisassoc fc then handleDisconnectRx skb
  else return false

end Lcompat.Mac80211
