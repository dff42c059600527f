import Lcompat.Mac80211.Bss
import Lcompat.Mac80211.Msdu

/-!
# The station

What `mac80211.c` does to connect to an access point and to leave it: the channel, the frames that
it sends, the station entry, and the ends that an attempt and a connection come to. The size of a
station entry and of its queues is an `int` added to the size of a structure, which does not
overflow, so the checks of these sums are left out.
-/

namespace Lcompat.Mac80211

open Lcompat.Logic
open Lcompat.Net

/-- `LCOMPAT_WLAN_REASON_DEAUTH_LEAVING`. -/
def wlanReasonDeauthLeaving : UInt16 := 3

/-- `LCOMPAT_WLAN_STATUS_SUCCESS`. -/
def wlanStatusSuccess : UInt16 := 0

/-- `LCOMPAT_NL80211_AUTHTYPE_AUTOMATIC`. -/
def authtypeAutomatic : UInt32 := 8

/-- `LCOMPAT_NL80211_AUTHTYPE_OPEN_SYSTEM`. -/
def authtypeOpenSystem : UInt32 := 0

/-- `lcompat_wmm_info_ie`. -/
def wmmInfoIe : List UInt8 := [wlanEidVendorSpecific, 7, 0x00, 0x50, 0xf2, 0x02, 0x00, 0x01, 0x00]

/-- `sizeof(struct lcompat_ieee80211_auth_frame)`. -/
def authFrameLen : UInt32 := 30

/-- `sizeof(struct lcompat_ieee80211_assoc_req_frame)`. -/
def assocReqFrameLen : UInt32 := 28

/-- `sizeof(struct lcompat_ieee80211_reason_frame)`. -/
def reasonFrameLen : UInt32 := 26

/-- `LCOMPAT_IEEE80211_FTYPE_MGMT | LCOMPAT_IEEE80211_STYPE_AUTH`. -/
def fcAuth : UInt16 := 0x00b0

/-- `LCOMPAT_IEEE80211_FTYPE_MGMT | LCOMPAT_IEEE80211_STYPE_ASSOC_REQ`. -/
def fcAssocReq : UInt16 := 0x0000

/-- `LCOMPAT_IEEE80211_FTYPE_MGMT | LCOMPAT_IEEE80211_STYPE_DEAUTH`. -/
def fcDeauth : UInt16 := 0x00c0

/-- `lcompat_ieee80211_fill_wireless_info`. -/
def fillWirelessInfo (rt : Runtime) : WirelessInfo where
  connected := rt.connState = .connected
  frequency := rt.connectParams.frequency
  ssid := rt.connectParams.ssid
  bssid := if rt.connectParams.hasBssid then rt.connectParams.bssid else .zero

/-- `lcompat_ieee80211_update_wireless_info`, whose result its callers drop. -/
def updateWirelessInfo : Kernel Unit := do
  let rt ← runtime
  if rt.netdev then note (.wirelessInfo (fillWirelessInfo rt))

/-- `netdev_set_link_state`, if there is a `netdev`. -/
def setLinkState (up : Bool) : Kernel Unit := do
  let rt ← runtime
  if rt.netdev then note (.linkState up)

/-- `lcompat_ieee80211_clear_connect_params`. -/
def clearConnectParams : Kernel Unit :=
  change fun rt => { rt with
    connectParams := .zero, connectRequestPortid := 0, beaconInterval := 0, capability := 0,
    useQos := false }

/-- `ops->config`, if it is there. -/
def callConfig (env : Env) : Kernel Int := do
  let rt ← runtime
  if rt.hw.ops.config then
    let ret ← ask env.result
    note (.config rt.hw.chandef ret)
    return ret
  else return 0

/-- A `cfg80211_chan_def` that is 20 MHz wide. -/
def ChanDef.width20 (chan : Channel) : ChanDef := ⟨some chan, 1, chan.centerFreq, 0⟩

/-- `lcompat_ieee80211_set_channel`. -/
def setChannel (env : Env) (frequency : UInt32) : Kernel Int := do
  let rt ← runtime
  if frequency = 0 then return 0
  match findChannelByFreq rt.hw frequency with
  | none => return -ENOENT
  | some chan =>
    if rt.hw.chandef.chan = some chan ∧ rt.hw.chandef.centerFreq1 = frequency then return 0
    change fun rt => { rt with hw.chandef := .width20 chan }
    callConfig env

/-- `lcompat_ieee80211_next_seq_ctrl`. -/
def nextSeqCtrl : Kernel UInt16 := do
  let rt ← runtime
  change fun rt => { rt with txSeq := rt.txSeq + 1 }
  return (rt.txSeq &&& 0xfff) <<< 4

/-- `ops->mgd_prepare_tx`, if it is there. -/
def mgdPrepareTx : Kernel Unit := do
  let rt ← runtime
  if rt.hw.ops.mgdPrepareTx then note .mgdPrepareTx

/-- `lcompat_ieee80211_send_mgmt`. -/
def sendMgmt (skb : SkBuff) : Kernel Int := do
  let rt ← runtime
  if !rt.hw.ops.tx then return -EINVAL
  mgdPrepareTx
  note (.tx skb.id skb.bytes)
  return 0

/-- The start of a management frame to the access point: a buffer with a zeroed frame of some length
in front of room for more, and the place of the frame, if there is memory. -/
def allocMgmt (env : Env) (frameLen : UInt32) (more : Nat) : Kernel (Option (Nat × SkBuff)) := do
  let some skb ← allocTxSkb env (frameLen.toNat + more) | return none
  match skbPutZero skb frameLen with
  | none =>
    devKfreeSkbAny skb
    return none
  | some frame => return some frame

/-- The header of a management frame to the access point. -/
def writeMgmtHeader (skb : SkBuff) (frame : Nat) (fc : UInt16) : Kernel SkBuff := do
  let rt ← runtime
  let vif ← .require rt.vif
  let seqCtrl ← nextSeqCtrl
  let bssid := rt.connectParams.bssid
  return writeHeader skb frame fc seqCtrl bssid vif.addr bssid

/-- `lcompat_ieee80211_send_auth`. -/
def sendAuth (env : Env) : Kernel Int := do
  let rt ← runtime
  if !rt.connectParams.hasBssid then return -EINVAL
  let some (auth, skb) ← allocMgmt env authFrameLen 0 | return -ENOMEM
  let skb ← writeMgmtHeader skb auth fcAuth
  sendMgmt (skb.write (auth + 24) (cpuToLe16 0 ++ cpuToLe16 1 ++ cpuToLe16 wlanStatusSuccess))

/-- `lcompat_size_add_ie`. -/
def sizeAddIe (total len : Nat) : Option Nat :=
  if len > 255 then none else (sizeAdd 2 len).bind fun ieLen => sizeAdd total ieLen

/-- The bytes of an information element. -/
def ieBytes (eid : UInt8) (content : List UInt8) : List UInt8 :=
  eid :: UInt8.ofNat content.length :: content

/-- The bytes of an information element that is left out when it is empty. -/
def optionalIe (eid : UInt8) (content : List UInt8) : List UInt8 :=
  if content = [] then [] else ieBytes eid content

/-- The length of an association request with these elements. -/
def assocReqLen (ssid suppRates extRates : List UInt8) (wmm : Bool) : Option Nat := do
  let total ← sizeAddIe assocReqFrameLen.toNat ssid.length
  let total ← if suppRates = [] then some total else sizeAddIe total suppRates.length
  let total ← if extRates = [] then some total else sizeAddIe total extRates.length
  if wmm then sizeAdd total wmmInfoIe.length else some total

/-- The elements of an association request. -/
def assocReqIes (ssid suppRates extRates : List UInt8) (wmm : Bool) : List UInt8 :=
  ieBytes wlanEidSsid ssid ++ optionalIe wlanEidSuppRates suppRates ++
    optionalIe wlanEidExtSuppRates extRates ++ if wmm then wmmInfoIe else []

/-- The capabilities that an association request claims. -/
def assocReqCapability (rt : Runtime) : UInt16 :=
  wlanCapabilityEss ||| (if rt.connectParams.privacy then wlanCapabilityPrivacy else 0) |||
    (rt.capability &&& wlanCapabilityShortSlotTime)

/-- The end of `lcompat_ieee80211_send_assoc_req`: the elements are put behind the fixed part. -/
def sendWithIes (skb : SkBuff) (count : Nat) (ies : List UInt8) : Kernel Int := do
  match skbPut skb (UInt32.ofNat count) with
  | none =>
    devKfreeSkbAny skb
    return -ENOMEM
  | some (pos, skb) =>
    let skb := skb.write pos ies
    if ies.length ≠ count then
      devKfreeSkbAny skb
      return -EINVAL
    sendMgmt skb

/-- `lcompat_ieee80211_send_assoc_req`. -/
def sendAssocReq (env : Env) (bss : ScanResult) : Kernel Int := do
  let rt ← runtime
  if !rt.connectParams.hasBssid then return -EINVAL
  let chan ← .require rt.hw.chandef.chan
  if (rt.hw.bands chan.band).isNone then return -EINVAL
  let ssid := rt.connectParams.ssid
  let rates := buildSupportedRatesIe rt.hw bss 8 16
  let suppRates := rates.1.takeWhile (· ≠ 0)
  let extRates := rates.2.takeWhile (· ≠ 0)
  let wmm := bssHasWmm bss
  let some totalLen := assocReqLen ssid suppRates extRates wmm | return -EOVERFLOW
  if totalLen > uintMax then return -EOVERFLOW
  let iesLen := totalLen - assocReqFrameLen.toNat
  let some (assoc, skb) ← allocMgmt env assocReqFrameLen iesLen | return -ENOMEM
  let skb ← writeMgmtHeader skb assoc fcAssocReq
  let skb := skb.write (assoc + 24) (cpuToLe16 (assocReqCapability rt) ++ cpuToLe16 10)
  sendWithIes skb iesLen (assocReqIes ssid suppRates extRates wmm)

/-- `lcompat_ieee80211_free_sta`. -/
def freeSta : Kernel Unit := change fun rt => { rt with sta := none }

/-- `kzalloc` some times, up to the first that fails. -/
def kzallocAll (env : Env) : Nat → Kernel Bool
  | 0 => return true
  | count + 1 => do
    let given ← ask env.kzalloc
    if given then kzallocAll env count else return false

/-- The rates of a new station entry. -/
def staRates (hw : Hw) (chan : Channel) (bss : ScanResult) : Fin 4 → UInt32 :=
  let all : Fin 4 → UInt32 := fun band =>
    match hw.bands chan.band with
    | none => 0
    | some sband => if band = sband.band then allRates sband else 0
  let mask := supportedRatesMask hw bss
  if mask ≠ 0 then Function.update all chan.band mask else all

/-- `lcompat_ieee80211_alloc_sta`. -/
def allocSta (env : Env) (bss : ScanResult) : Kernel Int := do
  let rt ← runtime
  if !rt.connectParams.hasBssid then return -EINVAL
  if rt.hw.staDataSize < 0 ∨ rt.hw.txqDataSize < 0 then return -EINVAL
  -- the entry and the queue of each of its `IEEE80211_NUM_TIDS` traffic identifiers
  let given ← kzallocAll env 17
  if !given then return -ENOMEM
  let chan ← .require rt.hw.chandef.chan
  change fun rt => { rt with sta := some ⟨rt.connectParams.bssid, staRates rt.hw chan bss⟩ }
  return 0

/-- An interface that is not associated. -/
def Vif.left (vif : Vif) : Vif :=
  { vif with cfgAssoc := false, cfgAid := 0, bssConf := ⟨false, 0, .zero, .zero, 0, 0⟩ }

/-- `ops->sta_remove`, if there is a station and the operation is there. -/
def callStaRemove : Kernel Unit := do
  let rt ← runtime
  if rt.sta.isSome && rt.hw.ops.staRemove then note .staRemove

/-- `ops->bss_info_changed`, if it is there. -/
def callBssInfoChanged (conf : BssConf) : Kernel Unit := do
  let rt ← runtime
  if rt.hw.ops.bssInfoChanged then note (.bssInfoChanged conf)

/-- `netlink_publish_disconnect_event`, if the station has been with an access point. -/
def publishDisconnect (haveWireless : Bool) (requestPortid : UInt32) (reasonCode : UInt16)
    (byAp : Bool) : Kernel Unit := do
  if haveWireless then note (.disconnectEvent requestPortid reasonCode byAp)

/-- `lcompat_ieee80211_disconnect_local`. -/
def disconnectLocal (reasonCode : UInt16) (requestPortid : UInt32) (byAp : Bool) : Kernel Unit := do
  let rt ← runtime
  match rt.vif with
  | none => return
  | some vif =>
    let haveWireless := rt.netdev && rt.connectParams.hasBssid
    callStaRemove
    freeSta
    change fun rt => { rt with vif := some vif.left }
    callBssInfoChanged vif.left.bssConf
    publishDisconnect haveWireless requestPortid reasonCode byAp
    change fun rt => { rt with connState := .disconnected }
    clearConnectParams
    setLinkState false
    updateWirelessInfo

/-- `lcompat_ieee80211_connect_failed`. -/
def connectFailed (statusCode : UInt16) : Kernel Unit := do
  let rt ← runtime
  change fun rt => { rt with connState := .disconnected }
  setLinkState false
  updateWirelessInfo
  note (.connectResult rt.connectRequestPortid statusCode)
  clearConnectParams
  updateWirelessInfo

/-- An interface that is associated with the access point of the connect parameters. -/
def Vif.joined (vif : Vif) (rt : Runtime) (bss : ScanResult) (aid : UInt16) : Vif :=
  { vif with cfgAssoc := true, cfgAid := aid,
             bssConf := ⟨true, aid, rt.connectParams.bssid, rt.connectParams.bssid,
               rt.beaconInterval, basicRatesMask rt.hw bss⟩ }

/-- `ops->sta_add`, if it is there. -/
def callStaAdd (env : Env) : Kernel Int := do
  let rt ← runtime
  if rt.hw.ops.staAdd then
    let ret ← ask env.result
    note (.staAdd ret)
    return ret
  else return 0

/-- The end of `lcompat_ieee80211_connect_complete`, behind what can fail. -/
def enterConnected (bss : ScanResult) (aid : UInt16) : Kernel Unit := do
  let rt ← runtime
  let vif ← .require rt.vif
  let joined := vif.joined rt bss aid
  change fun rt => { rt with connState := .connected, vif := some joined }
  callBssInfoChanged joined.bssConf
  callBssInfoChanged joined.bssConf
  setLinkState true
  updateWirelessInfo
  note (.connectResult rt.connectRequestPortid wlanStatusSuccess)
  change fun rt => { rt with connectRequestPortid := 0 }

/-- `lcompat_ieee80211_connect_complete`. -/
def connectComplete (env : Env) (bss : ScanResult) (aid : UInt16) : Kernel Int := do
  let rt ← runtime
  if !rt.netdev then return -EINVAL
  freeSta
  let ret ← allocSta env bss
  if ret ≠ 0 then return ret
  let ret ← callStaAdd env
  if ret ≠ 0 then
    freeSta
    return ret
  enterConnected bss aid
  return 0

/-- The check of `lcompat_netdev_connect` and the stores under its lock: what the call is refused
with, or zero. -/
def connectCheck (params : ConnectParams) (requestPortid : UInt32) : Kernel Int := do
  let rt ← runtime
  if !rt.started then return -ENODEV
  if params.privacy then return -EOPNOTSUPP
  if params.authType ≠ authtypeAutomatic ∧ params.authType ≠ authtypeOpenSystem then
    return -EOPNOTSUPP
  if rt.connState ≠ .disconnected then return -EBUSY
  change fun rt => { rt with connectParams := params, connectRequestPortid := requestPortid }
  return 0

/-- What `lcompat_netdev_connect` takes over from the selected access point. -/
def Runtime.adopt (rt : Runtime) (selected : ScanResult) : Runtime :=
  let params := rt.connectParams.withBssid selected.bssid
  { rt with
    connectParams := { params with
      frequency := if params.frequency = 0 then selected.frequency else params.frequency }
    beaconInterval := selected.beaconInterval
    capability := selected.capability
    useQos := bssHasWmm selected }

/-- The steps of `lcompat_netdev_connect` behind its check, up to the first that fails. -/
def connectSteps (env : Env) : Kernel Int := do
  let (ret, selected) ← selectBss env
  if ret ≠ 0 then return ret
  change fun rt => rt.adopt selected
  let rt ← runtime
  let ret ← setChannel env rt.connectParams.frequency
  if ret ≠ 0 then return ret
  change fun rt => { rt with connState := .authenticating }
  updateWirelessInfo
  sendAuth env

/-- The rest of `lcompat_netdev_connect` behind its check. -/
def connectRest (env : Env) : Kernel Int := do
  let ret ← connectSteps env
  if ret ≠ 0 then
    connectFailed (if ret < 0 then 1 else UInt16.ofInt ret)
    return ret
  return 0

/-- `lcompat_netdev_connect`. -/
def netdevConnect (env : Env) (params : ConnectParams) (requestPortid : UInt32) : Kernel Int := do
  let ret ← connectCheck params requestPortid
  if ret ≠ 0 then return ret
  connectRest env

/-- The frame with which `lcompat_netdev_disconnect` takes leave, if there is memory for it. -/
def sendDeauth (env : Env) (reasonCode : UInt16) : Kernel Unit := do
  match ← allocMgmt env reasonFrameLen 0 with
  | none => return
  | some (deauth, skb) =>
    let skb ← writeMgmtHeader skb deauth fcDeauth
    let _ ← sendMgmt (skb.write (deauth + 24) (cpuToLe16 reasonCode))

/-- `lcompat_netdev_disconnect`. -/
def netdevDisconnect (env : Env) (reasonCode : UInt16) (requestPortid : UInt32) : Kernel Int := do
  let rt ← runtime
  if !rt.started then return -ENODEV
  if rt.connState ≠ .connected then return -ENOTCONN
  sendDeauth env reasonCode
  disconnectLocal (if reasonCode ≠ 0 then reasonCode else wlanReasonDeauthLeaving) requestPortid
    false
  return 0

/-- `ieee80211_disconnect`. -/
def ieee80211Disconnect : Kernel Unit := disconnectLocal wlanReasonDeauthLeaving 0 false

end Lcompat.Mac80211
