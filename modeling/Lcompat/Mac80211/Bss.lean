import Lcompat.Errno
import Lcompat.Mac80211.Runtime

/-!
# Basic service sets

How a scan result is read and chosen: the information elements of a result, the tests that a
result has to pass for some connect parameters, and the rates that it shares with a band of the
device.
-/

namespace Lcompat.Mac80211

open Lcompat.Logic
open Lcompat.Net

/-- `LCOMPAT_WLAN_EID_SSID`. -/
def wlanEidSsid : UInt8 := 0

/-- `LCOMPAT_WLAN_EID_SUPP_RATES`. -/
def wlanEidSuppRates : UInt8 := 1

/-- `LCOMPAT_WLAN_EID_EXT_SUPP_RATES`. -/
def wlanEidExtSuppRates : UInt8 := 50

/-- `LCOMPAT_WLAN_EID_VENDOR_SPECIFIC`. -/
def wlanEidVendorSpecific : UInt8 := 221

/-- `LCOMPAT_WLAN_CAPABILITY_ESS`. -/
def wlanCapabilityEss : UInt16 := 1

/-- `LCOMPAT_WLAN_CAPABILITY_PRIVACY`. -/
def wlanCapabilityPrivacy : UInt16 := 0x10

/-- `LCOMPAT_WLAN_CAPABILITY_SHORT_SLOT_TIME`. -/
def wlanCapabilityShortSlotTime : UInt16 := 0x400

/-- The elements that the loops of `lcompat_ieee80211_find_ie` and `lcompat_ieee80211_bss_has_wmm`
walk over: the identifier and the content of each, up to the first that is not whole. -/
def elements : List UInt8 → List (UInt8 × List UInt8)
  | id :: len :: rest =>
    if rest.length < len.toNat then []
    else (id, rest.take len.toNat) :: elements (rest.drop len.toNat)
  | _ => []
termination_by ies => ies.length
decreasing_by simp only [List.length_drop, List.length_cons]; omega

/-- `lcompat_ieee80211_find_ie`. -/
def findIe (ies : List UInt8) (eid : UInt8) : Option (List UInt8) :=
  ((elements ies).find? fun element => element.1 = eid).map Prod.snd

/-- What `lcompat_ieee80211_bss_has_wmm` looks for in a vendor element. -/
def isWmmIe (ie : List UInt8) : Bool :=
  match ie with
  | 0x00 :: 0x50 :: 0xf2 :: 0x02 :: subtype :: version :: _ =>
    (subtype = 0 || subtype = 1) && version = 1
  | _ => false

/-- `lcompat_ieee80211_bss_has_wmm`. -/
def bssHasWmm (bss : ScanResult) : Bool :=
  (elements bss.ies).any fun element => element.1 = wlanEidVendorSpecific && isWmmIe element.2

/-- `lcompat_ieee80211_bss_privacy_matches`. -/
def bssPrivacyMatches (bss : ScanResult) (params : ConnectParams) : Bool :=
  decide (bss.capability &&& wlanCapabilityPrivacy ≠ 0) = params.privacy

/-- `lcompat_ieee80211_ssid_matches`. -/
def ssidMatches (result : ScanResult) (ssid : List UInt8) : Bool :=
  match findIe result.ies wlanEidSsid with
  | none => false
  | some ie => ie = ssid

/-- `lcompat_ieee80211_fill_scan_ssid`. -/
def fillScanSsid (env : Env) (result : ScanResult) (params : ConnectParams) : ConnectParams :=
  if params.ssid ≠ [] then params
  else
    match findIe result.ies wlanEidSsid with
    | none | some [] => params
    | some ie => { params with ssid := ie.take env.ssidSize }

/-- The result that the first loop of `lcompat_ieee80211_select_bss` stops at. -/
def firstMatch (params : ConnectParams) (results : List ScanResult) : Option ScanResult :=
  results.find? fun result => result.valid && (!params.hasBssid || result.bssid = params.bssid) &&
    (params.ssid = [] || ssidMatches result params.ssid) && bssPrivacyMatches result params

/-- The result that the second loop of `lcompat_ieee80211_select_bss` stops at. -/
def secondMatch (params : ConnectParams) (results : List ScanResult) : Option ScanResult :=
  results.find? fun result => result.valid &&
    (params.ssid ≠ [] && ssidMatches result params.ssid) &&
    bssPrivacyMatches result params

/-- Give connect parameters an address, if they have none. -/
def ConnectParams.withBssid (params : ConnectParams) (bssid : EtherAddr) : ConnectParams :=
  if params.hasBssid then params else { params with bssid, hasBssid := true }

/-- `lcompat_ieee80211_select_bss` on the parameters of the runtime: the result, and what has been
selected. -/
def selectBss (env : Env) : Kernel (Int × ScanResult) := do
  let rt ← runtime
  if !rt.netdev then return (-EINVAL, .zero)
  let params := rt.connectParams
  match ← ask env.scanState with
  | none =>
    if params.hasBssid && params.frequency ≠ 0 then
      return (0, { ScanResult.zero with
        valid := true, frequency := params.frequency, bssid := params.bssid })
    else return (-ENOENT, .zero)
  | some results =>
    match firstMatch params results with
    | some result =>
      change fun rt => { rt with connectParams := fillScanSsid env result params }
      return (0, result)
    | none =>
      match secondMatch params results with
      | some result =>
        change fun rt => { rt with connectParams := params.withBssid result.bssid }
        return (0, result)
      | none => return (-ENOENT, .zero)

/-- `bitrate / 5`, as it is stored. -/
def rateOf (bitrate : Int) : UInt8 := UInt8.ofInt (bitrate.tdiv 5)

/-- Whether a rate is one that a result names, and then whether it is a basic rate of it: the loops
over `scan_rates` and `scan_ext_rates` in `lcompat_ieee80211_build_supported_rates_ie`. -/
def sharedRate (scanRates scanExtRates : Option (List UInt8)) (rate : UInt8) : Option Bool :=
  if scanRates.isNone && scanExtRates.isNone then some false
  else
    match (scanRates.getD [] ++ scanExtRates.getD []).find? fun other => other &&& 0x7f = rate with
    | some other => some (other &&& 0x80 ≠ 0)
    | none => none

/-- The band of the channel that the device is on, if it is on one and knows the band. -/
def Hw.currentBand (hw : Hw) : Option SupportedBand :=
  hw.chandef.chan.bind fun chan => hw.bands chan.band

/-- `lcompat_ieee80211_build_supported_rates_ie`: the rates in `supp_rates` and in `ext_rates`. -/
def buildSupportedRatesIe (hw : Hw) (bss : ScanResult) (suppRatesSize extRatesSize : Nat) :
    List UInt8 × List UInt8 :=
  match hw.currentBand with
  | none => ([], [])
  | some sband =>
    let scanRates := findIe bss.ies wlanEidSuppRates
    let scanExtRates := findIe bss.ies wlanEidExtSuppRates
    let rates := sband.bitrates.filterMap fun bitrate =>
      (sharedRate scanRates scanExtRates (rateOf bitrate)).map fun basic =>
        rateOf bitrate ||| (if basic then 0x80 else 0)
    (rates.take suppRatesSize, (rates.drop suppRatesSize).take extRatesSize)

/-- The mask of the first 32 bit rates that pass a test. -/
def ratesMask (bitrates : List Int) (passes : UInt8 → Bool) : UInt32 :=
  (bitrates.take 32).zipIdx.foldl (fun mask entry =>
    if passes (rateOf entry.1) then mask ||| ((1 : UInt32) <<< UInt32.ofNat entry.2) else mask) 0

/-- The mask of all rates of a band. -/
def allRates (sband : SupportedBand) : UInt32 :=
  if sband.bitrates.length ≥ 32 then 0xffffffff
  else ((1 : UInt32) <<< UInt32.ofNat sband.bitrates.length) - 1

/-- The rates that a result names. -/
def scanRatesOf (bss : ScanResult) : List UInt8 :=
  (findIe bss.ies wlanEidSuppRates).getD [] ++ (findIe bss.ies wlanEidExtSuppRates).getD []

/-- `lcompat_ieee80211_basic_rates_mask`. -/
def basicRatesMask (hw : Hw) (bss : ScanResult) : UInt32 :=
  match hw.currentBand with
  | none => 0
  | some sband => ratesMask sband.bitrates fun rate =>
      (scanRatesOf bss).any fun other => other &&& 0x7f = rate && other &&& 0x80 ≠ 0

/-- `lcompat_ieee80211_supported_rates_mask`. -/
def supportedRatesMask (hw : Hw) (bss : ScanResult) : UInt32 :=
  match hw.currentBand with
  | none => 0
  | some sband =>
    if bss.ies = [] then allRates sband
    else ratesMask sband.bitrates fun rate =>
      (scanRatesOf bss).any fun other => other &&& 0x7f = rate

/-- `lcompat_ieee80211_find_channel_by_freq`. -/
def findChannelByFreq (hw : Hw) (frequency : UInt32) : Option Channel :=
  if frequency = 0 then none
  else (List.finRange 4).findSome? fun band =>
    (hw.bands band).bind fun sband => sband.channels.find? fun chan => chan.centerFreq = frequency

end Lcompat.Mac80211
