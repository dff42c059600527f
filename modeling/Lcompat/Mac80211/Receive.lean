import Lcompat.Mac80211.Amsdu
import Lcompat.Mac80211.Management

/-!
# Receiving frames

The way of a received buffer through `ieee80211_rx_irqsafe`.
-/

namespace Lcompat.Mac80211

open Lcompat.Logic
open Lcompat.Net

/-- `RX_FLAG_FAILED_FCS_CRC | RX_FLAG_NO_PSDU`. -/
def rxFlagBroken : UInt32 := 0x11

/-- `BIT(RX_INCLUDES_FCS)`. -/
def rxIncludesFcs : UInt32 := 2

/-- `FCS_LEN`. -/
def fcsLen : UInt32 := 4

/-- `lcompat_ieee80211_data_bssid`. -/
def dataBssid (memory : Memory) (frame : Nat) (fc : UInt16) : Option (Option EtherAddr) :=
  if !hasTods fc && hasFromds fc then (addr2 memory frame).map some
  else if hasTods fc && !hasFromds fc then (addr1 memory frame).map some
  else if !hasTods fc && !hasFromds fc then (addr3 memory frame).map some
  else some none

/-- `lcompat_ieee80211_rx_data_matches_bss`. -/
def rxDataMatchesBss (rt : Runtime) (memory : Memory) (frame : Nat) (fc : UInt16) : Option Bool :=
  match rt.vif with
  | none => some false
  | some vif =>
    if rt.connState ≠ .connected || !rt.connectParams.hasBssid then some false
    else if hasTods fc || !hasFromds fc then some false
    else do
      let bssid ← dataBssid memory frame fc
      if bssid ≠ some rt.connectParams.bssid then return false
      let dest ← addr1 memory frame
      return dest = vif.addr || isMulticastEtherAddr dest

/-- `lcompat_ieee80211_is_amsdu`. -/
def isAmsdu (skb : SkBuff) (memory : Memory) (hdrLen : UInt32) : Option Bool :=
  if skb.len < hdrLen || hdrLen < hdr3addrLen + 2 then some false
  else (memory (skb.data + hdrLen.toNat - 2)).map fun qos => qos &&& 0x80 ≠ 0

/-- The single MSDU of a data frame is queued as an Ethernet frame, or the buffer is freed. -/
def rxMsdu (skb : SkBuff) : Kernel Unit := do
  let (ret, skb) ← .require (dataToEthernet skb)
  if ret ≠ 0 then devKfreeSkbAny skb
  else change fun rt => { rt with rxQueue := rt.rxQueue ++ [skb] }

/-- A data frame from the access point. -/
def rxData (env : Env) (skb : SkBuff) (memory : Memory) (fc : UInt16) : Kernel Unit := do
  let amsdu ← .require (isAmsdu skb memory (dataHdrLen fc))
  if amsdu then
    let ret ← enqueueAmsdu env skb (dataHdrLen fc)
    if ret = 0 then devKfreeSkbAny skb
    else rxMsdu skb
  else rxMsdu skb

/-- Whether a frame that has a frame control field is a control frame. -/
def earlyCtl (skb : SkBuff) (memory : Memory) : Option Bool :=
  if skb.len ≥ 2 then (getUnalignedLe16 memory skb.data).map isCtl else some false

/-- A frame that is whole, without its check sequence. -/
def rxFrame (env : Env) (skb : SkBuff) : Kernel Unit := do
  let memory ← .require skb.head
  let ctl ← .require (earlyCtl skb memory)
  if ctl then devKfreeSkbAny skb
  else if skb.len < hdr3addrLen then devKfreeSkbAny skb
  else
    let fc ← .require (frameControl memory skb.data)
    if isMgmt fc then
      let _ ← handleMgmtRx env skb
      devKfreeSkbAny skb
    else if isCtl fc then devKfreeSkbAny skb
    else if !isDataPresent fc then devKfreeSkbAny skb
    else
      let rt ← runtime
      let same ← .require (rxDataMatchesBss rt memory skb.data fc)
      if !same then devKfreeSkbAny skb
      else rxData env skb memory fc

/-- `ieee80211_rx_irqsafe`, with or without a runtime behind the device. -/
def rxIrqsafe (env : Env) (attached : Bool) (skb : SkBuff) : Kernel Unit := do
  if !attached || !skbValidBounds skb then devKfreeSkbAny skb
  else if skb.status.flag &&& rxFlagBroken ≠ 0 then devKfreeSkbAny skb
  else
    let rt ← runtime
    if rt.hw.flags &&& rxIncludesFcs ≠ 0 then
      if skb.len ≤ fcsLen then devKfreeSkbAny skb
      else rxFrame env (skbTrim skb (skb.len - fcsLen))
    else rxFrame env skb

end Lcompat.Mac80211
