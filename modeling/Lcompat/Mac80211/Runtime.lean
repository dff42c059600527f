import Lcompat.Logic.Program
import Lcompat.Mac80211.Frame

/-!
# The station runtime

The state that `mac80211.c` keeps for a registered device, and what its functions do to the
outside: each call of the driver or of the native kernel is an event of the trace, and what such
a call answers is given by the environment under the number of the call. Functions are programs
over that state; a read of frame memory that gives nothing and the use of a null pointer are
faults.
-/

namespace Lcompat.Mac80211

open Lcompat.Logic
open Lcompat.Net

/-- `enum lcompat_ieee80211_conn_state`. -/
inductive ConnState where
  | disconnected | authenticating | associating | connected
  deriving DecidableEq

/-- `netdev_connect_params_t`, as far as it is used. -/
structure ConnectParams where
  /-- `ssid`, up to `ssid_len`. -/
  ssid : List UInt8
  /-- `has_bssid`. -/
  hasBssid : Bool
  /-- `bssid`. -/
  bssid : EtherAddr
  /-- `frequency`. -/
  frequency : UInt32
  /-- `auth_type`. -/
  authType : UInt32
  /-- `privacy`. -/
  privacy : Bool
  deriving DecidableEq

/-- Cleared parameters. -/
def ConnectParams.zero : ConnectParams where
  ssid := []
  hasBssid := false
  bssid := .zero
  frequency := 0
  authType := 0
  privacy := false

/-- `netdev_scan_result_t`, as far as it is used. -/
structure ScanResult where
  /-- `valid`. -/
  valid : Bool
  /-- `bssid`. -/
  bssid : EtherAddr
  /-- `frequency`. -/
  frequency : UInt32
  /-- `signal_mbm`. -/
  signalMbm : Int
  /-- `tsf`. -/
  tsf : UInt64
  /-- `beacon_interval`. -/
  beaconInterval : UInt16
  /-- `capability`. -/
  capability : UInt16
  /-- `ies`, up to `ie_len`. -/
  ies : List UInt8
  deriving DecidableEq

/-- A cleared scan result. -/
def ScanResult.zero : ScanResult where
  valid := false
  bssid := .zero
  frequency := 0
  signalMbm := 0
  tsf := 0
  beaconInterval := 0
  capability := 0
  ies := []

/-- `struct ieee80211_channel`, with its place in the table of its band. -/
structure Channel where
  /-- `band`. -/
  band : Fin 4
  /-- Its place among the channels of the band. -/
  index : Nat
  /-- `center_freq`. -/
  centerFreq : UInt32
  deriving DecidableEq

/-- `struct ieee80211_supported_band`, as far as it is used. -/
structure SupportedBand where
  /-- `band`. -/
  band : Fin 4
  /-- `channels`. -/
  channels : List Channel
  /-- The `bitrate` of each of `bitrates`. -/
  bitrates : List Int

/-- `struct cfg80211_chan_def`. -/
structure ChanDef where
  /-- `chan`. -/
  chan : Option Channel
  /-- `width`. -/
  width : UInt32
  /-- `center_freq1`. -/
  centerFreq1 : UInt32
  /-- `center_freq2`. -/
  centerFreq2 : UInt32
  deriving DecidableEq

/-- `struct ieee80211_scan_request`, as far as it is used. -/
structure ScanReq where
  /-- `req.channels`, in which a pointer may be null. -/
  channels : List (Option Channel)
  /-- `req.ssids`. -/
  ssids : List (List UInt8)
  deriving DecidableEq

/-- Which of the optional operations of a driver are there. -/
structure Ops where
  /-- `tx`. -/
  tx : Bool
  /-- `config`. -/
  config : Bool
  /-- `configure_filter`. -/
  configureFilter : Bool
  /-- `hw_scan`. -/
  hwScan : Bool
  /-- `sw_scan_start`. -/
  swScanStart : Bool
  /-- `sw_scan_complete`. -/
  swScanComplete : Bool
  /-- `mgd_prepare_tx`. -/
  mgdPrepareTx : Bool
  /-- `sta_add`. -/
  staAdd : Bool
  /-- `sta_remove`. -/
  staRemove : Bool
  /-- `bss_info_changed`. -/
  bssInfoChanged : Bool
  /-- `wake_tx_queue`. -/
  wakeTxQueue : Bool

/-- `struct ieee80211_hw`, as far as it is used. -/
structure Hw where
  /-- `ops`. -/
  ops : Ops
  /-- `wiphy->bands`. -/
  bands : Fin 4 → Option SupportedBand
  /-- `conf.chandef`. -/
  chandef : ChanDef
  /-- `flags`. -/
  flags : UInt32
  /-- `extra_tx_headroom`. -/
  extraTxHeadroom : Int
  /-- `txq_data_size`. -/
  txqDataSize : Int
  /-- `sta_data_size`. -/
  staDataSize : Int
  /-- `perm_addr`. -/
  permAddr : EtherAddr

/-- `struct ieee80211_bss_conf`, as far as it is used. -/
structure BssConf where
  /-- `assoc`. -/
  assoc : Bool
  /-- `aid`. -/
  aid : UInt16
  /-- `bssid`. -/
  bssid : EtherAddr
  /-- `transmitter_bssid`. -/
  transmitterBssid : EtherAddr
  /-- `beacon_int`. -/
  beaconInt : UInt16
  /-- `basic_rates`. -/
  basicRates : UInt32
  deriving DecidableEq

/-- `struct ieee80211_vif`, as far as it is used. -/
structure Vif where
  /-- `addr`. -/
  addr : EtherAddr
  /-- `cfg.assoc`. -/
  cfgAssoc : Bool
  /-- `cfg.aid`. -/
  cfgAid : UInt16
  /-- `bss_conf`. -/
  bssConf : BssConf
  deriving DecidableEq

/-- `struct ieee80211_sta`, as far as it is used. -/
structure Sta where
  /-- `addr`. -/
  addr : EtherAddr
  /-- `supp_rates`. -/
  suppRates : Fin 4 → UInt32

/-- `lcompat_ieee80211_runtime_t`, as far as it is used. -/
structure Runtime where
  /-- `hw`. -/
  hw : Hw
  /-- `vif`. -/
  vif : Option Vif
  /-- `scan_req`. -/
  scanReq : Option ScanReq
  /-- `sta`. -/
  sta : Option Sta
  /-- Whether there is a `netdev`. -/
  netdev : Bool
  /-- `rx_queue`. -/
  rxQueue : List SkBuff
  /-- `conn_state`. -/
  connState : ConnState
  /-- `connect_params`. -/
  connectParams : ConnectParams
  /-- `connect_request_portid`. -/
  connectRequestPortid : UInt32
  /-- `beacon_interval`. -/
  beaconInterval : UInt16
  /-- `capability`. -/
  capability : UInt16
  /-- `tx_seq`. -/
  txSeq : UInt16
  /-- `use_qos`. -/
  useQos : Bool
  /-- `started`. -/
  started : Bool
  /-- `scan_filter_active`. -/
  scanFilterActive : Bool

/-- `netdev_wireless_info_t`, as far as it depends on the runtime. -/
structure WirelessInfo where
  /-- `connected`. -/
  connected : Bool
  /-- `frequency`. -/
  frequency : UInt32
  /-- `ssid`, up to `ssid_len`. -/
  ssid : List UInt8
  /-- `bssid`. -/
  bssid : EtherAddr
  deriving DecidableEq

/-- A queue of frames for the driver. -/
inductive TxQueue where
  /-- One of the `txq` of the station entry. -/
  | sta (tid : Fin 16)
  /-- The `txq` of the interface. -/
  | vif
  deriving DecidableEq

/-- A call of the driver or of the native kernel. -/
inductive Event where
  /-- `ops->tx`, with the number and the bytes of the buffer that it takes over. -/
  | tx (id : Nat) (frame : Option (List UInt8))
  /-- A buffer is appended to a queue, with its number and its bytes. -/
  | queueTx (queue : TxQueue) (id : Nat) (frame : Option (List UInt8))
  /-- `ops->wake_tx_queue`. -/
  | wakeTxQueue (queue : TxQueue)
  /-- `ops->mgd_prepare_tx`. -/
  | mgdPrepareTx
  /-- `ops->config`, with the channel that it finds in `hw->conf`, and what it answers. -/
  | config (chandef : ChanDef) (ret : Int)
  /-- `ops->sta_add`, and what it answers. -/
  | staAdd (ret : Int)
  /-- `ops->sta_remove`. -/
  | staRemove
  /-- `ops->bss_info_changed`. -/
  | bssInfoChanged (conf : BssConf)
  /-- `netlink_publish_connect_result`. -/
  | connectResult (requestPortid : UInt32) (statusCode : UInt16)
  /-- `netlink_publish_disconnect_event`. -/
  | disconnectEvent (requestPortid : UInt32) (reasonCode : UInt16) (byAp : Bool)
  /-- `netdev_set_link_state`. -/
  | linkState (up : Bool)
  /-- `netdev_set_wireless_info`. -/
  | wirelessInfo (info : WirelessInfo)
  /-- `netdev_scan_store_result`. -/
  | scanResult (result : ScanResult)
  /-- `ops->configure_filter`. -/
  | configureFilter (enable : Bool)
  /-- `netdev_scan_begin`, and what it answers. -/
  | scanBegin (requestPortid : UInt32) (ret : Int)
  /-- `netdev_scan_complete`. -/
  | scanComplete (aborted : Bool)
  /-- `ops->hw_scan`, and what it answers. -/
  | hwScan (ret : Int)
  /-- `ops->sw_scan_start`. -/
  | swScanStart
  /-- `ops->sw_scan_complete`. -/
  | swScanComplete
  /-- A buffer is allocated. -/
  | allocSkb (id : Nat)
  /-- A buffer is freed. -/
  | freeSkb (id : Nat)
  deriving DecidableEq

/-- What calls answer, by their numbers. -/
structure Env where
  /-- What the allocation of a buffer comes to. -/
  page : Nat → Page
  /-- Whether `kzalloc` gives memory. -/
  kzalloc : Nat → Bool
  /-- What an operation of the driver or of the native kernel returns. -/
  result : Nat → Int
  /-- The results that `netdev_get_scan_state` finds, if it finds a state. -/
  scanState : Nat → Option (List ScanResult)
  /-- The size of the `ssid` of connect parameters. -/
  ssidSize : Nat
  /-- `NETDEV_MAX_SCAN_IE_LEN`. -/
  maxScanIeLen : Nat
  /-- `NETDEV_MAX_SCAN_SSIDS`. -/
  maxScanSsids : Nat

/-- The runtime, the number of calls that have been answered, and the trace, newest first. -/
structure Machine where
  /-- The runtime. -/
  rt : Runtime
  /-- How many calls have been answered. -/
  calls : Nat
  /-- What has been called. -/
  trace : List Event

/-- A program of `mac80211.c`. -/
abbrev Kernel := Program Machine

/-- Note a call. -/
def note (event : Event) : Kernel Unit := modify fun m => { m with trace := event :: m.trace }

/-- Change the runtime. -/
def change (update : Runtime → Runtime) : Kernel Unit :=
  modify fun m => { m with rt := update m.rt }

/-- Read the runtime. -/
def runtime : Kernel Runtime := do return (← get).rt

/-- Take the answer of the next call. -/
def ask {α : Type} (answer : Nat → α) : Kernel α := do
  let m ← get
  set { m with calls := m.calls + 1 }
  return answer m.calls

section Steps

variable {m : Machine}

@[simp]
theorem after_note {event : Event} {holds : Unit → Machine → Prop} :
    (note event).after holds m ↔ holds () { m with trace := event :: m.trace } := by
  simp [note]

@[simp]
theorem runs_note {event : Event} {holds : Unit → Machine → Prop} :
    (note event).runs holds m ↔ holds () { m with trace := event :: m.trace } := by
  simp [note]

@[simp]
theorem after_change {update : Runtime → Runtime} {holds : Unit → Machine → Prop} :
    (change update).after holds m ↔ holds () { m with rt := update m.rt } := by
  simp [change]

@[simp]
theorem runs_change {update : Runtime → Runtime} {holds : Unit → Machine → Prop} :
    (change update).runs holds m ↔ holds () { m with rt := update m.rt } := by
  simp [change]

@[simp]
theorem after_runtime {holds : Runtime → Machine → Prop} :
    runtime.after holds m ↔ holds m.rt m := by
  simp [runtime]

@[simp]
theorem runs_runtime {holds : Runtime → Machine → Prop} :
    runtime.runs holds m ↔ holds m.rt m := by
  simp [runtime]

@[simp]
theorem after_ask {α : Type} {answer : Nat → α} {holds : α → Machine → Prop} :
    (ask answer).after holds m ↔ holds (answer m.calls) { m with calls := m.calls + 1 } := by
  simp [ask]

@[simp]
theorem runs_ask {α : Type} {answer : Nat → α} {holds : α → Machine → Prop} :
    (ask answer).runs holds m ↔ holds (answer m.calls) { m with calls := m.calls + 1 } := by
  simp [ask]

end Steps

/-- The event of an allocation, if it gives a buffer. -/
def allocEvents (skb : Option SkBuff) : List Event := (skb.map fun skb => .allocSkb skb.id).toList

/-- `alloc_skb`. -/
def allocSkb (env : Env) (size : Nat) : Kernel (Option SkBuff) := do
  let m ← get
  let page ← ask env.page
  let skb := Net.allocSkb page m.calls size
  modify fun m => { m with trace := allocEvents skb ++ m.trace }
  return skb

@[simp]
theorem after_allocSkb {env : Env} {size : Nat} {m : Machine}
    {holds : Option SkBuff → Machine → Prop} : (allocSkb env size).after holds m ↔
      holds (Net.allocSkb (env.page m.calls) m.calls size)
        { m with calls := m.calls + 1,
                 trace := allocEvents (Net.allocSkb (env.page m.calls) m.calls size) ++
                   m.trace } := by
  simp [allocSkb]

@[simp]
theorem runs_allocSkb {env : Env} {size : Nat} {m : Machine}
    {holds : Option SkBuff → Machine → Prop} : (allocSkb env size).runs holds m ↔
      holds (Net.allocSkb (env.page m.calls) m.calls size)
        { m with calls := m.calls + 1,
                 trace := allocEvents (Net.allocSkb (env.page m.calls) m.calls size) ++
                   m.trace } := by
  simp [allocSkb]

/-- `dev_kfree_skb_any`. -/
def devKfreeSkbAny (skb : SkBuff) : Kernel Unit := note (.freeSkb skb.id)

/-- `SIZE_MAX`. -/
def sizeMax : Nat := 2 ^ 64 - 1

/-- `lcompat_size_add`: the sum, if it does not overflow. -/
def sizeAdd (a b : Nat) : Option Nat := if a > sizeMax - b then none else some (a + b)

/-- A sum that does not overflow is the sum. -/
theorem add_of_sizeAdd {a b c : Nat} (sum : sizeAdd a b = some c) : a + b = c := by
  unfold sizeAdd at sum
  split at sum
  · cases sum
  · exact Option.some.inj sum

/-- `lcompat_ieee80211_alloc_tx_skb`. -/
def allocTxSkb (env : Env) (payloadLen : Nat) : Kernel (Option SkBuff) := do
  let rt ← runtime
  if rt.hw.extraTxHeadroom < 0 then return none
  let headroom := rt.hw.extraTxHeadroom.toNat
  match sizeAdd headroom payloadLen with
  | none => return none
  | some skbLen =>
    if headroom > uintMax ∨ skbLen > uintMax then return none
    match ← allocSkb env skbLen with
    | none => return none
    | some skb =>
      return some (if headroom = 0 then skb else skbReserve skb (UInt32.ofNat headroom))

/-- A buffer with memory that has been allocated with headroom is empty and has room behind it. -/
theorem room_of_allocSkb {page : Page} {id headroom payloadLen : Nat} {skb : SkBuff}
    (allocated : Net.allocSkb page id (headroom + payloadLen) = some skb)
    (fits : headroom ≤ uintMax) :
    let out := if headroom = 0 then skb else skbReserve skb (UInt32.ofNat headroom)
    out.head.isSome = true → out.Linear [] ∧ out.tail.toNat + payloadLen ≤ out.limit.toNat := by
  have kept : (if headroom = 0 then skb else skbReserve skb (UInt32.ofNat headroom)).head =
      skb.head := by
    split
    · rfl
    · exact head_skbReserve skb _
  intro out mapped
  obtain ⟨memory, rfl⟩ := mapped_of_allocSkb allocated (by rwa [← kept])
  obtain ⟨empty, limit, data⟩ := linear_of_allocSkb allocated
  have tail : skb.tail.toNat = 0 := by
    rw [empty.tail, data]
    rfl
  by_cases none : headroom = 0
  · have same : out = skb := if_pos none
    rw [same]
    exact ⟨empty, by omega⟩
  · have count : (UInt32.ofNat headroom).toNat = headroom := by
      rw [UInt32.toNat_ofNat']
      exact Nat.mod_eq_of_lt (by simp only [uintMax] at fits; omega)
    have same : out = skbReserve skb (UInt32.ofNat headroom) := if_neg none
    have room : skb.tail.toNat + (UInt32.ofNat headroom).toNat ≤ skb.limit.toNat := by
      rw [count]
      omega
    obtain ⟨reserved, limit', data'⟩ := empty.skbReserve room
    rw [same]
    refine ⟨reserved, ?_⟩
    rw [reserved.tail, limit', data', count, limit, data, List.length_nil]
    omega

/-- A buffer that is allocated for a frame leaves the runtime as it is and, if it has memory, is
empty with room for the frame. -/
theorem after_allocTxSkb (env : Env) (payloadLen : Nat) (m : Machine) :
    (allocTxSkb env payloadLen).after (fun skb m' => m'.rt = m.rt ∧
      ∀ out, skb = some out → out.head.isSome = true →
        out.Linear [] ∧ out.tail.toNat + payloadLen ≤ out.limit.toNat) m := by
  unfold allocTxSkb
  simp only [Program.after_bind, after_runtime]
  split
  · simp
  · cases sum : sizeAdd m.rt.hw.extraTxHeadroom.toNat payloadLen with
    | none => simp
    | some skbLen =>
      obtain rfl := add_of_sizeAdd sum
      simp only
      split
      · simp
      · rename_i fits
        simp only [Program.after_bind, after_allocSkb]
        cases allocated : Net.allocSkb (env.page m.calls) m.calls
            (m.rt.hw.extraTxHeadroom.toNat + payloadLen) with
        | none => simp
        | some skb =>
          simp only [Program.after_pure, Option.some.injEq, true_and]
          rintro out rfl mapped
          exact room_of_allocSkb allocated (by omega) mapped

/-- The address of the station in runs on fixed input. -/
def stationAddr : EtherAddr := ⟨[2, 0, 0, 0, 0, 1], rfl⟩

/-- The address of the access point in runs on fixed input. -/
def pointAddr : EtherAddr := ⟨[2, 0, 0, 0, 0, 2], rfl⟩

/-- A device with all operations and no channels. -/
def plainHw : Hw where
  ops := ⟨true, true, true, true, true, true, true, true, true, true, true⟩
  bands := fun _ => none
  chandef := ⟨none, 0, 0, 0⟩
  flags := 0
  extraTxHeadroom := 0
  txqDataSize := 0
  staDataSize := 0
  permAddr := stationAddr

/-- The interface of the station while it is connected to the access point. -/
def connectedVif : Vif := ⟨stationAddr, true, 1, ⟨true, 1, pointAddr, pointAddr, 100, 1⟩⟩

/-- A runtime that is connected to the access point. -/
def connectedRuntime : Runtime where
  hw := plainHw
  vif := some connectedVif
  scanReq := none
  sta := some ⟨pointAddr, fun _ => 1⟩
  netdev := true
  rxQueue := []
  connState := .connected
  connectParams := ⟨[], true, pointAddr, 2412, 0, false⟩
  connectRequestPortid := 1
  beaconInterval := 100
  capability := 1
  txSeq := 0
  useQos := false
  started := true
  scanFilterActive := false

/-- The machine that starts in a runtime. -/
def Machine.start (rt : Runtime) : Machine := ⟨rt, 0, []⟩

/-- Calls that all succeed. -/
def Env.kind : Env where
  page := fun _ => .mapped fun _ => some 0
  kzalloc := fun _ => true
  result := fun _ => 0
  scanState := fun _ => none
  ssidSize := 32
  maxScanIeLen := 512
  maxScanSsids := 4

end Lcompat.Mac80211
