import Lcompat.Mac80211.Lifecycle

/-!
# Scans

A scan of the user: the request, the filter of the driver, and the three ways in which a scan ends.
It is completed by the driver, which may do so before `hw_scan` returns, or it is run channel by
channel in software, or it is taken back. In every case the request and the filter go with it.
-/

namespace Lcompat.Mac80211

open Lcompat.Logic
open Lcompat.Net

/-- `LCOMPAT_IEEE80211_FTYPE_MGMT | LCOMPAT_IEEE80211_STYPE_PROBE_REQ`. -/
def fcProbeReq : UInt16 := 0x0040

/-- `IEEE80211_MAX_SSID_LEN`. -/
def maxSsidLen : Nat := 32

/-- `INT_MAX`. -/
def intMax : Nat := 2 ^ 31 - 1

/-- `lcompat_ieee80211_configure_scan_filter`. -/
def configureScanFilter (enable : Bool) : Kernel Unit := do
  let rt ← runtime
  if rt.hw.ops.configureFilter then
    note (.configureFilter enable)
    change fun rt => { rt with scanFilterActive := enable }

/-- `lcompat_ieee80211_free_scan_req`. -/
def freeScanReq : Kernel Unit := change fun rt => { rt with scanReq := none }

/-- The length of a probe request with these elements. -/
def probeReqLen (ssid suppRates extRates : List UInt8) : Option Nat := do
  let total ← sizeAddIe hdr3addrLen.toNat ssid.length
  let total ← if suppRates = [] then some total else sizeAddIe total suppRates.length
  if extRates = [] then some total else sizeAddIe total extRates.length

/-- The elements of a probe request. -/
def probeReqIes (ssid suppRates extRates : List UInt8) : List UInt8 :=
  ieBytes wlanEidSsid ssid ++ optionalIe wlanEidSuppRates suppRates ++
    optionalIe wlanEidExtSuppRates extRates

/-- `lcompat_ieee80211_send_probe_req`. -/
def sendProbeReq (env : Env) (ssid : List UInt8) : Kernel Int := do
  let rt ← runtime
  match rt.vif, rt.hw.currentBand with
  | some vif, some sband =>
    let rates := (sband.bitrates.map rateOf).take 16
    let suppRates := rates.take 8
    let extRates := rates.drop 8
    let some frameLen := probeReqLen ssid suppRates extRates | return -EOVERFLOW
    if frameLen > uintMax then return -EOVERFLOW
    let iesLen := frameLen - hdr3addrLen.toNat
    let some (hdr, skb) ← allocMgmt env hdr3addrLen iesLen | return -ENOMEM
    let seqCtrl ← nextSeqCtrl
    let skb := writeHeader skb hdr fcProbeReq seqCtrl .broadcast vif.addr .broadcast
    sendWithIes skb iesLen (probeReqIes ssid suppRates extRates)
  | _, _ => return -EINVAL

/-- The probe requests for some networks, up to the first that fails. -/
def probeAll (env : Env) : List (List UInt8) → Kernel Int
  | [] => return 0
  | ssid :: ssids => do
    let ret ← sendProbeReq env ssid
    if ret ≠ 0 then return ret
    probeAll env ssids

/-- One turn of the loop of `lcompat_ieee80211_run_sw_scan`. -/
def scanChannel (env : Env) (ssids : List (List UInt8)) (chan : Channel) : Kernel Int := do
  let ret ← setChannel env chan.centerFreq
  if ret ≠ 0 then return ret
  if ssids = [] then sendProbeReq env [] else probeAll env ssids

/-- The loop of `lcompat_ieee80211_run_sw_scan`. -/
def scanAll (env : Env) (ssids : List (List UInt8)) : List (Option Channel) → Kernel Int
  | [] => return 0
  | none :: channels => scanAll env ssids channels
  | some chan :: channels => do
    let ret ← scanChannel env ssids chan
    if ret ≠ 0 then return ret
    scanAll env ssids channels

/-- `lcompat_ieee80211_run_sw_scan`. -/
def runSwScan (env : Env) : Kernel Int := do
  let rt ← runtime
  let some scanReq := rt.scanReq | return -EINVAL
  if rt.vif.isNone then return -EINVAL
  if !rt.hw.ops.swScanStart || !rt.hw.ops.swScanComplete then return -EOPNOTSUPP
  note .swScanStart
  let ret ← scanAll env scanReq.ssids scanReq.channels
  change fun now => { now with hw.chandef := rt.hw.chandef }
  let _ ← callConfig env
  note .swScanComplete
  return ret

/-- The channels of a device, band by band. -/
def Hw.channels (hw : Hw) : List Channel :=
  (List.finRange 4).flatMap fun band => ((hw.bands band).map SupportedBand.channels).getD []

/-- The networks of a scan request, from those of the parameters. -/
def scanSsids (env : Env) (params : List (List UInt8)) : List (List UInt8) :=
  if params = [] then [[]] else params.take env.maxScanSsids

/-- `lcompat_ieee80211_alloc_scan_req`, on the networks of the parameters. -/
def allocScanReq (env : Env) (params : List (List UInt8)) : Kernel Int := do
  let rt ← runtime
  if rt.scanReq.isSome then return -EBUSY
  let channels := rt.hw.channels
  if channels.length > intMax then return -EOVERFLOW
  if channels = [] then return -EINVAL
  let request ← ask env.kzalloc
  let table ← ask env.kzalloc
  let names ← ask env.kzalloc
  if !request || !table || !names then return -ENOMEM
  let ssids := scanSsids env params
  if ssids.any fun ssid => ssid.length > maxSsidLen then return -EINVAL
  change fun rt => { rt with scanReq := some ⟨channels.map some, ssids⟩ }
  return 0

/-- `ieee80211_scan_completed`. -/
def scanCompleted (aborted : Bool) : Kernel Unit := do
  let rt ← runtime
  if !rt.netdev then return
  configureScanFilter false
  note (.scanComplete aborted)
  freeScanReq

/-- `netdev_scan_begin`. -/
def callScanBegin (env : Env) (requestPortid : UInt32) : Kernel Int := do
  let ret ← ask env.result
  note (.scanBegin requestPortid ret)
  return ret

/-- `ops->hw_scan`, in which a driver that accepts the scan may complete it early. -/
def callHwScan (env : Env) (early : Option Bool) : Kernel Int := do
  let ret ← ask env.result
  note (.hwScan ret)
  if ret = 0 then
    match early with
    | none => return ret
    | some aborted =>
      scanCompleted aborted
      return ret
  else return ret

/-- `lcompat_netdev_trigger_scan`. -/
def netdevTriggerScan (env : Env) (early : Option Bool) (params : List (List UInt8))
    (requestPortid : UInt32) : Kernel Int := do
  let rt ← runtime
  if rt.vif.isNone || !rt.netdev then return -ENODEV
  if !rt.started || !rt.hw.ops.hwScan then return -EOPNOTSUPP
  let ret ← allocScanReq env params
  if ret ≠ 0 then return ret
  configureScanFilter true
  let ret ← callScanBegin env requestPortid
  if ret ≠ 0 then
    configureScanFilter false
    freeScanReq
    return ret
  let ret ← callHwScan env early
  if ret = 1 then
    let ret ← runSwScan env
    configureScanFilter false
    note (.scanComplete (ret ≠ 0))
    freeScanReq
    return ret
  if ret ≠ 0 then
    note (.scanComplete true)
    configureScanFilter false
    freeScanReq
    return ret
  return 0

section Total

/-- Reading the runtime does not fault. -/
theorem total_runtime : runtime.Total := fun m => by
  rw [runs_runtime]
  trivial

/-- A call is noted. -/
theorem total_note (event : Event) : (note event).Total := fun m => by
  rw [runs_note]
  trivial

/-- The runtime is changed. -/
theorem total_change (update : Runtime → Runtime) : (change update).Total := fun m => by
  rw [runs_change]
  trivial

/-- An answer does not fault. -/
theorem total_ask {α : Type} (answer : Nat → α) : (ask answer).Total := fun m => by
  rw [runs_ask]
  trivial

/-- Configuring the device does not fault. -/
theorem total_callConfig (env : Env) : (callConfig env).Total :=
  total_runtime.bind fun _ => Program.total_ite ((total_ask _).bind fun _ =>
    (total_note _).bind fun _ => Program.total_pure _) (Program.total_pure _)

/-- Setting the channel does not fault. -/
theorem total_setChannel (env : Env) (frequency : UInt32) : (setChannel env frequency).Total := by
  refine total_runtime.bind fun rt => Program.total_ite (Program.total_pure _) ?_
  split
  · exact Program.total_pure _
  · refine Program.total_ite (Program.total_pure _) ?_
    exact (total_change _).bind fun _ => total_callConfig env

/-- Sending a management frame does not fault. -/
theorem total_sendMgmt (skb : SkBuff) : (sendMgmt skb).Total := by
  refine total_runtime.bind fun rt => Program.total_ite (Program.total_pure _) ?_
  have prepare : mgdPrepareTx.Total := total_runtime.bind fun _ =>
    Program.total_ite (total_note _) (Program.total_pure _)
  exact prepare.bind fun _ => (total_note _).bind fun _ => Program.total_pure _

/-- Sending a frame with elements does not fault. -/
theorem total_sendWithIes (skb : SkBuff) (count : Nat) (ies : List UInt8) :
    (sendWithIes skb count ies).Total := by
  unfold sendWithIes
  split
  · exact (total_note _).bind fun _ => Program.total_pure _
  · exact Program.total_ite ((total_note _).bind fun _ => Program.total_pure _) (total_sendMgmt _)

/-- Allocating a buffer does not fault. -/
theorem total_allocSkb (env : Env) (size : Nat) : (allocSkb env size).Total := fun m => by
  rw [runs_allocSkb]
  trivial

/-- Allocating a buffer for a frame does not fault. -/
theorem total_allocTxSkb (env : Env) (payloadLen : Nat) : (allocTxSkb env payloadLen).Total := by
  refine total_runtime.bind fun rt => Program.total_ite (Program.total_pure _) ?_
  simp only
  split
  · exact Program.total_pure _
  · refine Program.total_ite (Program.total_pure _) ?_
    refine (total_allocSkb env _).bind fun skb => ?_
    cases skb with
    | none => exact Program.total_pure _
    | some skb => exact Program.total_pure _

/-- Starting a management frame does not fault. -/
theorem total_allocMgmt (env : Env) (frameLen : UInt32) (more : Nat) :
    (allocMgmt env frameLen more).Total := by
  refine (total_allocTxSkb env _).bind fun skb => ?_
  cases skb with
  | none => exact Program.total_pure _
  | some skb =>
    simp only
    split
    · exact (total_note _).bind fun _ => Program.total_pure _
    · exact Program.total_pure _

/-- Sending a probe request does not fault. -/
theorem total_sendProbeReq (env : Env) (ssid : List UInt8) : (sendProbeReq env ssid).Total := by
  refine total_runtime.bind fun rt => ?_
  split
  · simp only
    split
    · refine Program.total_ite (Program.total_pure _) ?_
      refine (total_allocMgmt env _ _).bind fun frame => ?_
      cases frame with
      | none => exact Program.total_pure _
      | some frame =>
        have number : nextSeqCtrl.Total :=
          total_runtime.bind fun _ => (total_change _).bind fun _ => Program.total_pure _
        exact number.bind fun _ => total_sendWithIes _ _ _
    · exact Program.total_pure _
  · exact Program.total_pure _

/-- Sending probe requests does not fault. -/
theorem total_probeAll (env : Env) (ssids : List (List UInt8)) : (probeAll env ssids).Total := by
  induction ssids with
  | nil => exact Program.total_pure _
  | cons ssid ssids ih =>
    exact (total_sendProbeReq env ssid).bind fun _ => Program.total_ite (Program.total_pure _) ih

/-- Scanning channels does not fault. -/
theorem total_scanAll (env : Env) (ssids : List (List UInt8)) (channels : List (Option Channel)) :
    (scanAll env ssids channels).Total := by
  induction channels with
  | nil => exact Program.total_pure _
  | cons entry channels ih =>
    cases entry with
    | none => exact ih
    | some chan => ?_
    have one : (scanChannel env ssids chan).Total :=
      (total_setChannel env _).bind fun _ => Program.total_ite (Program.total_pure _)
        (Program.total_ite (total_sendProbeReq env []) (total_probeAll env ssids))
    exact one.bind fun _ => Program.total_ite (Program.total_pure _) ih

/-- A scan in software does not fault. -/
theorem total_runSwScan (env : Env) : (runSwScan env).Total := by
  refine total_runtime.bind fun rt => ?_
  split
  · refine Program.total_ite (Program.total_pure _) (Program.total_ite (Program.total_pure _) ?_)
    refine (total_note _).bind fun _ => (total_scanAll env _ _).bind fun _ => ?_
    refine (total_change _).bind fun _ => (total_callConfig env).bind fun _ => ?_
    exact (total_note _).bind fun _ => Program.total_pure _
  · exact Program.total_pure _

end Total

section Quiet

/-- Sending a probe request is quiet. -/
theorem keepsQuiet_sendProbeReq (env : Env) (ssid : List UInt8) :
    keepsQuiet [] (fun _ => []) (sendProbeReq env ssid) := by
  refine keepsQuiet_runtime.bind fun rt => ?_
  split
  · simp only
    split
    · refine keepsQuiet_ite (keepsQuiet_pure rfl) ?_
      refine (keepsQuiet_allocMgmt env _ _).bind fun frame => ?_
      cases frame with
      | none => exact keepsQuiet_pure rfl
      | some frame =>
        refine (keepsQuiet_nextSeqCtrl.frame _).bind fun seqCtrl => ?_
        exact keepsQuiet_sendWithIes (writeHeader frame.2 frame.1 _ _ _ _ _) _ _
    · exact keepsQuiet_pure rfl
  · exact keepsQuiet_pure rfl

/-- Sending probe requests is quiet. -/
theorem keepsQuiet_probeAll (env : Env) (ssids : List (List UInt8)) :
    keepsQuiet [] (fun _ => []) (probeAll env ssids) := by
  induction ssids with
  | nil => exact keepsQuiet_pure rfl
  | cons ssid ssids ih =>
    exact (keepsQuiet_sendProbeReq env ssid).bind fun _ => keepsQuiet_ite (keepsQuiet_pure rfl) ih

/-- Scanning channels is quiet. -/
theorem keepsQuiet_scanAll (env : Env) (ssids : List (List UInt8))
    (channels : List (Option Channel)) :
    keepsQuiet [] (fun _ => []) (scanAll env ssids channels) := by
  induction channels with
  | nil => exact keepsQuiet_pure rfl
  | cons entry channels ih =>
    cases entry with
    | none => exact ih
    | some chan => ?_
    have one : keepsQuiet [] (fun _ => []) (scanChannel env ssids chan) :=
      (keepsQuiet_setChannel env _).bind fun _ => keepsQuiet_ite (keepsQuiet_pure rfl)
        (keepsQuiet_ite (keepsQuiet_sendProbeReq env []) (keepsQuiet_probeAll env ssids))
    exact one.bind fun _ => keepsQuiet_ite (keepsQuiet_pure rfl) ih

/-- A scan in software is quiet. -/
theorem keepsQuiet_runSwScan (env : Env) : keepsQuiet [] (fun _ => []) (runSwScan env) := by
  refine keepsQuiet_runtime.bind fun rt => ?_
  split
  · refine keepsQuiet_ite (keepsQuiet_pure rfl) (keepsQuiet_ite (keepsQuiet_pure rfl) ?_)
    refine keepsQuiet.bind (keepsQuiet_note rfl rfl rfl) fun _ => ?_
    refine (keepsQuiet_scanAll env _ _).bind fun ret => ?_
    refine keepsQuiet.bind (keepsQuiet_change ?_) fun _ => ?_
    · exact fun _ => rfl
    · refine (keepsQuiet_callConfig env).bind fun _ => ?_
      exact (keepsQuiet_note rfl rfl rfl).bind fun _ => keepsQuiet_pure rfl
  · exact keepsQuiet_pure rfl

end Quiet

/-- A runtime with its filter set, if the driver has one. -/
def Runtime.filtered (rt : Runtime) (enable : Bool) : Runtime :=
  { rt with scanFilterActive := if rt.hw.ops.configureFilter then enable else rt.scanFilterActive }

/-- A runtime whose scan has ended. -/
def Runtime.scanned (rt : Runtime) : Runtime := { rt.filtered false with scanReq := none }

/-- A runtime whose scan has begun. -/
def Runtime.scanning (rt : Runtime) (scanReq : ScanReq) : Runtime :=
  { rt with scanReq := some scanReq }.filtered true

variable {m : Machine}

/-- The filter is set, behind other calls. -/
theorem after_configureScanFilter {rt : Runtime} {told : List Event} {m₁ : Machine}
    (turns : Turns rt told m m₁) (enable : Bool) :
    (configureScanFilter enable).after (fun _ m' => Turns (rt.filtered enable) told m m') m₁ := by
  have same : m₁.rt.hw.ops = rt.hw.ops := (congrArg (fun rt => rt.hw.ops) turns.core :)
  simp only [configureScanFilter, Program.after_bind, after_runtime, Program.after_ite, after_note,
    after_change, Program.after_pure]
  rw [same]
  by_cases filter : rt.hw.ops.configureFilter = true
  · rw [if_pos filter]
    have noted := turns.quiet (@Quiet.note [] _ (.configureFilter enable) rfl rfl)
    refine (noted.change (fun rt => { rt with scanFilterActive := enable }) fun _ => rfl).congr ?_
    simp only [Runtime.filtered, filter, ↓reduceIte]
  · rw [if_neg filter]
    refine turns.congr ?_
    simp only [Runtime.filtered, filter]
    rfl

/-- A signal is told behind other calls. -/
theorem Turns.tell {rt : Runtime} {told : List Event} {m₁ : Machine} (turns : Turns rt told m m₁)
    (event : Event) (signal : event.isSignal = true) (owned : event.freed = none)
    (old : event.allocated = none) :
    Turns rt (event :: told) m { m₁ with trace := event :: m₁.trace } :=
  (turns.trans (Turns.note m₁ event signal owned old)).congr turns.core

/-- A completion ends the scan. -/
theorem after_scanCompleted {rt : Runtime} {told : List Event} {m₁ : Machine}
    (turns : Turns rt told m m₁) (here : rt.netdev = true) (aborted : Bool) :
    (scanCompleted aborted).after (fun _ m' =>
      Turns rt.scanned (.scanComplete aborted :: told) m m') m₁ := by
  have netdev : m₁.rt.netdev = true := (congrArg Runtime.netdev turns.core :).trans here
  unfold scanCompleted
  simp only [Program.after_bind, after_runtime]
  rw [if_neg (by simp [netdev]), Program.after_bind]
  refine (after_configureScanFilter turns false).mono fun _ m₂ filtered => ?_
  simp only [Program.after_bind, after_note, freeScanReq, after_change]
  have told := filtered.tell (.scanComplete aborted) rfl rfl rfl
  exact told.change (fun rt => { rt with scanReq := none }) fun _ => rfl

/-- What the allocation of a request comes to: an error that changes nothing, or the request. -/
theorem after_allocScanReq (env : Env) (params : List (List UInt8)) (m : Machine) :
    (allocScanReq env params).after (fun ret m' => ret ≠ 0 ∧ Turns m.rt [] m m' ∨
      ret = 0 ∧ m.rt.scanReq = none ∧
        ∃ scanReq, Turns { m.rt with scanReq := some scanReq } [] m m')
        m := by
  unfold allocScanReq
  simp only [Program.after_bind, after_runtime, Program.after_ite, Program.after_pure, after_ask,
    after_change]
  split
  · exact .inl ⟨by decide, rfl, .of_trace rfl⟩
  · rename_i free
    split
    · exact .inl ⟨by decide, rfl, .of_trace rfl⟩
    split
    · exact .inl ⟨by decide, rfl, .of_trace rfl⟩
    split
    · exact .inl ⟨by decide, rfl, .of_trace rfl⟩
    split
    · exact .inl ⟨by decide, rfl, .of_trace rfl⟩
    · refine .inr ⟨trivial, ?_, _, .of_change m _ _⟩
      rw [Bool.not_eq_true, Option.isSome_eq_false_iff] at free
      exact Option.isNone_iff_eq_none.mp free

/-- What the driver makes of a scan that has begun. -/
theorem after_callHwScan (env : Env) (early : Option Bool) {rt : Runtime} {told : List Event}
    {m₁ : Machine} (turns : Turns rt told m m₁) (here : rt.netdev = true) :
    (callHwScan env early).after (fun ret m' =>
      ret = 0 ∧ early = none ∧ Turns rt (.hwScan 0 :: told) m m' ∨
      ret = 0 ∧ early.isSome = true ∧
        (∃ aborted, Turns rt.scanned (.scanComplete aborted :: .hwScan 0 :: told) m m') ∨
      ret ≠ 0 ∧ Turns rt (.hwScan ret :: told) m m') m₁ := by
  simp only [callHwScan, Program.after_bind, after_ask, after_note, Program.after_ite,
    Program.after_pure]
  have asked : Turns rt told m { m₁ with calls := m₁.calls + 1 } :=
    ⟨turns.core, turns.tells.grown, turns.tells.signals, turns.tells.freed⟩
  generalize env.result m₁.calls = ret
  have scanned := asked.tell (.hwScan ret) rfl rfl rfl
  by_cases accepted : ret = 0
  · subst accepted
    rw [if_pos rfl]
    cases early with
    | none =>
      rw [Program.after_pure]
      exact .inl ⟨rfl, rfl, scanned⟩
    | some aborted =>
      rw [Program.after_bind]
      refine (after_scanCompleted scanned here aborted).mono fun _ m₂ completed => ?_
      rw [Program.after_pure]
      exact .inr (.inl ⟨rfl, rfl, aborted, completed⟩)
  · rw [if_neg accepted]
    exact .inr (.inr ⟨accepted, scanned⟩)

/-- What a trigger comes to. -/
inductive ScanTurn (m : Machine) (early : Option Bool) : Int → Machine → Prop
  /-- No scan begins. -/
  | refused {ret : Int} {m' : Machine} (nonzero : ret ≠ 0) (turns : Turns m.rt [] m m') :
      ScanTurn m early ret m'
  /-- A scan is prepared and taken back. -/
  | unbegun {ret : Int} {m' : Machine} {requestPortid : UInt32} (nonzero : ret ≠ 0)
      (free : m.rt.scanReq = none)
      (turns : Turns m.rt.scanned [.scanBegin requestPortid ret] m m') : ScanTurn m early ret m'
  /-- A scan begins and is completed. -/
  | completed {ret answer : Int} {m' : Machine} {requestPortid : UInt32} {aborted : Bool}
      (free : m.rt.scanReq = none) (owed : answer = 0 → early.isSome = true)
      (turns : Turns m.rt.scanned
        [.scanComplete aborted, .hwScan answer, .scanBegin requestPortid 0] m m') :
      ScanTurn m early ret m'
  /-- A scan begins, which the driver will complete. -/
  | begun {m' : Machine} {requestPortid : UInt32} {scanReq : ScanReq} (free : m.rt.scanReq = none)
      (later : early = none)
      (able : m.rt.vif.isSome = true ∧ m.rt.netdev = true ∧ m.rt.started = true ∧
        m.rt.hw.ops.hwScan = true)
      (turns : Turns (m.rt.scanning scanReq) [.hwScan 0, .scanBegin requestPortid 0] m m') :
      ScanTurn m early 0 m'

/-- What is set and taken back is as it was. -/
theorem Runtime.scanned_scanning (rt : Runtime) (scanReq : ScanReq) :
    (rt.scanning scanReq).scanned = rt.scanned := by
  simp only [scanned, scanning, filtered]
  split <;> rfl

/-- What a trigger comes to. -/
theorem after_netdevTriggerScan (env : Env) (early : Option Bool) (params : List (List UInt8))
    (requestPortid : UInt32) (m : Machine) :
    (netdevTriggerScan env early params requestPortid).after (ScanTurn m early) m := by
  have still : Turns m.rt [] m m := ⟨rfl, .of_trace rfl⟩
  unfold netdevTriggerScan
  simp only [Program.after_bind, after_runtime, Program.after_ite, Program.after_pure]
  split
  · exact .refused (by decide) still
  rename_i attached
  split
  · exact .refused (by decide) still
  rename_i started
  have able : m.rt.vif.isSome = true ∧ m.rt.netdev = true ∧ m.rt.started = true ∧
      m.rt.hw.ops.hwScan = true := by
    simp only [Bool.or_eq_true, Bool.not_eq_true', not_or, Bool.not_eq_false] at attached started
    exact ⟨by simpa [Option.isSome_iff_ne_none] using attached.1, attached.2, started⟩
  refine (after_allocScanReq env params m).mono fun ret m₁ allocated => ?_
  obtain ⟨failed, turns⟩ | ⟨rfl, free, scanReq, turns⟩ := allocated
  · rw [if_pos failed]
    exact .refused failed turns
  rw [if_neg (by simp)]
  refine (after_configureScanFilter turns true).mono fun _ m₂ scanning => ?_
  have scanning : Turns (m.rt.scanning scanReq) [] m m₂ := scanning
  have gone := m.rt.scanned_scanning scanReq
  simp only [callScanBegin, Program.after_bind, after_ask, after_note, Program.after_pure]
  have asked : Turns (m.rt.scanning scanReq) [] m { m₂ with calls := m₂.calls + 1 } :=
    ⟨scanning.core, scanning.tells.grown, scanning.tells.signals, scanning.tells.freed⟩
  generalize env.result m₂.calls = ret
  have begun := asked.tell (.scanBegin requestPortid ret) rfl rfl rfl
  by_cases failed : ret ≠ 0
  · rw [if_pos failed]
    refine (after_configureScanFilter begun false).mono fun _ m₃ filtered => ?_
    simp only [freeScanReq, after_change]
    have done := filtered.change (fun rt => { rt with scanReq := none }) fun _ => rfl
    exact .unbegun failed free (done.congr (by rw [← gone]; rfl))
  obtain rfl : ret = 0 := not_not.mp failed
  rw [if_neg failed]
  refine (after_callHwScan env early begun able.2.1).mono fun answer m₃ scanned => ?_
  obtain ⟨rfl, later, scanned⟩ | ⟨rfl, soon, aborted, completed⟩ | ⟨refused, scanned⟩ := scanned
  · rw [if_neg (by decide), if_neg (by simp)]
    exact .begun free later able scanned
  · rw [if_neg (by decide), if_neg (by simp)]
    rw [gone] at completed
    exact .completed free (fun _ => soon) completed
  · by_cases software : answer = 1
    · rw [if_pos software]
      refine (keepsQuiet_runSwScan env m₃).mono fun ret m₄ ran => ?_
      refine (after_configureScanFilter (scanned.quiet ran) false).mono fun _ m₅ filtered => ?_
      simp only [freeScanReq, after_change]
      have told := filtered.tell (.scanComplete (ret ≠ 0)) rfl rfl rfl
      have done := told.change (fun rt => { rt with scanReq := none }) fun _ => rfl
      exact .completed free (fun zero => absurd zero refused) (done.congr (by rw [← gone]; rfl))
    · rw [if_neg software, if_pos refused]
      have told := scanned.tell (.scanComplete true) rfl rfl rfl
      refine (after_configureScanFilter told false).mono fun _ m₄ filtered => ?_
      simp only [freeScanReq, after_change]
      have done := filtered.change (fun rt => { rt with scanReq := none }) fun _ => rfl
      exact .completed free (fun zero => absurd zero refused) (done.congr (by rw [← gone]; rfl))

/-- What becomes of the scan of the interface. -/
inductive ScanMark where
  /-- `netdev_scan_begin` succeeds. -/
  | begun
  /-- `netdev_scan_complete`. -/
  | completed
  deriving DecidableEq

/-- What an event makes of the scan of the interface. -/
def Event.scanMark : Event → Option ScanMark
  | .scanBegin _ ret => if ret = 0 then some .begun else none
  | .scanComplete _ => some .completed
  | _ => none

/-- What has become of the scans of the interface, newest first. -/
def scanMarks (trace : List Event) : List ScanMark := trace.filterMap Event.scanMark

/-- Scans that have begun and have been completed in turn, and whether one is in progress. -/
inductive Alternates : List ScanMark → Bool → Prop
  /-- There has been no scan. -/
  | none : Alternates [] false
  /-- A scan begins where none is in progress. -/
  | begun {marks : List ScanMark} (idle : Alternates marks false) :
      Alternates (.begun :: marks) true
  /-- The scan in progress is completed. -/
  | completed {marks : List ScanMark} (busy : Alternates marks true) :
      Alternates (.completed :: marks) false

/-- The scans that the driver has accepted. -/
def acceptedScans (m : Machine) : Nat := m.trace.count (.hwScan 0)

/-- A station that scans, and the completions that the driver owes to it. -/
structure Scans where
  /-- The machine. -/
  machine : Machine
  /-- The scans that the driver has accepted and not completed. -/
  owed : Nat

/-- A trigger of the user, or a completion by the driver. -/
inductive ScanLabel where
  /-- `lcompat_netdev_trigger_scan`, in which the driver may complete early what it accepts. -/
  | trigger (env : Env) (early : Option Bool) (params : List (List UInt8)) (requestPortid : UInt32)
  /-- `ieee80211_scan_completed`, behind a scan that the driver has accepted. -/
  | complete (aborted : Bool)

/-- A step: the driver completes once what it has accepted, within the trigger or later. -/
def Scans.step (scans : Scans) : ScanLabel → Option Scans
  | .trigger env early params requestPortid =>
    (netdevTriggerScan env early params requestPortid scans.machine).map fun result =>
      ⟨result.2, scans.owed +
        if early.isSome then 0 else acceptedScans result.2 - acceptedScans scans.machine⟩
  | .complete aborted =>
    if scans.owed = 0 then none
    else (scanCompleted aborted scans.machine).map fun result => ⟨result.2, scans.owed - 1⟩

/-- The runs of a station that scans, from any runtime without a scan. -/
def scanning : System Scans ScanLabel where
  init s := s.machine.rt.scanReq = none ∧ s.machine.rt.scanFilterActive = false ∧
    scanMarks s.machine.trace = [] ∧ s.owed = 0
  step := Scans.step

/-- What is kept along a run, while a scan is in progress and while none is. -/
inductive ScanKept (s : Scans) : Bool → Prop
  /-- There is no scan. -/
  | idle (free : s.machine.rt.scanReq = none) (off : s.machine.rt.scanFilterActive = false)
      (owed : s.owed = 0) : ScanKept s false
  /-- There is a scan, which the driver will complete. -/
  | busy (taken : s.machine.rt.scanReq.isSome = true) (owed : s.owed = 1)
      (able : s.machine.rt.vif.isSome = true ∧ s.machine.rt.netdev = true ∧
        s.machine.rt.started = true ∧ s.machine.rt.hw.ops.hwScan = true)
      (off : s.machine.rt.hw.ops.configureFilter = false →
        s.machine.rt.scanFilterActive = false) : ScanKept s true

/-- The marks among what a call tells. -/
theorem Turns.scanMarks {rt : Runtime} {told : List Event} {m' : Machine}
    (turns : Turns rt told m m') :
    Mac80211.scanMarks m'.trace = Mac80211.scanMarks told ++ Mac80211.scanMarks m.trace := by
  have among : ∀ event : Event, event.isSignal = false → event.scanMark = none := by
    intro event silent
    cases event <;> first | rfl | cases silent
  have both := congrArg (List.filterMap Event.scanMark) turns.tells.signals
  rwa [filterMap_signals among, List.filterMap_append, filterMap_signals among] at both

/-- The scans that the driver accepts among what a call tells. -/
theorem Turns.acceptedScans {rt : Runtime} {told : List Event} {m' : Machine}
    (turns : Turns rt told m m') :
    Mac80211.acceptedScans m' = told.count (.hwScan 0) + Mac80211.acceptedScans m := by
  have both := congrArg (List.count (.hwScan 0)) turns.tells.signals
  rwa [List.count_append, signals, signals, List.count_filter rfl, List.count_filter rfl] at both

/-- A scan that has ended leaves no request and no filter. -/
theorem Turns.scanned {rt : Runtime} {told : List Event} {m' : Machine}
    (turns : Turns rt.scanned told m m')
    (off : rt.hw.ops.configureFilter = false → rt.scanFilterActive = false) :
    m'.rt.scanReq = none ∧ m'.rt.scanFilterActive = false := by
  have request : m'.rt.scanReq = none := (congrArg Runtime.scanReq turns.core :)
  have filter : m'.rt.scanFilterActive = rt.scanned.scanFilterActive :=
    (congrArg Runtime.scanFilterActive turns.core :)
  refine ⟨request, ?_⟩
  rw [filter]
  simp only [Runtime.scanned, Runtime.filtered]
  split
  · rfl
  · rename_i none
    exact off (by simpa using none)

/-- A trigger while a scan is in progress is refused, and changes nothing. -/
theorem netdevTriggerScan_busy {m : Machine} (taken : m.rt.scanReq.isSome = true)
    (able : m.rt.vif.isSome = true ∧ m.rt.netdev = true ∧ m.rt.started = true ∧
      m.rt.hw.ops.hwScan = true) (env : Env) (early : Option Bool) (params : List (List UInt8))
    (requestPortid : UInt32) :
    netdevTriggerScan env early params requestPortid m = some (-EBUSY, m) := by
  obtain ⟨vif, netdev, started, op⟩ := able
  have ran : (netdevTriggerScan env early params requestPortid).runs
      (fun ret m' => ret = -EBUSY ∧ m' = m) m := by
    unfold netdevTriggerScan
    rw [Program.runs_bind, runs_runtime, if_neg (by simp [Option.isNone_iff_eq_none, netdev,
      Option.isSome_iff_ne_none.mp vif]), if_neg (by simp [started, op])]
    unfold allocScanReq
    rw [Program.runs_bind, Program.runs_bind, runs_runtime, if_pos taken, Program.runs_pure,
      if_pos (by decide), Program.runs_pure]
    exact ⟨rfl, rfl⟩
  obtain ⟨ret, m', same, rfl, rfl⟩ := ran
  exact same

/-- A trigger keeps what is kept along a run. -/
theorem ScanKept.trigger {s : Scans} {busy : Bool} (kept : ScanKept s busy)
    (marks : Alternates (scanMarks s.machine.trace) busy) {env : Env} {early : Option Bool}
    {params : List (List UInt8)} {requestPortid : UInt32} {s' : Scans}
    (stepped : s.step (.trigger env early params requestPortid) = some s') :
    ∃ busy, Alternates (scanMarks s'.machine.trace) busy ∧ ScanKept s' busy := by
  obtain ⟨⟨ret, m'⟩, ran, rfl⟩ := Option.map_eq_some_iff.mp stepped
  cases kept with
  | busy taken owed able off =>
    rw [netdevTriggerScan_busy taken able] at ran
    obtain ⟨rfl, rfl⟩ := Prod.mk.inj (Option.some.inj ran)
    refine ⟨true, marks, .busy taken ?_ able off⟩
    simp [owed]
  | idle free off owed =>
    have turn := after_netdevTriggerScan env early params requestPortid s.machine ret m' ran
    have still : ∀ {told : List Event} {rt : Runtime}, Turns rt told s.machine m' →
        (told.count (.hwScan 0) = 0 ∨ early.isSome = true) → s.owed +
          (if early.isSome then 0 else acceptedScans m' - acceptedScans s.machine) = 0 := by
      intro told rt turns none
      rw [turns.acceptedScans]
      split
      · exact owed
      · rename_i later
        have zero := none.resolve_right later
        omega
    cases turn with
    | refused nonzero turns =>
      have request : m'.rt.scanReq = none := (congrArg Runtime.scanReq turns.core :).trans free
      have filter : m'.rt.scanFilterActive = false :=
        (congrArg Runtime.scanFilterActive turns.core :).trans off
      refine ⟨false, ?_, .idle request filter (still turns (.inl rfl))⟩
      rw [turns.scanMarks]
      exact marks
    | unbegun nonzero _ turns =>
      obtain ⟨request, filter⟩ := turns.scanned fun _ => off
      refine ⟨false, ?_, .idle request filter (still turns (.inl rfl))⟩
      rw [turns.scanMarks]
      simpa [scanMarks, Event.scanMark, nonzero] using marks
    | completed _ soon turns =>
      obtain ⟨request, filter⟩ := turns.scanned fun _ => off
      refine ⟨false, ?_, .idle request filter (still turns ?_)⟩
      · rw [turns.scanMarks]
        exact .completed (.begun marks)
      · rename_i answer _ _ _
        by_cases zero : answer = 0
        · exact .inr (soon zero)
        · exact .inl (by simp [zero])
    | begun _ later able turns =>
      refine ⟨true, ?_, .busy ?_ ?_ ?_ ?_⟩
      · rw [turns.scanMarks]
        exact .begun marks
      · have request : m'.rt.scanReq = some _ := (congrArg Runtime.scanReq turns.core :)
        rw [request]
        rfl
      · simp [turns.acceptedScans, later, owed]
      · have vif : m'.rt.vif = s.machine.rt.vif := (congrArg Runtime.vif turns.core :)
        have netdev : m'.rt.netdev = s.machine.rt.netdev := (congrArg Runtime.netdev turns.core :)
        have started : m'.rt.started = s.machine.rt.started :=
          (congrArg Runtime.started turns.core :)
        have ops : m'.rt.hw.ops = s.machine.rt.hw.ops :=
          (congrArg (fun rt => rt.hw.ops) turns.core :)
        rw [vif, netdev, started, ops]
        exact able
      · intro none
        have ops : m'.rt.hw.ops = s.machine.rt.hw.ops :=
          (congrArg (fun rt => rt.hw.ops) turns.core :)
        have filter : m'.rt.scanFilterActive = (s.machine.rt.scanning _).scanFilterActive :=
          (congrArg Runtime.scanFilterActive turns.core :)
        have none : s.machine.rt.hw.ops.configureFilter = false := by
          rw [← ops]
          exact none
        show m'.rt.scanFilterActive = false
        rw [filter]
        simpa [Runtime.scanning, Runtime.filtered, none] using off

/-- A completion keeps what is kept along a run. -/
theorem ScanKept.complete {s : Scans} {busy : Bool} (kept : ScanKept s busy)
    (marks : Alternates (scanMarks s.machine.trace) busy) {aborted : Bool} {s' : Scans}
    (stepped : s.step (.complete aborted) = some s') :
    ∃ busy, Alternates (scanMarks s'.machine.trace) busy ∧ ScanKept s' busy := by
  by_cases none : s.owed = 0
  · rw [Scans.step, if_pos none] at stepped
    cases stepped
  · rw [Scans.step, if_neg none] at stepped
    obtain ⟨⟨_, m'⟩, ran, rfl⟩ := Option.map_eq_some_iff.mp stepped
    cases kept with
    | idle free off owed => exact absurd owed none
    | busy taken owed able off =>
      have same : Turns s.machine.rt [] s.machine s.machine := ⟨rfl, .of_trace rfl⟩
      have turns := after_scanCompleted same able.2.1 aborted _ m' ran
      obtain ⟨request, filter⟩ := turns.scanned off
      refine ⟨false, ?_, .idle request filter ?_⟩
      · rw [turns.scanMarks]
        exact .completed marks
      · simp [owed]

end Lcompat.Mac80211
