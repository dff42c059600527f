import Lcompat.Mac80211.Register

/-!
# The life of a device

Between a registration and `ieee80211_unregister_hw` a device is used in any way: the station
connects and disconnects, frames are received, and scans begin and end. Whatever the state of the
connection and of the scan, taking the device down undoes the registration once.
-/

namespace Lcompat.Mac80211

open Lcompat.Logic
open Lcompat.Net

/-- What may happen to a registered device. -/
inductive LifeLabel where
  /-- A call of the station. -/
  | call (env : Env) (taken : Call)
  /-- `lcompat_netdev_trigger_scan`, in which the driver may complete early what it accepts. -/
  | trigger (env : Env) (early : Option Bool) (params : List (List UInt8)) (requestPortid : UInt32)
  /-- `ieee80211_scan_completed`. -/
  | complete (aborted : Bool)

/-- What happens to the runtime. -/
def LifeLabel.run : LifeLabel → Kernel Unit
  | .call env taken => do let _ ← taken.run env
  | .trigger env early params requestPortid => do
    let _ ← netdevTriggerScan env early params requestPortid
  | .complete aborted => scanCompleted aborted

/-- The life of a device, from a successful registration on. -/
def life : System Device LifeLabel where
  init d := ∃ env d₀, d₀.attached = none ∧ d₀.listed = false ∧
    ieee80211RegisterHw env d₀ = some (0, d)
  step d label := (onRuntime label.run d).map Prod.snd

/-- What taking down a device with some runtime calls. -/
structure TearsDown (ops : LifeOps) (rt : Runtime) (events : List DeviceEvent) : Prop where
  /-- The device is stopped once, where the operation is there. -/
  stopped : events.count .stop = ops.stop.toNat
  /-- The interface is removed once, where the operation is there. -/
  removed : events.count .removeInterface = ops.removeInterface.toNat
  /-- It is removed behind the stop. -/
  order : ops.stop = true → ops.removeInterface = true →
    [.removeInterface, .stop].Sublist events
  /-- A station entry is removed once if there is one, where the operation is there. -/
  staRemoved : events.count (.station .staRemove) = (rt.sta.isSome && rt.hw.ops.staRemove).toNat
  /-- Each block is freed once. -/
  freed : ∀ block, events.count (.free block) = 1
  /-- The `netdev` is unregistered once. -/
  unregistered : events.count .netdevUnregister = 1

/-- A device that has been taken down, between two devices. -/
structure TornDown (d d' : Device) : Prop where
  /-- No runtime is attached. -/
  attached : d'.attached = none
  /-- No runtime is on the list. -/
  listed : d'.listed = false
  /-- What has been called. -/
  events : ∃ a events, d.attached = some a ∧ d'.trace = events ++ d.trace ∧
    TearsDown d.ops a.rt events

variable {d d' : Device} {a : Attached}

/-- A runtime whose scan has ended is consistent. -/
theorem Consistent.scanned {rt : Runtime} (consistent : Consistent rt) : Consistent rt.scanned :=
  ⟨consistent.vif, consistent.sta, consistent.named, consistent.cleared, consistent.started⟩

/-- A runtime whose scan has begun is consistent. -/
theorem Consistent.scanning {rt : Runtime} (consistent : Consistent rt) (scanReq : ScanReq) :
    Consistent (rt.scanning scanReq) :=
  ⟨consistent.vif, consistent.sta, consistent.named, consistent.cleared, consistent.started⟩

/-- What happens to a runtime keeps it consistent. -/
theorem LifeLabel.after_run (label : LifeLabel) {m : Machine} (consistent : Consistent m.rt) :
    label.run.after (fun _ m' => Consistent m'.rt) m := by
  cases label with
  | call env taken =>
    rw [LifeLabel.run, Program.after_bind]
    refine (Mac80211.after_run env taken m).mono fun ret m' turn => ?_
    rw [Program.after_pure]
    exact consistent.turn turn
  | trigger env early params requestPortid =>
    rw [LifeLabel.run, Program.after_bind]
    refine (after_netdevTriggerScan env early params requestPortid m).mono fun ret m' turn => ?_
    rw [Program.after_pure]
    cases turn with
    | refused nonzero turns => exact turns.consistent consistent
    | unbegun nonzero free turns => exact turns.consistent consistent.scanned
    | completed free owed turns => exact turns.consistent consistent.scanned
    | begun free later able turns => exact turns.consistent (consistent.scanning _)
  | complete aborted =>
    have still : Turns m.rt [] m m := ⟨rfl, .of_trace rfl⟩
    rw [LifeLabel.run]
    refine (after_scanCompleted still consistent.started.2 aborted).mono fun _ m' turns => ?_
    exact turns.consistent consistent.scanned

/-- What happens to a device keeps its runtime registered and consistent. -/
theorem Alive.step (alive : Alive d a) {label : LifeLabel} (stepped : life.step d label = some d') :
    ∃ a', Alive d' a' := by
  obtain ⟨⟨_, next⟩, ran, rfl⟩ := Option.map_eq_some_iff.mp stepped
  have after : (onRuntime label.run).after (fun _ d' => ∃ a', Alive d' a') d := by
    simp only [onRuntime, attachedRuntime, Program.after_bind, Program.after_get,
      Program.after_require, alive.attached, Option.some.injEq, forall_eq', Prod.forall,
      Program.after_set, Program.after_pure]
    intro value m' ran
    have consistent := label.after_run (m := ⟨a.rt, d.calls, []⟩) alive.consistent value m' ran
    exact ⟨_, rfl, alive.listed, consistent, alive.txq, alive.vifAdded⟩
  exact after _ _ ran

/-- A station leaves without a fault. -/
theorem total_disconnectLocal (reasonCode : UInt16) (requestPortid : UInt32) (byAp : Bool) :
    (disconnectLocal reasonCode requestPortid byAp).Total := by
  unfold disconnectLocal
  refine total_runtime.bind fun rt => ?_
  split
  · exact Program.total_pure _
  · have told (rt : Runtime) (event : Runtime → Event) (condition : Runtime → Bool) :
        (if condition rt then note (event rt) else pure ()).Total :=
      Program.total_ite (total_note _) (Program.total_pure _)
    have removed : callStaRemove.Total := total_runtime.bind fun rt =>
      Program.total_ite (total_note _) (Program.total_pure _)
    have changed (conf : BssConf) : (callBssInfoChanged conf).Total := total_runtime.bind fun rt =>
      Program.total_ite (total_note _) (Program.total_pure _)
    have linked : (setLinkState false).Total := total_runtime.bind fun rt =>
      Program.total_ite (total_note _) (Program.total_pure _)
    have updated : updateWirelessInfo.Total := total_runtime.bind fun rt =>
      Program.total_ite (total_note _) (Program.total_pure _)
    refine removed.bind fun _ => (total_change _).bind fun _ => (total_change _).bind fun _ => ?_
    refine (changed _).bind fun _ => Program.Total.bind ?_ fun _ => ?_
    · exact Program.total_ite (total_note _) (Program.total_pure _)
    · refine (total_change _).bind fun _ => (total_change _).bind fun _ => ?_
      exact linked.bind fun _ => updated

/-- What the runtime is left with before its interface is freed. -/
theorem runs_clearRuntime (m : Machine) : clearRuntime.runs (fun _ m' => m'.rt.vif = m.rt.vif ∧
    ∃ quiet : List Event, m'.trace = quiet ++ m.trace ∧ .staRemove ∉ quiet) m := by
  simp only [clearRuntime, configureScanFilter, freeScanReq, freeSta, purgeRxQueue,
    Program.runs_bind, runs_runtime, Program.runs_ite, runs_note, runs_change,
    Program.runs_modify, Program.runs_pure]
  split
  · exact ⟨trivial, _, List.append_cons _ _ _, by simp⟩
  · exact ⟨trivial, _, rfl, by simp⟩

/-- The device is stopped. -/
theorem runs_stopHw {holds : Unit → Device → Prop} (here : d.attached = some a) :
    stopHw.runs holds d ↔ holds () { d with
      attached := some { a with rt := { a.rt with started := false } }
      trace := (if a.rt.started && d.ops.stop then [.stop] else []) ++ d.trace } := by
  simp only [stopHw, Program.runs_bind, Program.runs_get, runs_attachedRuntime, here,
    Option.some.injEq, exists_eq_left', Program.runs_ite, runs_tell, runs_changeAttached]
  cases a.rt.started && d.ops.stop <;> simp

/-- The steps behind the end of the connection. -/
theorem runs_endHw (here : d.attached = some a) (consistent : Consistent a.rt)
    (held : a.txq = true ∧ a.vifAdded = true) : endHw.runs (fun _ d' => d'.attached = none ∧
    d'.listed = d.listed ∧ ∃ quiet : List Event, d'.trace =
      ([.free .runtime, .free .vif, .free .txq] : List DeviceEvent) ++
        quiet.map DeviceEvent.station ++ ([.netdevUnregister] : List DeviceEvent) ++
        ((if d.ops.removeInterface then [.removeInterface] else []) : List DeviceEvent) ++
        ((if d.ops.stop then [.stop] else []) : List DeviceEvent) ++ d.trace ∧
      .staRemove ∉ quiet) d := by
  obtain ⟨vif, iface, -⟩ := consistent.vif
  obtain ⟨started, netdev⟩ := consistent.started
  obtain ⟨txq, added⟩ := held
  simp only [endHw, Program.runs_bind]
  rw [runs_stopHw here, runs_removeVif rfl, runs_unregisterNetdev rfl, runs_onRuntime rfl]
  refine (runs_clearRuntime _).mono ?_
  rintro _ m ⟨same, quiet, told, spared⟩
  rw [runs_freeVif rfl, runs_freeRuntime rfl]
  refine ⟨rfl, rfl, quiet, ?_, spared⟩
  simp only at same told
  simp [vifFreed, netdevGone, interfaceGone, same, told, iface, txq, added, netdev, started]

/-- What is called where the station leaves its access point. -/
theorem count_left {m m' : Machine} {vif : Vif} {reasonCode : UInt16} {requestPortid : UInt32}
    {byAp : Bool} (empty : m.trace = [])
    (turns : Turns (m.rt.leave vif) (leaveEvents m.rt reasonCode requestPortid byAp) m m') :
    m'.trace.count .staRemove = (m.rt.sta.isSome && m.rt.hw.ops.staRemove).toNat := by
  have told := turns.tells.signals
  rw [empty] at told
  rw [← count_signals rfl, told]
  unfold leaveEvents
  cases m.rt.netdev && m.rt.connectParams.hasBssid <;>
    cases m.rt.sta.isSome && m.rt.hw.ops.staRemove <;> rfl

/-- What taking down a device calls, from what its two parts call. -/
theorem TearsDown.of_parts {ops : LifeOps} {rt : Runtime} {quiet left : List Event}
    (spared : .staRemove ∉ quiet)
    (count : left.count .staRemove = (rt.sta.isSome && rt.hw.ops.staRemove).toNat) :
    TearsDown ops rt (([.free .runtime, .free .vif, .free .txq] : List DeviceEvent) ++
      quiet.map DeviceEvent.station ++ ([.netdevUnregister] : List DeviceEvent) ++
      ((if ops.removeInterface then [.removeInterface] else []) : List DeviceEvent) ++
      ((if ops.stop then [.stop] else []) : List DeviceEvent) ++ left.map DeviceEvent.station ++
      ([.adminState false] : List DeviceEvent)) := by
  have station : ∀ event : DeviceEvent, (∀ told, event ≠ .station told) → ∀ told : List Event,
      (told.map DeviceEvent.station).count event = 0 := by
    intro event other told
    rw [List.count_eq_zero, List.mem_map]
    rintro ⟨_, -, same⟩
    exact other _ same.symm
  have moved : ∀ told : List Event,
      (told.map DeviceEvent.station).count (.station .staRemove) = told.count .staRemove :=
    fun told => List.count_map_of_injective told _ (fun _ _ => DeviceEvent.station.inj) _
  refine ⟨?_, ?_, fun stop remove => ?_, ?_, fun block => ?_, ?_⟩
  · simp only [List.count_append, station .stop (by simp)]
    cases ops.removeInterface <;> cases ops.stop <;> rfl
  · simp only [List.count_append, station .removeInterface (by simp)]
    cases ops.removeInterface <;> cases ops.stop <;> rfl
  · rw [if_pos stop, if_pos remove]
    have pair (front : List DeviceEvent) : [.removeInterface, .stop].Sublist
        (front ++ [.removeInterface] ++ [.stop]) :=
      (List.sublist_append_right front [.removeInterface]).append (.refl [DeviceEvent.stop])
    exact (pair _).trans ((List.sublist_append_left _ _).trans (List.sublist_append_left _ _))
  · simp only [List.count_append, moved, count, List.count_eq_zero.mpr spared]
    cases ops.removeInterface <;> cases ops.stop <;> simp
  · simp only [List.count_append, station (.free block) (by simp)]
    cases ops.removeInterface <;> cases ops.stop <;> cases block <;> rfl
  · simp only [List.count_append, station .netdevUnregister (by simp)]
    cases ops.removeInterface <;> cases ops.stop <;> rfl

/-- A device whose runtime is consistent is taken down. -/
theorem runs_ieee80211UnregisterHw (alive : Alive d a) :
    ieee80211UnregisterHw.runs (fun _ d' => TornDown d d') d := by
  obtain ⟨here, -, consistent, txq, added⟩ := alive
  have netdev := consistent.started.2
  unfold ieee80211UnregisterHw
  rw [Program.runs_bind, Program.runs_get]
  simp only [here, Program.runs_bind, Program.runs_modify, netdev, if_true, runs_tell,
    Program.runs_ite]
  split
  · rename_i engaged
    obtain ⟨vif, iface, -⟩ := consistent.vif
    rw [runs_onRuntime rfl]
    have left := (total_disconnectLocal wlanReasonDeauthLeaving 0 false).runs
      (after_disconnectLocal (m := ⟨a.rt, d.calls, []⟩) iface wlanReasonDeauthLeaving 0 false)
    refine left.mono fun _ m turns => ?_
    have still : Consistent m.rt := turns.consistent (consistent.leave vif)
    have ended := @runs_endHw { d with
      listed := false, attached := some { a with rt := m.rt }, calls := m.calls
      trace := m.trace.map .station ++ .adminState false :: d.trace }
      { a with rt := m.rt } rfl still ⟨txq, added⟩
    refine ended.mono ?_
    rintro _ d' ⟨detached, unlisted, quiet, told, spared⟩
    refine ⟨detached, unlisted, a, _, here, ?_, .of_parts spared (count_left rfl turns)⟩
    rw [told]
    simp
  · rename_i idle
    have none : a.rt.sta.isSome = false := by
      rw [← Bool.not_eq_true]
      intro present
      have connected := consistent.sta.mp present
      simp [connected] at idle
    refine (runs_endHw rfl consistent ⟨txq, added⟩).mono ?_
    rintro _ d' ⟨detached, unlisted, quiet, told, spared⟩
    have nothing : ([] : List Event).count .staRemove =
        (a.rt.sta.isSome && a.rt.hw.ops.staRemove).toNat := by
      rw [none]
      rfl
    refine ⟨detached, unlisted, a, _, here, ?_, .of_parts spared nothing⟩
    rw [told]
    simp

/-- Wherever the life of a device leads from a state in which its runtime is registered and
consistent, it is registered and consistent. -/
theorem Alive.path (alive : Alive d a) (path : life.Path (fun _ _ => True) d d') :
    ∃ a', Alive d' a' := by
  refine path.invariant (fun d => ∃ a, Alive d a) ⟨a, alive⟩ ?_
  rintro t label u ⟨a, alive⟩ - stepped
  exact alive.step stepped

/-- A registration that fails is undone, whatever its calls answer: no runtime is left, what has
been allocated and registered is freed and unregistered once, and the interface is removed if it has
been added. After a registration that succeeds, whatever happens to the device, taking it down stops
it, removes its interface and its station entry once each, and leaves no runtime. -/
theorem registration_undone_or_torn_down (env : Env) (unattached : d.attached = none)
    (unlisted : d.listed = false) : ∃ ret d', ieee80211RegisterHw env d = some (ret, d') ∧
      (ret ≠ 0 → Undone d d') ∧
      (ret = 0 → ∀ d₁, life.Path (fun _ _ => True) d' d₁ →
        ∃ d₂, ieee80211UnregisterHw d₁ = some ((), d₂) ∧ TornDown d₁ d₂) := by
  have registered : (ieee80211RegisterHw env).runs (Settled d) d :=
    runs_ieee80211RegisterHw unattached unlisted
  obtain ⟨ret, d', ran, settled⟩ := registered
  refine ⟨ret, d', ran, fun failed => ?_, fun succeeded d₁ path => ?_⟩
  · obtain ⟨-, undone⟩ | ⟨zero, -⟩ := settled
    · exact undone
    · exact absurd zero failed
  · obtain ⟨failed, -⟩ | ⟨-, a, alive⟩ := settled
    · exact absurd succeeded failed
    · obtain ⟨a₁, alive⟩ := alive.path path
      obtain ⟨_, d₂, ran, torn⟩ := runs_ieee80211UnregisterHw alive
      exact ⟨d₂, ran, torn⟩

/-- A device with all operations, before it is registered. -/
def idleDevice : Device where
  hw := tunedHw
  ops := ⟨true, true, true, true⟩
  vifDataSize := 0
  attached := none
  listed := false
  calls := 0
  trace := []

/-- What the device does to join an access point. -/
def joiningLife : List LifeLabel := joining.map fun label => .call label.1 label.2

/-- A device that is registered and joins an access point is taken down. -/
theorem registration_torn_down_joined : ∃ d₁ d₂ a, d₁.attached = some a ∧
    a.rt.connState = .connected ∧ ieee80211UnregisterHw d₁ = some ((), d₂) ∧ TornDown d₁ d₂ := by
  have joined : ((ieee80211RegisterHw .kind idleDevice).bind fun result =>
      (life.run result.2 joiningLife).map fun d =>
        (result.1, d.attached.map fun a => a.rt.connState)) = some (0, some .connected) := by
    decide +kernel
  obtain ⟨⟨ret, d'⟩, ran, lived⟩ := Option.bind_eq_some_iff.mp joined
  obtain ⟨d₁, run, state⟩ := Option.map_eq_some_iff.mp lived
  simp only [Prod.mk.injEq] at state
  obtain ⟨rfl, state⟩ := state
  obtain ⟨a, here, connected⟩ := Option.map_eq_some_iff.mp state
  obtain ⟨_, left, ran', -, later⟩ :=
    registration_undone_or_torn_down .kind (d := idleDevice) rfl rfl
  obtain ⟨rfl, rfl⟩ := Prod.mk.inj (Option.some.inj (ran'.symm.trans ran))
  have path := System.path_of_run (System.along_of_forall (fun _ _ => trivial) left joiningLife) run
  obtain ⟨d₂, taken, torn⟩ := later rfl d₁ path
  exact ⟨d₁, d₂, a, here, connected, taken, torn⟩

end Lcompat.Mac80211
