import Lcompat.Logic.System
import Lcompat.Mac80211.Calls

/-!
# The life of a connection

A runtime comes from a successful registration, and lives through calls in any order, with any
answers of the driver, the native kernel and the allocator. What it holds of a connection stays
consistent in every state that such a run reaches.
-/

namespace Lcompat.Mac80211

open Lcompat.Logic
open Lcompat.Net

/-- `lcompat_ieee80211_default_channel`. -/
def defaultChannel (hw : Hw) : Option Hw :=
  if hw.chandef.chan.isSome then some hw
  else
    let first (band : Fin 4) : Option Channel := (hw.bands band).bind fun sband =>
      sband.channels.head?
    ((first 0).or (first 1)).map fun chan => { hw with chandef := .width20 chan }

/-- An interface that has just been allocated. -/
def Vif.fresh (addr : EtherAddr) : Vif := ⟨addr, false, 0, ⟨false, 0, .zero, .zero, 0, 0⟩⟩

/-- A runtime that has just been allocated. -/
def Runtime.fresh (hw : Hw) : Runtime where
  hw := hw
  vif := none
  scanReq := none
  sta := none
  netdev := false
  rxQueue := []
  connState := .disconnected
  connectParams := .zero
  connectRequestPortid := 0
  beaconInterval := 0
  capability := 0
  txSeq := 0
  useQos := false
  started := false
  scanFilterActive := false

/-- Ask some operations one after another, up to the first that fails. -/
def askAll (env : Env) : Nat → Kernel Int
  | 0 => return 0
  | count + 1 => do
    let ret ← ask env.result
    if ret ≠ 0 then return ret
    askAll env count

/-- `ieee80211_register_hw`: the runtime that a successful call leaves. The sizes of the interface
and of its queue are not negative, and an operation that is not there answers zero. -/
def registerHw (env : Env) (hw : Hw) : Kernel Int := do
  let some hw := defaultChannel hw | return -EINVAL
  -- the runtime, the interface and its queue
  let given ← kzallocAll env 3
  if !given then return -ENOMEM
  let attached ← ask env.kzalloc
  if !attached then return -ENOMEM
  -- the wireless state, the three triggers, the interface and the start of the device
  let ret ← askAll env 6
  if ret ≠ 0 then return ret
  let rt := { Runtime.fresh hw with
    vif := some (.fresh hw.permAddr), netdev := true, started := true }
  change fun _ => rt
  note (.wirelessInfo (fillWirelessInfo rt))
  note (.linkState false)
  return 0

/-- A machine whose runtime comes from a successful registration. -/
def Machine.Registered (m : Machine) : Prop :=
  ∃ env hw rt, registerHw env hw ⟨rt, 0, []⟩ = some (0, m)

/-- The runs of a station: the answers to a call, and the call. -/
def station : System Machine (Env × Call) where
  init := Machine.Registered
  step m label := (label.2.run label.1 m).map Prod.snd

/-- A step of a station is a turn. -/
theorem turn_of_step {m m' : Machine} {label : Env × Call}
    (stepped : station.step m label = some m') :
    ∃ ret, label.2.run label.1 m = some (ret, m') ∧ Turn m label.2 ret m' := by
  obtain ⟨⟨ret, next⟩, ran, rfl⟩ := Option.map_eq_some_iff.mp stepped
  exact ⟨ret, ran, after_run label.1 label.2 m ret next ran⟩

/-- What a runtime holds of its connection. -/
structure Consistent (rt : Runtime) : Prop where
  /-- There is an interface, which says whether the station is connected. -/
  vif : ∃ vif, rt.vif = some vif ∧
    (rt.connState = .connected ↔ vif.cfgAssoc = true) ∧
    (rt.connState = .connected ↔ vif.bssConf.assoc = true) ∧
    (rt.connState = .connected → vif.bssConf.bssid = rt.connectParams.bssid) ∧
    (rt.connState ≠ .connected → vif.bssConf.bssid = .zero)
  /-- There is a station entry when the station is connected. -/
  sta : rt.sta.isSome = true ↔ rt.connState = .connected
  /-- There is an access point unless the station is disconnected. -/
  named : rt.connState ≠ .disconnected → rt.connectParams.hasBssid = true
  /-- Nothing is left when the station is disconnected. -/
  cleared : rt.connState = .disconnected → rt.connectParams = .zero ∧ rt.useQos = false
  /-- The runtime has been started, and has an interface of the native kernel. -/
  started : rt.started = true ∧ rt.netdev = true

/-- What a runtime holds of its connection is in its core. -/
theorem Consistent.core_iff {rt : Runtime} : Consistent rt.core ↔ Consistent rt := by
  constructor
  · rintro ⟨vif, sta, named, cleared, started⟩
    exact ⟨vif, sta, named, cleared, started⟩
  · rintro ⟨vif, sta, named, cleared, started⟩
    exact ⟨vif, sta, named, cleared, started⟩

/-- A turn to a consistent runtime. -/
theorem Turns.consistent {rt : Runtime} {told : List Event} {m m' : Machine}
    (turns : Turns rt told m m') (consistent : Consistent rt) : Consistent m'.rt := by
  rw [← Consistent.core_iff, turns.core, Consistent.core_iff]
  exact consistent

/-- Asking operations is quiet. -/
theorem keepsQuiet_askAll (env : Env) (count : Nat) :
    keepsQuiet [] (fun _ => []) (askAll env count) := by
  induction count with
  | zero => exact keepsQuiet_pure rfl
  | succ count ih =>
    exact (keepsQuiet_ask _).bind fun ret => keepsQuiet_ite (keepsQuiet_pure rfl) ih

/-- What has been registered is consistent, and nothing has been told. -/
theorem Machine.Registered.consistent {m : Machine} (registered : m.Registered) :
    Consistent m.rt ∧ m.rt.connState = .disconnected ∧ signals m.trace = [] := by
  obtain ⟨env, hw, rt, ran⟩ := registered
  have after : (registerHw env hw).after (fun ret m' => ret = 0 → Consistent m'.rt ∧
      m'.rt.connState = .disconnected ∧ signals m'.trace = []) ⟨rt, 0, []⟩ := by
    unfold registerHw
    split
    · rename_i hw _
      simp only [Program.after_bind]
      refine (keepsQuiet_kzallocAll env 3 _).mono fun given m₁ one => ?_
      split
      · simp [ENOMEM]
      simp only [Program.after_bind]
      have asked : keepsQuiet [] (fun _ => []) (ask env.kzalloc) := keepsQuiet_ask _
      refine (asked m₁).mono fun attached m₂ two => ?_
      split
      · simp [ENOMEM]
      simp only [Program.after_bind]
      refine (keepsQuiet_askAll env 6 m₂).mono fun ret m₃ three => ?_
      split
      · rename_i nonzero
        rw [Program.after_pure]
        exact fun zero => absurd zero nonzero
      simp only [Program.after_bind, after_change, after_note, Program.after_pure]
      have silent := ((one.trans two).trans three).tells.signals
      refine fun _ => ⟨?_, rfl, silent⟩
      refine ⟨⟨_, rfl, ?_, ?_, ?_, fun _ => rfl⟩, ?_, ?_, fun _ => ⟨rfl, rfl⟩, rfl, rfl⟩
      all_goals simp [Runtime.fresh, Vif.fresh]
    · simp [EINVAL]
  exact after 0 m ran rfl

/-- A runtime that has been cleared is consistent. -/
theorem Consistent.clear {rt : Runtime} {sta : Option Sta} (consistent : Consistent rt)
    (apart : rt.connState ≠ .connected) (kept : sta = none ∨ sta = rt.sta) :
    Consistent { rt with sta }.cleared := by
  obtain ⟨⟨vif, here, cfg, conf, -, zero⟩, entry, -, -, started⟩ := consistent
  have absent : rt.sta.isSome = false := by
    rw [← Bool.not_eq_true]
    exact fun present => apart (entry.mp present)
  have none : sta.isSome = false := by
    obtain rfl | rfl := kept
    · rfl
    · exact absent
  refine ⟨⟨vif, here, ?_, ?_, ?_, fun _ => zero apart⟩, ?_, ?_, fun _ => ⟨rfl, rfl⟩, started⟩
  · simp [Runtime.cleared, ← cfg, apart]
  · simp [Runtime.cleared, ← conf, apart]
  · simp [Runtime.cleared]
  · simp [Runtime.cleared, none]
  · simp [Runtime.cleared]

/-- A runtime whose access point has been left is consistent. -/
theorem Consistent.leave {rt : Runtime} (consistent : Consistent rt) (vif : Vif) :
    Consistent (rt.leave vif) := by
  refine ⟨⟨vif.left, rfl, ?_, ?_, ?_, fun _ => rfl⟩, ?_, ?_, fun _ => ⟨rfl, rfl⟩,
    consistent.started⟩
  all_goals simp [Runtime.leave, Runtime.cleared, Vif.left]

/-- A runtime whose attempt goes on is consistent. -/
theorem Consistent.advance {rt rt' : Runtime} (consistent : Consistent rt)
    (apart : rt.connState ≠ .connected) (vif : rt'.vif = rt.vif)
    (started : rt'.started = rt.started)
    (netdev : rt'.netdev = rt.netdev) (sta : rt'.sta = none ∨ rt'.sta = rt.sta)
    (state : rt'.connState = .authenticating ∨ rt'.connState = .associating)
    (named : rt'.connectParams.hasBssid = true) : Consistent rt' := by
  obtain ⟨⟨old, here, cfg, conf, -, zero⟩, entry, -, -, alive⟩ := consistent
  have away : rt'.connState ≠ .connected := by
    obtain state | state := state <;> simp [state]
  have some_attempt : rt'.connState ≠ .disconnected := by
    obtain state | state := state <;> simp [state]
  have absent : rt.sta.isSome = false := by
    rw [← Bool.not_eq_true]
    exact fun present => apart (entry.mp present)
  have none : rt'.sta.isSome = false := by
    obtain gone | same := sta
    · rw [gone]
      rfl
    · rw [same]
      exact absent
  refine ⟨⟨old, vif.trans here, ?_, ?_, ?_, fun _ => zero apart⟩, ?_, fun _ => named, ?_, ?_⟩
  · simp [← cfg, apart, away]
  · simp [← conf, apart, away]
  · exact fun joined => absurd joined away
  · simp [none, away]
  · exact fun gone => absurd gone some_attempt
  · rw [started, netdev]
    exact alive

/-- A runtime whose connection is completed is consistent. -/
theorem Consistent.join {rt : Runtime} {sta : Sta} {vif : Vif} {aid : UInt16} {basicRates : UInt32}
    (named : rt.connectParams.hasBssid = true) (started : rt.started = true ∧ rt.netdev = true) :
    Consistent (rt.join sta vif aid basicRates) := by
  refine ⟨⟨_, rfl, ?_, ?_, fun _ => rfl, ?_⟩, ?_, fun _ => named, ?_, started⟩
  all_goals simp [Runtime.join]

/-- A turn keeps the runtime consistent. -/
theorem Consistent.turn {m m' : Machine} {call : Call} {ret : Int} (consistent : Consistent m.rt)
    (turn : Turn m call ret m') : Consistent m'.rt := by
  cases turn with
  | quiet keeps => exact keeps.turns.consistent consistent
  | began started idle fills named turns =>
    refine turns.consistent (consistent.advance (by simp [idle]) rfl rfl rfl (.inr rfl)
      (.inl rfl) named)
  | rejected started idle nonzero turns =>
    exact turns.consistent (consistent.clear (by simp [idle]) (.inr rfl))
  | authenticated state heard fills turns =>
    have named := consistent.named (by simp [state])
    exact turns.consistent (consistent.advance (by simp [state]) rfl rfl rfl (.inr rfl)
      (.inr rfl) (fills.bssid named).1)
  | failed failure kept turns =>
    have apart : m.rt.connState ≠ .connected := by
      cases failure with
      | auth state => simp [state]
      | assoc state => simp [state]
      | own state => obtain state | state := state <;> simp [state]
      | driver state => simp [state]
    exact turns.consistent (consistent.clear apart kept)
  | stuck state positive asked fills turns =>
    have named := consistent.named (by simp [state])
    exact turns.consistent (consistent.advance (by simp [state]) rfl rfl rfl (.inl rfl)
      (.inr state) (fills.bssid named).1)
  | completed state heard fills here named entry turns =>
    exact turns.consistent (.join named consistent.started)
  | left leaving here turns => exact turns.consistent (consistent.leave _)

/-- Every runtime that a run reaches is consistent. -/
theorem consistent_of_reachable {m : Machine} (reach : station.Reachable m) : Consistent m.rt := by
  refine reach.invariant (fun m => Consistent m.rt) (fun _ registered => registered.consistent.1) ?_
  intro _ _ _ consistent _ stepped
  obtain ⟨_, _, turn⟩ := turn_of_step stepped
  exact consistent.turn turn

/-- How often an event that concerns the connection has occurred. -/
theorem count_signals {event : Event} (signal : event.isSignal = true) (trace : List Event) :
    (signals trace).count event = trace.count event :=
  List.count_filter signal

/-- The station entries that the driver holds: those that it has added and not removed. -/
def Balanced (m : Machine) : Prop :=
  m.rt.hw.ops.staAdd = true → m.rt.hw.ops.staRemove = true →
    (signals m.trace).count (.staAdd 0) =
      (signals m.trace).count .staRemove + if m.rt.connState = .connected then 1 else 0

/-- A turn to a runtime whose entries are balanced. -/
theorem Turns.balanced {rt : Runtime} {told : List Event} {m m' : Machine}
    (turns : Turns rt told m m') (balanced : Balanced m) (ops : rt.hw.ops = m.rt.hw.ops)
    (moved : m.rt.hw.ops.staAdd = true → m.rt.hw.ops.staRemove = true →
      told.count (.staAdd 0) + (if m.rt.connState = .connected then 1 else 0) =
        told.count .staRemove + if rt.connState = .connected then 1 else 0) : Balanced m' := by
  have state := turns.connState
  have same : m'.rt.hw.ops = rt.hw.ops := (congrArg (fun rt => rt.hw.ops) turns.core :)
  intro add remove
  rw [same, ops] at add remove
  have before := balanced add remove
  have step := moved add remove
  rw [turns.tells.signals, List.count_append, List.count_append, state]
  omega

/-- A turn keeps the entries balanced. -/
theorem Balanced.turn {m m' : Machine} {call : Call} {ret : Int} (balanced : Balanced m)
    (consistent : Consistent m.rt) (turn : Turn m call ret m') : Balanced m' := by
  cases turn with
  | quiet keeps => exact keeps.turns.balanced balanced rfl fun _ _ => rfl
  | began started idle fills named turns =>
    exact turns.balanced balanced rfl fun _ _ => by simp [idle, Runtime.attempt]
  | rejected started idle nonzero turns =>
    exact turns.balanced balanced rfl fun _ _ => by simp [idle, Runtime.cleared]
  | authenticated state heard fills turns =>
    exact turns.balanced balanced rfl fun _ _ => by simp [state]
  | failed failure kept turns =>
    refine turns.balanced balanced rfl fun _ _ => ?_
    cases failure with
    | auth state => simp [state, Runtime.cleared]
    | assoc state => simp [state, Runtime.cleared]
    | own state => obtain state | state := state <;> simp [state, Runtime.cleared]
    | driver state negative => simp [state, Runtime.cleared, ne_of_lt negative]
  | stuck state positive asked fills turns =>
    exact turns.balanced balanced rfl fun _ _ => by
      simp [state, ne_of_gt positive]
  | completed state heard fills here named entry turns =>
    exact turns.balanced balanced rfl fun add _ => by simp [state, Runtime.join, add]
  | left leaving here turns =>
    refine turns.balanced balanced rfl fun _ remove => ?_
    by_cases joined : m.rt.connState = .connected
    · have entry := consistent.sta.mpr joined
      simp only [leaveEvents, entry, remove, Runtime.leave, Runtime.cleared, joined]
      split <;> rfl
    · have none : m.rt.sta.isSome = false := by
        rw [← Bool.not_eq_true]
        exact fun present => joined (consistent.sta.mp present)
      simp only [leaveEvents, none, Runtime.leave, Runtime.cleared, joined]
      split <;> rfl

/-- In every state of every run the station entry, the association flags of the interface and the
state of the connection agree, the parameters and the address of the access point fit the state, and
the driver holds one station entry when the station is connected and none otherwise. -/
theorem connection_consistent {m : Machine} (reach : station.Reachable m) :
    ∃ vif, m.rt.vif = some vif ∧
      (m.rt.sta.isSome = true ↔ m.rt.connState = .connected) ∧
      (m.rt.connState = .connected ↔ vif.cfgAssoc = true) ∧
      (m.rt.connState = .connected ↔ vif.bssConf.assoc = true) ∧
      (m.rt.connState = .connected → m.rt.connectParams.hasBssid = true ∧
        vif.bssConf.bssid = m.rt.connectParams.bssid) ∧
      (m.rt.connState = .disconnected → m.rt.connectParams = .zero ∧ m.rt.useQos = false ∧
        vif.bssConf.bssid = .zero) ∧
      (m.rt.hw.ops.staAdd = true → m.rt.hw.ops.staRemove = true →
        (m.trace.count (.staAdd 0) : Int) - m.trace.count .staRemove =
          if m.rt.connState = .connected then 1 else 0) := by
  have balanced : Consistent m.rt ∧ Balanced m := by
    refine reach.invariant (fun m => Consistent m.rt ∧ Balanced m) ?_ ?_
    · intro m registered
      obtain ⟨consistent, idle, silent⟩ := registered.consistent
      refine ⟨consistent, fun _ _ => ?_⟩
      rw [silent, idle]
      rfl
    · rintro t label u ⟨consistent, balanced⟩ - stepped
      obtain ⟨_, _, turn⟩ := turn_of_step stepped
      exact ⟨consistent.turn turn, balanced.turn consistent turn⟩
  obtain ⟨consistent, balanced⟩ := balanced
  obtain ⟨vif, here, cfg, conf, joined, apart⟩ := consistent.vif
  refine ⟨vif, here, consistent.sta, cfg, conf, ?_, ?_, ?_⟩
  · exact fun connected => ⟨consistent.named (by simp [connected]), joined connected⟩
  · intro idle
    obtain ⟨zero, qos⟩ := consistent.cleared idle
    exact ⟨zero, qos, apart (by simp [idle])⟩
  · intro add remove
    have count := balanced add remove
    rw [count_signals rfl, count_signals rfl] at count
    by_cases connected : m.rt.connState = .connected
    · rw [if_pos connected] at count ⊢
      omega
    · rw [if_neg connected] at count ⊢
      omega

/-- A device with all operations that is on the one channel of its only band. -/
def tunedHw : Hw :=
  { plainHw with
    bands := fun band => if band = 0 then some ⟨0, [⟨0, 0, 2412⟩], [10]⟩ else none
    chandef := .width20 ⟨0, 0, 2412⟩ }

/-- The machine that the registration of this device leaves. -/
def registeredMachine : Machine :=
  ((registerHw .kind tunedHw (.start connectedRuntime)).map Prod.snd).getD (.start connectedRuntime)

/-- It is registered. -/
theorem registeredMachine_registered : registeredMachine.Registered :=
  ⟨.kind, tunedHw, connectedRuntime, rfl⟩

/-- A request to connect to the access point. -/
def pointParams : ConnectParams := ⟨[], true, pointAddr, 2412, 0, false⟩

/-- A buffer with some bytes and nothing else. -/
def byteSkb (bytes : List UInt8) : SkBuff where
  id := 0
  head := some (.ofBytes bytes)
  data := 0
  len := UInt32.ofNat bytes.length
  tail := UInt32.ofNat bytes.length
  limit := UInt32.ofNat bytes.length
  dataLen := 0
  frags := []
  priority := 0
  queueMapping := 0
  protocol := 0
  status := .zero

/-- A management frame from the access point to the station, with some fixed fields. -/
def pointFrame (fc : UInt16) (fields : List UInt8) : SkBuff :=
  byteSkb (cpuToLe16 fc ++ [0, 0] ++ stationAddr.bytes ++ pointAddr.bytes ++ pointAddr.bytes ++
    [0, 0] ++ fields)

/-- An authentication that succeeds. -/
def pointAuth : SkBuff := pointFrame fcAuth [0, 0, 2, 0, 0, 0]

/-- An association response that succeeds. -/
def pointAssocResp : SkBuff := pointFrame 0x0010 [1, 0, 0, 0, 1, 0xc0]

/-- A request, an authentication and an association, all of which succeed. -/
def joining : List (Env × Call) :=
  [(.kind, .connect pointParams 7), (.kind, .receive pointAuth), (.kind, .receive pointAssocResp)]

/-- The station comes to be connected. -/
theorem exists_joined : ∃ m, station.Reachable m ∧ m.rt.connState = .connected ∧
    m.rt.hw.ops.staAdd = true ∧ m.rt.hw.ops.staRemove = true := by
  have ran : ((station.run registeredMachine joining).map fun m =>
      (m.rt.connState, m.rt.hw.ops.staAdd, m.rt.hw.ops.staRemove)) =
        some (.connected, true, true) := by
    decide +kernel
  obtain ⟨m, ran, state⟩ := Option.map_eq_some_iff.mp ran
  simp only [Prod.mk.injEq] at state
  exact ⟨m, System.reachable_of_run registeredMachine_registered ran, state⟩

/-- A connected station has an entry, which the driver holds. -/
theorem connection_consistent_joined : ∃ m : Machine, m.rt.connState = .connected ∧
    m.rt.sta.isSome = true ∧ (m.trace.count (.staAdd 0) : Int) - m.trace.count .staRemove = 1 := by
  obtain ⟨m, reach, connected, add, remove⟩ := exists_joined
  obtain ⟨_, _, sta, _, _, _, _, count⟩ := connection_consistent reach
  refine ⟨m, connected, sta.mpr connected, ?_⟩
  rw [count add remove, if_pos connected]

end Lcompat.Mac80211
