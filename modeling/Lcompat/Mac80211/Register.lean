import Lcompat.Mac80211.Scan

/-!
# Registration

`ieee80211_register_hw` attaches a runtime to a device in steps, any of which may fail, and takes
back what it has done when one does; `ieee80211_unregister_hw` takes down a runtime in any state of
its connection and its scan. The device here is what outlives a runtime: the hardware, whether there
is a runtime and whether it is on the list, and what has been called.
-/

namespace Lcompat.Mac80211

open Lcompat.Logic
open Lcompat.Net

/-- Memory that a registration allocates. -/
inductive Block where
  /-- The runtime. -/
  | runtime
  /-- The interface. -/
  | vif
  /-- The queue of the interface. -/
  | txq
  deriving DecidableEq

/-- What is called on behalf of a device. -/
inductive DeviceEvent where
  /-- `kzalloc` gives memory. -/
  | alloc (block : Block)
  /-- `kfree`. -/
  | free (block : Block)
  /-- `netdev_register` gives an interface of the native kernel. -/
  | netdevRegister
  /-- `netdev_unregister`. -/
  | netdevUnregister
  /-- `netdev_set_admin_state`. -/
  | adminState (up : Bool)
  /-- `ops->add_interface`, and what it answers. -/
  | addInterface (ret : Int)
  /-- `ops->remove_interface`. -/
  | removeInterface
  /-- `ops->start`, and what it answers. -/
  | start (ret : Int)
  /-- `ops->stop`. -/
  | stop
  /-- A call of the runtime. -/
  | station (event : Event)
  deriving DecidableEq

/-- Which of the operations that begin and end a registration a driver has. -/
structure LifeOps where
  /-- `start`. -/
  start : Bool
  /-- `stop`. -/
  stop : Bool
  /-- `add_interface`. -/
  addInterface : Bool
  /-- `remove_interface`. -/
  removeInterface : Bool

/-- A runtime with the rest of its fields. -/
structure Attached where
  /-- The runtime. -/
  rt : Runtime
  /-- Whether there is a `txq`. -/
  txq : Bool
  /-- `vif_added`. -/
  vifAdded : Bool

/-- A device, from `ieee80211_alloc_hw` on. -/
structure Device where
  /-- `struct ieee80211_hw`, while there is no runtime. -/
  hw : Hw
  /-- The operations that begin and end a registration. -/
  ops : LifeOps
  /-- `vif_data_size`. -/
  vifDataSize : Int
  /-- `lcompat_runtime`. -/
  attached : Option Attached
  /-- The runtime is on `lcompat_ieee80211_runtimes`. -/
  listed : Bool
  /-- How many calls have been answered. -/
  calls : Nat
  /-- What has been called, newest first. -/
  trace : List DeviceEvent

/-- A function of a device. -/
abbrev DeviceProgram := Program Device

/-- Note a call. -/
def tell (event : DeviceEvent) : DeviceProgram Unit :=
  modify fun d => { d with trace := event :: d.trace }

/-- Take the answer of the next call. -/
def query {α : Type} (answer : Nat → α) : DeviceProgram α := do
  let d ← get
  set { d with calls := d.calls + 1 }
  return answer d.calls

/-- Read the runtime. -/
def attachedRuntime : DeviceProgram Attached := do .require (← get).attached

/-- Change the runtime. -/
def changeAttached (update : Attached → Attached) : DeviceProgram Unit :=
  modify fun d => { d with attached := d.attached.map update }

/-- Run a function of the runtime. -/
def onRuntime {α : Type} (program : Kernel α) : DeviceProgram α := do
  let d ← get
  let a ← attachedRuntime
  let (value, m) ← .require (program ⟨a.rt, d.calls, []⟩)
  set { d with
    attached := some { a with rt := m.rt }, calls := m.calls
    trace := m.trace.map DeviceEvent.station ++ d.trace }
  return value

/-- `kzalloc` of a block. -/
def kzallocBlock (env : Env) (block : Block) : DeviceProgram Bool := do
  let given ← query env.kzalloc
  if given then
    tell (.alloc block)
    return true
  else return false

/-- `lcompat_ieee80211_alloc_vif`. -/
def allocVif (env : Env) : DeviceProgram Int := do
  let d ← get
  let a ← attachedRuntime
  if d.vifDataSize < 0 ∨ a.rt.hw.txqDataSize < 0 then return -EINVAL
  let vif ← kzallocBlock env .vif
  let txq ← kzallocBlock env .txq
  if vif && txq then
    changeAttached fun a =>
      { a with rt := { a.rt with vif := some (.fresh a.rt.hw.permAddr) }, txq := true }
    return 0
  else
    if vif then tell (.free .vif)
    if txq then tell (.free .txq)
    return -ENOMEM

/-- `lcompat_ieee80211_free_vif`. -/
def freeVif : DeviceProgram Unit := do
  let a ← attachedRuntime
  if a.txq then tell (.free .txq)
  if a.rt.vif.isSome then tell (.free .vif)
  changeAttached fun a => { a with rt := { a.rt with vif := none }, txq := false }

/-- The runtime is taken from the device and freed. -/
def freeRuntime : DeviceProgram Unit := do
  let a ← attachedRuntime
  modify fun d => { d with hw := a.rt.hw, attached := none }
  tell (.free .runtime)

/-- `netdev_unregister`, if there is a `netdev`. -/
def unregisterNetdev : DeviceProgram Unit := do
  let a ← attachedRuntime
  if a.rt.netdev then
    tell .netdevUnregister
    changeAttached fun a => { a with rt := { a.rt with netdev := false } }

/-- `ops->remove_interface`, if the interface was added and the operation is there. -/
def removeVif : DeviceProgram Unit := do
  let d ← get
  let a ← attachedRuntime
  if a.vifAdded && d.ops.removeInterface then tell .removeInterface
  changeAttached fun a => { a with vifAdded := false }

/-- `err_runtime` of `ieee80211_register_hw`. -/
def errRuntime (ret : Int) : DeviceProgram Int := do
  freeRuntime
  return ret

/-- `err_vif`. -/
def errVif (ret : Int) : DeviceProgram Int := do
  freeVif
  errRuntime ret

/-- `err_netdev`. -/
def errNetdev (ret : Int) : DeviceProgram Int := do
  unregisterNetdev
  errVif ret

/-- `err_remove_vif`. -/
def errRemoveVif (ret : Int) : DeviceProgram Int := do
  removeVif
  errNetdev ret

/-- `ops->add_interface`, if it is there. -/
def callAddInterface (env : Env) : DeviceProgram Int := do
  let d ← get
  if d.ops.addInterface then
    let ret ← query env.result
    tell (.addInterface ret)
    return ret
  else return 0

/-- `ops->start`, if it is there. -/
def callStart (env : Env) : DeviceProgram Int := do
  let d ← get
  if d.ops.start then
    let ret ← query env.result
    tell (.start ret)
    return ret
  else return 0

/-- `netdev_set_wireless_info` and the three triggers of the `netdev`, up to the first that
fails. -/
def setNetdev (env : Env) : DeviceProgram Int :=
  onRuntime do
    note (.wirelessInfo (fillWirelessInfo (← runtime)))
    askAll env 4

/-- The end of `ieee80211_register_hw`, behind what can fail. -/
def publishHw : DeviceProgram Int := do
  changeAttached fun a => { a with rt := { a.rt with started := true } }
  tell (.adminState true)
  onRuntime (setLinkState false)
  modify fun d => { d with listed := true }
  return 0

/-- The steps of `ieee80211_register_hw` that call the driver. -/
def beginHw (env : Env) : DeviceProgram Int := do
  let ret ← callAddInterface env
  if ret ≠ 0 then errNetdev ret else
  changeAttached fun a => { a with vifAdded := true }
  let ret ← callStart env
  if ret ≠ 0 then errRemoveVif ret else
  publishHw

/-- `ieee80211_register_hw`. -/
def ieee80211RegisterHw (env : Env) : DeviceProgram Int := do
  let d ← get
  match defaultChannel d.hw with
  | none => return -EINVAL
  | some hw =>
    modify fun d => { d with hw := hw }
    let given ← kzallocBlock env .runtime
    if !given then return -ENOMEM
    modify fun d => { d with attached := some ⟨.fresh hw, false, false⟩ }
    let ret ← allocVif env
    if ret ≠ 0 then errRuntime ret else
    let registered ← query env.kzalloc
    if !registered then errVif (-ENOMEM) else
    tell .netdevRegister
    changeAttached fun a => { a with rt := { a.rt with netdev := true } }
    let ret ← setNetdev env
    if ret ≠ 0 then errNetdev ret else
    beginHw env

/-- `skb_queue_purge` of `rx_queue`. -/
def purgeRxQueue : Kernel Unit := do
  let rt ← runtime
  modify fun m => { m with trace := (rt.rxQueue.map fun skb => .freeSkb skb.id).reverse ++ m.trace }
  change fun rt => { rt with rxQueue := [] }

/-- `ops->stop`, if the device was started and the operation is there. -/
def stopHw : DeviceProgram Unit := do
  let d ← get
  let a ← attachedRuntime
  if a.rt.started && d.ops.stop then tell .stop
  changeAttached fun a => { a with rt := { a.rt with started := false } }

/-- What `ieee80211_unregister_hw` does to the runtime before its interface is freed. -/
def clearRuntime : Kernel Unit := do
  configureScanFilter false
  freeScanReq
  freeSta
  purgeRxQueue

/-- The steps of `ieee80211_unregister_hw` behind the end of the connection. -/
def endHw : DeviceProgram Unit := do
  stopHw
  removeVif
  unregisterNetdev
  onRuntime clearRuntime
  freeVif
  freeRuntime

/-- `ieee80211_unregister_hw`. -/
def ieee80211UnregisterHw : DeviceProgram Unit := do
  let d ← get
  match d.attached with
  | none => return
  | some a =>
    modify fun d => { d with listed := false }
    if a.rt.netdev then tell (.adminState false)
    if a.rt.connState ≠ .disconnected then
      onRuntime (disconnectLocal wlanReasonDeauthLeaving 0 false)
    endHw

section Steps

variable {d : Device} {a : Attached}

@[simp]
theorem runs_tell {event : DeviceEvent} {holds : Unit → Device → Prop} :
    (tell event).runs holds d ↔ holds () { d with trace := event :: d.trace } := by
  simp [tell]

@[simp]
theorem runs_query {α : Type} {answer : Nat → α} {holds : α → Device → Prop} :
    (query answer).runs holds d ↔ holds (answer d.calls) { d with calls := d.calls + 1 } := by
  simp [query]

@[simp]
theorem runs_changeAttached {update : Attached → Attached} {holds : Unit → Device → Prop} :
    (changeAttached update).runs holds d ↔
      holds () { d with attached := d.attached.map update } := by
  simp [changeAttached]

/-- The runtime is read. -/
theorem runs_attachedRuntime {holds : Attached → Device → Prop} :
    attachedRuntime.runs holds d ↔ ∃ a, d.attached = some a ∧ holds a d := by
  simp [attachedRuntime]

/-- A function of the runtime changes the runtime, and its calls are noted. -/
theorem runs_onRuntime {α : Type} {program : Kernel α} {holds : α → Device → Prop}
    (here : d.attached = some a) :
    (onRuntime program).runs holds d ↔ program.runs (fun value m => holds value { d with
      attached := some { a with rt := m.rt }, calls := m.calls,
      trace := m.trace.map DeviceEvent.station ++ d.trace }) ⟨a.rt, d.calls, []⟩ := by
  simp only [onRuntime, Program.runs_bind, Program.runs_get, runs_attachedRuntime, here,
    Option.some.injEq, exists_eq_left', Program.runs_require, Prod.exists, Program.runs_set,
    Program.runs_pure]
  rfl

end Steps

/-- What `lcompat_ieee80211_free_vif` calls, newest first. -/
def vifFreed (a : Attached) : List DeviceEvent :=
  (if a.rt.vif.isSome then [.free .vif] else []) ++ if a.txq then [.free .txq] else []

/-- What the unregistration of the `netdev` calls. -/
def netdevGone (a : Attached) : List DeviceEvent :=
  if a.rt.netdev then [.netdevUnregister] else []

/-- What the removal of the interface calls. -/
def interfaceGone (a : Attached) (ops : LifeOps) : List DeviceEvent :=
  if a.vifAdded && ops.removeInterface then [.removeInterface] else []

/-- What taking back a registration calls, newest first. -/
def unwound (a : Attached) (ops : LifeOps) : List DeviceEvent :=
  .free .runtime :: vifFreed a ++ netdevGone a ++ interfaceGone a ops

/-- Whether an event is a call of `ops->start`. -/
def DeviceEvent.isStart : DeviceEvent → Bool
  | .start _ => true
  | _ => false

/-- Whether the interface has been added: `ops->add_interface` has succeeded, or the device has been
started where there is no such operation. -/
def interfaceAdded (ops : LifeOps) (events : List DeviceEvent) : Bool :=
  if ops.addInterface then events.contains (.addInterface 0) else events.any DeviceEvent.isStart

/-- Whether a runtime has a block. -/
def Attached.holds (a : Attached) : Block → Bool
  | .runtime => true
  | .vif => a.rt.vif.isSome
  | .txq => a.txq

/-- What the calls of a registration so far have to do with the runtime. -/
structure Progress (ops : LifeOps) (a : Attached) (events : List DeviceEvent) : Prop where
  /-- No block has been allocated twice. -/
  once : ∀ block, events.count (.alloc block) ≤ 1
  /-- A block that has been allocated and not freed is the runtime's. -/
  held : ∀ block, events.count (.alloc block) =
    events.count (.free block) + (a.holds block).toNat
  /-- The `netdev` is the runtime's. -/
  registered : events.count .netdevRegister = a.rt.netdev.toNat
  /-- It has not been unregistered. -/
  unregistered : events.count .netdevUnregister = 0
  /-- The interface has been added to the driver if the runtime says so. -/
  added : a.vifAdded = interfaceAdded ops events
  /-- It has not been removed. -/
  unremoved : events.count .removeInterface = 0

/-- Calls that have taken back what they did. -/
structure TakenBack (ops : LifeOps) (events : List DeviceEvent) : Prop where
  /-- No block has been allocated twice. -/
  once : ∀ block, events.count (.alloc block) ≤ 1
  /-- A block has been freed once if it has been allocated, and has not been freed otherwise. -/
  freed : ∀ block, events.count (.free block) = events.count (.alloc block)
  /-- At most one `netdev` has been registered. -/
  single : events.count .netdevRegister ≤ 1
  /-- It has been unregistered once if it has been registered. -/
  unregistered : events.count .netdevUnregister = events.count .netdevRegister
  /-- The interface has been removed once if it has been added, where the operation is there. -/
  removed : events.count .removeInterface = (interfaceAdded ops events && ops.removeInterface).toNat

/-- A registration that has failed, between two devices. -/
structure Undone (d d' : Device) : Prop where
  /-- No runtime is attached. -/
  attached : d'.attached = none
  /-- No runtime is on the list. -/
  listed : d'.listed = false
  /-- What has been called has been taken back. -/
  events : ∃ events, d'.trace = events ++ d.trace ∧ TakenBack d.ops events

/-- A registration that has come to some runtime, between two devices. -/
structure Building (d : Device) (a : Attached) (d' : Device) : Prop where
  /-- The runtime is attached. -/
  attached : d'.attached = some a
  /-- It is not on the list yet. -/
  listed : d'.listed = false
  /-- The operations have not changed. -/
  ops : d'.ops = d.ops
  /-- What has been called. -/
  events : ∃ events, d'.trace = events ++ d.trace ∧ Progress d.ops a events

/-- Taking back what has been done takes back all of it. -/
theorem Progress.takenBack {ops : LifeOps} {a : Attached} {events : List DeviceEvent}
    (progress : Progress ops a events) : TakenBack ops (unwound a ops ++ events) := by
  obtain ⟨once, held, registered, unregistered, added, unremoved⟩ := progress
  have alloc : ∀ block, (unwound a ops).count (.alloc block) = 0 := by
    intro block
    rw [List.count_eq_zero]
    simp [unwound, vifFreed, netdevGone, interfaceGone]
  have free : ∀ block, (unwound a ops).count (.free block) = (a.holds block).toNat := by
    intro block
    simp only [unwound, vifFreed, netdevGone, interfaceGone, Attached.holds]
    cases block <;> cases a.rt.vif.isSome <;> cases a.txq <;> cases a.rt.netdev <;>
      cases a.vifAdded && ops.removeInterface <;> rfl
  have same : interfaceAdded ops (unwound a ops ++ events) = interfaceAdded ops events := by
    have none : ∀ ret, DeviceEvent.addInterface ret ∉ unwound a ops := by
      simp [unwound, vifFreed, netdevGone, interfaceGone]
    have still : (unwound a ops).any DeviceEvent.isStart = false := by
      simp only [unwound, vifFreed, netdevGone, interfaceGone]
      cases a.rt.vif.isSome <;> cases a.txq <;> cases a.rt.netdev <;>
        cases a.vifAdded && ops.removeInterface <;> rfl
    simp [interfaceAdded, none, still]
  have gone : (unwound a ops).count .netdevUnregister = a.rt.netdev.toNat ∧
      (unwound a ops).count .netdevRegister = 0 ∧
      (unwound a ops).count .removeInterface = (a.vifAdded && ops.removeInterface).toNat := by
    simp only [unwound, vifFreed, netdevGone, interfaceGone]
    cases a.rt.vif.isSome <;> cases a.txq <;> cases a.rt.netdev <;>
      cases a.vifAdded && ops.removeInterface <;> exact ⟨rfl, rfl, rfl⟩
  obtain ⟨unregister, register, remove⟩ := gone
  refine ⟨fun block => ?_, fun block => ?_, ?_, ?_, ?_⟩
  · rw [List.count_append, alloc, Nat.zero_add]
    exact once block
  · rw [List.count_append, List.count_append, alloc, free, held]
    omega
  · rw [List.count_append, register, registered, Nat.zero_add]
    exact a.rt.netdev.toNat_le
  · rw [List.count_append, List.count_append, unregister, register, registered, unregistered]
    omega
  · rw [List.count_append, remove, unremoved, same, ← added, Nat.add_zero]

/-- Whether an event is no part of what a registration takes back. -/
def DeviceEvent.isPlain : DeviceEvent → Bool
  | .adminState _ | .addInterface _ | .start _ | .stop | .station _ => true
  | _ => false

/-- A call that is no part of what is taken back is told. -/
theorem Progress.tell {ops : LifeOps} {a : Attached} {events : List DeviceEvent}
    (progress : Progress ops a events) {event : DeviceEvent} (plain : event.isPlain = true)
    {vifAdded : Bool} (added : vifAdded = interfaceAdded ops (event :: events)) :
    Progress ops { a with vifAdded } (event :: events) := by
  have other : ∀ counted : DeviceEvent, counted.isPlain = false →
      (event :: events).count counted = events.count counted := by
    intro counted unlike
    refine List.count_cons_of_ne fun same => ?_
    rw [same, unlike] at plain
    cases plain
  obtain ⟨once, held, registered, unregistered, -, unremoved⟩ := progress
  refine ⟨fun block => ?_, fun block => ?_, ?_, ?_, added, ?_⟩
  · rw [other _ rfl]
    exact once block
  · rw [other _ rfl, other _ rfl, held]
    rfl
  · rw [other _ rfl, registered]
  · rw [other _ rfl, unregistered]
  · rw [other _ rfl, unremoved]

/-- The `netdev` is registered. -/
theorem Progress.register {ops : LifeOps} {a : Attached} {events : List DeviceEvent}
    (progress : Progress ops a events) (unregistered : a.rt.netdev = false) :
    Progress ops { a with rt := { a.rt with netdev := true } } (.netdevRegister :: events) := by
  obtain ⟨once, held, registered, gone, added, unremoved⟩ := progress
  refine ⟨fun block => ?_, fun block => ?_, ?_, ?_, ?_, ?_⟩
  · rw [List.count_cons_of_ne (by simp)]
    exact once block
  · rw [List.count_cons_of_ne (by simp), List.count_cons_of_ne (by simp), held]
    cases block <;> rfl
  · rw [List.count_cons_self, registered, unregistered]
    rfl
  · rw [List.count_cons_of_ne (by simp), gone]
  · rw [added]
    simp [interfaceAdded, DeviceEvent.isStart]
  · rw [List.count_cons_of_ne (by simp), unremoved]

variable {d d₁ d' : Device} {a : Attached}

/-- A registration of which everything has been taken back is undone. -/
theorem Building.undone (building : Building d a d₁) (detached : d'.attached = none)
    (listed : d'.listed = d₁.listed) (trace : d'.trace = unwound a d.ops ++ d₁.trace) :
    Undone d d' := by
  obtain ⟨-, unlisted, -, events, told, progress⟩ := building
  refine ⟨detached, listed.trans unlisted, unwound a d.ops ++ events, ?_, progress.takenBack⟩
  rw [trace, told, List.append_assoc]

section Unwinding

variable {holds : Unit → Device → Prop}

/-- The interface and its queue are freed. -/
theorem runs_freeVif (here : d.attached = some a) : freeVif.runs holds d ↔ holds () { d with
    attached := some { a with rt := { a.rt with vif := none }, txq := false }
    trace := vifFreed a ++ d.trace } := by
  simp only [freeVif, Program.runs_bind, runs_attachedRuntime, here, Option.some.injEq,
    exists_eq_left', Program.runs_ite, runs_tell, runs_changeAttached, vifFreed]
  cases a.txq <;> cases a.rt.vif.isSome <;> simp

/-- The `netdev` is unregistered. -/
theorem runs_unregisterNetdev (here : d.attached = some a) :
    unregisterNetdev.runs holds d ↔ holds () { d with
      attached := some { a with rt := { a.rt with netdev := false } }
      trace := netdevGone a ++ d.trace } := by
  simp only [unregisterNetdev, Program.runs_bind, runs_attachedRuntime, here, Option.some.injEq,
    exists_eq_left', Program.runs_ite, runs_tell, runs_changeAttached, Program.runs_pure,
    netdevGone]
  cases there : a.rt.netdev
  · have same : { a with rt := { a.rt with netdev := false } } = a := by rw [← there]
    simp [same, ← here]
  · simp

/-- The interface is removed from the driver. -/
theorem runs_removeVif (here : d.attached = some a) : removeVif.runs holds d ↔ holds () { d with
    attached := some { a with vifAdded := false }
    trace := interfaceGone a d.ops ++ d.trace } := by
  simp only [removeVif, Program.runs_bind, Program.runs_get, runs_attachedRuntime, here,
    Option.some.injEq, exists_eq_left', Program.runs_ite, runs_tell, runs_changeAttached,
    interfaceGone]
  cases a.vifAdded && d.ops.removeInterface <;> simp

/-- The runtime is freed. -/
theorem runs_freeRuntime (here : d.attached = some a) : freeRuntime.runs holds d ↔ holds () { d with
    hw := a.rt.hw, attached := none, trace := .free .runtime :: d.trace } := by
  simp only [freeRuntime, Program.runs_bind, runs_attachedRuntime, here, Option.some.injEq,
    exists_eq_left', Program.runs_modify, runs_tell]

/-- Everything that was done is taken back. -/
theorem runs_errRemoveVif (building : Building d a d₁) (ret : Int) :
    (errRemoveVif ret).runs (fun out d' => out = ret ∧ Undone d d') d₁ := by
  simp only [errRemoveVif, errNetdev, errVif, errRuntime, Program.runs_bind, Program.runs_pure]
  rw [runs_removeVif building.attached, runs_unregisterNetdev rfl, runs_freeVif rfl,
    runs_freeRuntime rfl]
  refine ⟨trivial, building.undone rfl rfl ?_⟩
  simp [unwound, vifFreed, netdevGone, interfaceGone, building.ops]

/-- Everything is taken back where no interface was added. -/
theorem runs_errNetdev (building : Building d a d₁) (unadded : a.vifAdded = false) (ret : Int) :
    (errNetdev ret).runs (fun out d' => out = ret ∧ Undone d d') d₁ := by
  simp only [errNetdev, errVif, errRuntime, Program.runs_bind, Program.runs_pure]
  rw [runs_unregisterNetdev building.attached, runs_freeVif rfl, runs_freeRuntime rfl]
  refine ⟨trivial, building.undone rfl rfl ?_⟩
  simp [unwound, vifFreed, netdevGone, interfaceGone, unadded]

/-- Everything is taken back where there is no `netdev` either. -/
theorem runs_errVif (building : Building d a d₁) (unadded : a.vifAdded = false)
    (unregistered : a.rt.netdev = false) (ret : Int) :
    (errVif ret).runs (fun out d' => out = ret ∧ Undone d d') d₁ := by
  simp only [errVif, errRuntime, Program.runs_bind, Program.runs_pure]
  rw [runs_freeVif building.attached, runs_freeRuntime rfl]
  refine ⟨trivial, building.undone rfl rfl ?_⟩
  simp [unwound, vifFreed, netdevGone, interfaceGone, unadded, unregistered]

/-- The runtime is taken back where there is nothing else. -/
theorem runs_errRuntime (building : Building d a d₁) (unadded : a.vifAdded = false)
    (unregistered : a.rt.netdev = false) (bare : a.rt.vif = none ∧ a.txq = false) (ret : Int) :
    (errRuntime ret).runs (fun out d' => out = ret ∧ Undone d d') d₁ := by
  simp only [errRuntime, Program.runs_bind, Program.runs_pure]
  rw [runs_freeRuntime building.attached]
  refine ⟨trivial, building.undone rfl rfl ?_⟩
  simp [unwound, vifFreed, netdevGone, interfaceGone, unadded, unregistered, bare]

end Unwinding

section Registration

variable {env : Env}

/-- A block is allocated, or is not. -/
theorem runs_kzallocBlock {block : Block} {holds : Bool → Device → Prop} :
    (kzallocBlock env block).runs holds d ↔ holds (env.kzalloc d.calls) { d with
      calls := d.calls + 1
      trace := (if env.kzalloc d.calls then [.alloc block] else []) ++ d.trace } := by
  simp only [kzallocBlock, Program.runs_bind, runs_query, Program.runs_ite, runs_tell,
    Program.runs_pure]
  cases env.kzalloc d.calls <;> simp

/-- A runtime that has just been attached. -/
def Attached.bare (hw : Hw) : Attached := ⟨.fresh hw, false, false⟩

/-- A runtime with an interface. -/
def Attached.withVif (hw : Hw) : Attached where
  rt := { Runtime.fresh hw with vif := some (.fresh hw.permAddr) }
  txq := true
  vifAdded := false

/-- A runtime with a `netdev`. -/
def Attached.withNetdev (hw : Hw) : Attached :=
  { Attached.withVif hw with rt := { (Attached.withVif hw).rt with netdev := true } }

/-- Allocations and nothing else. -/
theorem Progress.of_blocks {ops : LifeOps} {a : Attached} {events : List DeviceEvent}
    (bare : a.rt.netdev = false ∧ a.vifAdded = false)
    (blocks : ∀ event ∈ events, ∃ block, event = .alloc block ∨ event = .free block)
    (once : ∀ block, events.count (.alloc block) ≤ 1)
    (held : ∀ block, events.count (.alloc block) =
      events.count (.free block) + (a.holds block).toNat) : Progress ops a events := by
  have absent : ∀ event : DeviceEvent, (∀ block, event ≠ .alloc block ∧ event ≠ .free block) →
      event ∉ events := by
    intro event other mem
    obtain ⟨block, same | same⟩ := blocks event mem
    · exact (other block).1 same
    · exact (other block).2 same
  have none : ∀ event : DeviceEvent, (∀ block, event ≠ .alloc block ∧ event ≠ .free block) →
      events.count event = 0 := fun event other => List.count_eq_zero.mpr (absent event other)
  have unadded : interfaceAdded ops events = false := by
    unfold interfaceAdded
    split
    · simpa using absent (.addInterface 0) (by simp)
    · rw [List.any_eq_false]
      intro event mem
      obtain ⟨block, rfl | rfl⟩ := blocks event mem <;> simp [DeviceEvent.isStart]
  refine ⟨once, held, ?_, none _ (by simp), bare.2.trans unadded.symm, none _ (by simp)⟩
  rw [none _ (by simp), bare.1]
  rfl

/-- The interface is allocated with its queue, or neither is left. -/
theorem runs_allocVif {hw : Hw} (here : d₁.attached = some (.bare hw))
    (unlisted : d₁.listed = false) (ops : d₁.ops = d.ops)
    (told : d₁.trace = .alloc .runtime :: d.trace) :
    (allocVif env).runs (fun ret d₂ => ret ≠ 0 ∧ Building d (.bare hw) d₂ ∨
      ret = 0 ∧ Building d (.withVif hw) d₂) d₁ := by
  simp only [allocVif, Program.runs_bind, Program.runs_get, runs_attachedRuntime, here,
    Option.some.injEq, exists_eq_left', Program.runs_ite, runs_kzallocBlock, runs_tell,
    runs_changeAttached, Program.runs_pure]
  split
  · refine .inl ⟨by decide, here, unlisted, ops, [.alloc .runtime], told, ?_⟩
    refine .of_blocks ⟨rfl, rfl⟩ (by simp) ?_ ?_
    · rintro ⟨⟩ <;> decide
    · rintro ⟨⟩ <;> rfl
  cases env.kzalloc d₁.calls <;> cases env.kzalloc (d₁.calls + 1)
  · refine .inl ⟨by decide, rfl, unlisted, ops, [.alloc .runtime], by simp [told], ?_⟩
    refine .of_blocks ⟨rfl, rfl⟩ (by simp) ?_ ?_
    · rintro ⟨⟩ <;> decide
    · rintro ⟨⟩ <;> rfl
  · refine .inl ⟨by decide, rfl, unlisted, ops,
      [.free .txq, .alloc .txq, .alloc .runtime], by simp [told], ?_⟩
    refine .of_blocks ⟨rfl, rfl⟩ (by simp) ?_ ?_
    · rintro ⟨⟩ <;> decide
    · rintro ⟨⟩ <;> rfl
  · refine .inl ⟨by decide, rfl, unlisted, ops,
      [.free .vif, .alloc .vif, .alloc .runtime], by simp [told], ?_⟩
    refine .of_blocks ⟨rfl, rfl⟩ (by simp) ?_ ?_
    · rintro ⟨⟩ <;> decide
    · rintro ⟨⟩ <;> rfl
  · refine .inr ⟨trivial, rfl, unlisted, ops,
      [.alloc .txq, .alloc .vif, .alloc .runtime], by simp [told], ?_⟩
    refine .of_blocks ⟨rfl, rfl⟩ (by simp) ?_ ?_
    · rintro ⟨⟩ <;> decide
    · rintro ⟨⟩ <;> rfl

/-- `ops->add_interface` answers, if it is there. -/
theorem runs_callAddInterface {holds : Int → Device → Prop} :
    (callAddInterface env).runs holds d ↔ if d.ops.addInterface then
      holds (env.result d.calls) { d with
        calls := d.calls + 1, trace := .addInterface (env.result d.calls) :: d.trace }
      else holds 0 d := by
  simp only [callAddInterface, Program.runs_bind, Program.runs_get, Program.runs_ite, runs_query,
    runs_tell, Program.runs_pure]

/-- `ops->start` answers, if it is there. -/
theorem runs_callStart {holds : Int → Device → Prop} :
    (callStart env).runs holds d ↔ if d.ops.start then
      holds (env.result d.calls) { d with
        calls := d.calls + 1, trace := .start (env.result d.calls) :: d.trace }
      else holds 0 d := by
  simp only [callStart, Program.runs_bind, Program.runs_get, Program.runs_ite, runs_query,
    runs_tell, Program.runs_pure]

/-- A device whose runtime is registered and consistent. -/
structure Alive (d : Device) (a : Attached) : Prop where
  /-- The runtime is attached. -/
  attached : d.attached = some a
  /-- It is on the list. -/
  listed : d.listed = true
  /-- What it holds of its connection is consistent. -/
  consistent : Consistent a.rt
  /-- The queue of its interface is there. -/
  txq : a.txq = true
  /-- Its interface has been added to the driver. -/
  vifAdded : a.vifAdded = true

/-- The end of a registration. -/
theorem runs_publishHw {hw : Hw} (here : d.attached = some { Attached.withNetdev hw with
    vifAdded := true }) : publishHw.runs (fun ret d' => ret = 0 ∧ ∃ a, Alive d' a) d := by
  simp only [publishHw, Program.runs_bind, runs_changeAttached, here, Option.map_some, runs_tell]
  rw [runs_onRuntime rfl]
  simp only [setLinkState, Program.runs_bind, runs_runtime, Program.runs_ite, runs_note,
    Program.runs_modify, Program.runs_pure]
  refine ⟨trivial, _, rfl, rfl, ?_, rfl, rfl⟩
  refine ⟨⟨_, rfl, ?_, ?_, ?_, fun _ => rfl⟩, ?_, ?_, fun _ => ⟨rfl, rfl⟩, rfl, rfl⟩
  all_goals simp [Attached.withNetdev, Attached.withVif, Runtime.fresh, Vif.fresh]

/-- A registration either fails, and is undone, or leaves a runtime. -/
def Settled (d : Device) (ret : Int) (d' : Device) : Prop :=
  ret ≠ 0 ∧ Undone d d' ∨ ret = 0 ∧ ∃ a, Alive d' a

/-- The calls of the driver succeed, or everything is taken back. -/
theorem runs_beginHw {hw : Hw} (building : Building d (.withNetdev hw) d₁) :
    (beginHw env).runs (Settled d) d₁ := by
  obtain ⟨here, unlisted, ops, events, told, progress⟩ := building
  have unadded := progress.added
  -- the device is started once the interface has been added
  have started : ∀ d₂ : Device, d₂.attached = some (.withNetdev hw) → d₂.listed = false →
      d₂.ops = d.ops → (∀ ret, ∃ events, .start ret :: d₂.trace = events ++ d.trace ∧
        Progress d.ops { Attached.withNetdev hw with vifAdded := true } events) →
      (do
        changeAttached fun a => { a with vifAdded := true }
        let ret ← callStart env
        if ret ≠ 0 then errRemoveVif ret else publishHw).runs (Settled d) d₂ := by
    intro d₂ here unlisted ops failing
    simp only [Program.runs_bind, runs_changeAttached, here, Option.map_some, runs_callStart]
    split
    · rw [Program.runs_ite]
      split
      · rename_i failed
        have building : Building d { Attached.withNetdev hw with vifAdded := true } { d₂ with
            attached := some { Attached.withNetdev hw with vifAdded := true }
            calls := d₂.calls + 1, trace := .start (env.result d₂.calls) :: d₂.trace } :=
          ⟨rfl, unlisted, ops, failing _⟩
        refine (runs_errRemoveVif building _).mono ?_
        rintro ret d' ⟨rfl, undone⟩
        exact .inl ⟨failed, undone⟩
      · exact (runs_publishHw rfl).mono fun ret d' alive => .inr alive
    · rw [if_neg (by simp)]
      exact (runs_publishHw rfl).mono fun ret d' alive => .inr alive
  unfold beginHw
  rw [Program.runs_bind, runs_callAddInterface]
  split
  · rename_i present
    rw [ops] at present
    by_cases failed : env.result d₁.calls ≠ 0
    · rw [if_pos failed]
      have refused : Building d (.withNetdev hw) { d₁ with
          calls := d₁.calls + 1, trace := .addInterface (env.result d₁.calls) :: d₁.trace } := by
        refine ⟨here, unlisted, ops, .addInterface (env.result d₁.calls) :: events, ?_,
          progress.tell rfl ?_⟩
        · rw [told, List.cons_append]
        · refine unadded.trans ?_
          simp [interfaceAdded, present, Ne.symm failed]
      refine (runs_errNetdev refused rfl _).mono ?_
      rintro ret d' ⟨rfl, undone⟩
      exact .inl ⟨failed, undone⟩
    · rw [if_neg failed]
      refine started _ here unlisted ops fun ret =>
        ⟨.start ret :: .addInterface 0 :: events, ?_, ?_⟩
      · simp [told, not_not.mp failed]
      · have one : Progress d.ops { Attached.withNetdev hw with vifAdded := true }
            (.addInterface 0 :: events) :=
          progress.tell rfl (by simp [interfaceAdded, present])
        exact one.tell rfl (by simp [interfaceAdded, present])
  · rename_i absent
    rw [ops] at absent
    rw [if_neg (by simp)]
    refine started _ here unlisted ops fun ret => ⟨.start ret :: events, ?_, ?_⟩
    · rw [told, List.cons_append]
    · exact progress.tell rfl (by simp [interfaceAdded, absent, DeviceEvent.isStart])

/-- Asking operations leaves the runtime and the trace alone. -/
theorem runs_askAll (count : Nat) (m : Machine) :
    (askAll env count).runs (fun _ m' => m'.rt = m.rt ∧ m'.trace = m.trace) m := by
  induction count generalizing m with
  | zero =>
    rw [askAll, Program.runs_pure]
    exact ⟨rfl, rfl⟩
  | succ count ih =>
    simp only [askAll, Program.runs_bind, runs_ask, Program.runs_ite, Program.runs_pure]
    split
    · exact ⟨trivial, trivial⟩
    · exact ih _

/-- The wireless state and the triggers are set, or not all of them. -/
theorem runs_setNetdev (building : Building d a d₁) :
    (setNetdev env).runs (fun _ d₂ => Building d a d₂) d₁ := by
  obtain ⟨here, unlisted, ops, events, told, progress⟩ := building
  unfold setNetdev
  rw [runs_onRuntime here]
  simp only [Program.runs_bind, runs_runtime, runs_note]
  refine (runs_askAll 4 _).mono ?_
  rintro ret m ⟨rt, trace⟩
  refine ⟨?_, unlisted, ops, .station (.wirelessInfo (fillWirelessInfo a.rt)) :: events, ?_, ?_⟩
  · rw [rt]
  · rw [trace, told]
    rfl
  · refine progress.tell rfl ?_
    rw [progress.added]
    simp [interfaceAdded, DeviceEvent.isStart]

/-- A registration of a device without a runtime fails and is undone, or leaves a runtime. -/
theorem runs_ieee80211RegisterHw (unattached : d.attached = none) (unlisted : d.listed = false) :
    (ieee80211RegisterHw env).runs (Settled d) d := by
  have undone : ∀ d', d'.attached = none → d'.listed = false → d'.trace = d.trace →
      Undone d d' := by
    intro d' detached unlisted same
    refine ⟨detached, unlisted, [], same, ?_, ?_, ?_, ?_, ?_⟩
    all_goals simp [interfaceAdded]
  unfold ieee80211RegisterHw
  rw [Program.runs_bind, Program.runs_get]
  cases defaultChannel d.hw with
  | none =>
    rw [Program.runs_pure]
    exact .inl ⟨by decide, undone d unattached unlisted rfl⟩
  | some hw =>
    simp only [Program.runs_bind, Program.runs_modify, runs_kzallocBlock]
    split
    · rename_i failed
      have none : env.kzalloc d.calls = false := by simpa using failed
      rw [Program.runs_pure]
      refine .inl ⟨by decide, undone _ unattached unlisted ?_⟩
      rw [if_neg (by simp [none])]
      rfl
    rename_i given
    have given : env.kzalloc d.calls = true := by simpa using given
    simp only [Program.runs_bind, Program.runs_modify]
    have attach : (if env.kzalloc d.calls then [DeviceEvent.alloc .runtime] else []) ++ d.trace =
        .alloc .runtime :: d.trace := by
      rw [if_pos given]
      rfl
    have allocated : (allocVif env).runs (fun ret d₂ => ret ≠ 0 ∧ Building d (.bare hw) d₂ ∨
        ret = 0 ∧ Building d (.withVif hw) d₂) { d with
          hw := hw, attached := some (.bare hw), calls := d.calls + 1
          trace := (if env.kzalloc d.calls then [.alloc .runtime] else []) ++ d.trace } :=
      runs_allocVif rfl unlisted rfl attach
    refine allocated.mono fun ret d₂ allocated => ?_
    obtain ⟨failed, building⟩ | ⟨rfl, building⟩ := allocated
    · rw [if_pos failed]
      refine (runs_errRuntime building rfl rfl ⟨rfl, rfl⟩ _).mono ?_
      rintro ret d' ⟨rfl, undone⟩
      exact .inl ⟨failed, undone⟩
    rw [if_neg (by simp), Program.runs_bind, runs_query]
    have asked : Building d (.withVif hw) { d₂ with calls := d₂.calls + 1 } :=
      ⟨building.attached, building.listed, building.ops, building.events⟩
    split
    · refine (runs_errVif asked rfl rfl _).mono ?_
      rintro ret d' ⟨rfl, undone⟩
      exact .inl ⟨by decide, undone⟩
    obtain ⟨here, unlisted, ops, events, told, progress⟩ := asked
    simp only [Program.runs_bind, runs_tell, runs_changeAttached]
    have registered : Building d (.withNetdev hw) { d₂ with
        calls := d₂.calls + 1, trace := .netdevRegister :: d₂.trace
        attached := d₂.attached.map fun a => { a with rt := { a.rt with netdev := true } } } := by
      refine ⟨?_, unlisted, ops, .netdevRegister :: events, ?_, progress.register rfl⟩
      · exact congrArg (Option.map _) here
      · exact congrArg (List.cons _) told
    refine (runs_setNetdev registered).mono fun ret d₃ building => ?_
    by_cases failed : ret ≠ 0
    · rw [if_pos failed]
      refine (runs_errNetdev building rfl _).mono ?_
      rintro ret d' ⟨rfl, undone⟩
      exact .inl ⟨failed, undone⟩
    · rw [if_neg failed]
      exact runs_beginHw building

end Registration

end Lcompat.Mac80211
