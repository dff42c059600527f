import Lcompat.Errno
import Lcompat.Logic.Binding

/-!
# PCI drivers and their bindings

`pci.c` from `lcompat_pci_match_one` to `pci_unregister_driver`. The table of bindings and the
table of wrappers are lists of slots. `pci_register_driver` is a sequence of steps, since the
native bus may call back while it registers a native driver; the native callbacks are one step
each, and so is each device that the loop of `pci_register_driver` looks at. What drivers and the
native bus answer comes with the step.

A native driver is named by the slot of the binding it lies in. The native bus calls back with the
native drivers it was given, from the call of `regist_pci_driver` on; it is never told to forget
one. Devices keep their identification.
-/

namespace Lcompat.Pci

open Lcompat.Logic

/-- `PCI_ANY_ID`. -/
def PCI_ANY_ID : BitVec 32 := 0xffffffff

/-- `LCOMPAT_MAX_PCI_DRIVERS`. -/
def LCOMPAT_MAX_PCI_DRIVERS : Nat := 64

/-- `struct pci_device_id`, as far as it is looked at. -/
structure PciDeviceId where
  /-- `vendor`. -/
  vendor : BitVec 32
  /-- `device`. -/
  device : BitVec 32
  /-- `subvendor`. -/
  subvendor : BitVec 32
  /-- `subdevice`. -/
  subdevice : BitVec 32
  /-- `class`. -/
  class_ : BitVec 32
  /-- `class_mask`. -/
  classMask : BitVec 32

/-- The identification of a `pci_device_t`. -/
structure PciDevice where
  /-- `vendor_id`. -/
  vendorId : BitVec 32
  /-- `device_id`. -/
  deviceId : BitVec 32
  /-- `subsystem_vendor_id`. -/
  subsystemVendorId : BitVec 32
  /-- `subsystem_device_id`. -/
  subsystemDeviceId : BitVec 32
  /-- `class_code`. -/
  classCode : BitVec 32

/-- `struct pci_driver`: its id table, and which callbacks it has. -/
structure PciDriver where
  /-- `id_table` up to its end, or null. -/
  idTable : Option (List PciDeviceId)
  /-- Whether `probe` is set. -/
  probe : Bool
  /-- Whether `remove` is set. -/
  remove : Bool
  /-- Whether `shutdown` is set. -/
  shutdown : Bool

/-- `lcompat_pci_binding_t`, with what is read of its native driver. -/
structure Binding (Driver : Type) where
  /-- `used`. -/
  used : Bool
  /-- `linux_driver`. -/
  linuxDriver : Option Driver
  /-- `native_driver.private_data`, null or the slot of a binding. -/
  privateData : Option Nat
  deriving DecidableEq

/-- `lcompat_pci_wrapper_t` without the data that only drivers read. -/
structure Wrapper (Device : Type) where
  /-- `used`. -/
  used : Bool
  /-- `native`. -/
  native : Option Device
  deriving DecidableEq

/-- What does not change: drivers and devices. -/
structure Bus (Driver Device : Type) where
  /-- The drivers. -/
  drivers : Driver → PciDriver
  /-- The devices. -/
  devices : Device → PciDevice

/-- The next step of a call of `pci_register_driver`. -/
inductive RegisterPc where
  /-- `regist_pci_driver` is running for the native driver of a slot. -/
  | regist (slot : Nat)
  /-- The loop over `pci_devices`. -/
  | devices
  deriving DecidableEq

/-- The memory of `pci.c`. -/
structure State (Driver Device : Type) where
  /-- `lcompat_pci_bindings`. -/
  bindings : List (Binding Driver)
  /-- `lcompat_pci_wrappers`. -/
  wrappers : List (Wrapper Device)
  /-- The native drivers that the native bus was given, by their slots. -/
  native : List Nat
  /-- The call of `pci_register_driver` that is running, if one is, and its driver. -/
  registering : Option (Driver × RegisterPc)
  deriving DecidableEq

section Matching

/-- The condition on which the loop of `lcompat_pci_match_one` ends. -/
def PciDeviceId.isEnd (id : PciDeviceId) : Bool :=
  id.vendor == 0 && id.device == 0 && id.subvendor == 0 && id.subdevice == 0 && id.classMask == 0

/-- The body of that loop: an id fits a device. -/
def PciDeviceId.fits (id : PciDeviceId) (native : PciDevice) : Bool :=
  (id.vendor == PCI_ANY_ID || id.vendor == native.vendorId) &&
    (id.device == PCI_ANY_ID || id.device == native.deviceId) &&
    (id.subvendor == PCI_ANY_ID || id.subvendor == native.subsystemVendorId) &&
    (id.subdevice == PCI_ANY_ID || id.subdevice == native.subsystemDeviceId) &&
    (id.classMask == 0 || native.classCode &&& id.classMask == id.class_ &&& id.classMask)

/-- The loop of `lcompat_pci_match_one`. -/
def matchFrom (native : PciDevice) : List PciDeviceId → Option PciDeviceId
  | [] => none
  | id :: ids =>
    if id.isEnd then none else if id.fits native then some id else matchFrom native ids

/-- `lcompat_pci_match_one`. -/
def matchOne (ids : Option (List PciDeviceId)) (native : PciDevice) : Option PciDeviceId :=
  match ids with
  | none => none
  | some ids => matchFrom native ids

end Matching

variable {Driver Device : Type} [DecidableEq Driver] [DecidableEq Device]

/-- An id of a driver fits a device. -/
def Bus.fits (bus : Bus Driver Device) (driver : Driver) (dev : Device) : Bool :=
  (matchOne (bus.drivers driver).idTable (bus.devices dev)).isSome

/-- `lcompat_pci_wrap`: the wrapper of a device, which may be a new one. -/
def wrap (dev : Device) (wrappers : List (Wrapper Device)) :
    Option (List (Wrapper Device) × Nat) :=
  match wrappers.findIdx? fun wrapper => wrapper.used && wrapper.native == some dev with
  | some i => some (wrappers, i)
  | none =>
    match wrappers.findIdx? fun wrapper => !wrapper.used with
    | some i => some (wrappers.set i ⟨true, some dev⟩, i)
    | none => none

/-- The binding that the `private_data` of a native driver points to. -/
def State.privateData (s : State Driver Device) (slot : Nat) : Option (Binding Driver) :=
  (s.bindings[slot]?.bind (·.privateData)).bind (s.bindings[·]?)

/-- `lcompat_pci_native_match`. -/
def nativeMatch (bus : Bus Driver Device) (dev : Device) (slot : Nat)
    (s : State Driver Device) : Bool :=
  match s.privateData slot with
  | none => false
  | some binding =>
    match binding.linuxDriver with
    | none => false
    | some driver => bus.fits driver dev

/-- `lcompat_pci_native_probe`, with the answer of the driver's probe; also the driver whose
probe is called, if one is. -/
def nativeProbe (bus : Bus Driver Device) (dev : Device) (slot : Nat) (answer : Int)
    (s : State Driver Device) : State Driver Device × Int × Option Driver :=
  match (s.privateData slot).bind (·.linuxDriver) with
  | none => (s, -EINVAL, none)
  | some driver =>
    if !(bus.drivers driver).probe then (s, -EINVAL, none)
    else
      match wrap dev s.wrappers with
      | none => (s, -ENOMEM, none)
      | some (wrappers, _) =>
        if bus.fits driver dev then ({ s with wrappers := wrappers }, answer, some driver)
        else ({ s with wrappers := wrappers }, -ENODEV, none)

/-- The body of the loops of `lcompat_pci_native_remove` and `lcompat_pci_native_shutdown`: the
driver of a binding that is called for a device. -/
def callee (bus : Bus Driver Device) (callback : PciDriver → Bool) (dev : Device)
    (binding : Binding Driver) : Option Driver :=
  match binding.linuxDriver with
  | none => none
  | some driver =>
    if binding.used && callback (bus.drivers driver) && bus.fits driver dev then some driver
    else none

/-- The native callbacks that look for a driver in the table, and the driver they call. -/
def nativeCall (bus : Bus Driver Device) (callback : PciDriver → Bool) (dev : Device)
    (s : State Driver Device) : State Driver Device × Option Driver :=
  match wrap dev s.wrappers with
  | none => (s, none)
  | some (wrappers, _) =>
    ({ s with wrappers := wrappers }, s.bindings.findSome? (callee bus callback dev))

/-- `lcompat_pci_native_remove`. -/
def nativeRemove (bus : Bus Driver Device) (dev : Device) (s : State Driver Device) :
    State Driver Device × Option Driver :=
  nativeCall bus (·.remove) dev s

/-- `lcompat_pci_native_shutdown`. -/
def nativeShutdown (bus : Bus Driver Device) (dev : Device) (s : State Driver Device) :
    State Driver Device × Option Driver :=
  nativeCall bus (·.shutdown) dev s

/-- `pci_register_driver` up to the call of `regist_pci_driver`, or its result. -/
def registerDriver (bus : Bus Driver Device) (driver : Driver) (s : State Driver Device) :
    State Driver Device × Option Int :=
  if !(bus.drivers driver).probe then (s, some (-EINVAL))
  else
    match s.bindings.findIdx? fun binding => !binding.used with
    | none => (s, some (-ENOSPC))
    | some slot =>
      ({ s with
        bindings := s.bindings.set slot ⟨true, some driver, some slot⟩
        native := slot :: s.native
        registering := some (driver, .regist slot) }, none)

/-- `pci_register_driver` from the return of `regist_pci_driver` on, up to the loop, or its
result. A native driver that was refused is not kept. -/
def registReturned (driver : Driver) (slot : Nat) (ret : Int) (s : State Driver Device) :
    State Driver Device × Option Int :=
  if ret ≠ 0 then
    ({ s with native := s.native.erase slot, registering := none }, some ret)
  else ({ s with registering := some (driver, .devices) }, none)

/-- The loop of `pci_register_driver` at its next device, none at the end, with the answer of the
driver's probe; also whether the probe is called. Without a wrapper it has no defined
behaviour. -/
def probeNext (bus : Bus Driver Device) (driver : Driver) (dev : Option Device) (answer : Int)
    (s : State Driver Device) : Option (State Driver Device × Option Device) :=
  match dev with
  | none => some ({ s with registering := none }, none)
  | some dev =>
    if bus.fits driver dev then
      match wrap dev s.wrappers with
      | none => none
      | some (wrappers, _) =>
        let s := { s with wrappers := wrappers }
        some (if answer = 0 then { s with registering := none } else s, some dev)
    else some (s, none)

/-- `pci_unregister_driver`. -/
def unregisterDriver (driver : Driver) (s : State Driver Device) : State Driver Device :=
  match s.bindings.findIdx? fun binding => binding.used && binding.linuxDriver == some driver with
  | none => s
  | some slot =>
    { s with bindings := s.bindings.modify slot fun binding => { binding with used := false } }

/-- What happens next. -/
inductive Event (Driver Device : Type) where
  /-- `pci_register_driver` is called. -/
  | register (driver : Driver)
  /-- `regist_pci_driver` returns to it. -/
  | registReturned (ret : Int)
  /-- It looks at its next device. -/
  | probeNext (dev : Option Device) (answer : Int)
  /-- `pci_unregister_driver` is called. -/
  | unregister (driver : Driver)
  /-- The native bus matches a native driver with a device. -/
  | nativeMatch (dev : Device) (slot : Nat)
  /-- The native bus probes a device with a native driver. -/
  | nativeProbe (dev : Device) (slot : Nat) (answer : Int)
  /-- The native bus removes a device. -/
  | nativeRemove (dev : Device)
  /-- The native bus shuts a device down. -/
  | nativeShutdown (dev : Device)
  deriving DecidableEq

/-- One step. Registrations and their ends come one after the other. -/
def step (bus : Bus Driver Device) (s : State Driver Device) :
    Event Driver Device → Option (State Driver Device)
  | .register driver =>
    if s.registering = none then some (registerDriver bus driver s).1 else none
  | .registReturned ret =>
    match s.registering with
    | some (driver, .regist slot) => some (registReturned driver slot ret s).1
    | _ => none
  | .probeNext dev answer =>
    match s.registering with
    | some (driver, .devices) => (probeNext bus driver dev answer s).map (·.1)
    | _ => none
  | .unregister driver =>
    if s.registering = none then some (unregisterDriver driver s) else none
  | .nativeMatch _ slot => if slot ∈ s.native then some s else none
  | .nativeProbe dev slot answer =>
    if slot ∈ s.native then some (nativeProbe bus dev slot answer s).1 else none
  | .nativeRemove dev => some (nativeRemove bus dev s).1
  | .nativeShutdown dev => some (nativeShutdown bus dev s).1

/-- An empty binding. -/
def Binding.empty : Binding Driver := ⟨false, none, none⟩

/-- The tables when the module is loaded: `PCI_DEVICE_MAX` wrappers. -/
def start (wrappers : Nat) : State Driver Device where
  bindings := List.replicate LCOMPAT_MAX_PCI_DRIVERS .empty
  wrappers := List.replicate wrappers ⟨false, none⟩
  native := []
  registering := none

/-- Every sequence of calls and native callbacks. -/
def system (bus : Bus Driver Device) (wrappers : Nat) :
    System (State Driver Device) (Event Driver Device) where
  init s := s = start wrappers
  step := step bus

end Lcompat.Pci
