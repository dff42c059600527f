import Lcompat.Errno
import Lcompat.Logic.Binding

/-!
# USB drivers and their bindings

`usb.c` from `lcompat_usb_match_one` to `usb_deregister`. The table of bindings and the table of
wrappers are lists of slots; a wrapper stands for an interface of a device. What a driver answers
to a probe, whether the copy of the id table is allocated and for which native driver the native
bus probes comes with the step. What the native bus does while it registers a native driver follows
`usb_register_driver`; what it does while it forgets one comes before `usb_deregister`. A native
driver is named by the slot of the binding it lies in. Interfaces keep their descriptors.
-/

namespace Lcompat.UsbDrivers

open Lcompat.Logic

/-- `LCOMPAT_MAX_USB_DRIVERS`. -/
def LCOMPAT_MAX_USB_DRIVERS : Nat := 256

/-- `USB_DEVICE_ID_MATCH_VENDOR`. -/
def USB_DEVICE_ID_MATCH_VENDOR : BitVec 16 := 1 <<< 0

/-- `USB_DEVICE_ID_MATCH_PRODUCT`. -/
def USB_DEVICE_ID_MATCH_PRODUCT : BitVec 16 := 1 <<< 1

/-- `USB_DEVICE_ID_MATCH_INT_CLASS`. -/
def USB_DEVICE_ID_MATCH_INT_CLASS : BitVec 16 := 1 <<< 2

/-- `USB_DEVICE_ID_MATCH_INT_SUBCLASS`. -/
def USB_DEVICE_ID_MATCH_INT_SUBCLASS : BitVec 16 := 1 <<< 3

/-- `USB_DEVICE_ID_MATCH_INT_PROTOCOL`. -/
def USB_DEVICE_ID_MATCH_INT_PROTOCOL : BitVec 16 := 1 <<< 4

/-- `struct usb_device_id`, as far as it is looked at. -/
structure UsbDeviceId where
  /-- `match_flags`. -/
  matchFlags : BitVec 16
  /-- `idVendor`. -/
  idVendor : BitVec 16
  /-- `idProduct`. -/
  idProduct : BitVec 16
  /-- `bInterfaceClass`. -/
  bInterfaceClass : BitVec 8
  /-- `bInterfaceSubClass`. -/
  bInterfaceSubClass : BitVec 8
  /-- `bInterfaceProtocol`. -/
  bInterfaceProtocol : BitVec 8

/-- What is matched of a `usb_device_interface_t`, its descriptor and its `usbdev`. -/
structure UsbInterface where
  /-- `usbdev->vendorid`. -/
  vendorid : BitVec 16
  /-- `usbdev->productid`. -/
  productid : BitVec 16
  /-- `iface->bInterfaceClass`. -/
  bInterfaceClass : BitVec 8
  /-- `iface->bInterfaceSubClass`. -/
  bInterfaceSubClass : BitVec 8
  /-- `iface->bInterfaceProtocol`. -/
  bInterfaceProtocol : BitVec 8

/-- `struct usb_driver`: its id table, and which callbacks it has. -/
structure UsbDriver where
  /-- `id_table` up to its end, or null. -/
  idTable : Option (List UsbDeviceId)
  /-- Whether `probe` is set. -/
  probe : Bool
  /-- Whether `disconnect` is set. -/
  disconnect : Bool

/-- `lcompat_usb_binding_t`. -/
structure Binding (Driver : Type) where
  /-- `used`. -/
  used : Bool
  /-- `linux_driver`. -/
  linuxDriver : Option Driver
  deriving DecidableEq

/-- `lcompat_usb_wrapper_t` without the data that only drivers and transfers read. -/
structure Wrapper (Device Intf : Type) where
  /-- `used`. -/
  used : Bool
  /-- `native_dev` and `native_intf`. -/
  native : Option (Device × Intf)
  deriving DecidableEq

/-- What does not change: drivers and interfaces. -/
structure Bus (Driver Intf : Type) where
  /-- The drivers. -/
  drivers : Driver → UsbDriver
  /-- The interfaces. -/
  interfaces : Intf → UsbInterface

/-- The memory of `usb.c`. -/
structure State (Driver Device Intf : Type) where
  /-- `lcompat_usb_bindings`. -/
  bindings : List (Binding Driver)
  /-- `lcompat_usb_wrappers`. -/
  wrappers : List (Wrapper Device Intf)
  deriving DecidableEq

section Matching

/-- A flag of an id is set. -/
def UsbDeviceId.has (id : UsbDeviceId) (flag : BitVec 16) : Bool :=
  id.matchFlags &&& flag != 0

/-- The body of the loop of `lcompat_usb_match_one`: an id fits an interface. -/
def UsbDeviceId.fits (id : UsbDeviceId) (iface : UsbInterface) : Bool :=
  !(id.has USB_DEVICE_ID_MATCH_VENDOR && id.idVendor != iface.vendorid) &&
    !(id.has USB_DEVICE_ID_MATCH_PRODUCT && id.idProduct != iface.productid) &&
    !(id.has USB_DEVICE_ID_MATCH_INT_CLASS && id.bInterfaceClass != iface.bInterfaceClass) &&
    !(id.has USB_DEVICE_ID_MATCH_INT_SUBCLASS &&
      id.bInterfaceSubClass != iface.bInterfaceSubClass) &&
    !(id.has USB_DEVICE_ID_MATCH_INT_PROTOCOL &&
      id.bInterfaceProtocol != iface.bInterfaceProtocol)

/-- That loop, which ends at an id without flags. -/
def matchFrom (iface : UsbInterface) : List UsbDeviceId → Option UsbDeviceId
  | [] => none
  | id :: ids =>
    if id.matchFlags == 0 then none else if id.fits iface then some id else matchFrom iface ids

/-- `lcompat_usb_match_one`. -/
def matchOne (ids : Option (List UsbDeviceId)) (iface : UsbInterface) : Option UsbDeviceId :=
  match ids with
  | none => none
  | some ids => matchFrom iface ids

end Matching

variable {Driver Device Intf : Type} [DecidableEq Driver] [DecidableEq Device] [DecidableEq Intf]

/-- An id of a driver fits an interface. -/
def Bus.fits (bus : Bus Driver Intf) (driver : Driver) (intf : Intf) : Bool :=
  (matchOne (bus.drivers driver).idTable (bus.interfaces intf)).isSome

/-- `lcompat_usb_wrap`: the wrapper of an interface of a device, which may be a new one. -/
def wrap (dev : Device) (intf : Intf) (wrappers : List (Wrapper Device Intf)) :
    Option (List (Wrapper Device Intf) × Nat) :=
  match wrappers.findIdx? fun wrapper => wrapper.used && wrapper.native == some (dev, intf) with
  | some i => some (wrappers, i)
  | none =>
    match wrappers.findIdx? fun wrapper => !wrapper.used with
    | some i => some (wrappers.set i ⟨true, some (dev, intf)⟩, i)
    | none => none

/-- The binding that `lcompat_usb_native_probe` finds for the native driver that
`usb_get_current_probe_driver` returns, if it is one of a slot. -/
def currentBinding (current : Option Nat) (bindings : List (Binding Driver)) :
    Option (Binding Driver) :=
  (current.bind (bindings[·]?)).filter (·.used)

/-- `lcompat_usb_native_probe`, with the answer of the driver's probe; also the driver whose probe
is called, if one is. -/
def nativeProbe (bus : Bus Driver Intf) (current : Option Nat) (dev : Device) (intf : Intf)
    (answer : Int) (s : State Driver Device Intf) :
    State Driver Device Intf × Int × Option Driver :=
  match (currentBinding current s.bindings).bind (·.linuxDriver) with
  | none => (s, -EINVAL, none)
  | some driver =>
    if !(bus.drivers driver).probe then (s, -EINVAL, none)
    else
      match wrap dev intf s.wrappers with
      | none => (s, -ENOMEM, none)
      | some (wrappers, _) =>
        if bus.fits driver intf then ({ s with wrappers := wrappers }, answer, some driver)
        else ({ s with wrappers := wrappers }, -ENODEV, none)

/-- The body of the inner loop of `lcompat_usb_native_remove`: the driver of a binding whose
`disconnect` is called for an interface. -/
def callee (bus : Bus Driver Intf) (intf : Intf) (binding : Binding Driver) : Option Driver :=
  match binding.linuxDriver with
  | none => none
  | some driver =>
    if binding.used && (bus.drivers driver).disconnect && bus.fits driver intf then some driver
    else none

/-- The outer loop of `lcompat_usb_native_remove`: it gives the wrappers of a device back, and calls
a driver for each. -/
def removeFrom (bus : Bus Driver Intf) (dev : Device) (bindings : List (Binding Driver)) :
    List (Wrapper Device Intf) → List (Wrapper Device Intf) × List ((Device × Intf) × Driver)
  | [] => ([], [])
  | wrapper :: rest =>
    let (after, calls) := removeFrom bus dev bindings rest
    match wrapper.native with
    | none => (wrapper :: after, calls)
    | some (nativeDev, intf) =>
      if !wrapper.used || nativeDev != dev then (wrapper :: after, calls)
      else
        ({ wrapper with used := false } :: after,
          (bindings.findSome? (callee bus intf)).toList.map (fun driver =>
            ((nativeDev, intf), driver)) ++ calls)

/-- `lcompat_usb_native_remove`; also the drivers whose `disconnect` is called. -/
def nativeRemove (bus : Bus Driver Intf) (dev : Device) (s : State Driver Device Intf) :
    State Driver Device Intf × List ((Device × Intf) × Driver) :=
  let (wrappers, calls) := removeFrom bus dev s.bindings s.wrappers
  ({ s with wrappers := wrappers }, calls)

/-- `usb_register_driver`, and whether `native_ids` is allocated. -/
def registerDriver (bus : Bus Driver Intf) (driver : Driver) (allocated : Bool)
    (s : State Driver Device Intf) : State Driver Device Intf × Int :=
  if !(bus.drivers driver).probe then (s, -EINVAL)
  else
    match s.bindings.findIdx? fun binding => !binding.used with
    | none => (s, -ENOSPC)
    | some slot =>
      ({ s with bindings := s.bindings.set slot ⟨allocated, some driver⟩ },
        if allocated then 0 else -ENOMEM)

/-- `usb_deregister`. -/
def deregister (driver : Driver) (s : State Driver Device Intf) : State Driver Device Intf :=
  match s.bindings.findIdx? fun binding => binding.used && binding.linuxDriver == some driver with
  | none => s
  | some slot =>
    { s with bindings := s.bindings.modify slot fun binding => { binding with used := false } }

/-- What happens next. -/
inductive Event (Driver Device Intf : Type) where
  /-- `usb_register_driver` is called. -/
  | register (driver : Driver) (allocated : Bool)
  /-- `usb_deregister` is called. -/
  | deregister (driver : Driver)
  /-- The native bus probes an interface with a native driver. -/
  | nativeProbe (current : Option Nat) (dev : Device) (intf : Intf) (answer : Int)
  /-- The native bus removes a device. -/
  | nativeRemove (dev : Device)
  deriving DecidableEq

/-- One step. -/
def step (bus : Bus Driver Intf) (s : State Driver Device Intf) :
    Event Driver Device Intf → Option (State Driver Device Intf)
  | .register driver allocated => some (registerDriver bus driver allocated s).1
  | .deregister driver => some (deregister driver s)
  | .nativeProbe current dev intf answer => some (nativeProbe bus current dev intf answer s).1
  | .nativeRemove dev => some (nativeRemove bus dev s).1

/-- The tables when the module is loaded: `MAX_USBDEV_NUM` wrappers. -/
def start (wrappers : Nat) : State Driver Device Intf where
  bindings := List.replicate LCOMPAT_MAX_USB_DRIVERS ⟨false, none⟩
  wrappers := List.replicate wrappers ⟨false, none⟩

/-- Every sequence of calls and native callbacks. -/
def system (bus : Bus Driver Intf) (wrappers : Nat) :
    System (State Driver Device Intf) (Event Driver Device Intf) where
  init s := s = start wrappers
  step := step bus

end Lcompat.UsbDrivers
