import Lcompat.Pci.Wrappers

/-!
# The resources of a device

`lcompat_pci_wrap` stores the first and the last address of each BAR of a device that it wraps for
the first time, and `pci.h` makes a length of them again. An empty BAR has no last address; its
first one is stored in its place, which is what a BAR of one byte has.
-/

namespace Lcompat.Pci

open Lcompat.Logic

/-- An element of `bars` of a `pci_device_t`. -/
structure Bar where
  /-- `address`. -/
  address : UInt64
  /-- `size`. -/
  size : UInt64
  /-- `mmio`. -/
  mmio : Bool
  /-- `prefetchable`. -/
  prefetchable : Bool

/-- `struct resource`, without its name. -/
structure Resource where
  /-- `start`. -/
  start : UInt64
  /-- `end`. -/
  end_ : UInt64
  /-- `flags`. -/
  flags : UInt64

/-- `struct pci_dev`, as far as its resources. -/
structure PciDev where
  /-- `resource`. -/
  resource : Fin 6 → Resource

/-- `lcompat_pci_wrapper_t` with its `dev`. -/
structure DevWrapper (Device : Type) extends Wrapper Device where
  /-- `dev`. -/
  dev : PciDev

/-- `IORESOURCE_IO`. -/
def IORESOURCE_IO : UInt64 := 0x00000100

/-- `IORESOURCE_MEM`. -/
def IORESOURCE_MEM : UInt64 := 0x00000200

/-- `IORESOURCE_PREFETCH`. -/
def IORESOURCE_PREFETCH : UInt64 := 0x00002000

/-- `IORESOURCE_UNSET`. -/
def IORESOURCE_UNSET : UInt64 := 0x20000000

/-- The body of the loop of `lcompat_pci_wrap` over the BARs. -/
def barResource (bar : Bar) : Resource where
  start := bar.address
  end_ := if bar.size ≠ 0 then bar.address + bar.size - 1 else bar.address
  flags :=
    let flags := if bar.mmio then IORESOURCE_MEM else IORESOURCE_IO
    let flags := if bar.prefetchable then flags ||| IORESOURCE_PREFETCH else flags
    if bar.size = 0 then flags ||| IORESOURCE_UNSET else flags

/-- `pci_resource_start`. -/
def pciResourceStart (pdev : Option PciDev) (bar : Fin 6) : UInt64 :=
  match pdev with
  | none => 0
  | some pdev => (pdev.resource bar).start

/-- `pci_resource_end`. -/
def pciResourceEnd (pdev : Option PciDev) (bar : Fin 6) : UInt64 :=
  match pdev with
  | none => 0
  | some pdev => (pdev.resource bar).end_

/-- `pci_resource_len`. -/
def pciResourceLen (pdev : Option PciDev) (bar : Fin 6) : UInt64 :=
  match pdev with
  | none => 0
  | some pdev =>
    if (pdev.resource bar).end_ < (pdev.resource bar).start then 0
    else (pdev.resource bar).end_ - (pdev.resource bar).start + 1

variable {Device : Type} [DecidableEq Device]

/-- `lcompat_pci_wrap` with the resources that it stores. -/
def wrapDev (bars : Device → Fin 6 → Bar) (native : Device) (wrappers : List (DevWrapper Device)) :
    Option (List (DevWrapper Device) × Nat) :=
  match wrappers.findIdx? fun wrapper => wrapper.used && wrapper.native == some native with
  | some i => some (wrappers, i)
  | none =>
    match wrappers.findIdx? fun wrapper => !wrapper.used with
    | some i =>
      some (wrappers.set i ⟨⟨true, some native⟩, ⟨fun bar => barResource (bars native bar)⟩⟩, i)
    | none => none

/-- The table after calls of `lcompat_pci_wrap` for some devices. -/
def wrapDevs (bars : Device → Fin 6 → Bar) (wrappers : List (DevWrapper Device)) :
    List Device → List (DevWrapper Device)
  | [] => wrappers
  | native :: natives =>
    wrapDevs bars ((wrapDev bars native wrappers).elim wrappers Prod.fst) natives

/-- The table when the module is loaded. -/
def devWrappers (max : Nat) : List (DevWrapper Device) :=
  List.replicate max ⟨⟨false, none⟩, ⟨fun _ => ⟨0, 0, 0⟩⟩⟩

/-- No computation that `lcompat_pci_wrap` makes for the end of a BAR wraps. -/
def EndExact (bar : Bar) : Prop :=
  bar.size ≠ 0 →
    bar.address.toNat + bar.size.toNat < 2 ^ 64 ∧ 1 ≤ (bar.address + bar.size).toNat

/-- No computation that `pci_resource_len` makes for a resource wraps. -/
def LenExact (resource : Resource) : Prop :=
  ¬resource.end_ < resource.start →
    resource.start ≤ resource.end_ ∧ (resource.end_ - resource.start).toNat + 1 < 2 ^ 64

/-- A resource is as its BAR. -/
structure BarExact (bar : Bar) (pdev : PciDev) (i : Fin 6) : Prop where
  /-- `pci_resource_len` is the size of the BAR. -/
  len : pciResourceLen (some pdev) i = bar.size
  /-- From `pci_resource_start` to `pci_resource_end` are exactly the addresses of the BAR. -/
  contains : bar.size ≠ 0 → ∀ address : Nat,
    (pciResourceStart (some pdev) i).toNat ≤ address ∧
        address ≤ (pciResourceEnd (some pdev) i).toNat ↔
      bar.address.toNat ≤ address ∧ address < bar.address.toNat + bar.size.toNat
  /-- Nothing wraps when the end is stored. -/
  endExact : EndExact bar
  /-- Nothing wraps when the length is computed. -/
  lenExact : LenExact (pdev.resource i)

section Wrapping

variable {bars : Device → Fin 6 → Bar} {native : Device} {wrappers : List (DevWrapper Device)}

/-- Without the resources it is `lcompat_pci_wrap` of the model. -/
theorem wrapDev_toWrapper :
    (wrapDev bars native wrappers).map (fun result => (result.1.map (·.toWrapper), result.2)) =
      wrap native (wrappers.map (·.toWrapper)) := by
  have held : (wrappers.map (·.toWrapper)).findIdx? (fun wrapper =>
      wrapper.used && wrapper.native == some native) =
    wrappers.findIdx? fun wrapper => wrapper.used && wrapper.native == some native :=
      List.findIdx?_map
  have free : (wrappers.map (·.toWrapper)).findIdx? (fun wrapper => !wrapper.used) =
    wrappers.findIdx? fun wrapper => !wrapper.used := List.findIdx?_map
  unfold wrapDev wrap
  rw [held, free]
  cases wrappers.findIdx? fun wrapper => wrapper.used && wrapper.native == some native with
  | some i => rfl
  | none =>
    cases wrappers.findIdx? fun wrapper => !wrapper.used with
    | some i => simp only [Option.map_some, List.map_set]
    | none => rfl

/-- The wrappers that are used have the resources of their devices. -/
def Resourced (bars : Device → Fin 6 → Bar) (wrappers : List (DevWrapper Device)) : Prop :=
  ∀ wrapper ∈ wrappers, wrapper.used = true → ∀ native, wrapper.native = some native →
    ∀ bar, wrapper.dev.resource bar = barResource (bars native bar)

/-- `lcompat_pci_wrap` keeps it, and returns a wrapper of the device. -/
theorem Resourced.wrapDev {wrappers' : List (DevWrapper Device)} {i : Nat}
    (resourced : Resourced bars wrappers)
    (made : wrapDev bars native wrappers = some (wrappers', i)) :
    Resourced bars wrappers' ∧
      ∀ wrapper, wrappers'[i]? = some wrapper → wrapper.used = true ∧
        wrapper.native = some native := by
  unfold Pci.wrapDev at made
  split at made
  · next k found =>
    obtain ⟨rfl, rfl⟩ := Prod.mk.inj (Option.some.inj made)
    obtain ⟨bound, fits, -⟩ := List.findIdx?_eq_some_iff_getElem.mp found
    refine ⟨resourced, fun wrapper here => ?_⟩
    obtain rfl := Option.some.inj ((List.getElem?_eq_getElem bound).symm.trans here)
    simpa using fits
  · split at made
    · next k found =>
      obtain ⟨rfl, rfl⟩ := Prod.mk.inj (Option.some.inj made)
      obtain ⟨bound, -⟩ := List.findIdx?_eq_some_iff_getElem.mp found
      refine ⟨fun wrapper member => ?_, fun wrapper here => ?_⟩
      · rcases List.mem_or_eq_of_mem_set member with old | rfl
        · exact resourced wrapper old
        · intro _ other same bar
          obtain rfl := Option.some.inj same
          rfl
      · rw [List.getElem?_set_self bound, Option.some.injEq] at here
        rw [← here]
        exact ⟨rfl, rfl⟩
    · simp at made

/-- Calls of `lcompat_pci_wrap` keep it. -/
theorem Resourced.wrapDevs (natives : List Device) (resourced : Resourced bars wrappers) :
    Resourced bars (wrapDevs bars wrappers natives) := by
  induction natives generalizing wrappers with
  | nil => exact resourced
  | cons native natives ih =>
    apply ih
    cases made : Pci.wrapDev bars native wrappers with
    | none => exact resourced
    | some result => exact (resourced.wrapDev made).1

omit [DecidableEq Device] in
/-- No wrapper is used at first. -/
theorem resourced_devWrappers (bars : Device → Fin 6 → Bar) (max : Nat) :
    Resourced bars (devWrappers max) := by
  intro wrapper member used
  rw [List.eq_of_mem_replicate member] at used
  cases used

end Wrapping

section Ranges

variable {bar : Bar} {pdev : PciDev} {i : Fin 6}

/-- A BAR that is not empty and ends before the last address is stored without wrapping. -/
theorem toNat_barResource_end (some_ : bar.size ≠ 0)
    (below : bar.address.toNat + bar.size.toNat < 2 ^ 64) :
    (bar.address + bar.size).toNat = bar.address.toNat + bar.size.toNat ∧
      (barResource bar).end_.toNat = bar.address.toNat + bar.size.toNat - 1 := by
  have positive : bar.size.toNat ≠ 0 := fun none => some_ (UInt64.toNat_inj.mp none)
  have sum : (bar.address + bar.size).toNat = bar.address.toNat + bar.size.toNat := by
    rw [UInt64.toNat_add, Nat.mod_eq_of_lt below]
  refine ⟨sum, ?_⟩
  have least : (1 : UInt64) ≤ bar.address + bar.size :=
    UInt64.le_iff_toNat_le.mpr (by show 1 ≤ _; omega)
  show (if bar.size ≠ 0 then bar.address + bar.size - 1 else bar.address).toNat = _
  rw [if_pos some_, UInt64.toNat_sub_of_le _ _ least, sum]
  rfl

/-- The resource of a BAR is as the BAR if and only if the BAR is not empty and ends before the last
address. -/
theorem barExact_barResource_iff (stored : pdev.resource i = barResource bar) :
    BarExact bar pdev i ↔
      bar.size ≠ 0 ∧ bar.address.toNat + bar.size.toNat < 2 ^ 64 := by
  constructor
  · intro exact_
    have some_ : bar.size ≠ 0 := by
      intro empty
      have len := exact_.len
      simp only [pciResourceLen, stored, barResource, empty, ne_eq, not_true, if_false,
        UInt64.sub_self, UInt64.zero_add] at len
      rw [if_neg (by rw [UInt64.lt_iff_toNat_lt]; exact Nat.lt_irrefl _)] at len
      exact absurd len (by decide)
    exact ⟨some_, (exact_.endExact some_).1⟩
  · rintro ⟨some_, below⟩
    have positive : bar.size.toNat ≠ 0 := fun none => some_ (UInt64.toNat_inj.mp none)
    obtain ⟨sum, last⟩ := toNat_barResource_end some_ below
    have first : (barResource bar).start = bar.address := rfl
    have ordered : (barResource bar).start ≤ (barResource bar).end_ := by
      rw [UInt64.le_iff_toNat_le, first, last]
      omega
    have span : ((barResource bar).end_ - (barResource bar).start).toNat = bar.size.toNat - 1 := by
      rw [UInt64.toNat_sub_of_le _ _ ordered, first, last]
      omega
    have top := bar.size.toNat_lt
    refine ⟨?_, ?_, ?_, ?_⟩
    · simp only [pciResourceLen, stored]
      rw [if_neg (UInt64.not_lt.mpr ordered)]
      apply UInt64.toNat_inj.mp
      rw [UInt64.toNat_add, span]
      show (_ + 1) % _ = _
      rw [Nat.mod_eq_of_lt (by omega)]
      omega
    · intro _ address
      simp only [pciResourceStart, pciResourceEnd, stored, first, last]
      omega
    · intro _
      rw [sum]
      exact ⟨below, by omega⟩
    · intro _
      rw [stored, span]
      exact ⟨ordered, by omega⟩

end Ranges

/-- After any calls of `lcompat_pci_wrap`, the resource in the wrapper that it returns for a device
is as the BAR, if and only if the BAR is not empty and ends before the last address. -/
theorem barExact_iff {bars : Device → Fin 6 → Bar} {max slot : Nat} {calls : List Device}
    {native : Device} {wrappers : List (DevWrapper Device)} {wrapper : DevWrapper Device}
    (made : wrapDev bars native (wrapDevs bars (devWrappers max) calls) = some (wrappers, slot))
    (here : wrappers[slot]? = some wrapper) (i : Fin 6) :
    BarExact (bars native i) wrapper.dev i ↔
      (bars native i).size ≠ 0 ∧
        (bars native i).address.toNat + (bars native i).size.toNat < 2 ^ 64 := by
  have before := (resourced_devWrappers bars max).wrapDevs calls
  obtain ⟨resourced, returned⟩ := before.wrapDev made
  obtain ⟨used, same⟩ := returned wrapper here
  exact barExact_barResource_iff (resourced wrapper (List.mem_of_getElem? here) used native same i)

/-- A device with a page of registers in each of its BARs. -/
def onePage : Unit → Fin 6 → Bar := fun _ _ => ⟨0xfebc0000, 0x1000, true, false⟩

/-- The resource of a page of registers is as it should be. -/
theorem barExact_onePage : ∃ wrappers wrapper,
    wrapDev onePage () (wrapDevs onePage (devWrappers 1) []) = some (wrappers, 0) ∧
      wrappers[0]? = some wrapper ∧ ∀ i, BarExact (onePage () i) wrapper.dev i := by
  have made : ∃ wrappers wrapper,
      wrapDev onePage () (wrapDevs onePage (devWrappers 1) []) = some (wrappers, 0) ∧
        wrappers[0]? = some wrapper := ⟨_, _, rfl, rfl⟩
  obtain ⟨wrappers, wrapper, made, here⟩ := made
  exact ⟨wrappers, wrapper, made, here, fun i => (barExact_iff made here i).mpr (by decide +revert)⟩

/-- A device without anything behind its BARs. -/
def emptyBars : Unit → Fin 6 → Bar := fun _ _ => ⟨0xfebc0000, 0, true, false⟩

/-- The resource of an empty BAR has one byte. -/
theorem emptyBar_not_exact : ¬∀ (bars : Unit → Fin 6 → Bar) (max slot : Nat) (calls : List Unit)
    (native : Unit) (wrappers : List (DevWrapper Unit)) (wrapper : DevWrapper Unit) (i : Fin 6),
    (bars native i).address.toNat + (bars native i).size.toNat ≤ 2 ^ 64 →
      wrapDev bars native (wrapDevs bars (devWrappers max) calls) = some (wrappers, slot) →
        wrappers[slot]? = some wrapper → BarExact (bars native i) wrapper.dev i := by
  intro always
  have exact_ := always emptyBars 1 0 [] () _ _ ⟨0, by decide⟩ (by decide) rfl rfl
  exact absurd exact_.len (by decide)

end Lcompat.Pci
