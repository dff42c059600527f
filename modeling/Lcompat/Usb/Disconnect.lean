import Lcompat.Pci.Removal
import Lcompat.Usb.Drivers

/-!
# Which drivers a disconnection calls

The binding of an interface is not recorded either: `lcompat_usb_native_remove` goes through the
table of bindings for each wrapper of the device. A wrapper is made by a probe, even one that fails,
and is given back when the device is removed, so each bound interface has exactly one.
-/

namespace Lcompat.UsbDrivers

open Lcompat.Logic

variable {Driver Device Intf : Type} [DecidableEq Driver] [DecidableEq Device] [DecidableEq Intf]
variable {bus : Bus Driver Intf}

/-- What is noted of an event: a driver's probe that is called, and a removal. -/
def busNotes (bus : Bus Driver Intf) (s : State Driver Device Intf) :
    Event Driver Device Intf → List (BusNote Driver (Device × Intf))
  | .nativeProbe current dev intf answer =>
    match nativeProbe bus current dev intf answer s with
    | (_, ret, some driver) => [.probed driver (dev, intf) ret]
    | _ => []
  | .nativeRemove dev => [.removed (·.1 == dev) (nativeRemove bus dev s).2]
  | _ => []

/-- The interface a wrapper stands for, if it is used. -/
def Wrapper.stands (wrapper : Wrapper Device Intf) : Option (Device × Intf) :=
  if wrapper.used then wrapper.native else none

/-- The interfaces that have wrappers. -/
def wrapped (wrappers : List (Wrapper Device Intf)) : List (Device × Intf) :=
  wrappers.filterMap Wrapper.stands

/-- When a device is removed, for each interface of it that has a wrapper, the first binding that is
used and whose driver has a `disconnect` callback and an id that fits the interface is one of the
driver that is bound to it; there is no such binding if no driver is bound. -/
def TableLeads (bus : Bus Driver Intf)
    (s : State Driver Device Intf × List (BusNote Driver (Device × Intf))) :
    Event Driver Device Intf → Prop
  | .nativeRemove dev => ∀ thing ∈ wrapped s.1.wrappers, thing.1 = dev → ∀ driver,
    Reaches (callee bus thing.2) s.1.bindings driver ↔ Bound s.2 driver thing
  | _ => True

section Wrappers

omit [DecidableEq Device] [DecidableEq Intf] in
/-- A slot that is not used stands for nothing. -/
theorem stands_of_free {wrapper : Wrapper Device Intf} (free : wrapper.used = false) :
    wrapper.stands = none := by
  simp [Wrapper.stands, free]

omit [DecidableEq Device] [DecidableEq Intf] in
/-- A free slot that is taken adds its interface. -/
theorem wrapped_set {wrappers : List (Wrapper Device Intf)} {i : Nat} {thing : Device × Intf}
    (bound : i < wrappers.length) (free : wrappers[i].used = false) :
    (wrapped (wrappers.set i ⟨true, some thing⟩)).Perm (thing :: wrapped wrappers) := by
  have split : wrappers = wrappers.take i ++ wrappers[i] :: wrappers.drop (i + 1) := by simp
  have before : wrapped wrappers =
      wrapped (wrappers.take i) ++ wrapped (wrappers.drop (i + 1)) := by
    conv_lhs => rw [split]
    simp only [wrapped, List.filterMap_append, List.filterMap_cons, stands_of_free free]
  rw [before, List.set_eq_take_append_cons_drop, if_pos bound]
  simp only [wrapped, List.filterMap_append, List.filterMap_cons, Wrapper.stands, if_true]
  exact List.perm_middle

/-- Asking for a wrapper leaves the interface with one, and the others as they were. -/
theorem wrapped_of_wrap {dev : Device} {intf : Intf} {wrappers after : List (Wrapper Device Intf)}
    {i : Nat} (made : wrap dev intf wrappers = some (after, i)) :
    (dev, intf) ∈ wrapped after ∧ wrapped wrappers ⊆ wrapped after ∧
      ((wrapped wrappers).Nodup → (wrapped after).Nodup) := by
  unfold wrap at made
  split at made
  · rename_i j found
    obtain ⟨rfl, rfl⟩ := Prod.mk.inj (Option.some.inj made)
    obtain ⟨bound, fits, _⟩ := List.findIdx?_eq_some_iff_getElem.mp found
    have stands : wrappers[j].stands = some (dev, intf) := by simp_all [Wrapper.stands]
    refine ⟨List.mem_filterMap.mpr ⟨_, List.getElem_mem bound, stands⟩, fun _ => id, id⟩
  · rename_i missing
    split at made
    · rename_i j found
      obtain ⟨rfl, rfl⟩ := Prod.mk.inj (Option.some.inj made)
      obtain ⟨bound, free, _⟩ := List.findIdx?_eq_some_iff_getElem.mp found
      have taken : (wrapped (wrappers.set j ⟨true, some (dev, intf)⟩)).Perm
          ((dev, intf) :: wrapped wrappers) := wrapped_set bound (by simpa using free)
      have absent : (dev, intf) ∉ wrapped wrappers := by
        intro member
        obtain ⟨wrapper, here, stands⟩ := List.mem_filterMap.mp member
        have unfit := List.findIdx?_eq_none_iff.mp missing wrapper here
        simp_all [Wrapper.stands]
      refine ⟨taken.mem_iff.mpr (by simp), fun thing member => ?_, fun distinct => ?_⟩
      · exact taken.mem_iff.mpr (List.mem_cons_of_mem _ member)
      · exact taken.nodup_iff.mpr (List.nodup_cons.mpr ⟨absent, distinct⟩)
    · simp at made

omit [DecidableEq Driver] [DecidableEq Intf] in
/-- The interfaces of a device that is removed lose their wrappers. -/
theorem wrapped_removeFrom (bus : Bus Driver Intf) (dev : Device) (bindings : List (Binding Driver))
    (wrappers : List (Wrapper Device Intf)) :
    wrapped (removeFrom bus dev bindings wrappers).1 =
      (wrapped wrappers).filter fun thing => thing.1 != dev := by
  induction wrappers with
  | nil => rfl
  | cons wrapper rest ih =>
    obtain ⟨used, native⟩ := wrapper
    simp only [wrapped] at ih ⊢
    cases native with
    | none => simpa [removeFrom, Wrapper.stands] using ih
    | some thing =>
      obtain ⟨nativeDev, intf⟩ := thing
      by_cases other : used = false ∨ nativeDev ≠ dev
      · cases used <;> simp_all [removeFrom, Wrapper.stands]
      · obtain ⟨rfl, rfl⟩ : used = true ∧ nativeDev = dev := by simpa using other
        simpa [removeFrom, Wrapper.stands] using ih

omit [DecidableEq Driver] [DecidableEq Intf] in
/-- For each of them, the loop calls the driver it finds in the table. -/
theorem removeFrom_calls (bus : Bus Driver Intf) (dev : Device) (bindings : List (Binding Driver))
    (wrappers : List (Wrapper Device Intf)) :
    (removeFrom bus dev bindings wrappers).2 =
      ((wrapped wrappers).filter fun thing => thing.1 == dev).filterMap fun thing =>
        (bindings.findSome? (callee bus thing.2)).map fun driver => (thing, driver) := by
  induction wrappers with
  | nil => rfl
  | cons wrapper rest ih =>
    obtain ⟨used, native⟩ := wrapper
    simp only [wrapped] at ih ⊢
    cases native with
    | none => simpa [removeFrom, Wrapper.stands] using ih
    | some thing =>
      obtain ⟨nativeDev, intf⟩ := thing
      by_cases other : used = false ∨ nativeDev ≠ dev
      · cases used <;> simp_all [removeFrom, Wrapper.stands]
      · obtain ⟨rfl, rfl⟩ : used = true ∧ nativeDev = dev := by simpa using other
        simp only [removeFrom, Wrapper.stands, ih, bne_self_eq_false, Bool.not_true, Bool.or_false,
          if_true, List.filterMap_cons, List.filter_cons, beq_self_eq_true]
        cases bindings.findSome? (callee bus intf) <;> rfl

end Wrappers

/-- The invariant of the history: removals were faithful, each interface has at most one wrapper,
and interfaces to which a driver is bound have one. -/
structure Inv (s : State Driver Device Intf × List (BusNote Driver (Device × Intf))) : Prop where
  /-- Removals called who was bound. -/
  faithful : Faithful s.2
  /-- No interface has two wrappers. -/
  distinct : (wrapped s.1.wrappers).Nodup
  /-- An interface to which a driver is bound has a wrapper. -/
  wrapped : ∀ driver thing, Bound s.2 driver thing → thing ∈ wrapped s.1.wrappers

omit [DecidableEq Driver] [DecidableEq Intf] in
/-- A removal calls who is bound exactly when the table leads to it. -/
theorem removesBound_iff {s : State Driver Device Intf × List (BusNote Driver (Device × Intf))}
    (inv : Inv s) (dev : Device) :
    RemovesBound s.2 (·.1 == dev) (nativeRemove bus dev s.1).2 ↔
      TableLeads bus s (.nativeRemove dev) := by
  have calls : ∀ thing driver, (thing, driver) ∈ (nativeRemove bus dev s.1).2 ↔
      thing ∈ wrapped s.1.wrappers ∧ thing.1 = dev ∧
        Reaches (callee bus thing.2) s.1.bindings driver := by
    intro thing driver
    show (thing, driver) ∈ (removeFrom bus dev s.1.bindings s.1.wrappers).2 ↔ _
    simp only [removeFrom_calls, List.mem_filterMap, List.mem_filter, Option.map_eq_some_iff,
      beq_iff_eq, findSome?_iff_reaches, Prod.mk.injEq]
    constructor
    · rintro ⟨_, ⟨member, here⟩, _, reached, rfl, rfl⟩
      exact ⟨member, here, reached⟩
    · rintro ⟨member, here, reached⟩
      exact ⟨thing, ⟨member, here⟩, driver, reached, rfl, rfl⟩
  have once : ((nativeRemove bus dev s.1).2.map Prod.fst).Nodup := by
    show ((removeFrom bus dev s.1.bindings s.1.wrappers).2.map Prod.fst).Nodup
    rw [removeFrom_calls, List.map_filterMap]
    refine List.Nodup.filterMap ?_ (inv.distinct.filter _)
    intro thing other answer here there
    simp only [Option.map_map, Option.mem_def, Option.map_eq_some_iff, Function.comp] at here there
    obtain ⟨_, _, rfl⟩ := here
    obtain ⟨_, _, same⟩ := there
    exact same.symm
  constructor
  · rintro ⟨bound, _⟩ thing member here driver
    have exactly := bound thing driver
    rw [calls, beq_iff_eq] at exactly
    simpa [member, here] using exactly
  · intro leads
    refine ⟨fun thing driver => ?_, once⟩
    rw [calls, beq_iff_eq]
    constructor
    · rintro ⟨member, here, reached⟩
      exact ⟨here, (leads thing member here driver).mp reached⟩
    · rintro ⟨here, bound⟩
      have member := inv.wrapped driver thing bound
      exact ⟨member, here, (leads thing member here driver).mpr bound⟩

omit [DecidableEq Driver] in
/-- An event that is no removal is noted as probes, and the table need not lead to anyone. -/
theorem busNotes_cases (bus : Bus Driver Intf)
    (s : State Driver Device Intf × List (BusNote Driver (Device × Intf)))
    (event : Event Driver Device Intf) :
    (∃ dev, event = .nativeRemove dev) ∨ TableLeads bus s event ∧
      ∀ note ∈ busNotes bus s.1 event, ∃ driver thing ret, note = .probed driver thing ret := by
  cases event with
  | nativeRemove dev => exact .inl ⟨dev, rfl⟩
  | register | deregister => exact .inr ⟨trivial, by simp [busNotes]⟩
  | nativeProbe =>
    refine .inr ⟨trivial, ?_⟩
    simp only [busNotes]
    grind -ring -linarith

omit [DecidableEq Driver] in
/-- The history after a step is faithful exactly when the table led to who was bound. -/
theorem faithful_step_iff {s : State Driver Device Intf × List (BusNote Driver (Device × Intf))}
    (inv : Inv s) (event : Event Driver Device Intf) :
    Faithful (busNotes bus s.1 event ++ s.2) ↔ TableLeads bus s event := by
  rcases busNotes_cases bus s event with ⟨dev, rfl⟩ | ⟨leads, probes⟩
  · rw [← removesBound_iff inv dev]
    exact and_iff_left inv.faithful
  · rw [faithful_append_probes probes]
    exact iff_of_true inv.faithful leads

/-- A step that removes no device takes no wrapper away and makes no second one, and an interface
for which a probe is called has one. -/
theorem wrapped_step {s s' : State Driver Device Intf} {event : Event Driver Device Intf}
    (stepped : step bus s event = some s') (stays : ∀ dev, event ≠ .nativeRemove dev) :
    wrapped s.wrappers ⊆ wrapped s'.wrappers ∧
      ((wrapped s.wrappers).Nodup → (wrapped s'.wrappers).Nodup) ∧
      ∀ driver thing ret, .probed driver thing ret ∈ busNotes bus s event →
        thing ∈ wrapped s'.wrappers := by
  cases event with
  | register driver allocated =>
    have same : s'.wrappers = s.wrappers := by
      simp only [step, registerDriver] at stepped
      grind -ring -linarith
    exact ⟨fun thing => same ▸ id, same ▸ id, by simp [busNotes]⟩
  | deregister driver =>
    have same : s'.wrappers = s.wrappers := by
      simp only [step, deregister] at stepped
      grind -ring -linarith
    exact ⟨fun thing => same ▸ id, same ▸ id, by simp [busNotes]⟩
  | nativeRemove dev => exact absurd rfl (stays dev)
  | nativeProbe current dev intf answer =>
    obtain rfl := Option.some.inj stepped
    simp only [busNotes]
    unfold nativeProbe
    split
    · exact ⟨fun _ => id, id, by simp⟩
    · split
      · exact ⟨fun _ => id, id, by simp⟩
      · split
        · exact ⟨fun _ => id, id, by simp⟩
        · rename_i wrappers i made
          obtain ⟨here, kept, distinct⟩ := wrapped_of_wrap made
          split
          · refine ⟨kept, distinct, fun driver' thing ret member => ?_⟩
            obtain rfl : thing = (dev, intf) := by simp_all
            exact here
          · exact ⟨kept, distinct, by simp⟩

/-- A step at which the table leads to who is bound keeps the invariant. -/
theorem Inv.step {wrappers : Nat}
    {s s' : State Driver Device Intf × List (BusNote Driver (Device × Intf))}
    {event : Event Driver Device Intf} (inv : Inv s) (leads : TableLeads bus s event)
    (stepped : ((system bus wrappers).record (busNotes bus)).step s event = some s') :
    Inv s' := by
  obtain ⟨moved, noted⟩ := System.record_step_eq_some.mp stepped
  have faithful : Faithful s'.2 := noted ▸ (faithful_step_iff inv event).mpr leads
  by_cases removal : ∃ dev, event = .nativeRemove dev
  · obtain ⟨dev, rfl⟩ := removal
    have left : UsbDrivers.wrapped s'.1.wrappers =
        (UsbDrivers.wrapped s.1.wrappers).filter fun thing => thing.1 != dev := by
      rw [← Option.some.inj moved]
      exact wrapped_removeFrom bus dev s.1.bindings s.1.wrappers
    refine ⟨faithful, left ▸ inv.distinct.filter _, fun driver thing bound => ?_⟩
    rw [noted] at bound
    obtain ⟨stays, bound⟩ := bound
    rw [left, List.mem_filter]
    exact ⟨inv.wrapped driver thing bound, by simpa using stays⟩
  · have stays : ∀ dev, event ≠ .nativeRemove dev := fun dev same => removal ⟨dev, same⟩
    obtain ⟨kept, distinct, probed⟩ := wrapped_step moved stays
    have probes := (busNotes_cases bus s event).resolve_left removal
    refine ⟨faithful, distinct inv.distinct, fun driver thing bound => ?_⟩
    rw [noted] at bound
    rcases bound_append_probes bound probes.2 with before | ⟨ret, member⟩
    · exact kept (inv.wrapped driver thing before)
    · exact probed driver thing ret member

/-- In every run, `disconnect` is called for exactly those drivers whose probe of the interface has
returned 0 since its last removal, if and only if the table leads there at every removal. -/
theorem faithful_iff_tableLeads {wrappers : Nat} {events : List (Event Driver Device Intf)}
    (ran : ((system bus wrappers).record (busNotes bus)).run (start wrappers, []) events ≠ none) :
    ((system bus wrappers).record (busNotes bus)).Throughout (fun s => Faithful s.2)
        (start wrappers, []) events ↔
      ((system bus wrappers).record (busNotes bus)).Along (TableLeads bus) (start wrappers, [])
        events := by
  obtain ⟨last, ran⟩ := Option.ne_none_iff_exists'.mp ran
  have fresh : Inv ((start wrappers : State Driver Device Intf), []) := by
    refine ⟨trivial, ?_, fun _ _ => False.elim⟩
    simp [start, UsbDrivers.wrapped, Wrapper.stands]
  have lawful : ((system bus wrappers).record (busNotes bus)).Along (fun _ _ => True)
      (start wrappers, []) events := System.along_of_forall (fun _ _ => trivial) _ _
  refine System.throughout_iff_along (fun _ (inv : Inv _) => inv.faithful) ?_ ?_ fresh lawful ran
  · exact fun _ _ _ inv _ leads stepped => inv.step leads stepped
  · intro s event s' inv _ stepped faithful
    rw [(System.record_step_eq_some.mp stepped).2] at faithful
    exact (faithful_step_iff inv event).mp faithful

section Alike

variable {PciDriver PciDevice : Type} [DecidableEq PciDriver] [DecidableEq PciDevice]
variable {pciBus : Pci.Bus PciDriver PciDevice}

/-- For PCI and for USB alike, in every run: removals call exactly the drivers that are bound to
what is removed if and only if the table of bindings leads to them at every removal. -/
theorem removals_faithful_iff {pciWrappers usbWrappers : Nat}
    {pciEvents : List (Pci.Event PciDriver PciDevice)} {events : List (Event Driver Device Intf)}
    (pciRan : ((Pci.system pciBus pciWrappers).record (Pci.busNotes pciBus)).run
      (Pci.start pciWrappers, []) pciEvents ≠ none)
    (ran : ((system bus usbWrappers).record (busNotes bus)).run (start usbWrappers, [])
      events ≠ none) :
    (((Pci.system pciBus pciWrappers).record (Pci.busNotes pciBus)).Throughout
        (fun s => Faithful s.2) (Pci.start pciWrappers, []) pciEvents ↔
      ((Pci.system pciBus pciWrappers).record (Pci.busNotes pciBus)).Along (Pci.TableLeads pciBus)
        (Pci.start pciWrappers, []) pciEvents) ∧
    (((system bus usbWrappers).record (busNotes bus)).Throughout (fun s => Faithful s.2)
        (start usbWrappers, []) events ↔
      ((system bus usbWrappers).record (busNotes bus)).Along (TableLeads bus)
        (start usbWrappers, []) events) :=
  ⟨Pci.faithful_iff_tableLeads pciRan, faithful_iff_tableLeads ran⟩

/-- A PCI bus with one device and two drivers for every device. -/
def everyDevice : Pci.Bus Bool Unit where
  drivers _ := {
    idTable := some [⟨Pci.PCI_ANY_ID, Pci.PCI_ANY_ID, Pci.PCI_ANY_ID, Pci.PCI_ANY_ID, 0, 0⟩]
    probe := true
    remove := true
    shutdown := true }
  devices _ := ⟨0x10ec, 0x8822, 0, 0, 0x28000⟩

/-- A USB bus with one interface and two drivers for every interface of its class. -/
def everyInterface : Bus Bool Unit where
  drivers _ := {
    idTable := some [⟨USB_DEVICE_ID_MATCH_INT_CLASS, 0, 0, 0xff, 0, 0⟩]
    probe := true
    disconnect := true }
  interfaces _ := ⟨0x0bda, 0xc820, 0xff, 0xff, 0xff⟩

/-- One driver of each bus is registered, its probe succeeds, and the device is removed. -/
def pciBound : List (Pci.Event Bool Unit) :=
  [.register false, .registReturned 0, .probeNext none 0, .nativeProbe () 0 0, .nativeRemove ()]

/-- The same with a USB driver. -/
def usbBound : List (Event Bool Unit Unit) :=
  [.register false true, .nativeProbe (some 0) () () 0, .nativeRemove ()]

/-- A driver that is the only one is called. -/
theorem soleDriver_faithful :
    ((Pci.system everyDevice 1).record (Pci.busNotes everyDevice)).Throughout
        (fun s => Faithful s.2) (Pci.start 1, []) pciBound ∧
      ((system everyInterface 1).record (busNotes everyInterface)).Throughout
        (fun s => Faithful s.2) (start 1, []) usbBound := by
  have pciRan : (((Pci.system everyDevice 1).record (Pci.busNotes everyDevice)).run
      (Pci.start 1, []) pciBound) ≠ none := by
    have ran : ∃ s, ((Pci.system everyDevice 1).record (Pci.busNotes everyDevice)).run
      (Pci.start 1, []) pciBound = some s := ⟨_, rfl⟩
    exact Option.ne_none_iff_exists'.mpr ran
  have ran : (((system everyInterface 1).record (busNotes everyInterface)).run
      (start 1, []) usbBound) ≠ none := by
    have ran : ∃ s, ((system everyInterface 1).record (busNotes everyInterface)).run
      (start 1, []) usbBound = some s := ⟨_, rfl⟩
    exact Option.ne_none_iff_exists'.mpr ran
  obtain ⟨pci, usb⟩ := removals_faithful_iff pciRan ran
  refine ⟨pci.mpr ?_, usb.mpr ?_⟩
  · refine System.along_cons trivial rfl (System.along_cons trivial rfl
      (System.along_cons trivial rfl (System.along_cons trivial rfl ⟨?_, fun _ _ => trivial⟩)))
    intro _ driver
    rw [← findSome?_iff_reaches]
    have only : some false = some driver ↔ false = driver ∧ () = () ∧ (0 : Int) = 0 ∨ False := by
      simp
    exact only
  · refine System.along_cons trivial rfl (System.along_cons trivial rfl ⟨?_, fun _ _ => trivial⟩)
    intro thing _ _ driver
    rw [← findSome?_iff_reaches]
    have only : some false = some driver ↔
        false = driver ∧ ((), ()) = thing ∧ (0 : Int) = 0 ∨ False := by
      simp
    exact only

/-- Both drivers of a bus are registered; the probe of the first one fails, the probe of the second
one succeeds, and the device is removed. -/
def pciFailedProbe : List (Pci.Event Bool Unit) :=
  [.register false, .registReturned 0, .probeNext none 0, .register true, .registReturned 0,
    .probeNext none 0, .nativeProbe () 0 (-ENODEV), .nativeProbe () 1 0, .nativeRemove ()]

/-- The same with the USB drivers. -/
def usbFailedProbe : List (Event Bool Unit Unit) :=
  [.register false true, .register true true, .nativeProbe (some 0) () () (-ENODEV),
    .nativeProbe (some 1) () () 0, .nativeRemove ()]

/-- The driver whose probe failed is called in the place of the one that is bound. -/
theorem failedProbe_not_faithful :
    (¬∀ s, ((Pci.system everyDevice 1).record (Pci.busNotes everyDevice)).Reachable s →
        Faithful s.2) ∧
      ¬∀ s : State Bool Unit Unit × List (BusNote Bool (Unit × Unit)),
        ((system everyInterface 1).record (busNotes everyInterface)).Reachable s →
          Faithful s.2 := by
  constructor
  · intro always
    have ran : ∃ s, ((Pci.system everyDevice 1).record (Pci.busNotes everyDevice)).run
        (Pci.start 1, []) pciFailedProbe = some (s, [.removed (· == ()) [((), false)],
          .probed true () 0, .probed false () (-ENODEV)]) := ⟨_, rfl⟩
    obtain ⟨s, executed⟩ := ran
    have fresh : ((Pci.system everyDevice 1).record (Pci.busNotes everyDevice)).init
        (Pci.start 1, []) := ⟨rfl, rfl⟩
    have faithful := always _ (System.reachable_of_run fresh executed)
    have called := (faithful.1.bound () false).mp (by simp)
    simp [Bound, ENODEV] at called
  · intro always
    have ran : ∃ s, ((system everyInterface 1).record (busNotes everyInterface)).run
        (start 1, []) usbFailedProbe =
          some (s, [.removed (fun thing => thing.1 == ()) [(((), ()), false)],
          .probed true ((), ()) 0, .probed false ((), ()) (-ENODEV)]) := ⟨_, rfl⟩
    obtain ⟨s, executed⟩ := ran
    have fresh : ((system everyInterface 1).record (busNotes everyInterface)).init
        ((start 1 : State Bool Unit Unit), []) := ⟨rfl, rfl⟩
    have faithful := always _ (System.reachable_of_run fresh executed)
    have called := (faithful.1.bound ((), ()) false).mp (by simp)
    simp [Bound, ENODEV] at called

end Alike

end Lcompat.UsbDrivers
