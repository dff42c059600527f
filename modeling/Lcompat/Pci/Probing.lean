import Lcompat.Pci.Wrappers

/-!
# Probing the devices that are present

`pci_register_driver` when the native bus does no more than record the native driver: the driver is
probed for the devices of `pci_devices`, each with the first of its ids that fits, until a probe
returns 0. The devices behind that one are not offered to the driver.
-/

namespace Lcompat.Pci

open Lcompat.Logic

variable {Driver Device : Type} [DecidableEq Driver] [DecidableEq Device]
variable {bus : Bus Driver Device}

/-- A call of the `probe` of a driver: the slot of the wrapper, and the id. -/
structure ProbeCall where
  /-- The wrapper that `pdev` lies in. -/
  wrapper : Nat
  /-- `id`. -/
  id : PciDeviceId

/-- The loop of `pci_register_driver`, with what the calls of `probe` return in their order: the
table of wrappers and the calls. Without a wrapper for a device it has no defined behaviour. -/
def probeDevices (bus : Bus Driver Device) (driver : Driver) (answers : Nat → Int) :
    List Device → List (Wrapper Device) → List ProbeCall →
      Option (List (Wrapper Device) × List ProbeCall)
  | [], wrappers, calls => some (wrappers, calls)
  | dev :: table, wrappers, calls =>
    match matchOne (bus.drivers driver).idTable (bus.devices dev) with
    | none => probeDevices bus driver answers table wrappers calls
    | some id =>
      match wrap dev wrappers with
      | none => none
      | some (wrappers, i) =>
        if answers calls.length = 0 then some (wrappers, calls ++ [⟨i, id⟩])
        else probeDevices bus driver answers table wrappers (calls ++ [⟨i, id⟩])

/-- `pci_register_driver`, with what `regist_pci_driver` and the calls of `probe` return: its
result and the calls. -/
def pciRegisterDriver (bus : Bus Driver Device) (table : List Device) (driver : Driver)
    (regist : Int) (answers : Nat → Int) (s : State Driver Device) :
    Option (State Driver Device × Int × List ProbeCall) :=
  match registerDriver bus driver s with
  | (s, some ret) => some (s, ret, [])
  | (s, none) =>
    match s.registering with
    | some (driver, .regist slot) =>
      match registReturned driver slot regist s with
      | (s, some ret) => some (s, ret, [])
      | (s, none) =>
        (probeDevices bus driver answers table s.wrappers []).map fun result =>
          ({ s with wrappers := result.1, registering := none }, 0, result.2)
    | _ => none

/-- The first id of a table that fits a device. -/
def firstId (ids : Option (List PciDeviceId)) (native : PciDevice) : Option PciDeviceId :=
  ((ids.getD []).takeWhile fun id => !id.isEnd).find? fun id => id.fits native

/-- The devices of a table with the first id of a driver that fits them, those that have one. -/
def matching (bus : Bus Driver Device) (driver : Driver) (table : List Device) :
    List (Device × PciDeviceId) :=
  table.filterMap fun dev =>
    (firstId (bus.drivers driver).idTable (bus.devices dev)).map fun id => (dev, id)

/-- A call of `probe` is for a device, with an id. -/
def ProbeCall.IsFor (wrappers : List (Wrapper Device)) (call : ProbeCall)
    (offer : Device × PciDeviceId) : Prop :=
  wrappers[call.wrapper]? = some ⟨true, some offer.1⟩ ∧ call.id = offer.2

/-- The matching devices are probed in order, each once, until one returns 0. -/
structure ProbesUntilBound (answers : Nat → Int) (wrappers : List (Wrapper Device))
    (calls : List ProbeCall) (offers : List (Device × PciDeviceId)) : Prop where
  /-- The calls are for the first of the devices, one for each. -/
  first : List.Forall₂ (ProbeCall.IsFor wrappers) calls (offers.take calls.length)
  /-- No call but the last one returns 0. -/
  earlier : ∀ k, k + 1 < calls.length → answers k ≠ 0
  /-- If there are more devices, the last call returns 0. -/
  stopped : calls.length < offers.length → ∃ k, calls.length = k + 1 ∧ answers k = 0

omit [DecidableEq Driver] [DecidableEq Device] in
/-- `lcompat_pci_match_one` finds the first id that fits. -/
theorem matchOne_eq_firstId (ids : Option (List PciDeviceId)) (native : PciDevice) :
    matchOne ids native = firstId ids native := by
  cases ids with
  | none => rfl
  | some ids =>
    show matchFrom native ids = (ids.takeWhile fun id => !id.isEnd).find? fun id => id.fits native
    induction ids with
    | nil => rfl
    | cons id ids ih =>
      rw [matchFrom, List.takeWhile_cons]
      cases id.isEnd with
      | true => rfl
      | false =>
        cases fits : id.fits native with
        | true => simp [fits]
        | false => simp [fits, ih]

section Loop

variable {driver : Driver} {answers : Nat → Int} {table : List Device}
  {wrappers wrappers' : List (Wrapper Device)} {calls calls' : List ProbeCall}

omit [DecidableEq Driver] [DecidableEq Device] in
/-- A device that none of the ids of a driver fits is not among those that match. -/
theorem matching_cons_none {dev : Device}
    (misfit : matchOne (bus.drivers driver).idTable (bus.devices dev) = none) :
    matching bus driver (dev :: table) = matching bus driver table := by
  rw [matchOne_eq_firstId] at misfit
  exact List.filterMap_cons_none (by rw [misfit, Option.map_none])

omit [DecidableEq Driver] [DecidableEq Device] in
/-- A device that an id fits is. -/
theorem matching_cons_some {dev : Device} {id : PciDeviceId}
    (fits : matchOne (bus.drivers driver).idTable (bus.devices dev) = some id) :
    matching bus driver (dev :: table) = (dev, id) :: matching bus driver table := by
  rw [matchOne_eq_firstId] at fits
  exact List.filterMap_cons_some (by rw [fits, Option.map_some])

omit [DecidableEq Driver] in
/-- The loop probes the matching devices until one is bound, and keeps the wrappers that there
are. -/
theorem probeDevices_spec
    (ran : probeDevices bus driver answers table wrappers calls = some (wrappers', calls')) :
    (∀ (j : Nat) (other : Option Device), wrappers[j]? = some ⟨true, other⟩ →
      wrappers'[j]? = some ⟨true, other⟩) ∧
    ∃ more, calls' = calls ++ more ∧
      ProbesUntilBound (fun k => answers (calls.length + k)) wrappers' more
        (matching bus driver table) := by
  induction table generalizing wrappers calls with
  | nil =>
    obtain ⟨rfl, rfl⟩ := Prod.mk.inj (Option.some.inj ran)
    refine ⟨fun _ _ => id, [], (List.append_nil calls).symm, .nil, ?_, ?_⟩
    · exact fun _ below => absurd below (Nat.not_lt_zero _)
    · exact fun below => absurd below (Nat.not_lt_zero _)
  | cons dev table ih =>
    rw [probeDevices] at ran
    cases fits : matchOne (bus.drivers driver).idTable (bus.devices dev) with
    | none =>
      rw [fits] at ran
      rw [matching_cons_none fits]
      exact ih ran
    | some id =>
      rw [fits] at ran
      rw [matching_cons_some fits]
      cases made : wrap dev wrappers with
      | none => simp [made] at ran
      | some result =>
        obtain ⟨wrapped, i⟩ := result
        obtain ⟨here, kept⟩ := wrap_keeps made
        simp only [made] at ran
        split at ran
        · next bound =>
          obtain ⟨rfl, rfl⟩ := Prod.mk.inj (Option.some.inj ran)
          refine ⟨kept, [⟨i, id⟩], rfl, .cons ⟨here, rfl⟩ .nil, ?_, ?_⟩
          · intro k below
            exact absurd below (by simp)
          · exact fun _ => ⟨0, rfl, bound⟩
        · next refused =>
          obtain ⟨kept', more, rfl, first, earlier, stopped⟩ := ih ran
          refine ⟨fun j other held => kept' j other (kept j other held), ⟨i, id⟩ :: more,
            by rw [List.append_assoc, List.singleton_append], ?_, ?_, ?_⟩
          · exact .cons ⟨kept' i (some dev) here, rfl⟩ first
          · intro k below
            cases k with
            | zero => exact refused
            | succ k =>
              have next := earlier k (by simpa using below)
              rwa [List.length_append, List.length_singleton, Nat.add_assoc, Nat.add_comm 1] at next
          · intro left
            obtain ⟨k, last, zero⟩ := stopped (by simpa using left)
            refine ⟨k + 1, by rw [List.length_cons, last], ?_⟩
            rwa [List.length_append, List.length_singleton, Nat.add_assoc, Nat.add_comm 1] at zero

/-- The loop takes the steps of the model. -/
theorem probeDevices_run (max : Nat) {s : State Driver Device}
    (running : s.registering = some (driver, .devices)) (same : s.wrappers = wrappers)
    (ran : probeDevices bus driver answers table wrappers calls = some (wrappers', calls')) :
    ∃ events, (system bus max).run s events =
      some { s with wrappers := wrappers', registering := none } := by
  induction table generalizing s wrappers calls with
  | nil =>
    obtain ⟨rfl, -⟩ := Prod.mk.inj (Option.some.inj ran)
    refine ⟨[.probeNext none 0], ?_⟩
    simp only [System.run, system, step, running, probeNext, ← same]
    rfl
  | cons dev table ih =>
    rw [probeDevices] at ran
    cases fits : matchOne (bus.drivers driver).idTable (bus.devices dev) with
    | none =>
      have misfit : bus.fits driver dev = false := by rw [Bus.fits, fits]; rfl
      rw [fits] at ran
      obtain ⟨events, later⟩ := ih running same ran
      refine ⟨.probeNext (some dev) 0 :: events, ?_⟩
      rw [← later]
      simp [System.run, system, step, running, probeNext, misfit]
    | some id =>
      have fit : bus.fits driver dev = true := by rw [Bus.fits, fits]; rfl
      rw [fits] at ran
      cases made : wrap dev wrappers with
      | none => simp [made] at ran
      | some result =>
        obtain ⟨wrapped, i⟩ := result
        simp only [made] at ran
        split at ran
        · next bound =>
          obtain ⟨rfl, -⟩ := Prod.mk.inj (Option.some.inj ran)
          refine ⟨[.probeNext (some dev) 0], ?_⟩
          simp [System.run, system, step, running, probeNext, fit, same, made]
        · next refused =>
          obtain ⟨events, later⟩ := ih (s := { s with wrappers := wrapped }) running rfl ran
          refine ⟨.probeNext (some dev) (answers calls.length) :: events, ?_⟩
          rw [← later]
          simp [System.run, system, step, running, probeNext, fit, same, made, refused]

end Loop

section Register

variable {driver : Driver} {answers : Nat → Int} {table : List Device} {regist ret : Int}
  {s s' : State Driver Device} {calls : List ProbeCall}

omit [DecidableEq Driver] in
/-- A call of `pci_register_driver` that returns 0 has taken a slot, was not refused, and comes from
its loop. -/
theorem pciRegisterDriver_eq_zero
    (registered : pciRegisterDriver bus table driver regist answers s = some (s', 0, calls)) :
    ∃ (slot : Nat) (taken : State Driver Device), registerDriver bus driver s = (taken, none) ∧
      taken.registering = some (driver, .regist slot) ∧ taken.wrappers = s.wrappers ∧
      regist = 0 ∧
      probeDevices bus driver answers table s.wrappers [] = some (s'.wrappers, calls) ∧
      s' = { taken with wrappers := s'.wrappers, registering := none } := by
  by_cases unset : (!(bus.drivers driver).probe) = true
  · have result : registerDriver bus driver s = (s, some (-EINVAL)) := if_pos unset
    simp [pciRegisterDriver, result, EINVAL] at registered
  · cases found : s.bindings.findIdx? fun binding => !binding.used with
    | none =>
      have result : registerDriver bus driver s = (s, some (-ENOSPC)) := by
        rw [registerDriver, if_neg unset, found]
      simp [pciRegisterDriver, result, ENOSPC] at registered
    | some slot =>
      have result : registerDriver bus driver s = ({ s with
          bindings := s.bindings.set slot ⟨true, some driver, some slot⟩
          native := slot :: s.native
          registering := some (driver, .regist slot) }, none) := by
        rw [registerDriver, if_neg unset, found]
      rw [pciRegisterDriver, result] at registered
      by_cases accepted : regist = 0
      · simp only [registReturned, accepted, ne_eq, not_true, if_false, Option.map_eq_some_iff,
          Prod.exists, Prod.mk.injEq, true_and] at registered
        obtain ⟨wrappers, calls', looped, rfl, rfl⟩ := registered
        exact ⟨slot, _, result, rfl, rfl, accepted, looped, rfl⟩
      · simp [registReturned, accepted] at registered

/-- Such a call takes the steps of the model. -/
theorem pciRegisterDriver_run {max : Nat} (idle : s.registering = none)
    (registered : pciRegisterDriver bus table driver regist answers s = some (s', 0, calls)) :
    ∃ events, (system bus max).run s events = some s' := by
  obtain ⟨slot, taken, result, running, same, rfl, looped, final⟩ :=
    pciRegisterDriver_eq_zero registered
  obtain ⟨events, ran⟩ := probeDevices_run max
    (s := { taken with registering := some (driver, .devices) }) rfl same looped
  refine ⟨.register driver :: .registReturned 0 :: events, ?_⟩
  rw [final, ← ran]
  simp [System.run, system, step, idle, result, running, registReturned]

end Register

omit [DecidableEq Driver] in
/-- A call of `pci_register_driver` that returns 0 has probed the devices that match, each once and
with the first id that fits, up to the first whose probe returns 0. -/
theorem pciRegisterDriver_probes {driver : Driver} {answers : Nat → Int} {table : List Device}
    {regist : Int} {s s' : State Driver Device} {calls : List ProbeCall}
    (registered : pciRegisterDriver bus table driver regist answers s = some (s', 0, calls)) :
    ProbesUntilBound answers s'.wrappers calls (matching bus driver table) := by
  obtain ⟨slot, taken, -, -, -, -, looped, -⟩ := pciRegisterDriver_eq_zero registered
  obtain ⟨-, more, rfl, probes⟩ := probeDevices_spec looped
  simpa using probes

/-- Two devices, and a driver with an id for every device and one for the first. -/
def wildcards : Bus Unit Bool where
  drivers _ := {
    idTable := some [⟨0x10ec, PCI_ANY_ID, PCI_ANY_ID, PCI_ANY_ID, 0, 0⟩,
      ⟨0x10ec, 0x8822, PCI_ANY_ID, PCI_ANY_ID, 0, 0⟩]
    probe := true
    remove := true
    shutdown := true }
  devices first := ⟨0x10ec, if first then 0x8822 else 0xb822, 0, 0, 0x028000⟩

/-- The first device is refused by the driver, and the second one is probed. -/
theorem wildcards_probed : ∃ s' calls,
    pciRegisterDriver wildcards [true, false] () 0 (fun k => if k = 0 then -19 else 0) (start 2) =
        some (s', 0, calls) ∧
      ProbesUntilBound (fun k => if k = 0 then -19 else 0) s'.wrappers calls
        (matching wildcards () [true, false]) := by
  have ran : ∃ s' calls, pciRegisterDriver wildcards [true, false] () 0
      (fun k => if k = 0 then -19 else 0) (start 2) = some (s', 0, calls) := ⟨_, _, rfl⟩
  obtain ⟨s', calls, registered⟩ := ran
  exact ⟨s', calls, registered, pciRegisterDriver_probes registered⟩

/-- The first device is bound, and the second one is not probed. -/
theorem second_not_probed : ¬∀ (table : List Bool) (answers : Nat → Int)
    (s s' : State Unit Bool) (calls : List ProbeCall),
    pciRegisterDriver wildcards table () 0 answers s = some (s', 0, calls) →
      ∃ offers, offers.Perm (matching wildcards () table) ∧
        List.Forall₂ (ProbeCall.IsFor s'.wrappers) calls offers := by
  intro always
  have ran : ∃ s' call, pciRegisterDriver wildcards [true, false] () 0 (fun _ => 0) (start 2) =
      some (s', 0, [call]) := ⟨_, _, rfl⟩
  obtain ⟨s', call, registered⟩ := ran
  obtain ⟨offers, perm, probed⟩ := always [true, false] (fun _ => 0) (start 2) s' [call] registered
  have one := probed.length_eq
  have two : (matching wildcards () [true, false]).length = 2 := rfl
  rw [perm.length_eq, two, List.length_singleton] at one
  omega

end Lcompat.Pci
