import Lcompat.Pci.Model

/-!
# Registrations and what is left of them

`pci_unregister_driver` clears `used` of one slot and tells the native bus nothing;
`lcompat_pci_native_match` and `lcompat_pci_native_probe` never look at `used`. A driver that was
unregistered is left alone only if it lay in one slot and the native bus does not come back with
the native driver of that slot. A registration that the native bus refuses keeps its slot.
-/

namespace Lcompat.Pci

open Lcompat.Logic

variable {Driver Device : Type} [DecidableEq Driver] [DecidableEq Device]
variable {bus : Bus Driver Device}

/-- What is noted of registrations. -/
inductive RegisterNote (Driver : Type) where
  /-- `pci_register_driver` was called with this table of bindings. -/
  | called (bindings : List (Binding Driver))
  /-- It returned a result for a driver, with this table of bindings. -/
  | returned (driver : Driver) (ret : Int) (bindings : List (Binding Driver))
  /-- `pci_unregister_driver` has returned. -/
  | unregistered (driver : Driver)
  /-- A callback of a driver was invoked, or the driver matched a device; and whether
  `pci_register_driver` was running for it. -/
  | reached (driver : Driver) (registering : Bool)

/-- A driver was unregistered, and not registered again. The newest note comes first. -/
def Gone : List (RegisterNote Driver) → Driver → Prop
  | [], _ => False
  | .unregistered d :: older, driver => d = driver ∨ Gone older driver
  | .returned d ret _ :: older, driver => ¬(d = driver ∧ ret = 0) ∧ Gone older driver
  | .called _ :: older, driver | .reached _ _ :: older, driver => Gone older driver

/-- The table at the last call of `pci_register_driver`. -/
def lastCalled : List (RegisterNote Driver) → Option (List (Binding Driver))
  | [] => none
  | .called bindings :: _ => some bindings
  | .returned _ _ _ :: older | .unregistered _ :: older | .reached _ _ :: older =>
    lastCalled older

/-- Every registration that was refused has left the table as it was when it was called. -/
def RefusalsKeep : List (RegisterNote Driver) → Prop
  | [] => True
  | .returned _ ret bindings :: older =>
    (ret ≠ 0 → lastCalled older = some bindings) ∧ RefusalsKeep older
  | .called _ :: older | .unregistered _ :: older | .reached _ _ :: older => RefusalsKeep older

/-- No driver was reached between the return of `pci_unregister_driver` and its next
registration. -/
def SilentWhenGone : List (RegisterNote Driver) → Prop
  | [] => True
  | .reached driver registering :: older =>
    (registering = true ∨ ¬Gone older driver) ∧ SilentWhenGone older
  | .called _ :: older | .unregistered _ :: older | .returned _ _ _ :: older =>
    SilentWhenGone older

/-- `pci_register_driver` is running for a driver. -/
def State.registers (s : State Driver Device) (driver : Driver) : Bool :=
  s.registering.any (·.1 == driver)

/-- The notes of an event that reaches a driver, or none. -/
def State.reaching (s : State Driver Device) (called : Option Driver) :
    List (RegisterNote Driver) :=
  called.toList.map fun driver => .reached driver (s.registers driver)

/-- What is noted of an event. -/
def registerNotes (bus : Bus Driver Device) (s : State Driver Device) :
    Event Driver Device → List (RegisterNote Driver)
  | .register driver =>
    match registerDriver bus driver s with
    | (s', some ret) => [.returned driver ret s'.bindings, .called s.bindings]
    | (_, none) => [.called s.bindings]
  | .registReturned ret =>
    match s.registering with
    | some (driver, .regist slot) =>
      match registReturned driver slot ret s with
      | (s', some ret) => [.returned driver ret s'.bindings]
      | (_, none) => []
    | _ => []
  | .probeNext dev answer =>
    match s.registering with
    | some (driver, .devices) =>
      match probeNext bus driver dev answer s with
      | some (s', probed) =>
        (if s'.registering = none then [.returned driver 0 s'.bindings] else []) ++
          s.reaching (probed.map fun _ => driver)
      | none => []
    | _ => []
  | .unregister driver => [.unregistered driver]
  | .nativeMatch dev slot =>
    s.reaching (if nativeMatch bus dev slot s then (s.privateData slot).bind (·.linuxDriver)
      else none)
  | .nativeProbe dev slot answer => s.reaching (nativeProbe bus dev slot answer s).2.2
  | .nativeRemove dev => s.reaching (nativeRemove bus dev s).2
  | .nativeShutdown dev => s.reaching (nativeShutdown bus dev s).2

/-- A binding is one of a driver, and used. -/
def Binding.Holds (binding : Binding Driver) (driver : Driver) : Prop :=
  binding.used = true ∧ binding.linuxDriver = some driver

/-- The native bus does not refuse a native driver; a driver that is unregistered is in at most one
used slot; and the native bus matches and probes a device only with native drivers whose driver is
in a used slot, or has no id that fits the device. -/
def Orderly (bus : Bus Driver Device) (s : State Driver Device) : Event Driver Device → Prop
  | .registReturned ret => ret = 0
  | .unregister driver => s.bindings.Pairwise fun b c => ¬(b.Holds driver ∧ c.Holds driver)
  | .nativeMatch dev slot | .nativeProbe dev slot _ => ∀ driver,
    (s.privateData slot).bind (·.linuxDriver) = some driver → bus.fits driver dev = true →
      ∃ binding ∈ s.bindings, binding.Holds driver
  | _ => True

/-- The invariant of the history: it is as it should be, and no used slot is left of a driver that
is gone, unless it is being registered. -/
structure Settled (s : State Driver Device × List (RegisterNote Driver)) : Prop where
  /-- Refused registrations left the table as it was. -/
  refusals : RefusalsKeep s.2
  /-- Drivers that are gone were not reached. -/
  silent : SilentWhenGone s.2
  /-- Drivers that are gone are in no used slot. -/
  gone : ∀ driver, Gone s.2 driver → s.1.registers driver = false →
    ∀ binding ∈ s.1.bindings, ¬binding.Holds driver

section Steps

variable {s s' : State Driver Device × List (RegisterNote Driver)}

omit [DecidableEq Device] in
/-- Reaching drivers says nothing about registrations. -/
theorem gone_reaching {state : State Driver Device} {called : Option Driver}
    {older : List (RegisterNote Driver)} {driver : Driver} :
    Gone (state.reaching called ++ older) driver ↔ Gone older driver := by
  cases called <;> rfl

omit [DecidableEq Device] in
/-- Reaching drivers leaves the tables of refused registrations. -/
theorem refusalsKeep_reaching {state : State Driver Device} {called : Option Driver}
    {older : List (RegisterNote Driver)} :
    RefusalsKeep (state.reaching called ++ older) ↔ RefusalsKeep older := by
  cases called <;> rfl

omit [DecidableEq Device] in
/-- A driver in a used slot may be reached, and so may one that is being registered. -/
theorem Settled.silent_reaching {called : Option Driver} (settled : Settled s)
    (held : ∀ driver, called = some driver →
      s.1.registers driver = true ∨ ∃ binding ∈ s.1.bindings, binding.Holds driver) :
    SilentWhenGone (s.1.reaching called ++ s.2) := by
  cases called with
  | none => exact settled.silent
  | some driver =>
    refine ⟨?_, settled.silent⟩
    cases registering : s.1.registers driver with
    | true => exact .inl rfl
    | false =>
      right
      intro gone
      rcases held driver rfl with here | ⟨binding, member, holds⟩
      · simp [registering] at here
      · exact settled.gone driver gone registering binding member holds

omit [DecidableEq Device] in
/-- A step that only reaches such a driver keeps the invariant. -/
theorem Settled.reaching {called : Option Driver} (settled : Settled s)
    (held : ∀ driver, called = some driver → ∃ binding ∈ s.1.bindings, binding.Holds driver)
    (bindings : s'.1.bindings = s.1.bindings) (registering : s'.1.registering = s.1.registering)
    (noted : s'.2 = s.1.reaching called ++ s.2) : Settled s' := by
  refine ⟨?_, ?_, fun driver gone idle => ?_⟩
  · rw [noted]
    exact refusalsKeep_reaching.mpr settled.refusals
  · rw [noted]
    exact settled.silent_reaching fun driver here => .inr (held driver here)
  · rw [noted, gone_reaching] at gone
    rw [bindings]
    unfold State.registers at idle
    rw [registering] at idle
    exact settled.gone driver gone idle

omit [DecidableEq Driver] in
/-- The loop of a removal or a shutdown calls a driver in a used slot. -/
theorem holds_of_nativeCall {callback : PciDriver → Bool} {dev : Device}
    {state : State Driver Device} {driver : Driver}
    (called : (nativeCall bus callback dev state).2 = some driver) :
    ∃ binding ∈ state.bindings, binding.Holds driver := by
  unfold nativeCall at called
  split at called
  · simp at called
  · obtain ⟨binding, member, answers⟩ := List.exists_of_findSome?_eq_some called
    refine ⟨binding, member, ?_⟩
    unfold callee at answers
    unfold Binding.Holds
    grind -ring -linarith

omit [DecidableEq Driver] in
/-- The native callbacks change neither the bindings nor the registration that is running. -/
theorem nativeCall_same {callback : PciDriver → Bool} {dev : Device}
    {state : State Driver Device} :
    (nativeCall bus callback dev state).1.bindings = state.bindings ∧
      (nativeCall bus callback dev state).1.registering = state.registering := by
  unfold nativeCall
  split <;> exact ⟨rfl, rfl⟩

omit [DecidableEq Driver] in
/-- Nor does `lcompat_pci_native_probe`, which reaches the driver of the native driver if one of
its ids fits. -/
theorem nativeProbe_same (bus : Bus Driver Device) (dev : Device) (slot : Nat) (answer : Int)
    (state : State Driver Device) :
    (nativeProbe bus dev slot answer state).1.bindings = state.bindings ∧
      (nativeProbe bus dev slot answer state).1.registering = state.registering ∧
      ∀ driver, (nativeProbe bus dev slot answer state).2.2 = some driver →
        (state.privateData slot).bind (·.linuxDriver) = some driver ∧
          bus.fits driver dev = true := by
  unfold nativeProbe
  split
  · exact ⟨rfl, rfl, by simp⟩
  · rename_i driver pointed
    split
    · exact ⟨rfl, rfl, by simp⟩
    · split
      · exact ⟨rfl, rfl, by simp⟩
      · split
        · rename_i fits
          refine ⟨rfl, rfl, fun driver' here => ?_⟩
          obtain rfl : driver = driver' := by simpa using here
          exact ⟨pointed, fits⟩
        · exact ⟨rfl, rfl, by simp⟩

omit [DecidableEq Driver] [DecidableEq Device] in
/-- `lcompat_pci_native_match` matches a driver that has an id that fits. -/
theorem fits_of_nativeMatch {dev : Device} {slot : Nat} {state : State Driver Device}
    {driver : Driver} (matched : nativeMatch bus dev slot state = true)
    (pointed : (state.privateData slot).bind (·.linuxDriver) = some driver) :
    bus.fits driver dev = true := by
  unfold nativeMatch at matched
  grind -ring -linarith

/-- A call of `pci_register_driver` that is refused at once, and one that goes on. -/
theorem Settled.register {driver : Driver} (settled : Settled s)
    (idle : s.1.registering = none) (next : s'.1 = (registerDriver bus driver s.1).1)
    (noted : s'.2 = registerNotes bus s.1 (.register driver) ++ s.2) : Settled s' := by
  obtain ⟨after, notes⟩ := s'
  simp only at next noted
  simp only [registerNotes] at noted
  unfold registerDriver at next noted
  -- both refusals leave the table alone
  have refused : ∀ ret : Int, ret ≠ 0 → Settled (s.1,
      [.returned driver ret s.1.bindings, .called s.1.bindings] ++ s.2) := by
    intro ret bad
    refine ⟨⟨fun _ => rfl, settled.refusals⟩, settled.silent, fun other gone => ?_⟩
    exact settled.gone other gone.2
  split at next
  · rename_i missing
    simp only [missing, if_true] at noted
    rw [next, noted]
    exact refused _ (by decide)
  · rename_i present
    simp only [present] at noted
    split at next
    · rename_i full
      simp only [full] at noted
      rw [next, noted]
      exact refused _ (by decide)
    · rename_i slot found
      simp only [found] at noted
      rw [next, noted]
      refine ⟨settled.refusals, settled.silent, fun other gone quiet binding member holds => ?_⟩
      have apart : driver ≠ other := by simpa [State.registers] using quiet
      rcases List.mem_or_eq_of_mem_set member with old | rfl
      · exact settled.gone other gone (by simp [State.registers, idle]) binding old holds
      · exact apart (Option.some.inj holds.2)

/-- The loop of `pci_register_driver` at its next device. -/
theorem Settled.probeNext {driver : Driver} {dev : Option Device} {answer : Int}
    (settled : Settled s) (running : s.1.registering = some (driver, .devices))
    {probed : Option Device} (looked : probeNext bus driver dev answer s.1 = some (s'.1, probed))
    (noted : s'.2 = registerNotes bus s.1 (.probeNext dev answer) ++ s.2) : Settled s' := by
  obtain ⟨after, notes⟩ := s'
  simp only [registerNotes, running] at looked noted
  rw [looked] at noted
  have same : after.bindings = s.1.bindings ∧
      (after.registering = none ∨ after.registering = s.1.registering) := by
    unfold Pci.probeNext at looked
    grind -ring -linarith
  obtain ⟨bindings, registering⟩ := same
  have registers : s.1.registers driver = true := by simp [State.registers, running]
  have silent : SilentWhenGone (s.1.reaching (probed.map fun _ => driver) ++ s.2) := by
    refine settled.silent_reaching fun other here => .inl ?_
    obtain ⟨_, _, rfl⟩ := Option.map_eq_some_iff.mp here
    exact registers
  have refusals : RefusalsKeep (s.1.reaching (probed.map fun _ => driver) ++ s.2) :=
    refusalsKeep_reaching.mpr settled.refusals
  simp only [List.append_assoc] at noted
  rcases registering with ended | goes
  · simp only [ended, if_true] at noted
    rw [noted]
    refine ⟨⟨fun bad => absurd rfl bad, refusals⟩, silent, fun other gone quiet => ?_⟩
    obtain ⟨apart, gone⟩ := gone
    have quiet : s.1.registers other = false := by
      have : driver ≠ other := fun here => apart ⟨here, rfl⟩
      simpa [State.registers, running] using this
    rw [bindings]
    exact settled.gone other (gone_reaching.mp gone) quiet
  · have continues : after.registering ≠ none := by simp [goes, running]
    simp only [continues, if_false] at noted
    rw [noted]
    refine ⟨refusals, silent, fun other gone quiet => ?_⟩
    rw [bindings]
    unfold State.registers at quiet
    rw [goes] at quiet
    exact settled.gone other (gone_reaching.mp gone) quiet

omit [DecidableEq Device] in
/-- `pci_unregister_driver` of a driver in at most one used slot leaves none. -/
theorem Settled.unregister {driver : Driver} (settled : Settled s)
    (sole : Orderly bus s.1 (.unregister driver)) (idle : s.1.registering = none)
    (next : s'.1 = unregisterDriver driver s.1)
    (noted : s'.2 = .unregistered driver :: s.2) : Settled s' := by
  obtain ⟨after, notes⟩ := s'
  simp only at next noted
  rw [noted]
  refine ⟨settled.refusals, settled.silent, fun other gone quiet binding member holds => ?_⟩
  have old : Gone s.2 other → ∀ binding ∈ s.1.bindings, ¬binding.Holds other :=
    fun gone => settled.gone other gone (by simp [State.registers, idle])
  rw [next] at member
  unfold unregisterDriver at member
  split at member
  · rename_i missing
    rcases gone with rfl | gone
    · have unfit := List.findIdx?_eq_none_iff.mp missing binding member
      obtain ⟨used, linked⟩ := holds
      simp [used, linked] at unfit
    · exact old gone binding member holds
  · rename_i slot found
    obtain ⟨bound, here, _⟩ := List.findIdx?_eq_some_iff_getElem.mp found
    obtain ⟨k, within, rfl⟩ := List.getElem_of_mem member
    simp only [List.getElem_modify] at holds
    split at holds
    · exact absurd holds.1 (by simp)
    · rename_i apart
      have short : k < s.1.bindings.length := by simpa using within
      rcases gone with rfl | gone
      · have first : s.1.bindings[slot].Holds driver := by simpa [Binding.Holds] using here
        have pairs := List.pairwise_iff_getElem.mp sole
        rcases Nat.lt_or_gt_of_ne apart with below | above
        · exact pairs slot k bound short below ⟨first, holds⟩
        · exact pairs k slot short bound above ⟨holds, first⟩
      · exact old gone _ (List.getElem_mem short) holds

/-- An orderly step keeps the invariant. -/
theorem Settled.step {wrappers : Nat} {event : Event Driver Device} (settled : Settled s)
    (orderly : Orderly bus s.1 event)
    (stepped : ((system bus wrappers).record (registerNotes bus)).step s event = some s') :
    Settled s' := by
  obtain ⟨moved, noted⟩ := System.record_step_eq_some.mp stepped
  cases event with
  | register driver =>
    obtain ⟨idle, next⟩ := Option.ite_none_right_eq_some.mp moved
    exact settled.register idle (Option.some.inj next).symm noted
  | registReturned ret =>
    obtain rfl : ret = 0 := orderly
    simp only [system, Pci.step] at moved
    split at moved
    · rename_i driver slot running
      have next := Option.some.inj moved
      simp only [registReturned, ne_eq, not_true, if_false] at next
      have quiet : registerNotes bus s.1 (.registReturned 0) = [] := by
        simp [registerNotes, running, registReturned]
      rw [quiet, List.nil_append] at noted
      have registers : ∀ other, s'.1.registers other = s.1.registers other := by
        simp [State.registers, ← next, running]
      refine ⟨noted ▸ settled.refusals, noted ▸ settled.silent, fun other gone idle => ?_⟩
      rw [registers] at idle
      rw [← next]
      exact settled.gone other (noted ▸ gone) idle
    · simp at moved
  | probeNext dev answer =>
    simp only [system, Pci.step] at moved
    split at moved
    · rename_i driver running
      obtain ⟨⟨after, probed⟩, looked, next⟩ := Option.map_eq_some_iff.mp moved
      obtain rfl : after = s'.1 := next
      exact settled.probeNext running looked noted
    · simp at moved
  | unregister driver =>
    obtain ⟨idle, next⟩ := Option.ite_none_right_eq_some.mp moved
    exact settled.unregister orderly idle (Option.some.inj next).symm noted
  | nativeMatch dev slot =>
    obtain ⟨_, next⟩ := Option.ite_none_right_eq_some.mp moved
    have same : s'.1 = s.1 := (Option.some.inj next).symm
    refine settled.reaching (fun driver called => ?_) (same ▸ rfl) (same ▸ rfl) noted
    split at called
    · rename_i matched
      exact orderly driver called (fits_of_nativeMatch matched called)
    · simp at called
  | nativeProbe dev slot answer =>
    obtain ⟨_, next⟩ := Option.ite_none_right_eq_some.mp moved
    obtain ⟨bindings, registering, reached⟩ :=
      nativeProbe_same bus dev slot answer s.1
    rw [Option.some.inj next] at bindings registering
    refine settled.reaching (fun driver called => ?_) bindings registering noted
    obtain ⟨pointed, fits⟩ := reached driver called
    exact orderly driver pointed fits
  | nativeRemove dev | nativeShutdown dev =>
    have same := Option.some.inj moved
    have bindings : s'.1.bindings = s.1.bindings := same ▸ nativeCall_same.1
    have registering : s'.1.registering = s.1.registering := same ▸ nativeCall_same.2
    exact settled.reaching (fun driver called => holds_of_nativeCall called) bindings registering
      noted

end Steps

/-- In every orderly run, a refused registration leaves the table as it was, and a driver that is
unregistered is not reached until it is registered again. -/
theorem registrations_kept {wrappers : Nat} {s : State Driver Device × List (RegisterNote Driver)}
    (reach : ((system bus wrappers).record (registerNotes bus)).Reach
      (fun s event => Orderly bus s.1 event) s) :
    RefusalsKeep s.2 ∧ SilentWhenGone s.2 := by
  have settled : Settled s := by
    refine reach.invariant Settled ?_ ?_
    · rintro ⟨state, notes⟩ ⟨_, rfl⟩
      exact ⟨trivial, trivial, fun _ => False.elim⟩
    · exact fun t event u settled orderly stepped => settled.step orderly stepped
  exact ⟨settled.refusals, settled.silent⟩

/-- A bus with one device and one driver, which has an id for it. -/
def oneDriver : Bus Unit Unit where
  drivers _ := {
    idTable := some [⟨0x10ec, 0x8822, PCI_ANY_ID, PCI_ANY_ID, 0, 0⟩]
    probe := true
    remove := true
    shutdown := true }
  devices _ := ⟨0x10ec, 0x8822, 0, 0, 0x28000⟩

/-- The driver is registered, which probes the device, and unregistered; it is registered again, and
the native bus probes and removes the device. -/
def registeredAgain : List (Event Unit Unit) :=
  [.register (), .registReturned 0, .probeNext (some ()) 0, .unregister (), .register (),
    .registReturned 0, .probeNext none 0, .nativeProbe () 0 0, .nativeRemove ()]

instance (binding : Binding Driver) (driver : Driver) : Decidable (binding.Holds driver) :=
  inferInstanceAs (Decidable (_ ∧ _))

instance (s : State Unit Unit) (event : Event Unit Unit) : Decidable (Orderly oneDriver s event) :=
  match event with
  | .registReturned ret => inferInstanceAs (Decidable (ret = 0))
  | .unregister driver => inferInstanceAs (Decidable (s.bindings.Pairwise fun b c =>
    ¬(b.Holds driver ∧ c.Holds driver)))
  | .nativeMatch dev slot | .nativeProbe dev slot _ => inferInstanceAs (Decidable (∀ driver,
    (s.privateData slot).bind (·.linuxDriver) = some driver → oneDriver.fits driver dev = true →
      ∃ binding ∈ s.bindings, binding.Holds driver))
  | .register _ | .probeNext _ _ | .nativeRemove _ | .nativeShutdown _ => .isTrue trivial

/-- Being gone is over with the next registration. -/
theorem registeredAgain_kept :
    ∃ s, ((system oneDriver 1).record (registerNotes oneDriver)).run (start 1, [])
        registeredAgain = some s ∧ RefusalsKeep s.2 ∧ SilentWhenGone s.2 := by
  have ran : ∃ s, ((system oneDriver 1).record (registerNotes oneDriver)).runWith
      (fun s event => Orderly oneDriver s.1 event) (start 1, []) registeredAgain = some s :=
    ⟨_, rfl⟩
  obtain ⟨s, executed⟩ := ran
  have fresh : ((system oneDriver 1).record (registerNotes oneDriver)).init (start 1, []) :=
    ⟨rfl, rfl⟩
  exact ⟨s, (System.along_of_runWith executed).2,
    registrations_kept ⟨_, fresh, System.path_of_runWith executed⟩⟩

/-- The native bus refuses the native driver. -/
def refused : List (Event Unit Unit) :=
  [.register (), .registReturned (-ENOMEM)]

/-- The driver is unregistered, and the native bus comes back with its native driver. -/
def probedWhenGone : List (Event Unit Unit) :=
  [.register (), .registReturned 0, .probeNext none 0, .unregister (), .nativeProbe () 0 0]

/-- A refused registration keeps its slot, and a driver that is gone is probed. -/
theorem registrations_not_kept :
    (¬∀ s, ((system oneDriver 1).record (registerNotes oneDriver)).Reachable s →
        RefusalsKeep s.2) ∧
      ¬∀ s, ((system oneDriver 1).record (registerNotes oneDriver)).Reachable s →
        SilentWhenGone s.2 := by
  have fresh : ((system oneDriver 1).record (registerNotes oneDriver)).init (start 1, []) :=
    ⟨rfl, rfl⟩
  constructor
  · intro always
    have ran : ∃ s table, ((system oneDriver 1).record (registerNotes oneDriver)).run
        (start 1, []) refused = some (s, [.returned () (-ENOMEM) table,
          .called (start 1 : State Unit Unit).bindings]) ∧
          table[0]? = some ⟨true, some (), some 0⟩ := ⟨_, _, rfl, rfl⟩
    obtain ⟨s, table, executed, kept⟩ := ran
    have refusals := always _ (System.reachable_of_run fresh executed)
    have same := Option.some.inj (refusals.1 (by decide))
    rw [← same] at kept
    exact absurd kept (by decide)
  · intro always
    have ran : ∃ s first second, ((system oneDriver 1).record (registerNotes oneDriver)).run
        (start 1, []) probedWhenGone = some (s, [.reached () false, .unregistered (),
          .returned () 0 first, .called second]) := ⟨_, _, _, rfl⟩
    obtain ⟨s, first, second, executed⟩ := ran
    have silent := always _ (System.reachable_of_run fresh executed)
    exact silent.1.elim (by simp) fun present => present (.inl rfl)

end Lcompat.Pci
