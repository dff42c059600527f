import Lcompat.Pci.Model

/-!
# Which driver a removal calls

The binding of a device is not recorded: `lcompat_pci_native_remove` goes through the table and
calls the first driver that has a `remove` callback and an id that fits the device. That is the
driver whose probe has succeeded for the device only if the table happens to lead to it, and no
driver has to be called for a device without one.
-/

namespace Lcompat.Pci

open Lcompat.Logic

variable {Driver Device : Type} [DecidableEq Driver] [DecidableEq Device]
variable {bus : Bus Driver Device}

/-- What is noted of an event: a driver's probe that is called, and a removal. -/
def busNotes (bus : Bus Driver Device) (s : State Driver Device) :
    Event Driver Device → List (BusNote Driver Device)
  | .probeNext dev answer =>
    match s.registering with
    | some (driver, .devices) =>
      match probeNext bus driver dev answer s with
      | some (_, some dev) => [.probed driver dev answer]
      | _ => []
    | _ => []
  | .nativeProbe dev slot answer =>
    match nativeProbe bus dev slot answer s with
    | (_, ret, some driver) => [.probed driver dev ret]
    | _ => []
  | .nativeRemove dev =>
    [.removed (· == dev) ((nativeRemove bus dev s).2.toList.map fun driver => (dev, driver))]
  | _ => []

/-- When a device that has a wrapper is removed, the first binding that is used and whose driver has
a `remove` callback and an id that fits the device is one of the driver that is bound to it; there
is no such binding if no driver is bound. -/
def TableLeads (bus : Bus Driver Device) (s : State Driver Device × List (BusNote Driver Device)) :
    Event Driver Device → Prop
  | .nativeRemove dev => (wrap dev s.1.wrappers).isSome → ∀ driver,
    Reaches (callee bus (·.remove) dev) s.1.bindings driver ↔ Bound s.2 driver dev
  | _ => True

/-- A device has a wrapper. -/
def Wrapped (wrappers : List (Wrapper Device)) (dev : Device) : Prop :=
  ∃ wrapper ∈ wrappers, wrapper.used = true ∧ wrapper.native = some dev

omit [DecidableEq Driver] in
/-- A device that has a wrapper is given it. -/
theorem wrap_isSome_of_wrapped {dev : Device} {wrappers : List (Wrapper Device)}
    (wrapped : Wrapped wrappers dev) : (wrap dev wrappers).isSome := by
  obtain ⟨wrapper, member, used, native⟩ := wrapped
  unfold wrap
  split
  · rfl
  · rename_i missing
    have unfit := List.findIdx?_eq_none_iff.mp missing wrapper member
    simp [used, native] at unfit

omit [DecidableEq Driver] in
/-- Wrappers are never taken away, and the device that asked has one. -/
theorem wrapped_of_wrap {dev : Device} {wrappers wrappers' : List (Wrapper Device)} {i : Nat}
    (made : wrap dev wrappers = some (wrappers', i)) :
    Wrapped wrappers' dev ∧ ∀ other, Wrapped wrappers other → Wrapped wrappers' other := by
  unfold wrap at made
  split at made
  · rename_i j found
    obtain ⟨rfl, rfl⟩ := Prod.mk.inj (Option.some.inj made)
    obtain ⟨bound, fits, _⟩ := List.findIdx?_eq_some_iff_getElem.mp found
    refine ⟨⟨wrappers[j], List.getElem_mem bound, ?_⟩, fun _ => id⟩
    simpa using fits
  · split at made
    · rename_i j found
      obtain ⟨rfl, rfl⟩ := Prod.mk.inj (Option.some.inj made)
      obtain ⟨bound, free, _⟩ := List.findIdx?_eq_some_iff_getElem.mp found
      refine ⟨⟨⟨true, some dev⟩, List.mem_set bound _, rfl, rfl⟩, ?_⟩
      rintro other ⟨wrapper, member, used, native⟩
      obtain ⟨k, within, rfl⟩ := List.getElem_of_mem member
      have apart : j ≠ k := by
        rintro rfl
        simp [used] at free
      have long : k < (wrappers.set j ⟨true, some dev⟩).length := by simpa using within
      refine ⟨wrappers[k], ?_, used, native⟩
      rw [← List.getElem_set_ne apart long]
      exact List.getElem_mem long
    · simp at made

/-- The invariant of the history: removals were faithful, and bound devices have wrappers. -/
structure Inv (s : State Driver Device × List (BusNote Driver Device)) : Prop where
  /-- Removals called who was bound. -/
  faithful : Faithful s.2
  /-- A device to which a driver is bound has a wrapper. -/
  wrapped : ∀ driver dev, Bound s.2 driver dev → Wrapped s.1.wrappers dev

omit [DecidableEq Driver] in
/-- A removal calls who is bound exactly when the table leads to it. -/
theorem removesBound_iff {s : State Driver Device × List (BusNote Driver Device)} (inv : Inv s)
    (dev : Device) :
    RemovesBound s.2 (· == dev)
        ((nativeRemove bus dev s.1).2.toList.map fun driver => (dev, driver)) ↔
      TableLeads bus s (.nativeRemove dev) := by
  have calls : ∀ x driver, (x, driver) ∈ (nativeRemove bus dev s.1).2.toList.map (fun driver =>
      (dev, driver)) ↔ x = dev ∧ (nativeRemove bus dev s.1).2 = some driver := by
    intro x driver
    simp only [List.mem_map, Option.mem_toList, Prod.mk.injEq]
    constructor
    · rintro ⟨_, called, rfl, rfl⟩
      exact ⟨rfl, called⟩
    · rintro ⟨rfl, called⟩
      exact ⟨driver, called, rfl, rfl⟩
  have once : (((nativeRemove bus dev s.1).2.toList.map fun driver =>
      (dev, driver)).map Prod.fst).Nodup := by
    cases (nativeRemove bus dev s.1).2 <;> simp
  have called : (nativeRemove bus dev s.1).2 =
      if (wrap dev s.1.wrappers).isSome then
        s.1.bindings.findSome? (callee bus (·.remove) dev) else none := by
    unfold nativeRemove nativeCall
    cases wrap dev s.1.wrappers <;> rfl
  have meets : RemovesBound s.2 (· == dev) ((nativeRemove bus dev s.1).2.toList.map fun driver =>
      (dev, driver)) ↔ ∀ driver, (nativeRemove bus dev s.1).2 = some driver ↔
        Bound s.2 driver dev := by
    constructor
    · rintro ⟨bound, _⟩ driver
      have here := bound dev driver
      rw [calls] at here
      simpa using here
    · intro bound
      refine ⟨fun x driver => ?_, once⟩
      rw [calls, bound, beq_iff_eq]
      constructor <;> rintro ⟨rfl, here⟩ <;> exact ⟨rfl, here⟩
  rw [meets, called, TableLeads]
  cases found : (wrap dev s.1.wrappers).isSome with
  | true => simp only [if_true, findSome?_iff_reaches, forall_const]
  | false =>
    have nobody : ∀ driver, ¬Bound s.2 driver dev := by
      intro driver bound
      simp [wrap_isSome_of_wrapped (inv.wrapped driver dev bound)] at found
    simp [nobody]

/-- A step takes no wrapper away, and a device for which a probe is called has one. -/
theorem wrapped_step {s s' : State Driver Device} {event : Event Driver Device}
    (stepped : step bus s event = some s') :
    (∀ dev, Wrapped s.wrappers dev → Wrapped s'.wrappers dev) ∧
      ∀ driver dev ret, .probed driver dev ret ∈ busNotes bus s event →
        Wrapped s'.wrappers dev := by
  cases event with
  | register driver =>
    have same : s'.wrappers = s.wrappers := by
      simp only [step, registerDriver] at stepped
      grind -ring -linarith
    exact ⟨fun dev => same ▸ id, by simp [busNotes]⟩
  | registReturned ret =>
    have same : s'.wrappers = s.wrappers := by
      simp only [step, registReturned] at stepped
      grind -ring -linarith
    exact ⟨fun dev => same ▸ id, by simp [busNotes]⟩
  | probeNext dev answer =>
    simp only [step] at stepped
    split at stepped
    · rename_i driver registering
      obtain ⟨⟨after, probed⟩, looked, rfl⟩ := Option.map_eq_some_iff.mp stepped
      simp only [busNotes, registering, looked]
      cases dev with
      | none =>
        obtain ⟨rfl, rfl⟩ := Prod.mk.inj (Option.some.inj looked)
        exact ⟨fun _ => id, by simp⟩
      | some dev =>
        simp only [probeNext] at looked
        split at looked
        · split at looked
          · simp at looked
          · rename_i wrappers i made
            obtain ⟨rfl, rfl⟩ := Prod.mk.inj (Option.some.inj looked)
            obtain ⟨here, kept⟩ := wrapped_of_wrap made
            have set : (if answer = 0 then { s with wrappers := wrappers, registering := none }
                else { s with wrappers := wrappers }).wrappers = wrappers := by split <;> rfl
            refine ⟨fun other wrapped => ?_, fun driver' other ret member => ?_⟩
            · rw [set]
              exact kept other wrapped
            · rw [set]
              obtain rfl : other = dev := by simp_all
              exact here
        · obtain ⟨rfl, rfl⟩ := Prod.mk.inj (Option.some.inj looked)
          exact ⟨fun _ => id, by simp⟩
    · simp at stepped
  | unregister driver =>
    have same : s'.wrappers = s.wrappers := by
      simp only [step, unregisterDriver] at stepped
      grind -ring -linarith
    exact ⟨fun dev => same ▸ id, by simp [busNotes]⟩
  | nativeMatch dev slot =>
    have same : s' = s := by
      simp only [step] at stepped
      grind -ring -linarith
    exact ⟨fun dev => same ▸ id, by simp [busNotes]⟩
  | nativeProbe dev slot answer =>
    obtain ⟨_, rfl⟩ : slot ∈ s.native ∧ (nativeProbe bus dev slot answer s).1 = s' := by
      simpa [step] using stepped
    simp only [busNotes]
    unfold nativeProbe
    split
    · exact ⟨fun _ => id, by simp⟩
    · split
      · exact ⟨fun _ => id, by simp⟩
      · split
        · exact ⟨fun _ => id, by simp⟩
        · rename_i wrappers i made
          obtain ⟨here, kept⟩ := wrapped_of_wrap made
          split
          · refine ⟨kept, fun driver' other ret member => ?_⟩
            obtain rfl : other = dev := by simp_all
            exact here
          · exact ⟨kept, by simp⟩
  | nativeRemove dev | nativeShutdown dev =>
    obtain rfl := Option.some.inj stepped
    refine ⟨fun other wrapped => ?_, by simp [busNotes]⟩
    simp only [nativeRemove, nativeShutdown, nativeCall]
    split
    · exact wrapped
    · rename_i wrappers i made
      exact (wrapped_of_wrap made).2 other wrapped

omit [DecidableEq Driver] in
/-- An event that is no removal is noted as probes, and the table need not lead to anyone. -/
theorem busNotes_cases (bus : Bus Driver Device)
    (s : State Driver Device × List (BusNote Driver Device)) (event : Event Driver Device) :
    (∃ dev, event = .nativeRemove dev) ∨ TableLeads bus s event ∧
      ∀ note ∈ busNotes bus s.1 event, ∃ driver dev ret, note = .probed driver dev ret := by
  cases event with
  | nativeRemove dev => exact .inl ⟨dev, rfl⟩
  | register | registReturned | unregister | nativeMatch | nativeShutdown =>
    exact .inr ⟨trivial, by simp [busNotes]⟩
  | probeNext | nativeProbe =>
    refine .inr ⟨trivial, ?_⟩
    simp only [busNotes]
    grind -ring -linarith

omit [DecidableEq Driver] in
/-- The history after a step is faithful exactly when the table led to who was bound. -/
theorem faithful_step_iff {s : State Driver Device × List (BusNote Driver Device)} (inv : Inv s)
    (event : Event Driver Device) :
    Faithful (busNotes bus s.1 event ++ s.2) ↔ TableLeads bus s event := by
  rcases busNotes_cases bus s event with ⟨dev, rfl⟩ | ⟨leads, probes⟩
  · rw [← removesBound_iff inv dev]
    exact and_iff_left inv.faithful
  · rw [faithful_append_probes probes]
    exact iff_of_true inv.faithful leads

/-- A step at which the table leads to who is bound keeps the invariant. -/
theorem Inv.step {wrappers : Nat} {s s' : State Driver Device × List (BusNote Driver Device)}
    {event : Event Driver Device} (inv : Inv s) (leads : TableLeads bus s event)
    (stepped : ((system bus wrappers).record (busNotes bus)).step s event = some s') :
    Inv s' := by
  obtain ⟨moved, noted⟩ := System.record_step_eq_some.mp stepped
  obtain ⟨kept, probed⟩ := wrapped_step moved
  refine ⟨noted ▸ (faithful_step_iff inv event).mpr leads, fun driver dev bound => ?_⟩
  rw [noted] at bound
  rcases busNotes_cases bus s event with ⟨gone, rfl⟩ | ⟨_, probes⟩
  · exact kept dev (inv.wrapped driver dev bound.2)
  · rcases bound_append_probes bound probes with before | ⟨ret, member⟩
    · exact kept dev (inv.wrapped driver dev before)
    · exact probed driver dev ret member

/-- In every run, `remove` is called for exactly those drivers whose probe of the device has
returned 0 since its last removal, if and only if the table leads there at every removal. -/
theorem faithful_iff_tableLeads {wrappers : Nat} {events : List (Event Driver Device)}
    (ran : ((system bus wrappers).record (busNotes bus)).run (start wrappers, []) events ≠ none) :
    ((system bus wrappers).record (busNotes bus)).Throughout (fun s => Faithful s.2)
        (start wrappers, []) events ↔
      ((system bus wrappers).record (busNotes bus)).Along (TableLeads bus) (start wrappers, [])
        events := by
  obtain ⟨last, ran⟩ := Option.ne_none_iff_exists'.mp ran
  have fresh : Inv ((start wrappers : State Driver Device), []) := ⟨trivial, fun _ _ => False.elim⟩
  have lawful : ((system bus wrappers).record (busNotes bus)).Along (fun _ _ => True)
      (start wrappers, []) events := System.along_of_forall (fun _ _ => trivial) _ _
  refine System.throughout_iff_along (fun _ (inv : Inv _) => inv.faithful) ?_ ?_ fresh lawful ran
  · exact fun _ _ _ inv _ leads stepped => inv.step leads stepped
  · intro s event s' inv _ stepped faithful
    rw [(System.record_step_eq_some.mp stepped).2] at faithful
    exact (faithful_step_iff inv event).mp faithful

end Lcompat.Pci
