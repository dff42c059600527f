import Lcompat.Logic.Numbering
import Lcompat.Pci.Model

/-!
# The table of wrappers

`lcompat_pci_wrap` takes the slots of its table in order and gives none back. The table holds the
devices that were wrapped, in the order of their first wrapping, so that the wrapper of a device is
its number among them.
-/

namespace Lcompat.Pci

open Lcompat.Logic

variable {Driver Device : Type} [DecidableEq Device]
variable {bus : Bus Driver Device}

/-- The table of some wrappers when some devices have been wrapped. -/
def wrapperTable (max : Nat) (seen : List Device) : List (Wrapper Device) :=
  seen.map (fun dev => ⟨true, some dev⟩) ++ List.replicate (max - seen.length) ⟨false, none⟩

/-- `lcompat_pci_wrap` is called for some devices one after the other: the wrappers that are
returned. -/
def wrapAll : List Device → List (Wrapper Device) → List (Wrapper Device) × List (Option Nat)
  | [], wrappers => (wrappers, [])
  | dev :: devs, wrappers =>
    match wrap dev wrappers with
    | some (wrappers, i) =>
      let rest := wrapAll devs wrappers
      (rest.1, some i :: rest.2)
    | none =>
      let rest := wrapAll devs wrappers
      (rest.1, none :: rest.2)

section Table

variable {max i : Nat} {dev : Device} {seen devs : List Device}

omit [DecidableEq Device] in
/-- The wrapper of a device is the slot that has its place. -/
theorem getElem?_wrapperTable :
    (wrapperTable max seen)[i]? = some ⟨true, some dev⟩ ↔ seen[i]? = some dev := by
  unfold wrapperTable
  by_cases inside : i < seen.length
  · rw [List.getElem?_append_left (by rwa [List.length_map]), List.getElem?_map]
    cases seen[i]? <;> simp
  · have none_ : seen[i]? = none := List.getElem?_eq_none (Nat.not_lt.mp inside)
    rw [List.getElem?_append_right (by rw [List.length_map]; exact Nat.not_lt.mp inside), none_,
      List.getElem?_replicate]
    split <;> simp

/-- `lcompat_pci_wrap` numbers devices. -/
theorem wrap_wrapperTable (dev : Device) :
    wrap dev (wrapperTable max seen) =
      (number max dev seen).map fun result => (wrapperTable max result.1, result.2) := by
  have used : (fun wrapper : Wrapper Device => wrapper.used && wrapper.native == some dev) ∘
      (fun dev => ⟨true, some dev⟩) = (· == dev) := by
    funext other
    simp
  have unused : (fun wrapper : Wrapper Device => !wrapper.used) ∘
      (fun dev : Device => ⟨true, some dev⟩) = fun _ => false := rfl
  unfold wrap number
  by_cases known : dev ∈ seen
  · have place : seen.findIdx? (· == dev) = some (seen.idxOf dev) :=
      List.findIdx?_eq_some_iff_findIdx_eq.mpr ⟨List.idxOf_lt_length_iff.mpr known, rfl⟩
    have found : (wrapperTable max seen).findIdx? (fun wrapper =>
        wrapper.used && wrapper.native == some dev) = some (seen.idxOf dev) := by
      rw [wrapperTable, List.findIdx?_append, List.findIdx?_map, used, place]
      rfl
    rw [found, if_pos known]
    rfl
  · have place : seen.findIdx? (· == dev) = none := by
      rw [List.findIdx?_eq_none_iff]
      intro other member
      have apart : other ≠ dev := fun same => known (same ▸ member)
      simpa using apart
    have missing : (wrapperTable max seen).findIdx? (fun wrapper =>
        wrapper.used && wrapper.native == some dev) = none := by
      rw [wrapperTable, List.findIdx?_append, List.findIdx?_map, used, place,
        List.findIdx?_replicate]
      simp
    have free : (wrapperTable max seen).findIdx? (fun wrapper => !wrapper.used) =
        if seen.length < max then some seen.length else none := by
      have full : seen.findIdx? (fun _ => false) = none := by
        rw [List.findIdx?_eq_none_iff]
        exact fun _ _ => rfl
      rw [wrapperTable, List.findIdx?_append, List.findIdx?_map, unused, full,
        List.findIdx?_replicate]
      by_cases room : seen.length < max
      · simp [room]
      · simp [room]
    rw [missing, free, if_neg known]
    by_cases room : seen.length < max
    · have left : max - seen.length = max - (seen.length + 1) + 1 := by omega
      have taken : (wrapperTable max seen).set seen.length ⟨true, some dev⟩ =
          wrapperTable max (seen ++ [dev]) := by
        unfold wrapperTable
        rw [List.set_append_right _ _ (by rw [List.length_map]), List.length_map, Nat.sub_self,
          left, List.replicate_succ, List.set_cons_zero, List.map_append, List.length_append,
          List.length_singleton, List.append_assoc]
        rfl
      simp only [if_pos room, taken, Option.map_some]
    · simp only [if_neg room, Option.map_none]

/-- Calls of `lcompat_pci_wrap` number their devices. -/
theorem wrapAll_wrapperTable :
    wrapAll devs (wrapperTable max seen) =
      (wrapperTable max (numberAll max devs seen).1, (numberAll max devs seen).2) := by
  induction devs generalizing seen with
  | nil => rfl
  | cons dev devs ih =>
    rw [wrapAll, numberAll, wrap_wrapperTable]
    cases given : number max dev seen with
    | none => simp only [Option.map_none, ih]
    | some pair =>
      simp only [Option.map_some, ih]

/-- A device that is wrapped has the wrapper that is returned, and the wrappers of others stay. -/
theorem wrap_keeps {wrappers wrappers' : List (Wrapper Device)}
    (made : wrap dev wrappers = some (wrappers', i)) :
    wrappers'[i]? = some (⟨true, some dev⟩ : Wrapper Device) ∧
      ∀ (j : Nat) (other : Option Device), wrappers[j]? = some ⟨true, other⟩ →
        wrappers'[j]? = some ⟨true, other⟩ := by
  unfold wrap at made
  split at made
  · next k found =>
    obtain ⟨rfl, rfl⟩ := Prod.mk.inj (Option.some.inj made)
    obtain ⟨bound, fits, -⟩ := List.findIdx?_eq_some_iff_getElem.mp found
    simp only [Bool.and_eq_true, beq_iff_eq] at fits
    have same : wrappers[k] = ⟨true, some dev⟩ := by
      rw [← fits.1, ← fits.2]
    exact ⟨by rw [List.getElem?_eq_getElem bound, same], fun _ _ => id⟩
  · split at made
    · next k found =>
      obtain ⟨rfl, rfl⟩ := Prod.mk.inj (Option.some.inj made)
      obtain ⟨bound, free, -⟩ := List.findIdx?_eq_some_iff_getElem.mp found
      refine ⟨List.getElem?_set_self bound, fun j other held => ?_⟩
      have apart : k ≠ j := by
        rintro rfl
        rw [List.getElem?_eq_getElem bound, Option.some.injEq] at held
        simp [held] at free
      rw [List.getElem?_set_ne apart, held]
    · simp at made

end Table

section Reached

variable {max : Nat}

/-- A table of wrappers in which devices are numbered. -/
def Tabled (max : Nat) (wrappers : List (Wrapper Device)) : Prop :=
  ∃ seen, Numbered max seen ∧ wrappers = wrapperTable max seen

/-- `lcompat_pci_wrap` keeps such a table. -/
theorem Tabled.wrap {wrappers wrappers' : List (Wrapper Device)} {dev : Device} {i : Nat}
    (tabled : Tabled max wrappers) (made : wrap dev wrappers = some (wrappers', i)) :
    Tabled max wrappers' := by
  obtain ⟨seen, numbered, rfl⟩ := tabled
  rw [wrap_wrapperTable] at made
  obtain ⟨⟨seen', n⟩, given, same⟩ := Option.map_eq_some_iff.mp made
  obtain ⟨rfl, rfl⟩ := Prod.mk.inj same
  exact ⟨seen', (number_spec numbered given).1, rfl⟩

/-- The native callbacks that look for a driver keep it. -/
theorem Tabled.nativeCall {callback : PciDriver → Bool} {dev : Device} {s : State Driver Device}
    (tabled : Tabled max s.wrappers) : Tabled max (nativeCall bus callback dev s).1.wrappers := by
  unfold Pci.nativeCall
  split
  · exact tabled
  · next made => exact tabled.wrap made

/-- `lcompat_pci_native_probe` keeps it. -/
theorem Tabled.nativeProbe {dev : Device} {slot : Nat} {answer : Int} {s : State Driver Device}
    (tabled : Tabled max s.wrappers) :
    Tabled max (nativeProbe bus dev slot answer s).1.wrappers := by
  unfold Pci.nativeProbe
  split
  · exact tabled
  · split
    · exact tabled
    · split
      · exact tabled
      · next made => split <;> exact tabled.wrap made

/-- The loop of `pci_register_driver` keeps it. -/
theorem Tabled.probeNext {driver : Driver} {dev probed : Option Device} {answer : Int}
    {s s' : State Driver Device} (tabled : Tabled max s.wrappers)
    (looked : probeNext bus driver dev answer s = some (s', probed)) : Tabled max s'.wrappers := by
  unfold Pci.probeNext at looked
  split at looked
  · obtain ⟨rfl, -⟩ := Prod.mk.inj (Option.some.inj looked)
    exact tabled
  · split at looked
    · split at looked
      · simp at looked
      · next made =>
        obtain ⟨same, -⟩ := Prod.mk.inj (Option.some.inj looked)
        rw [← same]
        split <;> exact tabled.wrap made
    · obtain ⟨rfl, -⟩ := Prod.mk.inj (Option.some.inj looked)
      exact tabled

/-- Devices are numbered in the table of every state that is reached. -/
theorem tabled_of_reachable [DecidableEq Driver] {s : State Driver Device}
    (reach : (system bus max).Reachable s) :
    Tabled max s.wrappers := by
  refine reach.invariant (fun s => Tabled max s.wrappers) ?_ ?_
  · rintro s rfl
    exact ⟨[], .nil, rfl⟩
  · intro s event s' tabled _ stepped
    cases event with
    | register driver =>
      obtain ⟨-, next⟩ := Option.ite_none_right_eq_some.mp stepped
      rw [← Option.some.inj next]
      unfold registerDriver
      split
      · exact tabled
      · split <;> exact tabled
    | registReturned ret =>
      simp only [system, step] at stepped
      split at stepped
      · rw [← Option.some.inj stepped]
        unfold registReturned
        split <;> exact tabled
      · simp at stepped
    | probeNext dev answer =>
      simp only [system, step] at stepped
      split at stepped
      · obtain ⟨⟨after, probed⟩, looked, rfl⟩ := Option.map_eq_some_iff.mp stepped
        exact tabled.probeNext looked
      · simp at stepped
    | unregister driver =>
      obtain ⟨-, next⟩ := Option.ite_none_right_eq_some.mp stepped
      rw [← Option.some.inj next]
      unfold unregisterDriver
      split <;> exact tabled
    | nativeMatch dev slot =>
      obtain ⟨-, next⟩ := Option.ite_none_right_eq_some.mp stepped
      rw [← Option.some.inj next]
      exact tabled
    | nativeProbe dev slot answer =>
      obtain ⟨-, next⟩ := Option.ite_none_right_eq_some.mp stepped
      rw [← Option.some.inj next]
      exact tabled.nativeProbe
    | nativeRemove dev | nativeShutdown dev =>
      rw [← Option.some.inj stepped]
      exact tabled.nativeCall

end Reached

end Lcompat.Pci
