import Lcompat.Pci.Wrappers

/-!
# Walking the devices of a class

`pci_get_class` goes on behind the device that it returned last, which it looks for in the table of
devices. Fed back its results, it goes through the devices of a class in the order of the table. It
does not look whether `lcompat_pci_wrap` returns a wrapper, and wrappers are never given back: it
fails on the first device of the class that finds the table of wrappers full.
-/

namespace Lcompat.Pci

open Lcompat.Logic

variable {Driver Device : Type} [DecidableEq Device] {bus : Bus Driver Device}

/-- The comparison of `pci_get_class`: a device is of a class. -/
def Bus.inClass (bus : Bus Driver Device) (classCode : BitVec 32) (dev : Device) : Bool :=
  (bus.devices dev).classCode &&& 0xffffff00 == classCode &&& 0xffffff00

/-- The first loop of `pci_get_class`: where the second one starts, behind the device of the wrapper
it is given. -/
def classStart (table : List Device) (wrappers : List (Wrapper Device)) (from_ : Option Nat) :
    Nat :=
  match (from_.bind (wrappers[·]?)).bind (·.native) with
  | none => 0
  | some native =>
    match table.findIdx? (· == native) with
    | some i => i + 1
    | none => 0

/-- `pci_get_class`, of null or a wrapper. Without a wrapper for the device it has no defined
behaviour. -/
def pciGetClass (bus : Bus Driver Device) (table : List Device) (classCode : BitVec 32)
    (from_ : Option Nat) (wrappers : List (Wrapper Device)) :
    Option (List (Wrapper Device) × Option Nat) :=
  match (table.drop (classStart table wrappers from_)).find? (bus.inClass classCode) with
  | none => some (wrappers, none)
  | some dev => (wrap dev wrappers).map fun result => (result.1, some result.2)

/-- `pci_get_class` is fed back its results until it returns null, in some calls: the wrappers it
returns. -/
def classWalk (bus : Bus Driver Device) (table : List Device) (classCode : BitVec 32) :
    Nat → Option Nat → List (Wrapper Device) → Option (List (Wrapper Device) × List Nat)
  | 0, _, _ => none
  | calls + 1, from_, wrappers =>
    match pciGetClass bus table classCode from_ wrappers with
    | none => none
    | some (wrappers, none) => some (wrappers, [])
    | some (wrappers, some i) =>
      (classWalk bus table classCode calls (some i) wrappers).map fun rest =>
        (rest.1, i :: rest.2)

/-- What is returned for a device is a wrapper, and the device's. -/
def IsWrapper (wrappers : List (Wrapper Device)) (n : Option Nat) (dev : Device) : Prop :=
  ∃ i, n = some i ∧ wrappers[i]? = some ⟨true, some dev⟩

/-- Different wrappers are of different devices. -/
def OneEach (wrappers : List (Wrapper Device)) : Prop :=
  ∀ (i j : Nat) (dev : Device), IsWrapper wrappers (some i) dev → IsWrapper wrappers (some j) dev →
    i = j

/-- After some calls of `lcompat_pci_wrap`, `pci_get_class` goes through the devices of a class once
each, in the order of the table, and then returns null; and in the end every wrapper that was
returned is the only one of the device that it was returned for. -/
def Enumerates (bus : Bus Driver Device) (max : Nat) (calls table : List Device)
    (classCode : BitVec 32) : Prop :=
  ∃ wrappers slots,
    classWalk bus table classCode (table.length + 1) none (wrapAll calls (wrapperTable max [])).1 =
        some (wrappers, slots) ∧
      List.Forall₂ (IsWrapper wrappers)
        ((wrapAll calls (wrapperTable max [])).2 ++ slots.map some)
        (calls ++ table.filter (bus.inClass classCode)) ∧
      OneEach wrappers

section Walk

variable {max calls : Nat} {table seen before rest : List Device} {classCode : BitVec 32}
  {from_ : Option Nat}

/-- The walk numbers the devices of the class behind the last one, and fails where one of them has
no number. -/
theorem classWalk_eq_some_iff (distinct : table.Nodup) (split : table = before ++ rest)
    (numbered : Numbered max seen)
    (here : classStart table (wrapperTable max seen) from_ = before.length)
    (enough : (rest.filter (bus.inClass classCode)).length < calls)
    (wrappers : List (Wrapper Device)) (slots : List Nat) :
    classWalk bus table classCode calls from_ (wrapperTable max seen) = some (wrappers, slots) ↔
      wrappers = wrapperTable max (numberAll max (rest.filter (bus.inClass classCode)) seen).1 ∧
        (numberAll max (rest.filter (bus.inClass classCode)) seen).2 = slots.map some := by
  induction calls generalizing before rest seen from_ slots with
  | zero => exact absurd enough (Nat.not_lt_zero _)
  | succ calls ih =>
    have remaining : table.drop before.length = rest := by rw [split, List.drop_left]
    rw [classWalk, pciGetClass, here, remaining]
    cases found : rest.find? (bus.inClass classCode) with
    | none =>
      have none_ : rest.filter (bus.inClass classCode) = [] := by
        rw [List.filter_eq_nil_iff]
        exact fun dev member => by simpa using List.find?_eq_none.mp found dev member
      rw [none_, numberAll]
      constructor
      · intro same
        obtain ⟨rfl, rfl⟩ := Prod.mk.inj (Option.some.inj same)
        exact ⟨rfl, rfl⟩
      · rintro ⟨rfl, empty⟩
        rw [List.nil_eq, List.map_eq_nil_iff] at empty
        rw [empty]
    | some dev =>
      obtain ⟨inClass, skipped, rest', rfl, others⟩ := List.find?_eq_some_iff_append.mp found
      have filtered : (skipped ++ dev :: rest').filter (bus.inClass classCode) =
          dev :: rest'.filter (bus.inClass classCode) := by
        have none_ : skipped.filter (bus.inClass classCode) = [] := by
          rw [List.filter_eq_nil_iff]
          exact fun other member => by simpa using others other member
        rw [List.filter_append, none_, List.nil_append, List.filter_cons_of_pos inClass]
      rw [filtered] at enough ⊢
      rw [List.length_cons] at enough
      simp only [numberAll, wrap_wrapperTable]
      cases given : number max dev seen with
      | none =>
        constructor
        · intro same
          simp at same
        · rintro ⟨-, same⟩
          cases slots <;> simp at same
      | some pair =>
        obtain ⟨seen', n⟩ := pair
        obtain ⟨numbered', -, place, -⟩ := number_spec numbered given
        have whole : table = (before ++ skipped ++ [dev]) ++ rest' := by
          rw [split]
          simp
        have behind : classStart table (wrapperTable max seen') (some n) =
            (before ++ skipped ++ [dev]).length := by
          have slot := (@getElem?_wrapperTable Device max n dev seen').mpr place
          have index : table.findIdx? (· == dev) = some (before ++ skipped).length := by
            have fresh : dev ∉ before ++ skipped := by
              rw [whole, List.append_assoc, List.nodup_append] at distinct
              exact fun member => distinct.2.2 dev member dev (by simp) rfl
            have none_ : (before ++ skipped).findIdx? (· == dev) = none := by
              rw [List.findIdx?_eq_none_iff]
              intro other member
              have apart : other ≠ dev := fun same => fresh (same ▸ member)
              simpa using apart
            rw [whole, List.append_assoc, List.findIdx?_append, none_, List.singleton_append,
              List.findIdx?_cons]
            simp
          rw [classStart, Option.bind_some, slot, Option.bind_some]
          simp only [index, List.length_append, List.length_singleton]
        have later := ih whole numbered' behind (by omega)
        simp only [Option.map_some, Option.map_eq_some_iff, Prod.exists, Prod.mk.injEq]
        constructor
        · rintro ⟨wrappers', slots', walked, rfl, rfl⟩
          obtain ⟨same, numbers⟩ := (later slots').mp walked
          exact ⟨same, by rw [List.map_cons, numbers]⟩
        · rintro ⟨same, numbers⟩
          cases slots with
          | nil => simp at numbers
          | cons i slots =>
            rw [List.map_cons, List.cons.injEq, Option.some.injEq] at numbers
            exact ⟨wrappers, slots, (later slots).mpr ⟨same, numbers.2⟩, rfl, by rw [numbers.1]⟩

omit [DecidableEq Device] in
/-- The wrapper of a device is the slot that is its place. -/
theorem isWrapper_iff_places {n : Option Nat} {dev : Device} :
    IsWrapper (wrapperTable max seen) n dev ↔ Places seen n dev := by
  unfold IsWrapper Places
  simp only [getElem?_wrapperTable]

omit [DecidableEq Device] in
/-- The devices of a table have one wrapper each. -/
theorem oneEach_wrapperTable (distinct : seen.Nodup) : OneEach (wrapperTable max seen) := by
  intro i j dev here there
  have same := (Places.eq_iff distinct (isWrapper_iff_places.mp here)
    (isWrapper_iff_places.mp there)).mpr rfl
  exact Option.some.inj same

/-- The walk goes on where earlier calls have left off. -/
theorem classWalk_table (distinct : table.Nodup) (devs : List Device)
    (wrappers : List (Wrapper Device)) (slots : List Nat) :
    classWalk bus table classCode (table.length + 1) none
        (wrapAll devs (wrapperTable max [])).1 = some (wrappers, slots) ↔
      wrappers = wrapperTable max
          (numberAll max (devs ++ table.filter (bus.inClass classCode)) []).1 ∧
        (numberAll max (devs ++ table.filter (bus.inClass classCode)) []).2 =
          (wrapAll devs (wrapperTable max [])).2 ++ slots.map some := by
  have numbered : Numbered max (numberAll max devs []).1 := (numberAll_spec .nil devs).1
  have enough : (table.filter (bus.inClass classCode)).length < table.length + 1 :=
    Nat.lt_succ_of_le (List.length_filter_le _ _)
  rw [wrapAll_wrapperTable, numberAll_append, List.append_cancel_left_eq]
  exact classWalk_eq_some_iff distinct (List.nil_append table).symm numbered rfl enough wrappers
    slots

/-- A walk that goes through its devices has found room for all of them. -/
theorem Enumerates.card_le (distinct : table.Nodup) {devs : List Device}
    (enumerates : Enumerates bus max devs table classCode) :
    (devs ++ table.filter (bus.inClass classCode)).toFinset.card ≤ max := by
  obtain ⟨wrappers, slots, walked, returned, -⟩ := enumerates
  have numbers := ((classWalk_table distinct devs wrappers slots).mp walked).2
  have total := (numberAll_total_iff (@Numbered.nil Device max)
    (devs ++ table.filter (bus.inClass classCode))).mp
  rw [List.nil_append] at total
  apply total
  rw [numbers]
  generalize (wrapAll devs (wrapperTable max [])).2 ++ slots.map some = results at returned
  generalize devs ++ table.filter (bus.inClass classCode) = devices at returned
  induction returned with
  | nil => simp
  | cons here _ ih =>
    obtain ⟨i, rfl, -⟩ := here
    simpa using ih

end Walk

/-- `pci_get_class` enumerates the devices of a class, and wrappers are one for each device, if and
only if the devices that are wrapped, with those of the class, are at most as many as the table of
wrappers has slots. -/
theorem enumerates_iff {max : Nat} {calls table : List Device} (distinct : table.Nodup)
    (classCode : BitVec 32) :
    Enumerates bus max calls table classCode ↔
      (calls ++ table.filter (bus.inClass classCode)).toFinset.card ≤ max := by
  constructor
  · exact fun enumerates => enumerates.card_le distinct
  · intro fits
    rw [← List.nil_append (calls ++ _)] at fits
    have final := numberAll_spec (@Numbered.nil Device max)
      (calls ++ table.filter (bus.inClass classCode))
    have places := numberAll_places .nil fits
    have total := (numberAll_total_iff .nil _).mpr fits
    have numbers : (numberAll max (calls ++ table.filter (bus.inClass classCode)) []).2 =
        (wrapAll calls (wrapperTable max [])).2 ++ (numberAll max
          (table.filter (bus.inClass classCode)) (numberAll max calls []).1).2 := by
      rw [numberAll_append, wrapAll_wrapperTable]
    obtain ⟨slots, same⟩ := exists_map_some fun later =>
      total (numbers ▸ List.mem_append_right _ later)
    rw [same] at numbers
    refine ⟨_, slots, (classWalk_table distinct calls _ slots).mpr ⟨rfl, numbers⟩, ?_, ?_⟩
    · rw [← numbers]
      exact places.imp fun _ _ => isWrapper_iff_places.mpr
    · exact oneEach_wrapperTable final.1.nodup

/-- A bus whose devices are numbered, and all of one class. -/
def sameClass : Bus Unit Nat where
  drivers _ := ⟨none, false, false, false⟩
  devices n := ⟨0x8086, BitVec.ofNat 32 n, 0, 0, 0x028000⟩

/-- A device that is removed after its wrapper was made leaves room for another one. -/
theorem enumerates_twoDevices : Enumerates sameClass 3 [7] [1, 2] 0x0280ff :=
  (enumerates_iff (by decide) _).mpr (by decide)

/-- When as many devices as there are wrappers have been wrapped and are gone, a new device of the
class is not enumerated. -/
theorem class_not_enumerated : ¬∃ max, 0 < max ∧ ∀ (calls table : List Nat) (classCode : BitVec 32),
    table.Nodup → table.length ≤ max → Enumerates sameClass max calls table classCode := by
  rintro ⟨max, some_, always⟩
  have single : ([max] : List Nat).Nodup := List.nodup_singleton max
  have fits := (always (List.range max) [max] 0x028000 single some_).card_le single
  have inClass : sameClass.inClass 0x028000 max = true := beq_self_eq_true _
  have filtered : [max].filter (sameClass.inClass 0x028000) = [max] :=
    List.filter_cons_of_pos inClass
  have distinct : (List.range max ++ [max]).Nodup := by
    rw [← List.range_succ]
    exact List.nodup_range
  rw [filtered, List.toFinset_card_of_nodup distinct, List.length_append, List.length_range,
    List.length_singleton] at fits
  omega

end Lcompat.Pci
