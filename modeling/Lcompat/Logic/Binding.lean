import Lcompat.Logic.System

/-!
# Drivers bound to things

A driver is bound to a thing when its probe of the thing has succeeded, until the thing is removed.
The history of probes and removals says who is bound; a removal is faithful when it calls exactly
the drivers that are bound to what is removed. Buses that find the driver to call by going through
a table of drivers reach the first entry that answers.
-/

namespace Lcompat.Logic

universe u v w

variable {Driver : Type u} {Thing : Type v}

/-- What a bus does with drivers and things. -/
inductive BusNote (Driver : Type u) (Thing : Type v) where
  /-- The probe of a driver was called for a thing, and returned a result. -/
  | probed (driver : Driver) (thing : Thing) (ret : Int)
  /-- Things were removed, and drivers were called for some of them. -/
  | removed (leaves : Thing → Bool) (calls : List (Thing × Driver))

/-- A driver is bound to a thing: its probe has returned 0, and the thing was not removed since.
The newest note comes first. -/
def Bound : List (BusNote Driver Thing) → Driver → Thing → Prop
  | [], _, _ => False
  | .probed d x ret :: older, driver, thing =>
    d = driver ∧ x = thing ∧ ret = 0 ∨ Bound older driver thing
  | .removed leaves _ :: older, driver, thing => leaves thing = false ∧ Bound older driver thing

/-- A removal calls exactly the drivers that are bound to what is removed, one for each thing. -/
structure RemovesBound (older : List (BusNote Driver Thing)) (leaves : Thing → Bool)
    (calls : List (Thing × Driver)) : Prop where
  /-- A driver is called for a thing if and only if it is bound to it, and the thing is removed. -/
  bound : ∀ thing driver,
    (thing, driver) ∈ calls ↔ leaves thing = true ∧ Bound older driver thing
  /-- There is one call for each thing. -/
  once : (calls.map Prod.fst).Nodup

/-- Every removal so far was faithful. -/
def Faithful : List (BusNote Driver Thing) → Prop
  | [] => True
  | .probed _ _ _ :: older => Faithful older
  | .removed leaves calls :: older => RemovesBound older leaves calls ∧ Faithful older

/-- The first entry of a table that answers gives an answer. -/
def Reaches {Entry : Type w} (answer : Entry → Option Driver) (table : List Entry)
    (driver : Driver) : Prop :=
  ∃ before entry after, table = before ++ entry :: after ∧ answer entry = some driver ∧
    ∀ other ∈ before, answer other = none

/-- Going through the table finds it. -/
theorem findSome?_iff_reaches {Entry : Type w} {answer : Entry → Option Driver}
    {table : List Entry} {driver : Driver} :
    table.findSome? answer = some driver ↔ Reaches answer table driver :=
  List.findSome?_eq_some_iff

/-- Probes are no removals. -/
theorem faithful_append_probes {notes older : List (BusNote Driver Thing)}
    (probes : ∀ note ∈ notes, ∃ driver thing ret, note = .probed driver thing ret) :
    Faithful (notes ++ older) ↔ Faithful older := by
  induction notes with
  | nil => rfl
  | cons note notes ih =>
    obtain ⟨driver, thing, ret, rfl⟩ := probes note (by simp)
    exact ih fun later member => probes later (List.mem_cons_of_mem _ member)

/-- Who is bound after probes was bound before, or one of the probes was of the thing. -/
theorem bound_append_probes {notes older : List (BusNote Driver Thing)} {driver : Driver}
    {thing : Thing} (bound : Bound (notes ++ older) driver thing)
    (probes : ∀ note ∈ notes, ∃ driver thing ret, note = .probed driver thing ret) :
    Bound older driver thing ∨ ∃ ret, .probed driver thing ret ∈ notes := by
  induction notes with
  | nil => exact .inl bound
  | cons note notes ih =>
    obtain ⟨d, x, ret, rfl⟩ := probes note (by simp)
    rcases bound with ⟨rfl, rfl, _⟩ | bound
    · exact .inr ⟨ret, by simp⟩
    · have rest := ih bound fun later member => probes later (List.mem_cons_of_mem _ member)
      refine rest.imp_right ?_
      rintro ⟨ret', member⟩
      exact ⟨ret', List.mem_cons_of_mem _ member⟩

end Lcompat.Logic
