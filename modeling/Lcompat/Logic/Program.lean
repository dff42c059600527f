import Mathlib

/-!
# Programs over a state that may fault

A program takes a state to a result and another state, or faults. `after` says what holds after
a program that does not fault, and `runs` that it does not fault and what holds then; both take a
program apart by equations, so that a function is described by what its steps do in turn, and
the description of a function that it calls stands for the call.
-/

namespace Lcompat.Logic

universe u v

/-- A program over a state. -/
abbrev Program (State α : Type u) := StateT State Option α

namespace Program

variable {State α β : Type u}

/-- The program that faults. -/
def fault : Program State α := fun _ => none

/-- The program that faults unless there is a value. -/
def require (value : Option α) : Program State α := fun s => value.map (·, s)

/-- What holds after a program, if it does not fault. -/
def after (program : Program State α) (holds : α → State → Prop) (s : State) : Prop :=
  ∀ a t, program s = some (a, t) → holds a t

/-- A program does not fault, and this holds after it. -/
def runs (program : Program State α) (holds : α → State → Prop) (s : State) : Prop :=
  ∃ a t, program s = some (a, t) ∧ holds a t

variable {holds : α → State → Prop} {s : State}

/-- A weaker fact holds after a program when a stronger one does. -/
theorem after.mono {program : Program State α} {holds' : α → State → Prop}
    (done : program.after holds s) (weaker : ∀ a t, holds a t → holds' a t) :
    program.after holds' s :=
  fun a t ran => weaker a t (done a t ran)

/-- Two facts that hold after a program hold together. -/
theorem after.and {program : Program State α} {other : α → State → Prop}
    (one : program.after holds s) (two : program.after other s) :
    program.after (fun a t => holds a t ∧ other a t) s :=
  fun a t ran => ⟨one a t ran, two a t ran⟩

/-- A weaker fact holds after a program that runs when a stronger one does. -/
theorem runs.mono {program : Program State α} {holds' : α → State → Prop}
    (done : program.runs holds s) (weaker : ∀ a t, holds a t → holds' a t) :
    program.runs holds' s := by
  obtain ⟨a, t, ran, held⟩ := done
  exact ⟨a, t, ran, weaker a t held⟩

/-- What holds after a program that runs holds after it. -/
theorem runs.after {program : Program State α} (done : program.runs holds s) :
    program.after holds s := by
  obtain ⟨a, t, ran, held⟩ := done
  intro a' t' ran'
  obtain ⟨rfl, rfl⟩ := Prod.mk.inj (Option.some.inj (ran.symm.trans ran'))
  exact held

/-- What holds after a program that does not fault holds after it runs. -/
theorem runs.and_after {program : Program State α}
    (ran : program.runs (fun _ _ => True) s) (done : program.after holds s) :
    program.runs holds s := by
  obtain ⟨a, t, ran, -⟩ := ran
  exact ⟨a, t, ran, done a t ran⟩

/-- What a program that runs comes to holds when a condition does, if the two agree wherever the
program may come to. -/
theorem runs_iff_of_runs {program : Program State α} {other : α → State → Prop} {condition : Prop}
    (done : program.runs other s) (agree : ∀ a t, other a t → (holds a t ↔ condition)) :
    program.runs holds s ↔ condition := by
  obtain ⟨a, t, ran, held⟩ := done
  constructor
  · rintro ⟨a', t', ran', held'⟩
    obtain ⟨rfl, rfl⟩ := Prod.mk.inj (Option.some.inj (ran.symm.trans ran'))
    exact (agree a t held).mp held'
  · exact fun met => ⟨a, t, ran, (agree a t held).mpr met⟩

@[simp]
theorem after_true (program : Program State α) : program.after (fun _ _ => True) s :=
  fun _ _ _ => trivial

@[simp]
theorem after_pure (a : α) : (pure a : Program State α).after holds s ↔ holds a s := by
  constructor
  · exact fun done => done a s rfl
  · rintro held a' t ran
    obtain ⟨rfl, rfl⟩ := Prod.mk.inj (Option.some.inj ran)
    exact held

@[simp]
theorem runs_pure (a : α) : (pure a : Program State α).runs holds s ↔ holds a s := by
  constructor
  · rintro ⟨a', t, ran, held⟩
    obtain ⟨rfl, rfl⟩ := Prod.mk.inj (Option.some.inj ran)
    exact held
  · exact fun held => ⟨a, s, rfl, held⟩

@[simp]
theorem after_bind {program : Program State β} {next : β → Program State α} :
    (program >>= next).after holds s ↔ program.after (fun b t => (next b).after holds t) s := by
  constructor
  · intro done b t ran a u ran'
    refine done a u ?_
    show (program s).bind (fun p => next p.1 p.2) = _
    rw [ran]
    exact ran'
  · intro done a u ran
    obtain ⟨⟨b, t⟩, first, second⟩ := Option.bind_eq_some_iff.mp ran
    exact done b t first a u second

@[simp]
theorem runs_bind {program : Program State β} {next : β → Program State α} :
    (program >>= next).runs holds s ↔ program.runs (fun b t => (next b).runs holds t) s := by
  constructor
  · rintro ⟨a, u, ran, held⟩
    obtain ⟨⟨b, t⟩, first, second⟩ := Option.bind_eq_some_iff.mp ran
    exact ⟨b, t, first, a, u, second, held⟩
  · rintro ⟨b, t, first, a, u, second, held⟩
    refine ⟨a, u, ?_, held⟩
    show (program s).bind (fun p => next p.1 p.2) = _
    rw [first]
    exact second

@[simp]
theorem after_map {program : Program State β} {value : β → α} :
    (value <$> program).after holds s ↔ program.after (fun b t => holds (value b) t) s := by
  rw [map_eq_pure_bind]
  simp only [after_bind, after_pure]

@[simp]
theorem runs_map {program : Program State β} {value : β → α} :
    (value <$> program).runs holds s ↔ program.runs (fun b t => holds (value b) t) s := by
  rw [map_eq_pure_bind]
  simp only [runs_bind, runs_pure]

@[simp]
theorem after_get {holds : State → State → Prop} :
    (get : Program State State).after holds s ↔ holds s s :=
  after_pure s

@[simp]
theorem runs_get {holds : State → State → Prop} :
    (get : Program State State).runs holds s ↔ holds s s :=
  runs_pure s

@[simp]
theorem after_set {holds : PUnit → State → Prop} (t : State) :
    (set t : Program State PUnit).after holds s ↔ holds ⟨⟩ t := by
  constructor
  · exact fun done => done ⟨⟩ t rfl
  · rintro held a u ran
    obtain ⟨rfl, rfl⟩ := Prod.mk.inj (Option.some.inj ran)
    exact held

@[simp]
theorem runs_set {holds : PUnit → State → Prop} (t : State) :
    (set t : Program State PUnit).runs holds s ↔ holds ⟨⟩ t := by
  constructor
  · rintro ⟨a, u, ran, held⟩
    obtain ⟨rfl, rfl⟩ := Prod.mk.inj (Option.some.inj ran)
    exact held
  · exact fun held => ⟨⟨⟩, t, rfl, held⟩

@[simp]
theorem after_modify {holds : PUnit → State → Prop} (change : State → State) :
    (modify change : Program State PUnit).after holds s ↔ holds ⟨⟩ (change s) :=
  after_set (s := s) (change s)

@[simp]
theorem runs_modify {holds : PUnit → State → Prop} (change : State → State) :
    (modify change : Program State PUnit).runs holds s ↔ holds ⟨⟩ (change s) :=
  runs_set (s := s) (change s)

@[simp]
theorem after_fault : (fault : Program State α).after holds s := fun _ _ ran => by
  simp [fault] at ran

@[simp]
theorem not_runs_fault : ¬(fault : Program State α).runs holds s := by
  rintro ⟨a, t, ran, -⟩
  simp [fault] at ran

@[simp]
theorem after_require (value : Option α) :
    (require value : Program State α).after holds s ↔ ∀ a, value = some a → holds a s := by
  constructor
  · exact fun done a found => done a s (by simp [require, found])
  · rintro held a t ran
    obtain ⟨b, found, same⟩ := Option.map_eq_some_iff.mp ran
    obtain ⟨rfl, rfl⟩ := Prod.mk.inj same
    exact held b found

@[simp]
theorem runs_require (value : Option α) :
    (require value : Program State α).runs holds s ↔ ∃ a, value = some a ∧ holds a s := by
  constructor
  · rintro ⟨a, t, ran, held⟩
    obtain ⟨b, found, same⟩ := Option.map_eq_some_iff.mp ran
    obtain ⟨rfl, rfl⟩ := Prod.mk.inj same
    exact ⟨b, found, held⟩
  · rintro ⟨a, found, held⟩
    exact ⟨a, s, by simp [require, found], held⟩

@[simp]
theorem require_some_bind (b : β) (next : β → Program State α) :
    (require (some b) >>= next) = next b := rfl

/-- What comes after a step that has run. -/
theorem bind_of_ran {program : Program State β} {next : β → Program State α} {s t : State} {b : β}
    (ran : program s = some (b, t)) : (program >>= next) s = next b t := by
  show (program s).bind (fun result => next result.1 result.2) = next b t
  rw [ran]
  rfl

@[simp]
theorem after_ite {condition : Prop} [Decidable condition] {yes no : Program State α} :
    (if condition then yes else no).after holds s ↔
      if condition then yes.after holds s else no.after holds s := by
  split <;> rfl

@[simp]
theorem runs_ite {condition : Prop} [Decidable condition] {yes no : Program State α} :
    (if condition then yes else no).runs holds s ↔
      if condition then yes.runs holds s else no.runs holds s := by
  split <;> rfl

/-- A program leaves a part of the state as it is. -/
def Keeps {Part : Type v} (part : State → Part) (program : Program State α) : Prop :=
  ∀ s, program.after (fun _ t => part t = part s) s

section Keeps

variable {Part : Type v} {part : State → Part}

/-- A result leaves the state as it is. -/
theorem keeps_pure (a : α) : Keeps part (pure a : Program State α) := fun s => by
  rw [after_pure]

/-- A value that is required leaves the state as it is. -/
theorem keeps_require (value : Option α) :
    Keeps part (require value : Program State α) := fun s => by
  rw [after_require]
  exact fun _ _ => rfl

/-- Programs that leave a part of the state as it is leave it so one after the other. -/
theorem Keeps.bind {program : Program State β} {next : β → Program State α}
    (first : Keeps part program) (second : ∀ b, Keeps part (next b)) :
    Keeps part (program >>= next) := fun s => by
  rw [after_bind]
  exact (first s).mono fun b t same => (second b t).mono fun a u same' => same'.trans same

/-- Either of two programs that leave a part of the state as it is leaves it so. -/
theorem keeps_ite {condition : Prop} [Decidable condition] {yes no : Program State α}
    (one : Keeps part yes) (other : Keeps part no) :
    Keeps part (if condition then yes else no) := by
  split
  · exact one
  · exact other

end Keeps

/-- A program that does not fault wherever it runs. -/
def Total (program : Program State α) : Prop := ∀ s, program.runs (fun _ _ => True) s

/-- What holds after a program that never faults holds after it runs. -/
theorem Total.runs {program : Program State α} (total : program.Total)
    (done : program.after holds s) : program.runs holds s :=
  (total s).and_after done

/-- A result does not fault. -/
theorem total_pure (a : α) : (pure a : Program State α).Total := fun s => by
  rw [runs_pure]
  trivial

/-- Programs that do not fault do not fault one after the other. -/
theorem Total.bind {program : Program State β} {next : β → Program State α}
    (first : program.Total) (second : ∀ b, (next b).Total) : (program >>= next).Total := fun s => by
  rw [runs_bind]
  exact (first s).mono fun b t _ => second b t

/-- Either of two programs that do not fault does not fault. -/
theorem total_ite {condition : Prop} [Decidable condition] {yes no : Program State α}
    (one : yes.Total) (other : no.Total) : (if condition then yes else no).Total := by
  split
  · exact one
  · exact other

end Program

end Lcompat.Logic
