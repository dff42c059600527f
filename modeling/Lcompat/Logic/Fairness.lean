import Lcompat.Logic.System

/-!
# Fair runs

Infinite runs of a system in which every agent that can take a step all the time does take one.
The progress rule gives a state that such a run comes to: outside that state some agent helps,
every step lowers a well-founded measure or leaves the agent helping, and a step of the helping
agent lowers the measure.
-/

namespace Lcompat.Logic

namespace System

variable {State Label Agent : Type*} {sys : System State Label} {ok : State → Label → Prop}

/-- An infinite run. At each moment one step that meets a predicate is taken, or none. -/
structure Run (sys : System State Label) (ok : State → Label → Prop) where
  /-- The state at each moment. -/
  state : Nat → State
  /-- The step taken at each moment. -/
  label : Nat → Option Label
  /-- Steps lead from one moment to the next. -/
  step : ∀ n, match label n with
    | some a => ok (state n) a ∧ sys.step (state n) a = some (state (n + 1))
    | none => state (n + 1) = state n

/-- An agent can take a step. -/
def Enabled (sys : System State Label) (ok : State → Label → Prop) (agent : Label → Agent)
    (g : Agent) (s : State) : Prop :=
  ∃ a t, agent a = g ∧ ok s a ∧ sys.step s a = some t

/-- Again and again every agent takes a step or cannot take one. -/
def Run.Fair (run : Run sys ok) (agent : Label → Agent) : Prop :=
  ∀ g n, ∃ m, n ≤ m ∧ ((∃ a, run.label m = some a ∧ agent a = g) ∨
    ¬Enabled sys ok agent g (run.state m))

/-- A predicate kept by every admitted step holds along a run that begins with it. -/
theorem Run.invariant (run : Run sys ok) {inv : State → Prop} (start : inv (run.state 0))
    (keeps : ∀ s a t, inv s → ok s a → sys.step s a = some t → inv t) (n : Nat) :
    inv (run.state n) := by
  induction n with
  | zero => exact start
  | succ n ih =>
    have step := run.step n
    split at step
    · exact keeps _ _ _ ih step.1 step.2
    · exact step ▸ ih

/-- The progress rule for fair runs. -/
theorem Run.eventually {Measure : Type*} [Preorder Measure] [WellFoundedLT Measure]
    (run : Run sys ok) {agent : Label → Agent} (fair : run.Fair agent) {inv done : State → Prop}
    {helps : State → Agent → Prop} (measure : State → Measure) (start : inv (run.state 0))
    (keeps : ∀ s a t, inv s → ok s a → sys.step s a = some t → inv t)
    (helped : ∀ s, inv s → ¬done s → ∃ g, helps s g)
    (enabled : ∀ s g, inv s → helps s g → Enabled sys ok agent g s)
    (progress : ∀ s a t g, inv s → helps s g → ok s a → sys.step s a = some t →
      measure t < measure s ∨ measure t ≤ measure s ∧ helps t g ∧ agent a ≠ g) :
    ∃ n, done (run.state n) := by
  have always := run.invariant start keeps
  -- the induction is on the measure of the state at a moment
  suffices ∀ m n, measure (run.state n) = m → ∃ k, done (run.state k) from this _ 0 rfl
  intro m
  induction m using WellFoundedLT.induction with
  | ind m ih =>
    rintro n rfl
    by_contra never
    obtain ⟨g, helping⟩ := helped (run.state n) (always n) fun past => never ⟨n, past⟩
    have stuck : ∀ k, ¬measure (run.state k) < measure (run.state n) := fun k lower =>
      never (ih _ lower k rfl)
    have waits : ∀ k, helps (run.state (n + k)) g ∧
        measure (run.state (n + k)) ≤ measure (run.state n) := by
      intro k
      induction k with
      | zero => exact ⟨helping, le_rfl⟩
      | succ k hyp =>
        have step := run.step (n + k)
        split at step
        · rcases progress _ _ _ g (always _) hyp.1 step.1 step.2 with lower | ⟨same, still, -⟩
          · exact absurd (lower.trans_le hyp.2) (stuck _)
          · exact ⟨still, same.trans hyp.2⟩
        · exact Nat.add_assoc n k 1 ▸ step ▸ hyp
    obtain ⟨k, after, acts | disabled⟩ := fair g n
    · obtain ⟨a, taken, same⟩ := acts
      have step := run.step k
      rw [taken] at step
      obtain ⟨k, rfl⟩ := Nat.exists_eq_add_of_le after
      rcases progress _ _ _ g (always _) (waits k).1 step.1 step.2 with lower | ⟨-, -, other⟩
      · exact stuck _ (lower.trans_le (waits k).2)
      · exact other same
    · obtain ⟨k, rfl⟩ := Nat.exists_eq_add_of_le after
      exact disabled (enabled _ g (always _) (waits k).1)

/-- The run in which nothing happens. -/
def Run.rest (s : State) : Run sys ok where
  state _ := s
  label _ := none
  step _ := rfl

/-- The run that begins with one step. -/
def Run.cons (s : State) (a : Label) (run : Run sys ok) (admitted : ok s a)
    (stepped : sys.step s a = some (run.state 0)) : Run sys ok where
  state
    | 0 => s
    | n + 1 => run.state n
  label
    | 0 => some a
    | n + 1 => run.label n
  step
    | 0 => ⟨admitted, stepped⟩
    | n + 1 => run.step n

/-- A run that goes on fairly after its first step is fair. -/
theorem Run.Fair.cons {run : Run sys ok} {agent : Label → Agent} (fair : run.Fair agent)
    (s : State) (a : Label) (admitted : ok s a) (stepped : sys.step s a = some (run.state 0)) :
    (run.cons s a admitted stepped).Fair agent := by
  intro g n
  obtain ⟨m, after, acts⟩ := fair g n
  exact ⟨m + 1, by omega, acts⟩

/-- A path to a state in which nobody can take a step is a fair run. -/
theorem Path.exists_fair {s t : State} (path : sys.Path ok s t) {agent : Label → Agent}
    (stops : ∀ g, ¬Enabled sys ok agent g t) :
    ∃ run : Run sys ok, run.state 0 = s ∧ run.Fair agent := by
  suffices ∀ run : Run sys ok, run.state 0 = t → run.Fair agent →
      ∃ run : Run sys ok, run.state 0 = s ∧ run.Fair agent from
    this (.rest t) rfl fun g n => ⟨n, le_rfl, .inr (stops g)⟩
  clear stops
  induction path with
  | refl => exact fun run first fair => ⟨run, first, fair⟩
  | tail _ admitted stepped ih =>
    rintro run rfl fair
    exact ih (run.cons _ _ admitted stepped) rfl (fair.cons _ _ admitted stepped)

end System

end Lcompat.Logic
