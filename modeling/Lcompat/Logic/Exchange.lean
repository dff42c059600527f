import Lcompat.Logic.Pool

/-!
# Compare and exchange

Threads read a value and exchange it later for another one, unless it has changed in between. A
thread loses when another one has changed the value since its read, so a change makes each other
thread lose once at most, and the exchanges that fail are paid for by the changes.
-/

namespace Lcompat.Logic

universe u v w x y

/-- What a step of a thread may do to a value that is exchanged, given what threads have read. -/
inductive ExchangeStep {Shared : Type u} {Local : Type v} {Value : Type w}
    (view : Local → Option Value)
    (value : Shared → Value) (changes failures : Shared → Nat) (s : Shared) (thread : Local)
    (s' : Shared) (thread' : Local) : Prop
  /-- The thread reads the value, or does something else. -/
  | look (same : value s' = value s) (unchanged : changes s' = changes s)
      (won : failures s' = failures s)
      (seen : ∀ old, view thread' = some old → old = value s')
  /-- The thread has read another value. -/
  | lose {old : Value} (read : view thread = some old) (stale : old ≠ value s)
      (same : value s' = value s) (unchanged : changes s' = changes s)
      (lost : failures s' = failures s + 1) (forgot : view thread' = none)
  /-- The value changes. -/
  | change (changed : changes s' = changes s + 1) (won : failures s' = failures s)
      (forgot : view thread' = none)

namespace Pool

variable {Thread : Type u} {Shared : Type v} {Local : Type w} {Choice : Type x} {Value : Type y}
variable [DecidableEq Thread] [Fintype Thread] [DecidableEq Value]

/-- A thread has read another value than there is. -/
def Stale (view : Local → Option Value) (value : Value) (thread : Local) : Prop :=
  view thread ≠ none ∧ view thread ≠ some value

/-- Whether a thread has read another value can be told. -/
instance (view : Local → Option Value) (value : Value) : DecidablePred (Stale view value) :=
  fun _ => inferInstanceAs (Decidable (_ ∧ _))

/-- All threads but one are counted at most when that one is not. -/
theorem count_le_pred {holds : Local → Prop} [DecidablePred holds] {threads : Thread → Local}
    {t : Thread} (not : ¬holds (threads t)) :
    count holds threads ≤ Fintype.card Thread - 1 := by
  rw [count, ← Finset.add_sum_erase _ _ (Finset.mem_univ t), if_neg not, Nat.zero_add,
    Fintype.card, ← Finset.card_erase_of_mem (Finset.mem_univ t)]
  refine (Finset.sum_le_card_nsmul _ _ 1 fun u _ => ?_).trans_eq ?_
  · split <;> omega
  · rw [nsmul_eq_mul, Nat.cast_id, Nat.mul_one]

variable {exec : Shared → Local → Choice → Option (Shared × Local)}
variable {init : Pool Thread Shared Local → Prop} {view : Local → Option Value}
variable {value : Shared → Value} {changes failures : Shared → Nat}

/-- Each step leaves enough changes to pay for the exchanges that have failed and for those of the
threads that have read another value. -/
theorem paid_step
    (turns : ∀ s thread choice s' thread', exec s thread choice = some (s', thread') →
      ExchangeStep view value changes failures s thread s' thread')
    {p q : Pool Thread Shared Local} {a : Thread × Choice}
    (paid : failures p.shared + count (Stale view (value p.shared)) p.threads ≤
      changes p.shared * (Fintype.card Thread - 1))
    (stepped : (system exec init).step p a = some q) :
    failures q.shared + count (Stale view (value q.shared)) q.threads ≤
      changes q.shared * (Fintype.card Thread - 1) := by
  obtain ⟨t, choice⟩ := a
  obtain ⟨s', next, executed, rfl⟩ := step_eq_some.mp stepped
  have moved := count_update (Stale view (value p.shared)) p.threads t next
  dsimp only
  cases turns _ _ _ _ _ executed with
  | look same unchanged won seen =>
    have fresh : ¬Stale view (value p.shared) next := by
      rintro ⟨read, other⟩
      obtain ⟨old, found⟩ := Option.ne_none_iff_exists'.mp read
      exact other (by rw [found, seen old found, same])
    rw [if_neg fresh] at moved
    rw [same, unchanged, won]
    omega
  | @lose old read stale same unchanged lost forgot =>
    have before : Stale view (value p.shared) (p.threads t) := by
      refine ⟨by rw [read]; exact Option.some_ne_none old, ?_⟩
      rw [read]
      exact fun found => stale (Option.some.inj found)
    have after : ¬Stale view (value p.shared) next := fun there => there.1 forgot
    rw [if_pos before, if_neg after] at moved
    rw [same, unchanged, lost]
    omega
  | change changed won forgot =>
    have after : ¬Stale view (value s') (Function.update p.threads t next t) := by
      rw [Function.update_self]
      exact fun there => there.1 forgot
    have most := count_le_pred after
    rw [changed, won, Nat.succ_mul]
    omega

/-- In every run, each change makes each other thread fail once at most. -/
theorem failures_le
    (turns : ∀ s thread choice s' thread', exec s thread choice = some (s', thread') →
      ExchangeStep view value changes failures s thread s' thread')
    (start : ∀ p, init p → failures p.shared = 0 ∧ ∀ t, view (p.threads t) = none)
    {p : Pool Thread Shared Local} (reach : (system exec init).Reachable p) :
    failures p.shared ≤ changes p.shared * (Fintype.card Thread - 1) := by
  have paid := reach.invariant
    (fun p => failures p.shared + count (Stale view (value p.shared)) p.threads ≤
      changes p.shared * (Fintype.card Thread - 1))
    (fun p initial => by
      obtain ⟨none, unread⟩ := start p initial
      have nobody := (count_eq_zero_iff (Stale view (value p.shared)) p.threads).mpr
        fun t there => there.1 (unread t)
      rw [none, nobody]
      exact Nat.zero_le _)
    fun _ _ _ paid _ stepped => paid_step turns paid stepped
  omega

end Pool

end Lcompat.Logic
