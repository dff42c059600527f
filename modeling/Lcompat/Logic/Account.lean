import Lcompat.Logic.Program

/-!
# Accounts

Resources that come in and go out while a program runs: an account says of every state what has come
in less what has gone out. A program settles when it accounts for all that it is given and takes: it
changes the account by what it keeps less what it was given, so that nothing is lost and nothing is
given away twice.
-/

namespace Lcompat.Logic

universe u v

/-- What an account is kept of, and where. -/
structure Account (State : Type u) (Resource : Type v) where
  /-- The states in which the account is kept. -/
  holds : State → Prop
  /-- What has come in less what has gone out. -/
  inHand : State → Resource → Int

namespace Account

variable {State α β : Type u} {Resource : Type v} [DecidableEq Resource]
  {account : Account State Resource} {given : List Resource} {keptOf : α → List Resource}

/-- A program accounts for what it is given and takes, with these kept. -/
def Settles (account : Account State Resource) (given : List Resource)
    (kept : α → List Resource) (program : Program State α) : Prop :=
  ∀ s, account.holds s → program.after (fun a t => account.holds t ∧ ∀ resource,
    account.inHand t resource + given.count resource =
      account.inHand s resource + (kept a).count resource) s

/-- A program before another. -/
theorem Settles.bind {handed : β → List Resource} {program : Program State β}
    {next : β → Program State α} (first : account.Settles given handed program)
    (second : ∀ b, account.Settles (handed b) keptOf (next b)) :
    account.Settles given keptOf (program >>= next) := by
  intro s here
  rw [Program.after_bind]
  refine (first s here).mono fun b t outcome => (second b t outcome.1).mono fun a u outcome' => ?_
  refine ⟨outcome'.1, fun resource => ?_⟩
  have one := outcome.2 resource
  have two := outcome'.2 resource
  omega

/-- What a program does not touch is kept beside it. -/
theorem Settles.frame {program : Program State α} (settles : account.Settles given keptOf program)
    (others : List Resource) :
    account.Settles (others ++ given) (fun a => others ++ keptOf a) program := by
  intro s here
  refine (settles s here).mono fun a t outcome => ⟨outcome.1, fun resource => ?_⟩
  have same := outcome.2 resource
  rw [List.count_append, List.count_append]
  omega

end Account

end Lcompat.Logic
