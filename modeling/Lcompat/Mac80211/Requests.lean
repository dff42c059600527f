import Lcompat.Mac80211.Lifecycle

/-!
# Requests of the user

What the user alone can do to the station. A connect is refused unless the station is disconnected
and a disconnect unless it is connected, and nothing in between ends an attempt, so a station that
waits for an access point waits for a frame.
-/

namespace Lcompat.Mac80211

open Lcompat.Logic
open Lcompat.Net

/-- Whether a call is a request of the user. -/
def Call.isRequest : Call → Bool
  | .connect _ _ | .disconnect _ _ => true
  | .driverDisconnect | .receive _ => false

/-- Calls one after another. -/
def answerAll (env : Env) : List Call → Kernel Unit
  | [] => return ()
  | call :: calls => do
    let _ ← call.run env
    answerAll env calls

variable {m : Machine}

/-- Starting a management frame leaves the runtime as it is. -/
theorem runs_allocMgmt (env : Env) (frameLen : UInt32) (more : Nat) (m : Machine) :
    (allocMgmt env frameLen more).runs (fun _ m' => m'.rt = m.rt) m := by
  have allocated : (allocTxSkb env (frameLen.toNat + more)).runs (fun _ m' => m'.rt = m.rt) m := by
    unfold allocTxSkb
    simp only [Program.runs_bind, runs_runtime, Program.runs_ite, Program.runs_pure]
    split
    · trivial
    · split
      · rw [Program.runs_pure]
      · rw [Program.runs_ite]
        split
        · rw [Program.runs_pure]
        · rw [Program.runs_bind, runs_allocSkb]
          split <;> rw [Program.runs_pure]
  unfold allocMgmt
  simp only [Program.runs_bind]
  refine allocated.mono fun skb m₁ same => ?_
  split
  · split
    · simp only [devKfreeSkbAny, Program.runs_bind, runs_note, Program.runs_pure]
      exact same
    · rw [Program.runs_pure]
      exact same
  · rw [Program.runs_pure]
    exact same

/-- A station with an interface can take leave. -/
theorem runs_sendDeauth {vif : Vif} (here : m.rt.vif = some vif) (env : Env) (reasonCode : UInt16) :
    (sendDeauth env reasonCode).runs (fun _ _ => True) m := by
  unfold sendDeauth
  rw [Program.runs_bind]
  refine (runs_allocMgmt env reasonFrameLen 0 m).mono fun frame m₁ same => ?_
  split
  · rw [Program.runs_pure]
    trivial
  · have kept : m₁.rt.vif = some vif := by rw [same, here]
    simp only [writeMgmtHeader, nextSeqCtrl, sendMgmt, mgdPrepareTx, Program.runs_bind,
      runs_runtime, kept, Program.runs_require, Option.some.injEq, exists_eq_left', runs_change,
      Program.runs_pure, Program.runs_ite, runs_note, ite_self]

/-- Leaving the access point does not fault. -/
theorem runs_disconnectLocal (reasonCode : UInt16) (requestPortid : UInt32) (byAp : Bool)
    (m : Machine) :
    (disconnectLocal reasonCode requestPortid byAp).runs (fun _ _ => True) m := by
  unfold disconnectLocal
  simp only [Program.runs_bind, runs_runtime]
  split
  · rw [Program.runs_pure]
    trivial
  · simp only [callStaRemove, freeSta, callBssInfoChanged, publishDisconnect, clearConnectParams,
      setLinkState, updateWirelessInfo, Program.runs_bind, runs_runtime, runs_change,
      Program.runs_ite, runs_note, Program.runs_pure, ite_self]

/-- A connected station is disconnected by the user. -/
theorem runs_netdevDisconnect {vif : Vif} (here : m.rt.vif = some vif)
    (started : m.rt.started = true) (connected : m.rt.connState = .connected) (env : Env)
    (reasonCode : UInt16) (requestPortid : UInt32) :
    (netdevDisconnect env reasonCode requestPortid).runs
      (fun _ m' => m'.rt.connState = .disconnected) m := by
  unfold netdevDisconnect
  simp only [Program.runs_bind, runs_runtime]
  rw [if_neg (by simp [started]), if_neg (not_not.mpr connected), Program.runs_bind]
  refine ((runs_sendDeauth here env reasonCode).and_after
    (keepsQuiet_sendDeauth env reasonCode m)).mono fun _ m₁ sent => ?_
  have kept : m₁.rt.vif = some vif := (congrArg Runtime.vif sent.core :).trans here
  rw [Program.runs_bind]
  refine ((runs_disconnectLocal _ requestPortid false m₁).and_after
    (after_disconnectLocal kept _ requestPortid false)).mono fun _ m₂ left => ?_
  rw [Program.runs_pure]
  exact (congrArg Runtime.connState left.core :)

/-- A request changes nothing of a station that is neither connected nor disconnected. -/
theorem after_request (env : Env) {call : Call} (request : call.isRequest = true)
    (waiting : m.rt.connState ≠ .disconnected ∧ m.rt.connState ≠ .connected) :
    (call.run env).after (fun _ m' => m' = m) m := by
  cases call with
  | connect params requestPortid =>
    rw [Call.run, netdevConnect, Program.after_bind]
    refine (after_connectCheck params requestPortid m).mono fun ret m₁ checked => ?_
    obtain ⟨refused, rfl⟩ | ⟨-, -, idle, -⟩ := checked
    · rw [if_pos refused, Program.after_pure]
    · exact absurd idle waiting.1
  | disconnect reasonCode requestPortid =>
    simp only [Call.run, netdevDisconnect, Program.after_bind, after_runtime, Program.after_ite,
      Program.after_pure]
    split
    · trivial
    · rw [if_pos waiting.2]
      trivial
  | driverDisconnect => cases request
  | receive skb => cases request

/-- Requests change nothing of a station that is neither connected nor disconnected. -/
theorem after_answerAll (env : Env) {calls : List Call}
    (requests : ∀ call ∈ calls, call.isRequest = true)
    (waiting : m.rt.connState ≠ .disconnected ∧ m.rt.connState ≠ .connected) :
    (answerAll env calls).after (fun _ m' => m' = m) m := by
  induction calls with
  | nil =>
    rw [answerAll, Program.after_pure]
  | cons call calls ih =>
    obtain ⟨request, others⟩ := List.forall_mem_cons.mp requests
    rw [answerAll, Program.after_bind]
    refine (after_request env request waiting).mono fun _ m' same => ?_
    rw [same]
    exact ih others

/-- In a state that a run reaches, the user's requests can bring the station to be disconnected if
and only if it is connected or disconnected already. -/
theorem requests_disconnect_iff (reach : station.Reachable m) (env : Env) :
    (∃ calls, (∀ call ∈ calls, Call.isRequest call = true) ∧
      (answerAll env calls).runs (fun _ m' => m'.rt.connState = .disconnected) m) ↔
        m.rt.connState = .disconnected ∨ m.rt.connState = .connected := by
  constructor
  · rintro ⟨calls, requests, _, m', ran, left⟩
    by_contra waiting
    have same := after_answerAll env requests (not_or.mp waiting) _ m' ran
    rw [same] at left
    exact waiting (.inl left)
  · intro settled
    obtain idle | connected := settled
    · exact ⟨[], by simp, by rwa [answerAll, Program.runs_pure]⟩
    · have consistent := consistent_of_reachable reach
      obtain ⟨vif, here, -⟩ := consistent.vif
      refine ⟨[.disconnect 0 0], by simp [Call.isRequest], ?_⟩
      rw [answerAll, Program.runs_bind]
      refine (runs_netdevDisconnect here consistent.started.1 connected env 0 0).mono
        fun _ m' left => ?_
      rwa [answerAll, Program.runs_pure]

/-- A station that is connected can be disconnected by the user. -/
theorem requests_disconnect_joined : ∃ m : Machine, m.rt.connState = .connected ∧ ∃ calls,
    (∀ call ∈ calls, Call.isRequest call = true) ∧
      (answerAll .kind calls).runs (fun _ m' => m'.rt.connState = .disconnected) m := by
  obtain ⟨m, reach, connected, -⟩ := exists_joined
  exact ⟨m, connected, (requests_disconnect_iff reach .kind).mpr (.inr connected)⟩

/-- A station whose access point does not answer cannot be disconnected by the user. -/
theorem silent_point_not_disconnected : ¬∀ m, station.Reachable m → ∀ env, ∃ calls,
    (∀ call ∈ calls, Call.isRequest call = true) ∧
      (answerAll env calls).runs (fun _ m' => m'.rt.connState = .disconnected) m := by
  intro always
  have ran : ((station.run registeredMachine [(.kind, .connect pointParams 7)]).map fun m =>
      m.rt.connState) = some .authenticating := by
    decide +kernel
  obtain ⟨m, ran, state⟩ := Option.map_eq_some_iff.mp ran
  obtain ⟨calls, requests, _, m', left, idle⟩ :=
    always m (System.reachable_of_run registeredMachine_registered ran) .kind
  have waiting : m.rt.connState ≠ .disconnected ∧ m.rt.connState ≠ .connected := by simp [state]
  rw [after_answerAll .kind requests waiting _ m' left, state] at idle
  cases idle

end Lcompat.Mac80211
