import Lcompat.Mac80211.Lifecycle

/-!
# The handshake

A run with its history: the calls that have been answered, each with the machine before it. Read
backwards from a station that comes to be connected, the history is an association response, an
authentication and an accepted request, and the state of the connection before each call in between
leaves no room for a failure or for another attempt.
-/

namespace Lcompat.Mac80211

open Lcompat.Logic
open Lcompat.Net

/-- A call that has been answered, with the machine before it. -/
abbrev Past := Machine × (Env × Call)

/-- The runs of a station with the calls that have been answered, newest first. -/
def stationHistory : System (Machine × List Past) (Env × Call) :=
  station.record fun m label => [(m, label)]

/-- Since a request that was accepted, the station has waited to be authenticated. -/
inductive AwaitsAuth : List Past → Prop
  /-- The request is accepted. -/
  | accepted {m m' : Machine} {env : Env} {params : ConnectParams} {requestPortid : UInt32}
      {older : List Past} (idle : m.rt.connState = .disconnected)
      (returned : netdevConnect env params requestPortid m = some (0, m')) :
      AwaitsAuth ((m, env, .connect params requestPortid) :: older)
  /-- Another call is answered. -/
  | waited {m : Machine} {label : Env × Call} {history : List Past} (awaits : AwaitsAuth history)
      (state : m.rt.connState = .authenticating) : AwaitsAuth ((m, label) :: history)

/-- Since a request that was accepted, the station has been authenticated by its access point, and
has waited to be associated. -/
inductive AwaitsAssoc : List Past → Prop
  /-- The station is authenticated. -/
  | authenticated {m : Machine} {env : Env} {skb : SkBuff} {history : List Past}
      (awaits : AwaitsAuth history) (state : m.rt.connState = .authenticating)
      (heard : HeardAuth m.rt skb wlanStatusSuccess 2)
      (named : m.rt.connectParams.hasBssid = true) :
      AwaitsAssoc ((m, env, .receive skb) :: history)
  /-- Another call is answered. -/
  | waited {m : Machine} {label : Env × Call} {history : List Past} (awaits : AwaitsAssoc history)
      (state : m.rt.connState = .associating) : AwaitsAssoc ((m, label) :: history)

/-- What the history says of an attempt. -/
structure Awaits (s : Machine × List Past) : Prop where
  /-- The station waits to be authenticated. -/
  auth : s.1.rt.connState = .authenticating → AwaitsAuth s.2
  /-- The station waits to be associated. -/
  assoc : s.1.rt.connState = .associating → AwaitsAssoc s.2

variable {s s' : Machine × List Past} {env : Env} {call : Call}

/-- A turn that leaves the state of the connection as it is. -/
theorem Awaits.still (awaits : Awaits s) {m' : Machine} {label : Env × Call}
    (state : m'.rt.connState = s.1.rt.connState) : Awaits (m', (s.1, label) :: s.2) := by
  constructor
  · intro waiting
    have before : s.1.rt.connState = .authenticating := state.symm.trans waiting
    exact .waited (awaits.auth before) before
  · intro waiting
    have before : s.1.rt.connState = .associating := state.symm.trans waiting
    exact .waited (awaits.assoc before) before

/-- A turn to a station that does not wait. -/
theorem Awaits.settled {m' : Machine} {history : List Past}
    (settled : m'.rt.connState = .disconnected ∨ m'.rt.connState = .connected) :
    Awaits (m', history) := by
  constructor
  · intro waiting
    obtain state | state := settled <;> exact absurd (state.symm.trans waiting) (by decide)
  · intro waiting
    obtain state | state := settled <;> exact absurd (state.symm.trans waiting) (by decide)

/-- A turn keeps what the history says of an attempt. -/
theorem Awaits.turn {m' : Machine} {ret : Int} (awaits : Awaits s) (consistent : Consistent s.1.rt)
    (ran : call.run env s.1 = some (ret, m')) (turn : Turn s.1 call ret m') :
    Awaits (m', (s.1, env, call) :: s.2) := by
  cases turn with
  | quiet keeps => exact awaits.still keeps.turns.connState
  | began started idle fills named turns =>
    have state : m'.rt.connState = .authenticating := turns.connState
    exact ⟨fun _ => .accepted idle ran, fun waiting =>
      absurd (state.symm.trans waiting) (by decide)⟩
  | rejected started idle nonzero turns => exact .settled (.inl turns.connState)
  | authenticated state heard fills turns =>
    have next : m'.rt.connState = .associating := turns.connState
    refine ⟨fun waiting => absurd (next.symm.trans waiting) (by decide), fun _ => ?_⟩
    exact .authenticated (awaits.auth state) state heard (consistent.named (by simp [state]))
  | failed failure kept turns => exact .settled (.inl turns.connState)
  | stuck state positive asked fills turns => exact awaits.still turns.connState
  | completed state heard fills here named entry turns => exact .settled (.inr turns.connState)
  | left leaving here turns => exact .settled (.inl turns.connState)

/-- In every state of a run with its history, the runtime is consistent, and the history says of an
attempt what has been heard. -/
theorem awaits_of_reachable (reach : stationHistory.Reachable s) :
    Consistent s.1.rt ∧ Awaits s := by
  refine reach.invariant (fun s => Consistent s.1.rt ∧ Awaits s) ?_ ?_
  · rintro ⟨m, history⟩ ⟨registered, rfl⟩
    obtain ⟨consistent, idle, -⟩ := Machine.Registered.consistent registered
    exact ⟨consistent, .settled (.inl idle)⟩
  · rintro s label ⟨m', history⟩ ⟨consistent, awaits⟩ - stepped
    obtain ⟨stepped, rfl⟩ := System.record_step_eq_some.mp stepped
    obtain ⟨ret, ran, turn⟩ := turn_of_step stepped
    exact ⟨consistent.turn turn, awaits.turn consistent ran turn⟩

/-- A turn to a station that is not connected. -/
theorem Turns.apart {rt : Runtime} {told : List Event} {m m' : Machine} {state : ConnState}
    (turns : Turns rt told m m') (same : rt.connState = state) (other : state ≠ .connected) :
    m'.rt.connState ≠ .connected := by
  rw [turns.connState, same]
  exact other

/-- A call that connects the station takes an association response that has been heard. -/
theorem heard_of_connected {m m' : Machine} {ret : Int} (turn : Turn m call ret m')
    (apart : m.rt.connState ≠ .connected) (connected : m'.rt.connState = .connected) :
    ∃ skb aid vif, call = .receive skb ∧ m.rt.connState = .associating ∧
      HeardAssocResp m.rt skb wlanStatusSuccess aid ∧ m'.rt.vif = some vif ∧
        vif.cfgAid = aid &&& 0x3fff := by
  cases turn with
  | quiet keeps => exact absurd connected (keeps.turns.apart rfl apart)
  | began started idle fills named turns =>
    exact absurd connected (turns.apart rfl (by rintro ⟨⟩))
  | rejected started idle nonzero turns =>
    exact absurd connected (turns.apart rfl (by rintro ⟨⟩))
  | authenticated state heard fills turns =>
    exact absurd connected (turns.apart rfl (by rintro ⟨⟩))
  | failed failure kept turns => exact absurd connected (turns.apart rfl (by rintro ⟨⟩))
  | stuck state positive asked fills turns =>
    exact absurd connected (turns.apart rfl apart)
  | completed state heard fills here named entry turns =>
    exact ⟨_, _, _, rfl, state, heard, (congrArg Runtime.vif turns.core :), rfl⟩
  | left leaving here turns => exact absurd connected (turns.apart rfl (by rintro ⟨⟩))

/-- When the station comes to be connected, it has heard an association response that succeeds, from
the access point of its parameters and of full length; and before that, since the request that began
the attempt, such an authentication, with no failure and no other attempt in between. -/
theorem connected_after_handshake (reach : stationHistory.Reachable s)
    (apart : s.1.rt.connState ≠ .connected) (stepped : stationHistory.step s (env, call) = some s')
    (connected : s'.1.rt.connState = .connected) : ∃ skb aid vif,
      call = .receive skb ∧ s.1.rt.connState = .associating ∧
      HeardAssocResp s.1.rt skb wlanStatusSuccess aid ∧ s.1.rt.connectParams.hasBssid = true ∧
      s'.1.rt.vif = some vif ∧ vif.cfgAid = aid &&& 0x3fff ∧ AwaitsAssoc s.2 := by
  obtain ⟨consistent, awaits⟩ := awaits_of_reachable reach
  obtain ⟨stepped, -⟩ := System.record_step_eq_some.mp stepped
  obtain ⟨ret, -, turn⟩ := turn_of_step stepped
  obtain ⟨skb, aid, vif, received, state, heard, here, given⟩ :=
    heard_of_connected turn apart connected
  exact ⟨skb, aid, vif, received, state, heard, consistent.named (by simp [state]), here, given,
    awaits.assoc state⟩

/-- A station that is connected by one authentication and one association response. -/
theorem connected_after_handshake_joined : ∃ (s s' : Machine × List Past) (env : Env) (call : Call),
    stationHistory.step s (env, call) = some s' ∧ s'.1.rt.connState = .connected ∧
      AwaitsAssoc s.2 ∧ ∃ vif, s'.1.rt.vif = some vif ∧ vif.cfgAid = 1 := by
  have ran : ((stationHistory.run (registeredMachine, []) (joining.take 2)).bind fun s =>
      (stationHistory.step s (.kind, .receive pointAssocResp)).map fun s' =>
        (s.1.rt.connState, s'.1.rt.connState, s'.1.rt.vif.map Vif.cfgAid)) =
          some (.associating, .connected, some 1) := by
    decide +kernel
  obtain ⟨s, ran, stepped⟩ := Option.bind_eq_some_iff.mp ran
  obtain ⟨s', stepped, found⟩ := Option.map_eq_some_iff.mp stepped
  simp only [Prod.mk.injEq] at found
  obtain ⟨state, connected, aid⟩ := found
  have reach : stationHistory.Reachable s :=
    System.reachable_of_run (s := (registeredMachine, [])) ⟨registeredMachine_registered, rfl⟩ ran
  obtain ⟨_, _, vif, _, _, _, _, here, _, awaits⟩ :=
    connected_after_handshake reach (by simp [state]) stepped connected
  refine ⟨s, s', .kind, .receive pointAssocResp, stepped, connected, awaits, vif, here, ?_⟩
  rw [here] at aid
  exact Option.some.inj aid

end Lcompat.Mac80211
