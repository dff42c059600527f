import Lcompat.Mac80211.Lifecycle

/-!
# Overlapping requests

Connects that run at the same time. A connect is its check, which is under the lock and stores the
request, and its rest, which is not and which alone moves the state of the connection, so another
check can come in between. Where none does, there is one attempt at a time, and it keeps its
request.
-/

namespace Lcompat.Mac80211

open Lcompat.Logic
open Lcompat.Net

/-- A station on which connects run at the same time. -/
structure Race where
  /-- The machine. -/
  machine : Machine
  /-- The connects that stand between their check and their rest. -/
  between : List Nat
  /-- The request of the attempt in progress, if there is one. -/
  attempt : Option (ConnectParams × UInt32)

/-- A step of a connect, or another call that runs to completion. -/
inductive RaceLabel where
  /-- The check of a connect. -/
  | check (connect : Nat) (params : ConnectParams) (requestPortid : UInt32)
  /-- The rest of a connect. -/
  | rest (env : Env) (connect : Nat)
  /-- A call that is not a connect. -/
  | other (env : Env) (call : Call)

/-- Whether a call is a connect. -/
def Call.isConnect : Call → Bool
  | .connect _ _ => true
  | _ => false

/-- A step: a check that passes begins an attempt unless there is one, and the attempt is over when
its rest fails or a call leaves the station disconnected. -/
def Race.step (race : Race) : RaceLabel → Option Race
  | .check connect params requestPortid =>
    (connectCheck params requestPortid race.machine).map fun result =>
      if result.1 ≠ 0 then { race with machine := result.2 }
      else ⟨result.2, connect :: race.between, race.attempt.or (some (params, requestPortid))⟩
  | .rest env connect =>
    if connect ∈ race.between then
      (connectRest env race.machine).map fun result =>
        ⟨result.2, race.between.erase connect, if result.1 ≠ 0 then none else race.attempt⟩
    else none
  | .other env call =>
    if call.isConnect ∨ race.between ≠ [] then none
    else (call.run env race.machine).map fun result =>
      ⟨result.2, [], if result.2.rt.connState = .disconnected then none else race.attempt⟩

/-- The runs of a station on which connects run at the same time. -/
def race : System Race RaceLabel where
  init r := r.machine.Registered ∧ r.between = [] ∧ r.attempt = none
  step := Race.step

/-- At most one connect has passed its check and is not over, and its request is the one that is
held. -/
structure Exclusive (r : Race) : Prop where
  /-- A connect stands between its check and its rest, or the station is on its way or connected,
  and not both. -/
  one : r.between.length + (if r.machine.rt.connState = .disconnected then 0 else 1) ≤ 1
  /-- The request is held until the station is connected. -/
  kept : ∀ params requestPortid, r.attempt = some (params, requestPortid) →
    r.machine.rt.connState ≠ .connected → params.Fills r.machine.rt.connectParams ∧
      r.machine.rt.connectRequestPortid = requestPortid

/-- Whether the station can do what a request asks for. -/
def ConnectParams.supported (params : ConnectParams) : Bool :=
  !params.privacy &&
    (params.authType = authtypeAutomatic || params.authType = authtypeOpenSystem)

/-- A step that is not a check while another connect stands between its check and its rest. -/
def Apart (r : Race) : RaceLabel → Prop
  | .check _ params _ => params.supported = true → r.between = []
  | _ => True

/-- A check that passes has asked for what the station can do. -/
theorem supported_of_connectCheck (params : ConnectParams) (requestPortid : UInt32) (m : Machine) :
    (connectCheck params requestPortid).after
      (fun ret _ => ret = 0 → params.supported = true) m := by
  unfold connectCheck
  simp only [Program.after_bind, after_runtime, Program.after_ite, Program.after_pure, after_change]
  split
  · simp [ENODEV]
  · split
    · simp [EOPNOTSUPP]
    · rename_i open_network
      split
      · simp [EOPNOTSUPP]
      · rename_i known
        split
        · simp [EBUSY]
        · intro _
          simp only [not_and_or, not_not] at known
          simpa [ConnectParams.supported, open_network] using known

/-- What is kept along a run: the requests do not overlap, and there is no attempt where nothing is
in progress. -/
structure Ordered (r : Race) : Prop where
  /-- The requests do not overlap. -/
  exclusive : Exclusive r
  /-- Nothing is in progress when the station is disconnected and no connect is on its way. -/
  idle : r.machine.rt.connState = .disconnected → r.between = [] → r.attempt = none

variable {r r' : Race}

/-- A call that is not a connect keeps the order. -/
theorem Ordered.turn (ordered : Ordered r) {call : Call} {ret : Int} {m : Machine}
    (other : call.isConnect = false) (turn : Turn r.machine call ret m) :
    Ordered ⟨m, [], if m.rt.connState = .disconnected then none else r.attempt⟩ := by
  obtain ⟨⟨-, kept⟩, -⟩ := ordered
  have idle : m.rt.connState = .disconnected → Ordered ⟨m, [], if m.rt.connState = .disconnected
      then none else r.attempt⟩ := by
    intro idle
    rw [if_pos idle]
    exact ⟨⟨by simp [idle], fun _ _ => by rintro ⟨⟩⟩, fun _ _ => rfl⟩
  have going : m.rt.connState ≠ .disconnected → (m.rt.connState ≠ .connected →
      r.machine.rt.connState ≠ .connected ∧
        r.machine.rt.connectParams.Fills m.rt.connectParams ∧
          m.rt.connectRequestPortid = r.machine.rt.connectRequestPortid) →
      Ordered ⟨m, [], if m.rt.connState = .disconnected then none else r.attempt⟩ := by
    intro busy filled
    rw [if_neg busy]
    refine ⟨⟨by simp [busy], fun params requestPortid begun apart => ?_⟩,
      fun idle => absurd idle busy⟩
    obtain ⟨before, fills, port⟩ := filled apart
    obtain ⟨fills', port'⟩ := kept params requestPortid begun before
    exact ⟨fills'.trans fills, port.trans port'⟩
  cases turn with
  | quiet keeps =>
    have state := keeps.turns.connState
    by_cases busy : m.rt.connState = .disconnected
    · exact idle busy
    · refine going busy fun apart => ⟨?_, ?_, (congrArg Runtime.connectRequestPortid keeps.core :)⟩
      · rwa [← state]
      · have same : m.rt.connectParams = r.machine.rt.connectParams :=
          (congrArg Runtime.connectParams keeps.core :)
        rw [same]
        exact .refl _
  | began => cases other
  | rejected => cases other
  | authenticated state heard fills turns =>
    have next : m.rt.connState = .associating := turns.connState
    refine going (by simp [next]) fun _ =>
      ⟨by simp [state], ?_, (congrArg Runtime.connectRequestPortid turns.core :)⟩
    have same : m.rt.connectParams = _ := (congrArg Runtime.connectParams turns.core :)
    rwa [same]
  | failed failure kept turns => exact idle turns.connState
  | stuck state positive asked fills turns =>
    have next : m.rt.connState = .associating := turns.connState.trans state
    refine going (by simp [next]) fun _ =>
      ⟨by simp [state], ?_, (congrArg Runtime.connectRequestPortid turns.core :)⟩
    have same : m.rt.connectParams = _ := (congrArg Runtime.connectParams turns.core :)
    rwa [same]
  | completed state heard fills here named entry turns =>
    have next : m.rt.connState = .connected := turns.connState
    exact going (by simp [next]) fun apart => absurd next apart
  | left leaving here turns => exact idle turns.connState

/-- A check that does not come in between keeps the order. -/
theorem Ordered.check (ordered : Ordered r) {connect : Nat} {params : ConnectParams}
    {requestPortid : UInt32} (apart : Apart r (.check connect params requestPortid))
    (stepped : r.step (.check connect params requestPortid) = some r') : Ordered r' := by
  obtain ⟨⟨ret, m⟩, ran, rfl⟩ := Option.map_eq_some_iff.mp stepped
  obtain ⟨refused, rfl⟩ | ⟨rfl, -, idle, rfl⟩ :=
    after_connectCheck params requestPortid r.machine ret m ran
  · rw [if_pos refused]
    exact ordered
  · have none : r.between = [] :=
      apart (supported_of_connectCheck params requestPortid r.machine 0 _ ran rfl)
    have free := ordered.idle idle none
    rw [if_neg (by simp), none, free]
    refine ⟨⟨by simp [idle], fun asked portid begun _ => ?_⟩, fun _ => by simp⟩
    obtain ⟨rfl, rfl⟩ := Prod.mk.inj (Option.some.inj begun)
    exact ⟨.refl _, rfl⟩

/-- The rest of a connect keeps the order. -/
theorem Ordered.rest (ordered : Ordered r) {env : Env} {connect : Nat}
    (stepped : r.step (.rest env connect) = some r') : Ordered r' := by
  obtain ⟨⟨one, kept⟩, -⟩ := ordered
  by_cases here : connect ∈ r.between
  · rw [Race.step, if_pos here] at stepped
    obtain ⟨⟨ret, m⟩, ran, rfl⟩ := Option.map_eq_some_iff.mp stepped
    have some_connect := List.length_pos_of_mem here
    have state : r.machine.rt.connState = .disconnected := by
      by_contra busy
      rw [if_neg busy] at one
      omega
    have none : (r.between.erase connect).length = 0 := by
      rw [List.length_erase_of_mem here]
      omega
    obtain ⟨rfl, params, beaconInterval, capability, useQos, fills, -, turns⟩ | ⟨failed, turns⟩ :=
      after_connectRest env r.machine ret m ran
    · have next : m.rt.connState = .authenticating := turns.connState
      have port : m.rt.connectRequestPortid = r.machine.rt.connectRequestPortid :=
        (congrArg Runtime.connectRequestPortid turns.core :)
      have held : m.rt.connectParams = params := (congrArg Runtime.connectParams turns.core :)
      refine ⟨⟨by simp [none, next], fun asked portid begun _ => ?_⟩, fun idle => ?_⟩
      · obtain ⟨fills', port'⟩ := kept asked portid begun (by simp [state])
        show asked.Fills m.rt.connectParams ∧ m.rt.connectRequestPortid = portid
        rw [held, port]
        exact ⟨fills'.trans fills, port'⟩
      · simp [next] at idle
    · have next : m.rt.connState = .disconnected := turns.connState
      rw [if_pos failed]
      exact ⟨⟨by simp [none, next], fun _ _ => by rintro ⟨⟩⟩, fun _ _ => rfl⟩
  · rw [Race.step, if_neg here] at stepped
    cases stepped

end Lcompat.Mac80211
