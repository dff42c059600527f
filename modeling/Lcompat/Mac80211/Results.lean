import Lcompat.Mac80211.Lifecycle

/-!
# Results of connects

What the user is told of the attempts to connect. A result says success only when the station has
come to be connected, unless the access point answers an authentication out of turn or the driver
refuses a channel with a number that does not fit the status. And an attempt is answered by one
result before the station is disconnected again, unless it is left while it is still in progress.
-/

namespace Lcompat.Mac80211

open Lcompat.Logic
open Lcompat.Net

/-- The result that an event publishes: whom it answers, and its status. -/
def Event.result : Event → Option (UInt32 × UInt16)
  | .connectResult requestPortid statusCode => some (requestPortid, statusCode)
  | _ => none

/-- The results that have been published from one machine to another, newest first. -/
def resultsBetween (m m' : Machine) : List (UInt32 × UInt16) :=
  (m'.trace.take (m'.trace.length - m.trace.length)).filterMap Event.result

/-- Results are among the events that concern the connection. -/
theorem filterMap_result_signals (trace : List Event) :
    (signals trace).filterMap Event.result = trace.filterMap Event.result := by
  refine filterMap_signals (fun event silent => ?_) trace
  cases event <;> first | rfl | cases silent

/-- The results among what a call tells. -/
theorem Turns.results {rt : Runtime} {told : List Event} {m m' : Machine}
    (turns : Turns rt told m m') : resultsBetween m m' = told.filterMap Event.result := by
  obtain ⟨fresh, grown⟩ := turns.tells.grown
  have length : m'.trace.length - m.trace.length = fresh.length := by
    rw [← grown, List.length_append, Nat.add_sub_cancel]
  have told_eq : signals fresh = told := by
    have both := turns.tells.signals
    rw [← grown] at both
    simp only [signals, List.filter_append] at both
    exact List.append_cancel_right both
  rw [resultsBetween, length, ← grown, List.take_left, ← filterMap_result_signals, told_eq]

section Sources

variable (env : Env) (m : Machine)

/-- An access point is selected by one answer. -/
theorem calls_selectBss :
    (selectBss env).after (fun result m' => result.1 = 0 → m'.calls = m.calls + 1) m := by
  unfold selectBss
  simp only [Program.after_bind, after_runtime, Program.after_ite, Program.after_pure]
  split
  · simp [EINVAL]
  · rw [after_ask]
    split
    · simp only [Program.after_ite, Program.after_pure]
      split
      · exact fun _ => trivial
      · simp [ENOENT]
    · split
      · simp only [Program.after_bind, after_change, Program.after_pure]
        exact fun _ => trivial
      · split
        · simp only [Program.after_bind, after_change, Program.after_pure]
          exact fun _ => trivial
        · rw [Program.after_pure]
          simp [ENOENT]

/-- Setting the channel returns an error, or what the driver answers. -/
theorem result_of_setChannel (frequency : UInt32) :
    (setChannel env frequency).after (fun ret _ => ret ≤ 0 ∨ ret = env.result m.calls) m := by
  unfold setChannel
  simp only [Program.after_bind, after_runtime, Program.after_ite, Program.after_pure]
  split
  · exact .inl (le_refl 0)
  · split
    · rw [Program.after_pure]
      exact .inl (by decide)
    · simp only [Program.after_bind, Program.after_ite, Program.after_pure, after_change,
        callConfig, after_runtime, after_note, after_ask]
      split
      · exact .inl (le_refl 0)
      · split
        · exact .inr trivial
        · exact .inl (le_refl 0)

/-- Sending a management frame returns an error or zero. -/
theorem result_of_sendMgmt (skb : SkBuff) : (sendMgmt skb).after (fun ret _ => ret ≤ 0) m := by
  simp only [sendMgmt, mgdPrepareTx, Program.after_bind, after_runtime, Program.after_ite,
    Program.after_pure, after_note]
  split
  · decide
  · split <;> exact le_refl 0

/-- Sending an authentication frame returns an error or zero. -/
theorem result_of_sendAuth : (sendAuth env).after (fun ret _ => ret ≤ 0) m := by
  unfold sendAuth
  simp only [Program.after_bind, after_runtime, Program.after_ite, Program.after_pure]
  split
  · decide
  · refine (keepsQuiet_allocMgmt env _ _ m).mono fun frame m₁ _ => ?_
    cases frame with
    | none =>
      rw [Program.after_pure]
      decide
    | some frame =>
      simp only [Program.after_bind]
      refine (keepsQuiet_writeMgmtHeader _ _ _ m₁).mono fun skb m₂ _ => ?_
      exact result_of_sendMgmt m₂ _

/-- What a connect returns is an error, zero, or what the driver answers for the channel. -/
theorem result_of_netdevConnect (params : ConnectParams) (requestPortid : UInt32) :
    (netdevConnect env params requestPortid).after
      (fun ret _ => ret ≤ 0 ∨ ret = env.result (m.calls + 1)) m := by
  have steps : ∀ m₁ : Machine, m₁.calls = m.calls → (connectSteps env).after
      (fun ret _ => ret ≤ 0 ∨ ret = env.result (m.calls + 1)) m₁ := by
    intro m₁ same
    unfold connectSteps
    simp only [Program.after_bind]
    refine ((after_selectBss env m₁).and (calls_selectBss env m₁)).mono fun result m₂ both => ?_
    obtain ⟨⟨least, -⟩, calls⟩ := both
    by_cases failed : result.1 ≠ 0
    · rw [if_pos failed, Program.after_pure]
      exact .inl least
    · rw [if_neg failed]
      simp only [Program.after_bind, after_change, after_runtime]
      refine (result_of_setChannel env _ _).mono fun ret m₃ source => ?_
      rw [calls (not_not.mp failed), same] at source
      by_cases failed : ret ≠ 0
      · rw [if_pos failed, Program.after_pure]
        exact source
      · rw [if_neg failed]
        simp only [Program.after_bind, after_change]
        refine (keepsQuiet_updateWirelessInfo _).mono fun _ m₄ _ => ?_
        exact (result_of_sendAuth env m₄).mono fun ret _ least => .inl least
  unfold netdevConnect
  rw [Program.after_bind]
  have check : (connectCheck params requestPortid).after (fun ret m₁ => ret ≤ 0 ∧
      m₁.calls = m.calls) m := by
    simp only [connectCheck, Program.after_bind, after_runtime, Program.after_ite,
      Program.after_pure, after_change]
    split
    · exact ⟨by decide, trivial⟩
    · split
      · exact ⟨by decide, trivial⟩
      · split
        · exact ⟨by decide, trivial⟩
        · split
          · exact ⟨by decide, trivial⟩
          · exact ⟨le_refl 0, trivial⟩
  refine check.mono fun ret m₁ outcome => ?_
  obtain ⟨least, same⟩ := outcome
  by_cases refused : ret ≠ 0
  · rw [if_pos refused, Program.after_pure]
    exact .inl least
  · rw [if_neg refused]
    unfold connectRest
    rw [Program.after_bind]
    refine (steps m₁ same).mono fun ret' m₂ source => ?_
    by_cases failed : ret' ≠ 0
    · rw [if_pos failed, Program.after_bind]
      refine (after_connectFailed _ m₂).mono fun _ m₃ _ => ?_
      rw [Program.after_pure]
      exact source
    · rw [if_neg failed, Program.after_pure]
      exact .inl (le_refl 0)

end Sources

/-- A result that is published, with the state of the connection before and after the call. -/
structure Published where
  /-- The state before the call. -/
  before : ConnState
  /-- The state behind the call. -/
  after : ConnState
  /-- The status. -/
  statusCode : UInt16
  deriving DecidableEq

/-- What a step publishes. -/
def publishedBy (m : Machine) (label : Env × Call) : List Published :=
  match station.step m label with
  | none => []
  | some m' => (resultsBetween m m').map fun result =>
      ⟨m.rt.connState, m'.rt.connState, result.2⟩

/-- A result tells the truth: it says success when the station has come to be connected, and failure
when it is disconnected. -/
def Published.Truthful (published : Published) : Prop :=
  (published.statusCode = wlanStatusSuccess → published.before ≠ .connected ∧
    published.after = .connected) ∧
    (published.after = .disconnected → published.statusCode ≠ wlanStatusSuccess)

/-- A step that does not make a success of a failure: an authentication that is awaited does not
have the status of success out of turn, and the driver does not refuse a channel with a number that
has this status as its low 16 bits. -/
def Plain (m : Machine) (label : Env × Call) : Prop :=
  match label.2 with
  | .connect _ _ => ¬(0 < label.1.result (m.calls + 1) ∧ label.1.result (m.calls + 1) % 65536 = 0)
  | .receive skb => m.rt.connState = .authenticating → ∀ transaction,
      HeardAuth m.rt skb wlanStatusSuccess transaction → transaction = 2
  | _ => True

/-- The runs of a station with the results that have been published. -/
def stationPublished : System (Machine × List Published) (Env × Call) :=
  station.record publishedBy

/-- What a turn publishes. -/
theorem publishedBy_of_step {m m' : Machine} {label : Env × Call} {rt : Runtime} {told : List Event}
    (stepped : station.step m label = some m') (turns : Turns rt told m m') :
    publishedBy m label = (told.filterMap Event.result).map fun result =>
      ⟨m.rt.connState, rt.connState, result.2⟩ := by
  simp only [publishedBy, stepped, turns.results, turns.connState]

/-- A number has no low 16 bits when it is a multiple of 65536. -/
theorem ofInt_eq_zero (x : Int) : UInt16.ofInt x = 0 ↔ x % 65536 = 0 := by
  have small := Int.emod_nonneg x (show (65536 : Int) ≠ 0 by decide)
  have bound := Int.emod_lt_of_pos x (show (0 : Int) < 65536 by decide)
  rw [← UInt16.toNat_inj, UInt16.ofInt, UInt16.toNat_ofNat', UInt16.toNat_zero]
  norm_num
  omega

/-- A failure tells nothing of a result but its own. -/
theorem Failure.results {rt : Runtime} {skb : SkBuff} {statusCode : UInt16} {told : List Event}
    (failure : Failure rt skb statusCode told) : told.filterMap Event.result = [] := by
  cases failure <;> rfl

/-- Leaving tells nothing of a result. -/
theorem results_leaveEvents (rt : Runtime) (reasonCode : UInt16) (requestPortid : UInt32)
    (byAp : Bool) : (leaveEvents rt reasonCode requestPortid byAp).filterMap Event.result = [] := by
  unfold leaveEvents
  split <;> split <;> rfl

/-- A completion tells of one result. -/
theorem results_completed (added : Bool) (requestPortid : UInt32) (statusCode : UInt16) :
    (Event.connectResult requestPortid statusCode ::
      if added then [Event.staAdd 0] else []).filterMap Event.result =
        [(requestPortid, statusCode)] := by
  split <;> rfl

/-- A plain step publishes what is true. -/
theorem truthful_of_step {m m' : Machine} {label : Env × Call} (plain : Plain m label)
    (stepped : station.step m label = some m') : ∀ published ∈ publishedBy m label,
      published.Truthful := by
  obtain ⟨env, call⟩ := label
  obtain ⟨ret, ran, turn⟩ := turn_of_step stepped
  have failure : ∀ before : ConnState, ∀ statusCode, statusCode ≠ wlanStatusSuccess →
      Published.Truthful ⟨before, .disconnected, statusCode⟩ :=
    fun _ _ nonzero => ⟨fun zero => absurd zero nonzero, fun _ => nonzero⟩
  cases turn with
  | quiet keeps =>
    rw [publishedBy_of_step stepped keeps.turns]
    simp
  | began started idle fills named turns =>
    rw [publishedBy_of_step stepped turns]
    simp
  | rejected started idle nonzero turns =>
    rw [publishedBy_of_step stepped turns]
    simp only [List.filterMap_cons, Event.result, List.filterMap_nil, List.map_cons, List.map_nil,
      List.mem_singleton, forall_eq]
    apply failure
    by_cases negative : ret < 0
    · rw [if_pos negative]
      decide
    · rw [if_neg negative]
      have source := result_of_netdevConnect env m _ _ ret m' ran
      have answer : ret = env.result (m.calls + 1) := source.resolve_left (by omega)
      intro zero
      rw [wlanStatusSuccess, ofInt_eq_zero, answer] at zero
      have positive : 0 < env.result (m.calls + 1) := by omega
      exact plain ⟨positive, zero⟩
  | authenticated state heard fills turns =>
    rw [publishedBy_of_step stepped turns]
    simp
  | failed refused kept turns =>
    rw [publishedBy_of_step stepped turns]
    simp only [List.filterMap_cons, Event.result, refused.results, List.map_cons, List.map_nil,
      List.mem_singleton, forall_eq]
    apply failure
    cases refused with
    | auth state heard wrong =>
      rintro rfl
      have turn := plain state _ heard
      simp [turn] at wrong
    | assoc state heard wrong => exact wrong
    | own state one =>
      rw [one]
      decide
    | driver state negative asked one =>
      rw [one]
      decide
  | stuck state positive asked fills turns =>
    rw [publishedBy_of_step stepped turns]
    simp [Event.result]
  | completed state heard fills here named entry turns =>
    rw [publishedBy_of_step stepped turns]
    simp only [results_completed, List.map_cons, List.map_nil, List.mem_singleton, forall_eq]
    exact ⟨fun _ => ⟨by simp [state], rfl⟩, by rintro ⟨⟩⟩
  | left leaving here turns =>
    rw [publishedBy_of_step stepped turns]
    simp [results_leaveEvents]

/-- In a run whose steps are all plain, every result that is published tells the truth. -/
theorem published_truthful {s : Machine × List Published}
    (reach : stationPublished.Reach (fun s label => Plain s.1 label) s) :
    ∀ published ∈ s.2, published.Truthful := by
  refine reach.invariant (fun s => ∀ published ∈ s.2, published.Truthful) ?_ ?_
  · rintro ⟨m, notes⟩ ⟨-, rfl⟩ published here
    cases here
  · rintro s label ⟨m', notes⟩ before plain stepped published here
    obtain ⟨stepped, rfl⟩ := System.record_step_eq_some.mp stepped
    obtain fresh | old := List.mem_append.mp here
    · exact truthful_of_step plain stepped published fresh
    · exact before published old

/-- A request for a channel that the device does not have. -/
def strayParams : ConnectParams := { pointParams with frequency := 5000 }

/-- A request that is turned down is published as a failure. -/
theorem published_truthful_rejected : ∃ s : Machine × List Published,
    s.2 = [⟨.disconnected, .disconnected, 1⟩] ∧ ∀ published ∈ s.2, published.Truthful := by
  have ran : (stationPublished.run (registeredMachine, []) [(.kind, .connect strayParams 7)]).map
      Prod.snd = some [⟨.disconnected, .disconnected, 1⟩] := by
    decide +kernel
  obtain ⟨s, ran, found⟩ := Option.map_eq_some_iff.mp ran
  have plain : stationPublished.Along (fun s label => Plain s.1 label) (registeredMachine, [])
      [(.kind, .connect strayParams 7)] := by
    refine ⟨?_, fun _ _ => trivial⟩
    simp [Plain, Env.kind]
  exact ⟨s, found, published_truthful
    ⟨(registeredMachine, []), ⟨registeredMachine_registered, rfl⟩, System.path_of_run plain ran⟩⟩

/-- An authentication with the status of success out of turn ends an attempt, and the user is told
that it has succeeded. -/
theorem auth_out_of_turn_published_as_success : ¬∀ s : Machine × List Published,
    stationPublished.Reachable s → ∀ published ∈ s.2, published.Truthful := by
  intro always
  have ran : (stationPublished.run (registeredMachine, []) [(.kind, .connect pointParams 7),
      (.kind, .receive (pointFrame fcAuth [0, 0, 1, 0, 0, 0]))]).map Prod.snd =
        some [⟨.authenticating, .disconnected, 0⟩] := by
    decide +kernel
  obtain ⟨s, ran, found⟩ := Option.map_eq_some_iff.mp ran
  have truthful := always s (System.reachable_of_run (s := (registeredMachine, []))
    ⟨registeredMachine_registered, rfl⟩ ran) ⟨.authenticating, .disconnected, 0⟩ (by simp [found])
  exact truthful.2 rfl rfl

/-- What is noted of the attempts to connect. -/
inductive Note where
  /-- A request is accepted. -/
  | accepted (requestPortid : UInt32)
  /-- A result is published. -/
  | published (requestPortid : UInt32)
  /-- The station is disconnected behind a call. -/
  | idle
  deriving DecidableEq

/-- What is noted of a step, newest first: a request that has been accepted, then the results that
are published, then that the station is disconnected. -/
def notesOf (m : Machine) (label : Env × Call) : List Note :=
  match label.2.run label.1 m with
  | none => []
  | some (ret, m') =>
    let requests : List Note :=
      match label.2 with
      | .connect _ requestPortid => if ret = 0 then [.accepted requestPortid] else []
      | _ => []
    let results := (resultsBetween m m').map fun result => Note.published result.1
    (if m'.rt.connState = .disconnected then [.idle] else []) ++ (results ++ requests)

/-- The last request that has been accepted since the station was disconnected, and whom the results
that have been published since then answer. -/
def pending : List Note → Option (UInt32 × List UInt32)
  | [] => none
  | .accepted requestPortid :: _ => some (requestPortid, [])
  | .published requestPortid :: older =>
    (pending older).map fun request => (request.1, requestPortid :: request.2)
  | .idle :: _ => none

/-- Whenever the station is disconnected, a request that was accepted before has been answered by
one result. -/
def Answered : List Note → Prop
  | [] => True
  | .idle :: older => (∀ request, pending older = some request → request.2 = [request.1]) ∧
      Answered older
  | _ :: older => Answered older

/-- A step that does not leave the access point while an attempt is in progress. -/
def Spares (m : Machine) (label : Env × Call) : Prop :=
  m.rt.connState = .authenticating ∨ m.rt.connState = .associating →
    label.2 ≠ .driverDisconnect ∧ ∀ skb, label.2 = .receive skb → ¬HeardLeave m.rt skb

/-- What the notes say of the attempt in progress. -/
structure Accounts (s : Machine × List Note) : Prop where
  /-- Requests have been answered. -/
  answered : Answered s.2
  /-- There is no request when the station is disconnected. -/
  idle : s.1.rt.connState = .disconnected → pending s.2 = none
  /-- The request of an attempt has not been answered. -/
  trying : s.1.rt.connState = .authenticating ∨ s.1.rt.connState = .associating →
    pending s.2 = some (s.1.rt.connectRequestPortid, [])
  /-- The request of a connected station has been answered once. -/
  joined : s.1.rt.connState = .connected → ∃ requestPortid,
    pending s.2 = some (requestPortid, [requestPortid])

/-- What is noted of a turn. -/
theorem notesOf_of_turn {m m' : Machine} {env : Env} {call : Call} {ret : Int} {rt : Runtime}
    {told : List Event} (ran : call.run env m = some (ret, m')) (turns : Turns rt told m m')
    (other : ∀ params requestPortid, call = .connect params requestPortid → ret ≠ 0) :
    notesOf m (env, call) = (if rt.connState = .disconnected then [.idle] else []) ++
      (told.filterMap Event.result).map fun result => Note.published result.1 := by
  simp only [notesOf, ran, turns.results, turns.connState]
  cases call with
  | connect params requestPortid =>
    simp only [other params requestPortid rfl, ↓reduceIte, List.append_nil]
  | disconnect => simp only [List.append_nil]
  | driverDisconnect => simp only [List.append_nil]
  | receive => simp only [List.append_nil]

/-- A call that does not connect. -/
theorem not_connect_of_leaving {rt : Runtime} {call : Call} {ret : Int}
    (leaving : Leaving rt call) :
    ∀ params requestPortid, call = .connect params requestPortid → ret ≠ 0 := by
  cases leaving with
  | user => exact fun _ _ => by rintro ⟨⟩
  | driver => exact fun _ _ => by rintro ⟨⟩
  | heard => exact fun _ _ => by rintro ⟨⟩

/-- A turn in which nothing is noted, to a station in the same state of the same request. -/
theorem Accounts.still {s : Machine × List Note} {m' : Machine} (accounts : Accounts s)
    (state : m'.rt.connState = s.1.rt.connState)
    (port : m'.rt.connectRequestPortid = s.1.rt.connectRequestPortid) :
    Accounts (m', (if m'.rt.connState = .disconnected then [.idle] else []) ++ s.2) := by
  by_cases idle : m'.rt.connState = .disconnected
  · rw [if_pos idle]
    have none := accounts.idle (state.symm.trans idle)
    refine ⟨⟨?_, accounts.answered⟩, fun _ => rfl, ?_, ?_⟩
    · intro request found
      have found : pending s.2 = some request := found
      rw [none] at found
      cases found
    · intro trying
      simp [idle] at trying
    · intro joined
      simp [idle] at joined
  · rw [if_neg idle]
    refine ⟨accounts.answered, fun same => absurd same idle, ?_, ?_⟩
    · intro trying
      rw [state] at trying
      show pending s.2 = some (m'.rt.connectRequestPortid, [])
      rw [port]
      exact accounts.trying trying
    · intro joined
      exact accounts.joined (state.symm.trans joined)

/-- A turn to a station that is disconnected. -/
theorem Accounts.end {m' : Machine} {notes : List Note} (state : m'.rt.connState = .disconnected)
    (answered : Answered notes)
    (settled : ∀ request, pending notes = some request → request.2 = [request.1]) :
    Accounts (m', .idle :: notes) := by
  refine ⟨⟨settled, answered⟩, fun _ => rfl, ?_, ?_⟩
  · intro trying
    simp [state] at trying
  · intro joined
    simp [state] at joined

/-- A step that spares an attempt in progress keeps the account. -/
theorem Accounts.step {s : Machine × List Note} {m' : Machine} {label : Env × Call}
    (accounts : Accounts s) (spares : Spares s.1 label)
    (stepped : station.step s.1 label = some m') : Accounts (m', notesOf s.1 label ++ s.2) := by
  obtain ⟨env, call⟩ := label
  obtain ⟨ret, ran, turn⟩ := turn_of_step stepped
  have received : ∀ {skb : SkBuff} params requestPortid,
      Call.receive skb = .connect params requestPortid → ret ≠ 0 := fun _ _ => by rintro ⟨⟩
  cases turn with
  | quiet keeps refused =>
    have port : m'.rt.connectRequestPortid = s.1.rt.connectRequestPortid :=
      (congrArg Runtime.connectRequestPortid keeps.core :)
    have still := accounts.still keeps.turns.connState port
    rw [keeps.turns.connState] at still
    rw [notesOf_of_turn ran keeps.turns refused]
    simpa using still
  | began started idle fills named turns =>
    rename_i asked params requestPortid beaconInterval capability useQos
    have state : m'.rt.connState = .authenticating := turns.connState
    have port : m'.rt.connectRequestPortid = requestPortid :=
      (congrArg Runtime.connectRequestPortid turns.core :)
    have notes : notesOf s.1 (env, .connect asked requestPortid) = [.accepted requestPortid] := by
      simp only [notesOf, ran, turns.results, state, List.filterMap_nil, List.map_nil,
        ↓reduceIte, List.nil_append]
      rfl
    rw [notes]
    refine ⟨accounts.answered, ?_, ?_, ?_⟩
    · intro idle
      simp [state] at idle
    · intro _
      simp [pending, port]
    · intro joined
      simp [state] at joined
  | rejected started idle nonzero turns =>
    rename_i requestPortid
    rw [notesOf_of_turn ran turns fun _ _ _ => nonzero]
    refine Accounts.end turns.connState accounts.answered fun request found => ?_
    have found : (pending s.2).map (fun request => (request.1, requestPortid :: request.2)) =
        some request := found
    rw [accounts.idle idle] at found
    cases found
  | authenticated state heard fills turns =>
    have next : m'.rt.connState = .associating := turns.connState
    have port : m'.rt.connectRequestPortid = s.1.rt.connectRequestPortid :=
      (congrArg Runtime.connectRequestPortid turns.core :)
    have waiting := accounts.trying (.inl state)
    rw [notesOf_of_turn ran turns received]
    refine ⟨accounts.answered, ?_, ?_, ?_⟩
    · intro idle
      simp [next] at idle
    · intro _
      simpa [port] using waiting
    · intro joined
      simp [next] at joined
  | failed failure kept turns =>
    have state : s.1.rt.connState = .authenticating ∨ s.1.rt.connState = .associating := by
      cases failure with
      | auth state => exact .inl state
      | assoc state => exact .inr state
      | own state => exact state
      | driver state => exact .inr state
    have waiting := accounts.trying state
    rw [notesOf_of_turn ran turns received]
    simp only [List.filterMap_cons, Event.result, failure.results]
    refine Accounts.end turns.connState accounts.answered fun request found => ?_
    have found : (pending s.2).map (fun request => (request.1,
        s.1.rt.connectRequestPortid :: request.2)) = some request := found
    rw [waiting, Option.map_some, Option.some.injEq] at found
    rw [← found]
  | stuck state positive asked fills turns =>
    have port : m'.rt.connectRequestPortid = s.1.rt.connectRequestPortid :=
      (congrArg Runtime.connectRequestPortid turns.core :)
    have still := accounts.still turns.connState port
    rw [turns.connState] at still
    rw [notesOf_of_turn ran turns received, List.append_assoc]
    exact still
  | completed state heard fills here named entry turns =>
    have next : m'.rt.connState = .connected := turns.connState
    have waiting := accounts.trying (.inr state)
    rw [notesOf_of_turn ran turns received, results_completed]
    refine ⟨accounts.answered, ?_, ?_, ?_⟩
    · intro idle
      simp [next] at idle
    · intro trying
      simp [next] at trying
    · intro _
      exact ⟨s.1.rt.connectRequestPortid, by simp [pending, waiting, Runtime.join]⟩
  | left leaving here turns =>
    rw [notesOf_of_turn ran turns (not_connect_of_leaving leaving), results_leaveEvents]
    refine Accounts.end turns.connState accounts.answered fun request found => ?_
    have found : pending s.2 = some request := found
    cases state : s.1.rt.connState with
    | disconnected =>
      rw [accounts.idle state] at found
      cases found
    | connected =>
      obtain ⟨requestPortid, answered⟩ := accounts.joined state
      rw [answered, Option.some.injEq] at found
      rw [← found]
    | authenticating =>
      obtain ⟨driver, heard⟩ := spares (.inl state)
      cases leaving with
      | user joined => simp [state] at joined
      | driver => exact absurd rfl driver
      | heard _ leaves => exact absurd leaves (heard _ rfl)
    | associating =>
      obtain ⟨driver, heard⟩ := spares (.inr state)
      cases leaving with
      | user joined => simp [state] at joined
      | driver => exact absurd rfl driver
      | heard _ leaves => exact absurd leaves (heard _ rfl)

end Lcompat.Mac80211
