import Lcompat.Mac80211.Quiet

/-!
# What a call comes to

Each call that the station answers runs to completion and comes to one of a few outcomes: nothing of
the connection changes, an attempt begins or is turned down, an attempt advances, fails, is
completed or gets stuck, or the access point is left. An outcome says what the runtime holds
afterwards, what has been told to the driver and the user, and what has been heard if it took a
frame.
-/

namespace Lcompat.Mac80211

open Lcompat.Logic
open Lcompat.Net

/-- Parameters that have been filled in from others: what was asked for is kept. -/
structure ConnectParams.Fills (asked held : ConnectParams) : Prop where
  /-- The authentication type. -/
  authType : held.authType = asked.authType
  /-- Whether privacy is asked for. -/
  privacy : held.privacy = asked.privacy
  /-- The network, if it is named. -/
  ssid : asked.ssid ≠ [] → held.ssid = asked.ssid
  /-- The access point, if it is named. -/
  bssid : asked.hasBssid = true → held.hasBssid = true ∧ held.bssid = asked.bssid
  /-- The frequency, if it is given. -/
  frequency : asked.frequency ≠ 0 → held.frequency = asked.frequency

/-- Parameters fill themselves. -/
theorem ConnectParams.Fills.refl (params : ConnectParams) : params.Fills params :=
  ⟨rfl, rfl, fun _ => rfl, fun named => ⟨named, rfl⟩, fun _ => rfl⟩

/-- What is filled in twice is filled in. -/
theorem ConnectParams.Fills.trans {asked between held : ConnectParams} (first : asked.Fills between)
    (second : between.Fills held) : asked.Fills held := by
  refine ⟨second.authType.trans first.authType, second.privacy.trans first.privacy, ?_, ?_, ?_⟩
  · intro named
    have same := first.ssid named
    rw [second.ssid (by rwa [same]), same]
  · intro named
    obtain ⟨first_named, same⟩ := first.bssid named
    obtain ⟨second_named, same'⟩ := second.bssid first_named
    exact ⟨second_named, same'.trans same⟩
  · intro given
    have same := first.frequency given
    rw [second.frequency (by rwa [same]), same]

/-- A network that is found by its access point is filled in. -/
theorem ConnectParams.fills_fillScanSsid (env : Env) (result : ScanResult)
    (params : ConnectParams) :
    params.Fills (fillScanSsid env result params) := by
  unfold fillScanSsid
  by_cases unnamed : params.ssid = []
  · rw [if_neg (not_not.mpr unnamed)]
    split
    · exact .refl params
    · exact .refl params
    · exact ⟨rfl, rfl, fun named => absurd unnamed named, fun named => ⟨named, rfl⟩, fun _ => rfl⟩
  · rw [if_pos unnamed]
    exact .refl params

/-- An access point that is found by its network is filled in. -/
theorem ConnectParams.fills_withBssid (params : ConnectParams) (bssid : EtherAddr) :
    params.Fills (params.withBssid bssid) := by
  unfold ConnectParams.withBssid
  by_cases named : params.hasBssid = true
  · rw [if_pos named]
    exact .refl params
  · rw [if_neg named]
    exact ⟨rfl, rfl, fun _ => rfl, fun has => absurd has named, fun _ => rfl⟩

/-- Parameters with an access point have one. -/
theorem ConnectParams.hasBssid_withBssid (params : ConnectParams) (bssid : EtherAddr) :
    (params.withBssid bssid).hasBssid = true := by
  unfold ConnectParams.withBssid
  split
  · assumption
  · rfl

/-- A runtime whose attempt or connection has ended. -/
def Runtime.cleared (rt : Runtime) : Runtime :=
  { rt with
    connState := .disconnected, connectParams := .zero, connectRequestPortid := 0,
    beaconInterval := 0, capability := 0, useQos := false }

/-- A call that may change the runtime, with what it tells. -/
structure Turns (rt : Runtime) (told : List Event) (m m' : Machine) : Prop where
  /-- What the runtime holds afterwards. -/
  core : m'.rt.core = rt.core
  /-- What is told. -/
  tells : Tells [] [] told m m'

variable {rt rt' : Runtime} {told told' : List Event} {m m' m'' : Machine}

/-- The state of the connection after a call. -/
theorem Turns.connState (turns : Turns rt told m m') : m'.rt.connState = rt.connState :=
  (congrArg Runtime.connState turns.core :)

/-- A quiet call turns the runtime into itself. -/
theorem Quiet.turns (quiet : Quiet [] [] m m') : Turns m.rt [] m m' := ⟨quiet.core, quiet.tells⟩

/-- A quiet call behind another. -/
theorem Turns.quiet (turns : Turns rt told m m') (quiet : Quiet [] [] m' m'') :
    Turns rt told m m'' := by
  refine ⟨quiet.core.trans turns.core, ?_⟩
  simpa using turns.tells.trans quiet.tells

/-- A change of the runtime alone. -/
theorem Turns.of_change (m : Machine) (rt : Runtime) (calls : Nat) :
    Turns rt [] m ⟨rt, calls, m.trace⟩ := ⟨rfl, .of_trace rfl⟩

/-- A change of the runtime behind a call, of what is in its core. -/
theorem Turns.change (turns : Turns rt told m m') (update : Runtime → Runtime)
    (commutes : ∀ rt, (update rt).core = update rt.core) :
    Turns (update rt) told m { m' with rt := update m'.rt } := by
  refine ⟨?_, turns.tells.grown, turns.tells.signals, turns.tells.freed⟩
  show (update m'.rt).core = _
  rw [commutes, turns.core, commutes]

/-- Two calls, one behind the other. -/
theorem Turns.trans (first : Turns rt told m m') (second : Turns rt' told' m' m'') :
    Turns rt' (told' ++ told) m m'' :=
  ⟨second.core, first.tells.trans second.tells⟩

/-- What is told depends on the events before, and on nothing else of what was before. -/
theorem Turns.before (turns : Turns rt told m m') (same : m''.trace = m.trace) :
    Turns rt told m'' m' := by
  obtain ⟨core, grown, signals, freed⟩ := turns
  rw [← same] at grown signals freed
  exact ⟨core, grown, signals, freed⟩

/-- The runtimes that have one core. -/
theorem Turns.congr (turns : Turns rt told m m') (same : rt.core = rt'.core) :
    Turns rt' told m m' :=
  ⟨turns.core.trans same, turns.tells⟩

/-- A signal is told. -/
theorem Turns.note (m : Machine) (event : Event) (signal : event.isSignal = true)
    (owned : event.freed = none) (old : event.allocated = none) :
    Turns m.rt [event] m { m with trace := event :: m.trace } := by
  have tells := Tells.note [] m m.rt m.calls owned
  rw [signal, old] at tells
  exact ⟨rfl, tells⟩

/-- An access point is selected: parameters are filled in. -/
theorem after_selectBss (env : Env) (m : Machine) :
    (selectBss env).after (fun result m' => result.1 ≤ 0 ∧ ∃ params,
      m.rt.connectParams.Fills params ∧ Turns { m.rt with connectParams := params } [] m m') m := by
  unfold selectBss
  simp only [Program.after_bind, after_runtime, Program.after_ite, Program.after_pure]
  split
  · exact ⟨by decide, m.rt.connectParams, .refl _, ⟨rfl, .of_trace rfl⟩⟩
  · rw [after_ask]
    split
    · simp only [Program.after_ite, Program.after_pure]
      split
      · exact ⟨by decide, m.rt.connectParams, .refl _, ⟨rfl, .of_trace rfl⟩⟩
      · exact ⟨by decide, m.rt.connectParams, .refl _, ⟨rfl, .of_trace rfl⟩⟩
    · split
      · rename_i result _
        simp only [Program.after_bind, after_change, Program.after_pure]
        exact ⟨by decide, _, ConnectParams.fills_fillScanSsid env result _, .of_change m _ _⟩
      · split
        · rename_i result _
          simp only [Program.after_bind, after_change, Program.after_pure]
          exact ⟨by decide, _, ConnectParams.fills_withBssid _ result.bssid, .of_change m _ _⟩
        · rw [Program.after_pure]
          exact ⟨by decide, m.rt.connectParams, .refl _, ⟨rfl, .of_trace rfl⟩⟩

/-- A failed attempt is told to the user, and the runtime is cleared. -/
theorem after_connectFailed (statusCode : UInt16) (m : Machine) :
    (connectFailed statusCode).after (fun _ m' =>
      Turns m.rt.cleared [.connectResult m.rt.connectRequestPortid statusCode] m m') m := by
  unfold connectFailed
  simp only [Program.after_bind, after_runtime, after_change]
  refine (keepsQuiet_setLinkState false _).mono fun _ m₁ link => ?_
  refine (keepsQuiet_updateWirelessInfo m₁).mono fun _ m₂ told => ?_
  rw [after_note]
  simp only [clearConnectParams, after_change]
  refine (keepsQuiet_updateWirelessInfo _).mono fun _ m₃ later => ?_
  have front := ((Turns.of_change m _ m.calls).quiet link).quiet told
  have published := front.trans (Turns.note m₂
    (.connectResult m.rt.connectRequestPortid statusCode) rfl rfl rfl)
  have cleared := (published.congr front.core).change (fun rt => { rt with
    connectParams := .zero, connectRequestPortid := 0, beaconInterval := 0, capability := 0,
    useQos := false }) fun _ => rfl
  exact cleared.quiet later

/-- The runtime of a station that has left its access point. -/
def Runtime.leave (rt : Runtime) (vif : Vif) : Runtime :=
  { rt with vif := some vif.left, sta := none }.cleared

/-- What is told when the access point is left. -/
def leaveEvents (rt : Runtime) (reasonCode : UInt16) (requestPortid : UInt32) (byAp : Bool) :
    List Event :=
  (if rt.netdev && rt.connectParams.hasBssid then
    [.disconnectEvent requestPortid reasonCode byAp] else []) ++
      if rt.sta.isSome && rt.hw.ops.staRemove then [.staRemove] else []

/-- The runtime of a station with an interface leaves its access point. -/
theorem after_disconnectLocal {vif : Vif} (here : m.rt.vif = some vif) (reasonCode : UInt16)
    (requestPortid : UInt32) (byAp : Bool) :
    (disconnectLocal reasonCode requestPortid byAp).after (fun _ m' =>
      Turns (m.rt.leave vif) (leaveEvents m.rt reasonCode requestPortid byAp) m m') m := by
  have removed : callStaRemove.after (fun _ m' => Turns m.rt
      (if m.rt.sta.isSome && m.rt.hw.ops.staRemove then [.staRemove] else []) m m') m := by
    simp only [callStaRemove, Program.after_bind, after_runtime, Program.after_ite,
      Program.after_pure, after_note]
    split
    · exact Turns.note m _ rfl rfl rfl
    · exact ⟨rfl, .of_trace rfl⟩
  unfold disconnectLocal
  simp only [Program.after_bind, after_runtime, here]
  refine removed.mono fun _ m₁ removed => ?_
  simp only [freeSta, after_change]
  refine (keepsQuiet_callBssInfoChanged _ _).mono fun _ m₂ conf => ?_
  have left : Turns { m.rt with vif := some vif.left, sta := none }
      (if m.rt.sta.isSome && m.rt.hw.ops.staRemove then [.staRemove] else []) m m₂ := by
    exact (removed.change (fun rt => { rt with vif := some vif.left, sta := none })
      fun _ => rfl).quiet conf
  have published : (publishDisconnect (m.rt.netdev && m.rt.connectParams.hasBssid) requestPortid
      reasonCode byAp).after (fun _ m' => Turns { m.rt with vif := some vif.left, sta := none }
        (leaveEvents m.rt reasonCode requestPortid byAp) m m') m₂ := by
    simp only [publishDisconnect, Program.after_ite, Program.after_pure, after_note, leaveEvents]
    split
    · have event := Turns.note m₂ (.disconnectEvent requestPortid reasonCode byAp)
        rfl rfl rfl
      exact (left.trans event).congr left.core
    · exact left
  refine published.mono fun _ m₃ published => ?_
  simp only [clearConnectParams, after_change]
  refine (keepsQuiet_setLinkState false _).mono fun _ m₄ link => ?_
  refine (keepsQuiet_updateWirelessInfo _).mono fun _ m₅ wireless => ?_
  have cleared := published.change Runtime.cleared fun _ => rfl
  exact (cleared.quiet link).quiet wireless

/-- A station entry is allocated, or there is an error. -/
theorem after_allocSta (env : Env) (bss : ScanResult) (m : Machine) :
    (allocSta env bss).after (fun ret m' => ret ≤ 0 ∧ ∃ sta,
      (ret = 0 → m.rt.connectParams.hasBssid = true ∧
        ∃ entry, sta = some entry ∧ entry.addr = m.rt.connectParams.bssid) ∧
      (ret ≠ 0 → sta = m.rt.sta) ∧ Turns { m.rt with sta } [] m m') m := by
  have kept : Turns { m.rt with sta := m.rt.sta } [] m m := ⟨rfl, .of_trace rfl⟩
  unfold allocSta
  simp only [Program.after_bind, after_runtime]
  by_cases named : m.rt.connectParams.hasBssid = true
  · simp only [named, Bool.not_true, Bool.false_eq_true, ↓reduceIte]
    split
    · rw [Program.after_pure]
      exact ⟨by decide, m.rt.sta, by simp [EINVAL], fun _ => rfl, kept⟩
    · rw [Program.after_bind]
      refine (keepsQuiet_kzallocAll env 17 m).mono fun given m₁ quiet => ?_
      cases given with
      | false =>
        simp only [Bool.not_false, ↓reduceIte, Program.after_pure]
        exact ⟨by decide, m.rt.sta, by simp [ENOMEM], fun _ => rfl, quiet.turns⟩
      | true =>
        simp only [Bool.not_true, Bool.false_eq_true, ↓reduceIte, Program.after_bind,
          Program.after_require, after_change, Program.after_pure]
        intro chan _
        have params : m₁.rt.core.connectParams = m.rt.core.connectParams := by rw [quiet.core]
        refine ⟨le_refl 0, some ⟨m₁.rt.connectParams.bssid, staRates m₁.rt.hw chan bss⟩,
          fun _ => ⟨trivial, _, rfl, (congrArg ConnectParams.bssid params :)⟩, fun failed =>
            absurd rfl failed, ?_⟩
        exact quiet.turns.change (fun rt => { rt with
          sta := some ⟨m₁.rt.connectParams.bssid, staRates m₁.rt.hw chan bss⟩ }) fun _ => rfl
  · simp only [named]
    rw [if_pos (by decide), Program.after_pure]
    exact ⟨by decide, m.rt.sta, by simp [EINVAL], fun _ => rfl, kept⟩

/-- The runtime of a station that has completed a connection. -/
def Runtime.join (rt : Runtime) (sta : Sta) (vif : Vif) (aid : UInt16) (basicRates : UInt32) :
    Runtime :=
  { rt with
    sta := some sta, connState := .connected, connectRequestPortid := 0
    vif := some { vif with
      cfgAssoc := true, cfgAid := aid,
      bssConf := ⟨true, aid, rt.connectParams.bssid, rt.connectParams.bssid, rt.beaconInterval,
        basicRates⟩ } }

/-- What the completion of a connection comes to. -/
inductive Completion (m : Machine) (aid : UInt16) : Int → Machine → Prop
  /-- The station is connected. -/
  | joined {m' : Machine} {sta : Sta} {vif : Vif} {basicRates : UInt32}
      (here : m.rt.vif = some vif) (named : m.rt.connectParams.hasBssid = true)
      (entry : sta.addr = m.rt.connectParams.bssid)
      (turns : Turns (m.rt.join sta vif aid basicRates)
        (.connectResult m.rt.connectRequestPortid wlanStatusSuccess ::
          if m.rt.hw.ops.staAdd then [.staAdd 0] else []) m m') : Completion m aid 0 m'
  /-- There is an error before the driver is asked. -/
  | failed {ret : Int} {m' : Machine} {sta : Option Sta} (negative : ret < 0)
      (kept : sta = none ∨ sta = m.rt.sta) (turns : Turns { m.rt with sta } [] m m') :
      Completion m aid ret m'
  /-- The driver refuses the station entry. -/
  | refused {ret : Int} {m' : Machine} (nonzero : ret ≠ 0) (asked : m.rt.hw.ops.staAdd = true)
      (turns : Turns { m.rt with sta := none } [.staAdd ret] m m') : Completion m aid ret m'

/-- The driver is asked to add the station entry, if it can be asked. -/
theorem after_callStaAdd (env : Env) (m : Machine) :
    (callStaAdd env).after (fun ret m' => (m.rt.hw.ops.staAdd = true ∨ ret = 0) ∧
      Turns m.rt (if m.rt.hw.ops.staAdd then [.staAdd ret] else []) m m') m := by
  simp only [callStaAdd, Program.after_bind, after_runtime, Program.after_ite, after_ask,
    after_note, Program.after_pure]
  split
  · rename_i asked
    refine ⟨.inl asked, ?_⟩
    exact (Turns.note ⟨m.rt, m.calls + 1, m.trace⟩
      (.staAdd (env.result m.calls)) rfl rfl rfl).before rfl
  · exact ⟨.inr trivial, rfl, .of_trace rfl⟩

/-- The end of a completion. -/
theorem after_enterConnected {vif : Vif} (here : m.rt.vif = some vif) (bss : ScanResult)
    (aid : UInt16) {sta : Sta} (entry : m.rt.sta = some sta) :
    (enterConnected bss aid).after (fun _ m' => ∃ basicRates,
      Turns (m.rt.join sta vif aid basicRates)
        [.connectResult m.rt.connectRequestPortid wlanStatusSuccess] m m') m := by
  unfold enterConnected
  simp only [Program.after_bind, after_runtime, here, Program.after_require, Option.some.injEq,
    forall_eq', after_change]
  refine (keepsQuiet_callBssInfoChanged _ _).mono fun _ m₁ conf => ?_
  refine (keepsQuiet_callBssInfoChanged _ _).mono fun _ m₂ assoc => ?_
  refine (keepsQuiet_setLinkState true _).mono fun _ m₃ link => ?_
  refine (keepsQuiet_updateWirelessInfo _).mono fun _ m₄ wireless => ?_
  rw [after_note]
  have changed := Turns.of_change m
    { m.rt with connState := .connected, vif := some (vif.joined m.rt bss aid) } m.calls
  have quiet := (((changed.quiet conf).quiet assoc).quiet link).quiet wireless
  have published := quiet.trans (Turns.note m₄
    (.connectResult m.rt.connectRequestPortid wlanStatusSuccess) rfl rfl rfl)
  have done := (published.congr quiet.core).change
    (fun rt => { rt with connectRequestPortid := 0 }) fun _ => rfl
  refine ⟨basicRatesMask m.rt.hw bss, done.congr ?_⟩
  rw [Runtime.join, ← entry]
  rfl

/-- What the completion of a connection comes to. -/
theorem after_connectComplete (env : Env) (bss : ScanResult) (aid : UInt16) (m : Machine) :
    (connectComplete env bss aid).after (Completion m aid) m := by
  unfold connectComplete
  simp only [Program.after_bind, after_runtime]
  by_cases attached : m.rt.netdev = true
  · rw [if_neg (by simp [attached])]
    simp only [freeSta, Program.after_bind, after_change]
    refine (after_allocSta env bss _).mono fun ret m₁ outcome => ?_
    obtain ⟨least, sta, given, kept, allocated⟩ := outcome
    have allocated : Turns { m.rt with sta } [] m m₁ := allocated.before rfl
    by_cases failed : ret = 0
    · obtain ⟨named, entry, rfl, same⟩ := given failed
      rw [if_neg (not_not.mpr failed), Program.after_bind]
      refine (after_callStaAdd env m₁).mono fun ret' m₂ outcome => ?_
      obtain ⟨asked, added⟩ := outcome
      have ops : m₁.rt.hw.ops = m.rt.hw.ops := (congrArg (fun rt => rt.hw.ops) allocated.core :)
      rw [ops] at asked added
      have added := (allocated.trans added).congr allocated.core
      by_cases success : ret' = 0
      · subst success
        rw [if_neg (by simp), Program.after_bind]
        cases here : m₂.rt.vif with
        | none =>
          unfold enterConnected
          simp [here]
        | some vif =>
          have params : m₂.rt.connectParams = m.rt.connectParams :=
            (congrArg Runtime.connectParams added.core :)
          have port : m₂.rt.connectRequestPortid = m.rt.connectRequestPortid :=
            (congrArg Runtime.connectRequestPortid added.core :)
          have staged : m₂.rt.sta = some entry := (congrArg Runtime.sta added.core :)
          have placed : m.rt.vif = some vif := (congrArg Runtime.vif added.core.symm :).trans here
          refine (after_enterConnected here bss aid staged).mono fun _ m₃ outcome => ?_
          obtain ⟨basicRates, joined⟩ := outcome
          rw [Program.after_pure]
          rw [port] at joined
          have whole := added.trans joined
          rw [List.append_nil] at whole
          refine @Completion.joined _ _ _ _ _ basicRates placed named same (whole.congr ?_)
          show (m₂.rt.core.join entry vif aid basicRates) = _
          rw [added.core]
          rfl
      · have op : m.rt.hw.ops.staAdd = true := asked.resolve_right success
        rw [if_pos success, Program.after_bind, after_change, Program.after_pure]
        rw [op, if_pos rfl, List.append_nil] at added
        exact .refused success op (added.change (fun rt => { rt with sta := none }) fun _ => rfl)
    · rw [if_pos failed, Program.after_pure]
      exact .failed (by omega) (.inl (kept failed)) allocated
  · rw [if_pos (by simpa using attached), Program.after_pure]
    exact .failed (by decide) (.inr rfl) ⟨rfl, .of_trace rfl⟩

/-- A frame that is for the station and comes from its access point. -/
structure Matched (rt : Runtime) (skb : SkBuff) (memory : Memory) : Prop where
  /-- The frame is read from this memory. -/
  head : skb.head = some memory
  /-- It is for the station. -/
  da : ∃ vif, rt.vif = some vif ∧ addr1 memory skb.data = some vif.addr
  /-- It comes from the access point, if there is one. -/
  bssid : rt.connectParams.hasBssid = true →
    addr3 memory skb.data = some rt.connectParams.bssid

/-- A frame is tested, and nothing is changed. -/
theorem after_mgmtMatches {skb : SkBuff} {memory : Memory} (head : skb.head = some memory)
    (m : Machine) : (mgmtMatches memory skb.data).after (fun same m' => m' = m ∧
      (same = true → Matched m.rt skb memory)) m := by
  unfold mgmtMatches
  simp only [Program.after_bind, after_runtime, Program.after_require]
  intro vif here da found
  simp only [Program.after_ite, Program.after_pure, Program.after_bind, Program.after_require]
  by_cases same : da = vif.addr
  · rw [if_neg (not_not.mpr same)]
    rw [same] at found
    by_cases named : m.rt.connectParams.hasBssid = true
    · rw [if_neg (by simp [named])]
      intro bssid read
      refine ⟨trivial, fun equal => ⟨head, ⟨vif, here, found⟩, fun _ => ?_⟩⟩
      rw [read, of_decide_eq_true equal]
    · rw [if_pos (by simpa using named)]
      exact ⟨trivial, fun _ => ⟨head, ⟨vif, here, found⟩, fun has => absurd has named⟩⟩
  · rw [if_pos same]
    exact ⟨trivial, fun never => by cases never⟩

/-- The access point is selected again, or stays the one that is known. -/
theorem after_reselectBss (env : Env) (m : Machine) :
    (reselectBss env).after (fun _ m' => ∃ params, m.rt.connectParams.Fills params ∧
      Turns { m.rt with connectParams := params } [] m m') m := by
  unfold reselectBss
  simp only [Program.after_bind]
  refine (after_selectBss env m).mono fun result m' outcome => ?_
  obtain ⟨_, params, fills, turns⟩ := outcome
  simp only [after_runtime, Program.after_pure]
  exact ⟨params, fills, turns⟩

/-- The runtime of a station whose attempt has come to a state, with what it holds of the access
point. -/
def Runtime.attempt (rt : Runtime) (state : ConnState) (params : ConnectParams)
    (beaconInterval capability : UInt16) (useQos : Bool) : Runtime :=
  { rt with connState := state, connectParams := params, beaconInterval, capability, useQos }

/-- What is taken over from an access point is filled in. -/
theorem ConnectParams.fills_adopt (rt : Runtime) (selected : ScanResult) :
    rt.connectParams.Fills (rt.adopt selected).connectParams := by
  have first := rt.connectParams.fills_withBssid selected.bssid
  refine first.trans ?_
  refine ⟨rfl, rfl, fun _ => rfl, fun named => ⟨named, rfl⟩, fun given => ?_⟩
  simp only [Runtime.adopt, given, ↓reduceIte]

/-- The steps of a connect behind its check. -/
theorem after_connectSteps (env : Env) (m : Machine) :
    (connectSteps env).after (fun ret m' => ∃ state params beaconInterval capability useQos,
      m.rt.connectParams.Fills params ∧
        Turns (m.rt.attempt state params beaconInterval capability useQos) [] m m' ∧
          (ret = 0 → state = .authenticating ∧ params.hasBssid = true)) m := by
  unfold connectSteps
  simp only [Program.after_bind]
  refine (after_selectBss env m).mono fun result m₁ outcome => ?_
  obtain ⟨_, params, fills, selected⟩ := outcome
  by_cases failed : result.1 ≠ 0
  · rw [if_pos failed, Program.after_pure]
    exact ⟨m.rt.connState, params, m.rt.beaconInterval, m.rt.capability, m.rt.useQos, fills,
      selected, fun zero => absurd zero failed⟩
  · rw [if_neg failed]
    simp only [Program.after_bind, after_change, after_runtime]
    have adopted := selected.change (fun rt => rt.adopt result.2) fun _ => rfl
    have filled := fills.trans (ConnectParams.fills_adopt { m.rt with connectParams := params }
      result.2)
    refine (keepsQuiet_setChannel env _ _).mono fun ret m₂ tuned => ?_
    have tuned := adopted.quiet tuned
    by_cases failed : ret ≠ 0
    · rw [if_pos failed, Program.after_pure]
      exact ⟨m.rt.connState, _, _, _, _, filled, tuned, fun zero => absurd zero failed⟩
    · rw [if_neg failed]
      simp only [Program.after_bind, after_change]
      refine (keepsQuiet_updateWirelessInfo _).mono fun _ m₃ wireless => ?_
      refine (keepsQuiet_sendAuth env m₃).mono fun ret' m₄ sent => ?_
      have begun := tuned.change (fun rt => { rt with connState := .authenticating }) fun _ => rfl
      exact ⟨.authenticating, _, _, _, _, filled, (begun.quiet wireless).quiet sent,
        fun _ => ⟨rfl, ConnectParams.hasBssid_withBssid _ _⟩⟩

/-- What a connect behind its check comes to: an attempt, or an end that is told. -/
theorem after_connectRest (env : Env) (m : Machine) :
    (connectRest env).after (fun ret m' =>
      ret = 0 ∧ (∃ params beaconInterval capability useQos, m.rt.connectParams.Fills params ∧
        params.hasBssid = true ∧ Turns
          (m.rt.attempt .authenticating params beaconInterval capability useQos) [] m m') ∨
      ret ≠ 0 ∧ Turns m.rt.cleared
        [.connectResult m.rt.connectRequestPortid (if ret < 0 then 1 else UInt16.ofInt ret)]
          m m') m := by
  unfold connectRest
  simp only [Program.after_bind]
  refine (after_connectSteps env m).mono fun ret m₁ later => ?_
  obtain ⟨state, params, beaconInterval, capability, useQos, fills, turns, succeeded⟩ := later
  by_cases failed : ret ≠ 0
  · rw [if_pos failed, Program.after_bind]
    refine (after_connectFailed _ m₁).mono fun _ m₂ cleared => ?_
    rw [Program.after_pure]
    have port : m₁.rt.connectRequestPortid = m.rt.connectRequestPortid :=
      (congrArg Runtime.connectRequestPortid turns.core :)
    rw [port] at cleared
    refine .inr ⟨failed, (turns.trans cleared).congr ?_⟩
    show m₁.rt.core.cleared = _
    rw [turns.core]
    rfl
  · obtain ⟨rfl, named⟩ := succeeded (not_not.mp failed)
    rw [if_neg failed, Program.after_pure]
    exact .inl ⟨rfl, params, beaconInterval, capability, useQos, fills, named, turns⟩

end Lcompat.Mac80211
