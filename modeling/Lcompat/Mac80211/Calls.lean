import Lcompat.Mac80211.Outcome

/-!
# The calls of a station

The calls that a station answers, each run to completion: the user connects or disconnects, the
driver disconnects, and a management frame is received. Every call takes one of a few turns, and a
run of the station is a sequence of them.
-/

namespace Lcompat.Mac80211

open Lcompat.Logic
open Lcompat.Net

/-- A call that the station answers. -/
inductive Call where
  /-- `lcompat_netdev_connect`. -/
  | connect (params : ConnectParams) (requestPortid : UInt32)
  /-- `lcompat_netdev_disconnect`. -/
  | disconnect (reasonCode : UInt16) (requestPortid : UInt32)
  /-- `ieee80211_disconnect`. -/
  | driverDisconnect
  /-- `lcompat_ieee80211_handle_mgmt_rx`. -/
  | receive (skb : SkBuff)

/-- What a call does, and what it returns if it returns a number. -/
def Call.run (env : Env) : Call → Kernel Int
  | .connect params requestPortid => netdevConnect env params requestPortid
  | .disconnect reasonCode requestPortid => netdevDisconnect env reasonCode requestPortid
  | .driverDisconnect => do
    ieee80211Disconnect
    return 0
  | .receive skb => do
    let _ ← handleMgmtRx env skb
    return 0

/-- A frame of full fixed length that authenticates the station, or does not. -/
structure HeardAuth (rt : Runtime) (skb : SkBuff) (statusCode transaction : UInt16) : Prop where
  /-- It is as long as its fixed part. -/
  long : ¬skb.len < authVariable
  /-- It is an authentication frame from the access point to the station. -/
  matched : ∃ memory fc, Matched rt skb memory ∧ frameControl memory skb.data = some fc ∧
    isAuth fc = true ∧ getUnalignedLe16 memory (skb.data + 28) = some statusCode ∧
      getUnalignedLe16 memory (skb.data + 26) = some transaction

/-- A frame of full fixed length that associates the station, or does not. -/
structure HeardAssocResp (rt : Runtime) (skb : SkBuff) (statusCode aid : UInt16) : Prop where
  /-- It is as long as its fixed part. -/
  long : ¬skb.len < assocRespVariable
  /-- It is an association response from the access point to the station. -/
  matched : ∃ memory fc, Matched rt skb memory ∧ frameControl memory skb.data = some fc ∧
    isAssocResp fc = true ∧ getUnalignedLe16 memory (skb.data + 26) = some statusCode ∧
      getUnalignedLe16 memory (skb.data + 28) = some aid

/-- A frame of full fixed length with which the access point leaves the station. -/
structure HeardLeave (rt : Runtime) (skb : SkBuff) : Prop where
  /-- It is as long as its fixed part. -/
  long : ¬skb.len < reasonVariable
  /-- It is a deauthentication or a disassociation from the access point to the station. -/
  matched : ∃ memory fc, Matched rt skb memory ∧ frameControl memory skb.data = some fc ∧
    (isDeauth fc || isDisassoc fc) = true

/-- Why the access point is left. -/
inductive Leaving (rt : Runtime) : Call → Prop
  /-- The user disconnects a connected station. -/
  | user {reasonCode : UInt16} {requestPortid : UInt32} (state : rt.connState = .connected) :
      Leaving rt (.disconnect reasonCode requestPortid)
  /-- The driver disconnects. -/
  | driver : Leaving rt .driverDisconnect
  /-- The access point leaves. -/
  | heard {skb : SkBuff} (state : rt.connState ≠ .disconnected) (heard : HeardLeave rt skb) :
      Leaving rt (.receive skb)

/-- Why an attempt has failed, and what has been told before its end. -/
inductive Failure (rt : Runtime) (skb : SkBuff) (statusCode : UInt16) : List Event → Prop
  /-- The access point has not authenticated the station. -/
  | auth {transaction : UInt16} (state : rt.connState = .authenticating)
      (heard : HeardAuth rt skb statusCode transaction)
      (refused : statusCode ≠ wlanStatusSuccess ∨ transaction ≠ 2) : Failure rt skb statusCode []
  /-- The access point has not associated the station. -/
  | assoc {aid : UInt16} (state : rt.connState = .associating)
      (heard : HeardAssocResp rt skb statusCode aid) (refused : statusCode ≠ wlanStatusSuccess) :
      Failure rt skb statusCode []
  /-- The station cannot go on. -/
  | own (state : rt.connState = .authenticating ∨ rt.connState = .associating)
      (one : statusCode = 1) : Failure rt skb statusCode []
  /-- The driver refuses the station entry. -/
  | driver {ret : Int} (state : rt.connState = .associating) (negative : ret < 0)
      (asked : rt.hw.ops.staAdd = true) (one : statusCode = 1) :
      Failure rt skb statusCode [.staAdd ret]

/-- A turn that a call takes. -/
inductive Turn (m : Machine) : Call → Int → Machine → Prop
  /-- Nothing of the connection changes. -/
  | quiet {call : Call} {ret : Int} {m' : Machine} (keeps : Quiet [] [] m m')
      (refused : ∀ params requestPortid, call = .connect params requestPortid → ret ≠ 0) :
      Turn m call ret m'
  /-- An attempt begins. -/
  | began {asked params : ConnectParams} {requestPortid : UInt32} {beaconInterval : UInt16}
      {capability : UInt16} {useQos : Bool} {m' : Machine} (started : m.rt.started = true)
      (idle : m.rt.connState = .disconnected) (fills : asked.Fills params)
      (named : params.hasBssid = true)
      (turns : Turns ({ m.rt with connectRequestPortid := requestPortid }.attempt .authenticating
        params beaconInterval capability useQos) [] m m') :
      Turn m (.connect asked requestPortid) 0 m'
  /-- An attempt fails before a frame is received. -/
  | rejected {asked : ConnectParams} {requestPortid : UInt32} {ret : Int} {m' : Machine}
      (started : m.rt.started = true) (idle : m.rt.connState = .disconnected) (nonzero : ret ≠ 0)
      (turns : Turns m.rt.cleared
        [.connectResult requestPortid (if ret < 0 then 1 else UInt16.ofInt ret)] m m') :
      Turn m (.connect asked requestPortid) ret m'
  /-- The station is authenticated. -/
  | authenticated {skb : SkBuff} {params : ConnectParams} {ret : Int} {m' : Machine}
      (state : m.rt.connState = .authenticating)
      (heard : HeardAuth m.rt skb wlanStatusSuccess 2) (fills : m.rt.connectParams.Fills params)
      (turns : Turns { m.rt with connectParams := params, connState := .associating } [] m m') :
      Turn m (.receive skb) ret m'
  /-- An attempt fails. -/
  | failed {skb : SkBuff} {statusCode : UInt16} {told : List Event} {sta : Option Sta} {ret : Int}
      {m' : Machine} (failure : Failure m.rt skb statusCode told)
      (kept : sta = none ∨ sta = m.rt.sta)
      (turns : Turns { m.rt with sta }.cleared
        (.connectResult m.rt.connectRequestPortid statusCode :: told) m m') :
      Turn m (.receive skb) ret m'
  /-- An attempt gets stuck on what the driver answers. -/
  | stuck {skb : SkBuff} {params : ConnectParams} {ret answer : Int} {m' : Machine}
      (state : m.rt.connState = .associating) (positive : 0 < answer)
      (asked : m.rt.hw.ops.staAdd = true) (fills : m.rt.connectParams.Fills params)
      (turns : Turns { m.rt with connectParams := params, sta := none } [.staAdd answer] m m') :
      Turn m (.receive skb) ret m'
  /-- The connection is completed. -/
  | completed {skb : SkBuff} {params : ConnectParams} {aid : UInt16} {sta : Sta} {vif : Vif}
      {basicRates : UInt32} {ret : Int} {m' : Machine} (state : m.rt.connState = .associating)
      (heard : HeardAssocResp m.rt skb wlanStatusSuccess aid)
      (fills : m.rt.connectParams.Fills params) (here : m.rt.vif = some vif)
      (named : params.hasBssid = true) (entry : sta.addr = params.bssid)
      (turns : Turns
        ({ m.rt with connectParams := params }.join sta vif (aid &&& 0x3fff) basicRates)
        (.connectResult m.rt.connectRequestPortid wlanStatusSuccess ::
          if m.rt.hw.ops.staAdd then [.staAdd 0] else []) m m') :
      Turn m (.receive skb) ret m'
  /-- The access point is left. -/
  | left {call : Call} {vif : Vif} {reasonCode : UInt16} {requestPortid : UInt32} {byAp : Bool}
      {ret : Int} {m' : Machine} (leaving : Leaving m.rt call) (here : m.rt.vif = some vif)
      (turns : Turns (m.rt.leave vif) (leaveEvents m.rt reasonCode requestPortid byAp) m m') :
      Turn m call ret m'

variable {m : Machine}

/-- A call that does not connect may change nothing. -/
theorem Turn.of_quiet {call : Call} {ret : Int} {m' : Machine} (keeps : Quiet [] [] m m')
    (leaving : Leaving m.rt call) : Turn m call ret m' := by
  cases leaving with
  | user => exact .quiet keeps fun _ _ => by rintro ⟨⟩
  | driver => exact .quiet keeps fun _ _ => by rintro ⟨⟩
  | heard => exact .quiet keeps fun _ _ => by rintro ⟨⟩

/-- A connect is refused by its check, or its request is stored. -/
theorem after_connectCheck (params : ConnectParams) (requestPortid : UInt32) (m : Machine) :
    (connectCheck params requestPortid).after (fun ret m' => ret ≠ 0 ∧ m' = m ∨
      ret = 0 ∧ m.rt.started = true ∧ m.rt.connState = .disconnected ∧
        m' = { m with rt := { m.rt with
          connectParams := params, connectRequestPortid := requestPortid } }) m := by
  unfold connectCheck
  simp only [Program.after_bind, after_runtime, Program.after_ite, Program.after_pure, after_change]
  by_cases started : m.rt.started = true
  · rw [if_neg (by simp [started])]
    by_cases privacy : params.privacy = true
    · rw [if_pos privacy]
      exact .inl ⟨by decide, trivial⟩
    · rw [if_neg privacy]
      split
      · exact .inl ⟨by decide, trivial⟩
      · by_cases idle : m.rt.connState = .disconnected
        · rw [if_neg (not_not.mpr idle)]
          exact .inr ⟨trivial, started, idle, trivial⟩
        · rw [if_pos idle]
          exact .inl ⟨by decide, trivial⟩
  · rw [if_pos (by simpa using started)]
    exact .inl ⟨by decide, trivial⟩

/-- The turns of a connect. -/
theorem after_netdevConnect (env : Env) (asked : ConnectParams) (requestPortid : UInt32)
    (m : Machine) : (netdevConnect env asked requestPortid).after
      (Turn m (.connect asked requestPortid)) m := by
  unfold netdevConnect
  rw [Program.after_bind]
  refine (after_connectCheck asked requestPortid m).mono fun ret m₁ checked => ?_
  obtain ⟨refused, rfl⟩ | ⟨rfl, started, idle, rfl⟩ := checked
  · rw [if_pos refused, Program.after_pure]
    exact .quiet (.refl _) fun _ _ _ => refused
  · rw [if_neg (by simp)]
    refine (after_connectRest env _).mono fun ret m₂ later => ?_
    obtain ⟨rfl, params, beaconInterval, capability, useQos, fills, named, turns⟩ |
      ⟨failed, turns⟩ := later
    · exact .began started idle fills named (turns.before rfl)
    · exact .rejected started idle failed (turns.before rfl)

/-- A station without an interface does not leave. -/
theorem after_disconnectLocal_of_none (none : m.rt.vif = none) (reasonCode : UInt16)
    (requestPortid : UInt32) (byAp : Bool) :
    (disconnectLocal reasonCode requestPortid byAp).after (fun _ m' => m' = m) m := by
  unfold disconnectLocal
  simp only [Program.after_bind, after_runtime, none, Program.after_pure]

/-- The turns of leaving. -/
theorem after_leave {call : Call} (ret : Int) (reasonCode : UInt16) (requestPortid : UInt32)
    (byAp : Bool) (leaving : Leaving m.rt call) :
    (disconnectLocal reasonCode requestPortid byAp).after (fun _ m' => Turn m call ret m') m := by
  cases here : m.rt.vif with
  | none =>
    refine (after_disconnectLocal_of_none here reasonCode requestPortid byAp).mono
      fun _ m' same => ?_
    rw [same]
    exact .of_quiet (.refl m) leaving
  | some vif =>
    exact (after_disconnectLocal here reasonCode requestPortid byAp).mono fun _ m' turns =>
      .left leaving here turns

/-- A turn behind a quiet call. -/
theorem Turn.of_left {call : Call} {ret : Int} {vif : Vif} {reasonCode : UInt16}
    {requestPortid : UInt32} {byAp : Bool} {m₁ m' : Machine} (quiet : Quiet [] [] m m₁)
    (leaving : Leaving m.rt call) (here : m₁.rt.vif = some vif)
    (turns : Turns (m₁.rt.leave vif) (leaveEvents m₁.rt reasonCode requestPortid byAp) m₁ m') :
    Turn m call ret m' := by
  have vif_eq : m.rt.vif = m₁.rt.vif := (congrArg Runtime.vif quiet.core.symm :)
  have told : leaveEvents m₁.rt reasonCode requestPortid byAp =
      leaveEvents m.rt reasonCode requestPortid byAp :=
    (congrArg (fun rt => leaveEvents rt reasonCode requestPortid byAp) quiet.core :)
  have core : (m₁.rt.leave vif).core = (m.rt.leave vif).core :=
    (congrArg (fun rt : Runtime => rt.leave vif) quiet.core :)
  have whole := (quiet.turns.trans turns).congr core
  rw [told, List.append_nil] at whole
  exact .left leaving (vif_eq.trans here) whole

/-- The turns of a disconnect. -/
theorem after_netdevDisconnect (env : Env) (reasonCode : UInt16) (requestPortid : UInt32)
    (m : Machine) : (netdevDisconnect env reasonCode requestPortid).after
      (Turn m (.disconnect reasonCode requestPortid)) m := by
  have still : ∀ ret, Turn m (.disconnect reasonCode requestPortid) ret m := fun ret =>
    .quiet (.refl m) fun _ _ => by rintro ⟨⟩
  unfold netdevDisconnect
  simp only [Program.after_bind, after_runtime, Program.after_ite, Program.after_pure]
  split
  · exact still _
  · split
    · exact still _
    · rename_i connected
      have leaving : Leaving m.rt (.disconnect reasonCode requestPortid) :=
        .user (not_not.mp connected)
      refine (keepsQuiet_sendDeauth env reasonCode m).mono fun _ m₁ sent => ?_
      cases here : m₁.rt.vif with
      | none =>
        refine (after_disconnectLocal_of_none here _ requestPortid false).mono fun _ m₂ same => ?_
        rw [same]
        exact .of_quiet sent leaving
      | some vif =>
        exact (after_disconnectLocal here _ requestPortid false).mono fun _ m₂ turns =>
          .of_left sent leaving here turns

/-- A failure behind calls that have filled in the parameters. -/
theorem after_connectFailed_behind {rt : Runtime} {told : List Event} {m₁ : Machine}
    (turns : Turns rt told m m₁) (statusCode : UInt16) :
    (connectFailed statusCode).after (fun _ m' =>
      Turns rt.cleared (.connectResult rt.connectRequestPortid statusCode :: told) m m') m₁ := by
  refine (after_connectFailed statusCode m₁).mono fun _ m' failed => ?_
  have port : m₁.rt.connectRequestPortid = rt.connectRequestPortid :=
    (congrArg Runtime.connectRequestPortid turns.core :)
  rw [port] at failed
  refine (turns.trans failed).congr ?_
  exact (congrArg Runtime.cleared turns.core :)

/-- The turns behind an authentication that succeeded. -/
theorem after_associate (env : Env) {skb : SkBuff} (state : m.rt.connState = .authenticating)
    (heard : HeardAuth m.rt skb wlanStatusSuccess 2) (ret : Int) :
    (associate env).after (fun _ m' => Turn m (.receive skb) ret m') m := by
  unfold associate
  simp only [Program.after_bind]
  refine (after_reselectBss env m).mono fun selected m₁ outcome => ?_
  obtain ⟨params, fills, turns⟩ := outcome
  rw [after_change]
  have associating := turns.change (fun rt => { rt with connState := .associating }) fun _ => rfl
  refine (keepsQuiet_sendAssocReq env selected _).mono fun ret' m₂ sent => ?_
  have sent := associating.quiet sent
  rw [Program.after_ite, Program.after_pure]
  split
  · exact (after_connectFailed_behind sent 1).mono fun _ m₃ failed =>
      .failed (.own (.inl state) rfl) (.inr (rfl : m.rt.sta = m.rt.sta)) failed
  · exact .authenticated state heard fills sent

/-- The turns behind an association that succeeded. -/
theorem after_complete (env : Env) {skb : SkBuff} {aid : UInt16}
    (state : m.rt.connState = .associating) (heard : HeardAssocResp m.rt skb wlanStatusSuccess aid)
    (ret : Int) :
    (complete env (aid &&& 0x3fff)).after (fun _ m' => Turn m (.receive skb) ret m') m := by
  unfold complete
  simp only [Program.after_bind]
  refine (after_reselectBss env m).mono fun selected m₁ outcome => ?_
  obtain ⟨params, fills, turns⟩ := outcome
  have vif : m.rt.vif = m₁.rt.vif := (congrArg Runtime.vif turns.core.symm :)
  have sta : m₁.rt.sta = m.rt.sta := (congrArg Runtime.sta turns.core :)
  have ops : m₁.rt.hw.ops = m.rt.hw.ops := (congrArg (fun rt => rt.hw.ops) turns.core :)
  have port : m₁.rt.connectRequestPortid = m.rt.connectRequestPortid :=
    (congrArg Runtime.connectRequestPortid turns.core :)
  have held : m₁.rt.connectParams = params := (congrArg Runtime.connectParams turns.core :)
  refine (after_connectComplete env selected _ m₁).mono fun ret' m₂ completion => ?_
  rw [Program.after_ite, Program.after_pure]
  cases completion with
  | joined here named entry joined =>
    rename_i entry_sta entry_vif basicRates
    rw [if_neg (by decide)]
    rw [ops, port] at joined
    rw [held] at named entry
    have whole := turns.trans joined
    rw [List.append_nil] at whole
    refine @Turn.completed _ _ _ _ _ _ basicRates _ _ state heard fills (vif.trans here) named entry
      (whole.congr ?_)
    exact (congrArg (fun rt : Runtime => rt.join entry_sta entry_vif (aid &&& 0x3fff) basicRates)
      turns.core :)
  | failed negative kept failed =>
    rename_i entry
    rw [if_pos negative]
    have core : ({ m₁.rt with sta := entry } : Runtime).core =
        ({ m.rt with connectParams := params, sta := entry } : Runtime).core :=
      congrArg (fun rt => ({ rt with sta := entry } : Runtime)) turns.core
    have whole := (turns.trans failed).congr core
    rw [sta] at kept
    exact (after_connectFailed_behind whole 1).mono fun _ m₃ failed =>
      .failed (.own (.inr state) rfl) kept failed
  | refused nonzero asked refused =>
    rw [ops] at asked
    have core : ({ m₁.rt with sta := none } : Runtime).core =
        ({ m.rt with connectParams := params, sta := none } : Runtime).core :=
      congrArg (fun rt => ({ rt with sta := none } : Runtime)) turns.core
    have whole := (turns.trans refused).congr core
    by_cases negative : ret' < 0
    · rw [if_pos negative]
      exact (after_connectFailed_behind whole 1).mono fun _ m₃ failed =>
        .failed (.driver state negative asked rfl) (.inl rfl) failed
    · rw [if_neg negative]
      exact .stuck state (by omega) asked fills whole

/-- A frame that changes nothing. -/
theorem Turn.still (skb : SkBuff) (ret : Int) : Turn m (.receive skb) ret m :=
  .quiet (.refl m) fun _ _ => by rintro ⟨⟩

section Frames

variable {memory : Memory} {skb : SkBuff} {fc : UInt16}

/-- The turns of an authentication frame. -/
theorem after_handleAuthRx (env : Env) (head : skb.head = some memory)
    (read : frameControl memory skb.data = some fc) (kind : isAuth fc = true) (ret : Int)
    (m : Machine) :
    (handleAuthRx env skb).after (fun _ m' => Turn m (.receive skb) ret m') m := by
  have still := Turn.still (m := m) skb ret
  unfold handleAuthRx
  rw [Program.after_ite, Program.after_pure]
  split
  · exact still
  rename_i long
  simp only [Program.after_bind, after_runtime]
  by_cases state : m.rt.connState = .authenticating
  · rw [if_neg (not_not.mpr state)]
    simp only [Program.after_bind, Program.after_require, head, Option.some.injEq, forall_eq']
    refine (after_mgmtMatches head m).mono fun same m' outcome => ?_
    obtain ⟨kept, matched⟩ := outcome
    subst kept
    cases same with
    | false =>
      rw [if_pos (by decide), Program.after_pure]
      exact still
    | true =>
      rw [if_neg (by decide)]
      simp only [Program.after_bind, Program.after_require]
      intro statusCode status transaction third
      have heard : HeardAuth m'.rt skb statusCode transaction :=
        ⟨long, memory, fc, matched rfl, read, kind, status, third⟩
      split
      · rename_i refused
        rw [Program.after_bind]
        refine (after_connectFailed statusCode m').mono fun _ m₁ failed => ?_
        rw [Program.after_pure]
        exact .failed (.auth state heard refused) (.inr (rfl : m'.rt.sta = m'.rt.sta)) failed
      · rename_i accepted
        obtain ⟨rfl, rfl⟩ : statusCode = wlanStatusSuccess ∧ transaction = 2 := by
          simpa only [not_or, not_not] using accepted
        rw [Program.after_bind]
        refine (after_associate env state heard ret).mono fun _ m₁ turn => ?_
        rw [Program.after_pure]
        exact turn
  · rw [if_pos state, Program.after_pure]
    exact still

/-- The turns of an association response. -/
theorem after_handleAssocRespRx (env : Env) (head : skb.head = some memory)
    (read : frameControl memory skb.data = some fc) (kind : isAssocResp fc = true) (ret : Int)
    (m : Machine) :
    (handleAssocRespRx env skb).after (fun _ m' => Turn m (.receive skb) ret m') m := by
  have still := Turn.still (m := m) skb ret
  unfold handleAssocRespRx
  rw [Program.after_ite, Program.after_pure]
  split
  · exact still
  rename_i long
  simp only [Program.after_bind, after_runtime]
  by_cases state : m.rt.connState = .associating
  · rw [if_neg (not_not.mpr state)]
    simp only [Program.after_bind, Program.after_require, head, Option.some.injEq, forall_eq']
    refine (after_mgmtMatches head m).mono fun same m' outcome => ?_
    obtain ⟨kept, matched⟩ := outcome
    subst kept
    cases same with
    | false =>
      rw [if_pos (by decide), Program.after_pure]
      exact still
    | true =>
      rw [if_neg (by decide)]
      simp only [Program.after_bind, Program.after_require]
      intro statusCode status aid given
      have heard : HeardAssocResp m'.rt skb statusCode aid :=
        ⟨long, memory, fc, matched rfl, read, kind, status, given⟩
      split
      · rename_i refused
        rw [Program.after_bind]
        refine (after_connectFailed statusCode m').mono fun _ m₁ failed => ?_
        rw [Program.after_pure]
        exact .failed (.assoc state heard refused) (.inr (rfl : m'.rt.sta = m'.rt.sta)) failed
      · rename_i accepted
        obtain rfl : statusCode = wlanStatusSuccess := not_not.mp accepted
        rw [Program.after_bind]
        refine (after_complete env state heard ret).mono fun _ m₁ turn => ?_
        rw [Program.after_pure]
        exact turn
  · rw [if_pos state, Program.after_pure]
    exact still

/-- The turns of a frame with which the access point leaves the station. -/
theorem after_handleDisconnectRx (head : skb.head = some memory)
    (read : frameControl memory skb.data = some fc) (kind : (isDeauth fc || isDisassoc fc) = true)
    (ret : Int) (m : Machine) :
    (handleDisconnectRx skb).after (fun _ m' => Turn m (.receive skb) ret m') m := by
  have still := Turn.still (m := m) skb ret
  unfold handleDisconnectRx
  rw [Program.after_ite, Program.after_pure]
  split
  · exact still
  rename_i long
  simp only [Program.after_bind, Program.after_require, after_runtime, head, Option.some.injEq,
    forall_eq']
  intro reasonCode _
  rw [Program.after_ite, Program.after_pure, Program.after_bind]
  split
  · exact still
  rename_i state
  refine (after_mgmtMatches head m).mono fun same m' outcome => ?_
  obtain ⟨kept, matched⟩ := outcome
  subst kept
  cases same with
  | false =>
    rw [if_pos (by decide), Program.after_pure]
    exact still
  | true =>
    rw [if_neg (by decide), Program.after_bind]
    have leaving : Leaving m'.rt (.receive skb) :=
      .heard state ⟨long, memory, fc, matched rfl, read, kind⟩
    have left := after_leave ret reasonCode 0 true leaving
    refine left.mono fun _ m₁ turn => ?_
    rw [Program.after_pure]
    exact turn

/-- The turns of a management frame. -/
theorem after_handleMgmtRx (env : Env) (skb : SkBuff) (ret : Int) (m : Machine) :
    (handleMgmtRx env skb).after (fun _ m' => Turn m (.receive skb) ret m') m := by
  have still := Turn.still (m := m) skb ret
  unfold handleMgmtRx
  rw [Program.after_ite, Program.after_pure]
  split
  · exact still
  simp only [Program.after_bind, Program.after_require]
  intro memory head fc read
  split
  · simp only [Program.after_bind, after_runtime]
    split
    · rw [Program.after_bind]
      refine (keepsQuiet_storeScanResult env skb m).mono fun _ m' quiet => ?_
      rw [Program.after_pure]
      exact .quiet quiet fun _ _ => by rintro ⟨⟩
    · rw [Program.after_pure]
      exact still
  · split
    · rw [Program.after_pure]
      exact still
    split
    · rename_i kind
      exact after_handleAuthRx env head read kind ret m
    split
    · rename_i kind
      exact after_handleAssocRespRx env head read kind ret m
    split
    · rename_i kind
      exact after_handleDisconnectRx head read kind ret m
    · rw [Program.after_pure]
      exact still

end Frames

/-- Every call takes one of the turns. -/
theorem after_run (env : Env) (call : Call) (m : Machine) :
    (call.run env).after (Turn m call) m := by
  cases call with
  | connect params requestPortid => exact after_netdevConnect env params requestPortid m
  | disconnect reasonCode requestPortid =>
    exact after_netdevDisconnect env reasonCode requestPortid m
  | driverDisconnect =>
    rw [Call.run, Program.after_bind]
    have left := after_leave (m := m) 0 wlanReasonDeauthLeaving 0 false .driver
    refine left.mono fun _ m' turn => ?_
    rw [Program.after_pure]
    exact turn
  | receive skb =>
    rw [Call.run, Program.after_bind]
    refine (after_handleMgmtRx env skb 0 m).mono fun _ m' turn => ?_
    rw [Program.after_pure]
    exact turn

end Lcompat.Mac80211
