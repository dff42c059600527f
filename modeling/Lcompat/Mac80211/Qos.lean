import Lcompat.Mac80211.Filling

/-!
# QoS

Whether a connection uses QoS is decided when an attempt begins, from the access point that is
selected then. The association request asks for WMM by the access point that is selected once more,
when the station is authenticated. A run keeps the two together as long as the two selections agree.
-/

namespace Lcompat.Mac80211

open Lcompat.Logic
open Lcompat.Net

/-- The frame that an event hands over. -/
def Event.frame : Event → Option (Option (List UInt8))
  | .tx _ frame => some frame
  | _ => none

/-- The frames that have been handed over, newest first. -/
def frames (trace : List Event) : List (Option (List UInt8)) := trace.filterMap Event.frame

/-- A program that hands over no frame. -/
abbrev Silent {α : Type} (program : Kernel α) : Prop :=
  Program.Keeps (fun m : Machine => frames m.trace) program

section Silent

/-- Reading the runtime is silent. -/
theorem silent_runtime : Silent runtime := fun m => by
  rw [after_runtime]

/-- Changing the runtime is silent. -/
theorem silent_change (update : Runtime → Runtime) : Silent (change update) := fun m => by
  rw [after_change]

/-- Taking an answer is silent. -/
theorem silent_ask {α : Type} (answer : Nat → α) : Silent (ask answer) := fun m => by
  rw [after_ask]

/-- A call that hands over no frame is silent. -/
theorem silent_note {event : Event} (other : event.frame = none) :
    Silent (note event) := fun m => by
  rw [after_note]
  exact List.filterMap_cons_none other

/-- Selecting an access point is silent. -/
theorem silent_selectBss (env : Env) : Silent (selectBss env) := by
  refine silent_runtime.bind fun rt => Program.keeps_ite (Program.keeps_pure _) ?_
  refine (silent_ask _).bind fun scan => ?_
  cases scan with
  | none => exact Program.keeps_ite (Program.keeps_pure _) (Program.keeps_pure _)
  | some results =>
    simp only
    split
    · exact (silent_change _).bind fun _ => Program.keeps_pure _
    · split
      · exact (silent_change _).bind fun _ => Program.keeps_pure _
      · exact Program.keeps_pure _

/-- Selecting an access point to go on with is silent. -/
theorem silent_reselectBss (env : Env) : Silent (reselectBss env) :=
  (silent_selectBss env).bind fun _ => silent_runtime.bind fun _ => Program.keeps_pure _

/-- Telling the interface what the runtime holds is silent. -/
theorem silent_updateWirelessInfo : Silent updateWirelessInfo :=
  silent_runtime.bind fun _ => Program.keeps_ite (silent_note rfl) (Program.keeps_pure _)

/-- Setting the state of the link is silent. -/
theorem silent_setLinkState (up : Bool) : Silent (setLinkState up) :=
  silent_runtime.bind fun _ => Program.keeps_ite (silent_note rfl) (Program.keeps_pure _)

/-- Telling the driver of the interface is silent. -/
theorem silent_callBssInfoChanged (conf : BssConf) : Silent (callBssInfoChanged conf) :=
  silent_runtime.bind fun _ => Program.keeps_ite (silent_note rfl) (Program.keeps_pure _)

/-- Failing is silent. -/
theorem silent_connectFailed (statusCode : UInt16) : Silent (connectFailed statusCode) := by
  refine silent_runtime.bind fun rt => (silent_change _).bind fun _ => ?_
  refine (silent_setLinkState _).bind fun _ => silent_updateWirelessInfo.bind fun _ => ?_
  refine Program.Keeps.bind (silent_note rfl) fun _ => ?_
  exact (silent_change _).bind fun _ => silent_updateWirelessInfo

/-- Leaving the access point is silent. -/
theorem silent_disconnectLocal (reasonCode : UInt16) (requestPortid : UInt32) (byAp : Bool) :
    Silent (disconnectLocal reasonCode requestPortid byAp) := by
  refine silent_runtime.bind fun rt => ?_
  split
  · exact Program.keeps_pure _
  · have removed : Silent callStaRemove :=
      silent_runtime.bind fun _ => Program.keeps_ite (silent_note rfl) (Program.keeps_pure _)
    have published : ∀ haveWireless,
        Silent (publishDisconnect haveWireless requestPortid reasonCode byAp) :=
      fun _ => Program.keeps_ite (silent_note rfl) (Program.keeps_pure _)
    refine removed.bind fun _ => (silent_change _).bind fun _ => (silent_change _).bind fun _ => ?_
    refine (silent_callBssInfoChanged _).bind fun _ => (published _).bind fun _ => ?_
    refine (silent_change _).bind fun _ => (silent_change _).bind fun _ => ?_
    exact (silent_setLinkState _).bind fun _ => silent_updateWirelessInfo

/-- Allocating is silent. -/
theorem silent_kzallocAll (env : Env) (count : Nat) : Silent (kzallocAll env count) := by
  induction count with
  | zero => exact Program.keeps_pure _
  | succ count ih =>
    exact (silent_ask _).bind fun _ => Program.keeps_ite ih (Program.keeps_pure _)

/-- Allocating a station entry is silent. -/
theorem silent_allocSta (env : Env) (bss : ScanResult) : Silent (allocSta env bss) := by
  refine silent_runtime.bind fun rt => Program.keeps_ite (Program.keeps_pure _) ?_
  refine Program.keeps_ite (Program.keeps_pure _) ((silent_kzallocAll env 17).bind fun _ => ?_)
  refine Program.keeps_ite (Program.keeps_pure _) ((Program.keeps_require _).bind fun chan => ?_)
  exact (silent_change _).bind fun _ => Program.keeps_pure _

/-- Completing a connection is silent. -/
theorem silent_connectComplete (env : Env) (bss : ScanResult) (aid : UInt16) :
    Silent (connectComplete env bss aid) := by
  have added : Silent (callStaAdd env) := by
    refine silent_runtime.bind fun rt => Program.keeps_ite ?_ (Program.keeps_pure _)
    exact (silent_ask _).bind fun _ => Program.Keeps.bind (silent_note rfl) fun _ =>
      Program.keeps_pure _
  have entered : Silent (enterConnected bss aid) := by
    refine silent_runtime.bind fun rt => (Program.keeps_require _).bind fun vif => ?_
    refine (silent_change _).bind fun _ => (silent_callBssInfoChanged _).bind fun _ => ?_
    refine (silent_callBssInfoChanged _).bind fun _ => (silent_setLinkState _).bind fun _ => ?_
    refine silent_updateWirelessInfo.bind fun _ => Program.Keeps.bind (silent_note rfl) fun _ => ?_
    exact silent_change _
  refine silent_runtime.bind fun rt => Program.keeps_ite (Program.keeps_pure _) ?_
  refine (silent_change _).bind fun _ => (silent_allocSta env bss).bind fun ret => ?_
  refine Program.keeps_ite (Program.keeps_pure _) (added.bind fun ret => ?_)
  refine Program.keeps_ite ((silent_change _).bind fun _ => Program.keeps_pure _) ?_
  exact entered.bind fun _ => Program.keeps_pure _

/-- Completing a connection behind an association is silent. -/
theorem silent_complete (env : Env) (aid : UInt16) : Silent (complete env aid) := by
  refine (silent_reselectBss env).bind fun selected => ?_
  refine (silent_connectComplete env selected aid).bind fun ret => ?_
  exact Program.keeps_ite (silent_connectFailed 1) (Program.keeps_pure _)

/-- Testing a frame is silent. -/
theorem silent_mgmtMatches (memory : Memory) (mgmt : Nat) : Silent (mgmtMatches memory mgmt) := by
  refine silent_runtime.bind fun rt => (Program.keeps_require _).bind fun vif => ?_
  refine (Program.keeps_require _).bind fun da => Program.keeps_ite (Program.keeps_pure _) ?_
  refine Program.keeps_ite (Program.keeps_pure _) ((Program.keeps_require _).bind fun bssid => ?_)
  exact Program.keeps_pure _

/-- Storing a scan result is silent. -/
theorem silent_storeScanResult (env : Env) (skb : SkBuff) : Silent (storeScanResult env skb) := by
  refine silent_runtime.bind fun rt => Program.keeps_ite (Program.keeps_pure _) ?_
  refine (Program.keeps_require _).bind fun memory => (Program.keeps_require _).bind fun fc => ?_
  refine Program.keeps_ite (Program.keeps_pure _) (Program.keeps_ite (Program.keeps_pure _) ?_)
  exact (Program.keeps_require _).bind fun result => silent_note rfl

/-- Handling an association response is silent. -/
theorem silent_handleAssocRespRx (env : Env) (skb : SkBuff) :
    Silent (handleAssocRespRx env skb) := by
  refine Program.keeps_ite (Program.keeps_pure _) (silent_runtime.bind fun rt => ?_)
  refine Program.keeps_ite (Program.keeps_pure _) ((Program.keeps_require _).bind fun memory => ?_)
  refine (silent_mgmtMatches _ _).bind fun same => Program.keeps_ite (Program.keeps_pure _) ?_
  refine (Program.keeps_require _).bind fun statusCode =>
    (Program.keeps_require _).bind fun aid => ?_
  refine Program.keeps_ite ((silent_connectFailed _).bind fun _ => Program.keeps_pure _) ?_
  exact (silent_complete env _).bind fun _ => Program.keeps_pure _

end Silent

/-- The last frame that has been handed over is an association request with certain elements. -/
def Requested (trace : List Event) (es : List Element) : Prop :=
  ∃ front rest, frames trace = some (front ++ Element.encode es) :: rest ∧
    cpuToLe16 fcAssocReq <+: front ∧ front.length = assocReqFrameLen.toNat ∧
    Element.Longest es (Element.encode es)

/-- The scan results have an entry for the connect parameters, and it advertises WMM. -/
def AdvertisesWmm (env : Env) (m : Machine) : Prop :=
  ∃ results result, env.scanState m.calls = some results ∧
    (firstMatch m.rt.connectParams results).or (secondMatch m.rt.connectParams results) =
      some result ∧ bssHasWmm result = true

/-- A station on its way to a connection uses QoS exactly when it has asked for WMM. -/
def Negotiated (m : Machine) : Prop :=
  m.rt.connState = .associating ∨ m.rt.connState = .connected →
    ∃ es, Requested m.trace es ∧ (m.rt.useQos = true ↔ wmmElement ∈ es)

/-- When the station is authenticated, the scan results still say of WMM what they have said when
the attempt began. -/
def KeepsQos (m : Machine) (label : Env × Call) : Prop :=
  ∀ skb, label.2 = .receive skb → m.rt.connState = .authenticating →
    HeardAuth m.rt skb wlanStatusSuccess 2 → (m.rt.useQos = true ↔ AdvertisesWmm label.1 m)

variable {m m' : Machine}

/-- A cleared scan result does not advertise WMM. -/
theorem bssHasWmm_of_nil {bss : ScanResult} (empty : bss.ies = []) : bssHasWmm bss = false := by
  rw [bssHasWmm, empty, elements.eq_2 [] (by simp)]
  rfl

/-- The access point that is selected once more advertises WMM if its entry does. -/
theorem after_reselectBss_wmm (env : Env) (attached : m.rt.netdev = true) :
    (reselectBss env).after (fun selected _ => bssHasWmm selected = true ↔ AdvertisesWmm env m)
      m := by
  have known : ∀ rt, bssHasWmm (knownBss rt) = false := fun rt => bssHasWmm_of_nil rfl
  simp only [reselectBss, selectBss, AdvertisesWmm, Program.after_bind, after_runtime,
    Program.after_ite, Program.after_pure, after_ask, attached]
  cases found : env.scanState m.calls with
  | none =>
    have empty : bssHasWmm { ScanResult.zero with
      valid := true, frequency := m.rt.connectParams.frequency,
      bssid := m.rt.connectParams.bssid } = false := bssHasWmm_of_nil rfl
    simp [empty, known, ENOENT]
  | some results =>
    cases first : firstMatch m.rt.connectParams results with
    | some result => simp [first]
    | none =>
      cases second : secondMatch m.rt.connectParams results with
      | some result => simp [first, second]
      | none => simp [first, second, known, ENOENT]

/-- The element that asks for WMM is in a request that asks for it. -/
theorem wmmElement_mem {ssid suppRates extRates : List UInt8} {wmm : Bool} :
    wmmElement ∈ requestElements ssid suppRates extRates wmm ↔ wmm = true := by
  have apart : ∀ eid rates, eid ≠ wlanEidVendorSpecific → wmmElement ∉ ratesElement eid rates := by
    intro eid rates other member
    unfold ratesElement at member
    split at member
    · cases member
    · exact other (congrArg Prod.fst (List.mem_singleton.mp member)).symm
  have supp := apart wlanEidSuppRates suppRates (by decide)
  have ext := apart wlanEidExtSuppRates extRates (by decide)
  have first : wmmElement ≠ (wlanEidSsid, ssid) := fun same =>
    absurd (congrArg Prod.fst same) (show wlanEidVendorSpecific ≠ wlanEidSsid by decide)
  simp only [requestElements, List.mem_cons, List.mem_append, first, supp, ext, false_or]
  cases wmm <;> simp

/-- A station that waits to be associated has sent a request that asks for WMM if the scan results
call for it. -/
theorem after_associate_wmm (env : Env) (attached : m.rt.netdev = true) :
    (associate env).after (fun _ m' => m'.rt.connState = .associating →
      ∃ es, Requested m'.trace es ∧ (wmmElement ∈ es ↔ AdvertisesWmm env m)) m := by
  unfold associate
  rw [Program.after_bind]
  refine (after_reselectBss_wmm env attached).mono fun selected m₁ advertised => ?_
  simp only [Program.after_bind, after_change]
  refine (after_sendAssocReq env selected _).mono fun ret m₂ outcome => ?_
  obtain ⟨least, sent⟩ := outcome
  rw [Program.after_ite, Program.after_pure]
  split
  · refine (after_connectFailed 1 m₂).mono fun _ m₃ failed state => ?_
    have idle : m₃.rt.connState = .disconnected := failed.connState
    exact absurd (idle.symm.trans state) (by decide)
  · intro _
    obtain ⟨ssid_le, id, front, rest, handed, begins, fixed⟩ := sent (by omega)
    obtain ⟨supp_le, ext_le⟩ := length_assocReqRates_le m₁.rt.hw selected
    refine ⟨_, ⟨front, frames rest, ?_, begins, fixed,
      Element.longest_encode (sized_requestElements (bssHasWmm selected) ssid_le supp_le ext_le)⟩,
      ?_⟩
    · rw [handed]
      rfl
    · rw [wmmElement_mem, advertised]

/-- What a received frame comes to: no frame is handed over unless the station is authenticated by
it, and then it has sent a request that asks for WMM if the scan results call for it. -/
structure Replied (env : Env) (m : Machine) (skb : SkBuff) (m' : Machine) : Prop where
  /-- A station that does not wait to be authenticated hands over nothing. -/
  silent : m.rt.connState ≠ .authenticating → frames m'.trace = frames m.trace
  /-- A station that does is authenticated, and has sent a request. -/
  asked : m.rt.connState = .authenticating → m'.rt.connState = .associating →
    HeardAuth m.rt skb wlanStatusSuccess 2 ∧
      ∃ es, Requested m'.trace es ∧ (wmmElement ∈ es ↔ AdvertisesWmm env m)

/-- A frame that changes nothing. -/
theorem Replied.still (env : Env) (m : Machine) (skb : SkBuff) : Replied env m skb m :=
  ⟨fun _ => rfl, fun one other => absurd (one.symm.trans other) (by decide)⟩

/-- A silent call that leaves no station to be associated. -/
theorem Replied.of_silent {env : Env} {skb : SkBuff} (same : frames m'.trace = frames m.trace)
    (apart : m.rt.connState = .authenticating → m'.rt.connState ≠ .associating) :
    Replied env m skb m' :=
  ⟨fun _ => same, fun one other => absurd other (apart one)⟩

section Frames

variable {memory : Memory} {skb : SkBuff} {fc : UInt16}

/-- What an authentication frame comes to. -/
theorem replied_handleAuthRx (env : Env) (head : skb.head = some memory)
    (read : frameControl memory skb.data = some fc) (kind : isAuth fc = true)
    (attached : m.rt.netdev = true) :
    (handleAuthRx env skb).after (fun _ m' => Replied env m skb m') m := by
  have still := Replied.still env m skb
  unfold handleAuthRx
  rw [Program.after_ite, Program.after_pure]
  split
  · exact still
  rename_i long
  simp only [Program.after_bind, after_runtime]
  by_cases state : m.rt.connState = .authenticating
  · rw [if_neg (not_not.mpr state)]
    simp only [Program.after_bind, Program.after_require, head, Option.some.injEq, forall_eq']
    refine (after_mgmtMatches head m).mono fun same m₁ outcome => ?_
    obtain ⟨rfl, matched⟩ := outcome
    cases same with
    | false =>
      rw [if_pos (by decide), Program.after_pure]
      exact still
    | true =>
      rw [if_neg (by decide)]
      simp only [Program.after_bind, Program.after_require]
      intro statusCode status transaction third
      split
      · rw [Program.after_bind]
        have failed := (after_connectFailed statusCode m₁).and (silent_connectFailed statusCode m₁)
        refine failed.mono fun _ m₂ outcome => ?_
        have idle : m₂.rt.connState = .disconnected := outcome.1.connState
        rw [Program.after_pure]
        exact .of_silent outcome.2 fun _ => by rw [idle]; decide
      · rename_i accepted
        obtain ⟨rfl, rfl⟩ : statusCode = wlanStatusSuccess ∧ transaction = 2 := by
          simpa only [not_or, not_not] using accepted
        rw [Program.after_bind]
        refine (after_associate_wmm env attached).mono fun _ m₂ sent => ?_
        rw [Program.after_pure]
        refine ⟨fun other => absurd state other, fun _ associating => ⟨?_, sent associating⟩⟩
        exact ⟨long, memory, fc, matched rfl, read, kind, status, third⟩
  · rw [if_pos state, Program.after_pure]
    exact still

/-- An association response does not authenticate the station. -/
theorem replied_handleAssocRespRx (env : Env) (skb : SkBuff) :
    (handleAssocRespRx env skb).after (fun _ m' => Replied env m skb m') m := by
  by_cases state : m.rt.connState = .associating
  · refine (silent_handleAssocRespRx env skb m).mono fun _ m' same => ?_
    exact .of_silent same fun other => absurd (state.symm.trans other) (by decide)
  · have still := Replied.still env m skb
    simp only [handleAssocRespRx, Program.after_ite, Program.after_bind, after_runtime,
      Program.after_pure]
    rw [if_pos state]
    split <;> exact still

/-- A frame with which the access point leaves does not authenticate the station. -/
theorem replied_handleDisconnectRx (env : Env) (head : skb.head = some memory) :
    (handleDisconnectRx skb).after (fun _ m' => Replied env m skb m') m := by
  have still := Replied.still env m skb
  unfold handleDisconnectRx
  rw [Program.after_ite, Program.after_pure]
  split
  · exact still
  simp only [Program.after_bind, Program.after_require, after_runtime, head, Option.some.injEq,
    forall_eq']
  intro reasonCode _
  rw [Program.after_ite, Program.after_pure, Program.after_bind]
  split
  · exact still
  refine (after_mgmtMatches head m).mono fun same m₁ outcome => ?_
  obtain ⟨rfl, -⟩ := outcome
  rw [Program.after_ite, Program.after_pure, Program.after_bind]
  split
  · exact still
  have silent := silent_disconnectLocal reasonCode 0 true m₁
  cases here : m₁.rt.vif with
  | none =>
    refine (after_disconnectLocal_of_none here reasonCode 0 true).mono fun _ m₂ same => ?_
    rw [Program.after_pure, same]
    exact still
  | some vif =>
    refine ((after_disconnectLocal here reasonCode 0 true).and silent).mono fun _ m₂ outcome => ?_
    have idle : m₂.rt.connState = .disconnected := outcome.1.connState
    rw [Program.after_pure]
    exact .of_silent outcome.2 fun _ => by rw [idle]; decide

/-- What a management frame comes to. -/
theorem replied_handleMgmtRx (env : Env) (skb : SkBuff) (attached : m.rt.netdev = true) :
    (handleMgmtRx env skb).after (fun _ m' => Replied env m skb m') m := by
  have still := Replied.still env m skb
  unfold handleMgmtRx
  rw [Program.after_ite, Program.after_pure]
  split
  · exact still
  simp only [Program.after_bind, Program.after_require]
  intro memory head fc read
  split
  · simp only [Program.after_bind, after_runtime]
    split
    · rw [Program.after_bind]
      have stored := (keepsQuiet_storeScanResult env skb m).and (silent_storeScanResult env skb m)
      refine stored.mono fun _ m' outcome => ?_
      rw [Program.after_pure]
      refine .of_silent outcome.2 fun waiting => ?_
      rw [outcome.1.turns.connState, waiting]
      decide
    · rw [Program.after_pure]
      exact still
  · split
    · rw [Program.after_pure]
      exact still
    split
    · rename_i kind
      exact replied_handleAuthRx env head read kind attached
    split
    · exact replied_handleAssocRespRx env skb
    split
    · exact replied_handleDisconnectRx env head
    · rw [Program.after_pure]
      exact still

end Frames

/-- What receiving a management frame comes to. -/
theorem replied_run {env : Env} {skb : SkBuff} {ret : Int} (attached : m.rt.netdev = true)
    (ran : (Call.receive skb).run env m = some (ret, m')) : Replied env m skb m' := by
  have answered : ((Call.receive skb).run env).after (fun _ m' => Replied env m skb m') m := by
    rw [Call.run, Program.after_bind]
    refine (replied_handleMgmtRx env skb attached).mono fun _ m₁ answered => ?_
    rw [Program.after_pure]
    exact answered
  exact answered ret m' ran

/-- A station on its way to a connection, that stays on it, hands over no frame. -/
theorem frames_of_run {env : Env} {call : Call} {ret : Int} (consistent : Consistent m.rt)
    (ran : call.run env m = some (ret, m'))
    (before : m.rt.connState = .associating ∨ m.rt.connState = .connected)
    (later : m'.rt.connState = .associating ∨ m'.rt.connState = .connected) :
    frames m'.trace = frames m.trace := by
  have awake : m.rt.connState ≠ .disconnected := by
    obtain state | state := before <;> rw [state] <;> decide
  have asleep : m'.rt.connState ≠ .disconnected := by
    obtain state | state := later <;> rw [state] <;> decide
  obtain ⟨vif, here, -⟩ := consistent.vif
  cases call with
  | connect params requestPortid =>
    have refused : (netdevConnect env params requestPortid).after (fun _ m' => m' = m) m := by
      unfold netdevConnect
      rw [Program.after_bind]
      refine (after_connectCheck params requestPortid m).mono fun ret m₁ checked => ?_
      obtain ⟨refused, rfl⟩ | ⟨-, -, idle, -⟩ := checked
      · rw [if_pos refused, Program.after_pure]
      · exact absurd idle awake
    rw [refused ret m' ran]
  | disconnect reasonCode requestPortid =>
    have left : (netdevDisconnect env reasonCode requestPortid).after (fun _ m' =>
        m'.rt.connState ≠ .disconnected → m' = m) m := by
      unfold netdevDisconnect
      simp only [Program.after_bind, after_runtime, Program.after_ite, Program.after_pure]
      split
      · exact fun _ => trivial
      split
      · exact fun _ => trivial
      refine (keepsQuiet_sendDeauth env reasonCode m).mono fun _ m₁ sent => ?_
      have kept : m₁.rt.vif = some vif := (congrArg Runtime.vif sent.core :).trans here
      refine (after_disconnectLocal kept _ requestPortid false).mono fun _ m₂ turns => ?_
      exact fun other => absurd turns.connState other
    rw [left ret m' ran asleep]
  | driverDisconnect =>
    have silent : Silent (Call.run env .driverDisconnect) :=
      (silent_disconnectLocal _ _ _).bind fun _ => Program.keeps_pure _
    exact silent m ret m' ran
  | receive skb =>
    refine (replied_run consistent.started.2 ran).silent fun waiting => ?_
    obtain state | state := before <;> exact absurd (state.symm.trans waiting) (by decide)

/-- A call keeps what is negotiated when the scan results still say what they have said. -/
theorem Negotiated.step {label : Env × Call} {ret : Int} (negotiated : Negotiated m)
    (consistent : Consistent m.rt) (keeps : KeepsQos m label)
    (ran : label.2.run label.1 m = some (ret, m')) : Negotiated m' := by
  intro later
  obtain ⟨env, call⟩ := label
  have turn : Turn m call ret m' := after_run env call m ret m' ran
  -- a call that leaves the station on its way, with the same use of QoS
  have stays : (m.rt.connState = .associating ∨ m.rt.connState = .connected) →
      m'.rt.useQos = m.rt.useQos → ∃ es, Requested m'.trace es ∧
        (m'.rt.useQos = true ↔ wmmElement ∈ es) := by
    intro before same
    obtain ⟨es, requested, agree⟩ := negotiated before
    refine ⟨es, ?_, by rw [same, agree]⟩
    unfold Requested at requested ⊢
    rwa [frames_of_run consistent ran before later]
  have apart : ∀ {rt : Runtime} {told : List Event}, Turns rt told m m' →
      rt.connState ≠ .associating → rt.connState ≠ .connected → False := by
    intro rt told turns one other
    rw [turns.connState] at later
    exact later.elim one other
  cases turn with
  | quiet keeps =>
    rw [keeps.turns.connState] at later
    exact stays later (congrArg Runtime.useQos keeps.core :)
  | began started idle fills named turns =>
    exact (apart turns (by rintro ⟨⟩) (by rintro ⟨⟩)).elim
  | rejected started idle nonzero turns =>
    exact (apart turns (by rintro ⟨⟩) (by rintro ⟨⟩)).elim
  | authenticated state heard fills turns =>
    rename_i skb params
    obtain ⟨-, es, requested, asked⟩ :=
      (replied_run consistent.started.2 ran).asked state turns.connState
    have same : m'.rt.useQos = m.rt.useQos := (congrArg Runtime.useQos turns.core :)
    refine ⟨es, requested, ?_⟩
    rw [same, asked]
    exact keeps skb rfl state heard
  | failed failure kept turns => exact (apart turns (by rintro ⟨⟩) (by rintro ⟨⟩)).elim
  | stuck state positive asked fills turns =>
    exact stays (.inl state) (congrArg Runtime.useQos turns.core :)
  | completed state heard fills here named entry turns =>
    exact stays (.inl state) (congrArg Runtime.useQos turns.core :)
  | left leaving here turns => exact (apart turns (by rintro ⟨⟩) (by rintro ⟨⟩)).elim

/-- In every run in which, whenever the station is authenticated, the scan results still say of WMM
what they have said when the attempt began, a connected station uses QoS exactly when the last frame
it has handed over, the association request, has the element that asks for WMM. -/
theorem qos_as_requested (reach : station.Reach KeepsQos m)
    (connected : m.rt.connState = .connected) :
    ∃ es, Requested m.trace es ∧ (m.rt.useQos = true ↔ wmmElement ∈ es) := by
  have invariant : Consistent m.rt ∧ Negotiated m := by
    refine reach.invariant (fun m => Consistent m.rt ∧ Negotiated m) ?_ ?_
    · intro m registered
      obtain ⟨consistent, idle, -⟩ := registered.consistent
      refine ⟨consistent, fun later => ?_⟩
      rw [idle] at later
      rcases later with state | state <;> cases state
    · rintro m label m' ⟨consistent, negotiated⟩ keeps stepped
      obtain ⟨ret, ran, turn⟩ := turn_of_step stepped
      exact ⟨consistent.turn turn, negotiated.step consistent keeps ran⟩
  exact invariant.2 (.inr connected)

/-- A scan result of the access point that advertises WMM. -/
def wmmPoint : ScanResult :=
  { wmmResult with valid := true, bssid := pointAddr, frequency := 2412 }

/-- Calls that all succeed, with a scan result of the access point. -/
def Env.scanned : Env := { Env.kind with scanState := fun _ => some [wmmPoint] }

/-- A station that finds the same scan result throughout uses QoS and has asked for WMM. -/
theorem qos_as_requested_scanned : ∃ m : Machine, m.rt.connState = .connected ∧
    m.rt.useQos = true ∧ ∃ es, Requested m.trace es ∧ (m.rt.useQos = true ↔ wmmElement ∈ es) := by
  have begun : (station.step registeredMachine (.scanned, .connect pointParams 7)).map
      (fun m => (m.rt.useQos, firstMatch m.rt.connectParams [wmmPoint])) =
        some (true, some wmmPoint) := by
    decide +kernel
  have joined : ((station.run registeredMachine [(.scanned, .connect pointParams 7),
      (.scanned, .receive pointAuth), (.scanned, .receive pointAssocResp)]).map fun m =>
        (m.rt.connState, m.rt.useQos)) = some (.connected, true) := by
    decide +kernel
  have asked : (station.run registeredMachine [(.scanned, .connect pointParams 7),
      (.scanned, .receive pointAuth)]).map (fun m => m.rt.connState) = some .associating := by
    decide +kernel
  obtain ⟨m, ran, state⟩ := Option.map_eq_some_iff.mp joined
  obtain ⟨connected, qos⟩ := Prod.mk.inj state
  have first : KeepsQos registeredMachine (.scanned, .connect pointParams 7) := by
    rintro skb ⟨⟩
  have along : station.Along KeepsQos registeredMachine [(.scanned, .connect pointParams 7),
      (.scanned, .receive pointAuth), (.scanned, .receive pointAssocResp)] := by
    refine ⟨first, fun m₁ stepped => ⟨?_, fun m₂ stepped' => ⟨?_, fun m₃ _ => trivial⟩⟩⟩
    · rw [stepped, Option.map_some, Option.some_inj] at begun
      obtain ⟨qos, found⟩ := Prod.mk.inj begun
      intro skb _ _ _
      refine iff_of_true qos ⟨[wmmPoint], wmmPoint, rfl, ?_, by decide +kernel⟩
      rw [found]
      rfl
    · have waits : m₂.rt.connState = .associating := by
        have two : station.run registeredMachine [(.scanned, .connect pointParams 7),
            (.scanned, .receive pointAuth)] = some m₂ := by
          rw [System.run, stepped, Option.bind_some, System.run, stepped']
          rfl
        rw [two, Option.map_some, Option.some_inj] at asked
        exact asked
      exact fun _ _ waiting => absurd (waits.symm.trans waiting) (by decide)
  have reach : station.Reach KeepsQos m :=
    ⟨registeredMachine, registeredMachine_registered, System.path_of_run along ran⟩
  exact ⟨m, connected, qos, qos_as_requested reach connected⟩

/-- An access point that has left the scan results by the time the station is authenticated is not
asked for WMM, and the connected station uses QoS all the same. -/
theorem forgotten_point_not_requested : ¬∀ m, station.Reachable m → m.rt.connState = .connected →
    ∃ es, Requested m.trace es ∧ (m.rt.useQos = true ↔ wmmElement ∈ es) := by
  intro claim
  have joined : ((station.run registeredMachine [(.scanned, .connect pointParams 7),
      (.kind, .receive pointAuth), (.kind, .receive pointAssocResp)]).map fun m =>
        (m.rt.connState, m.rt.useQos, (frames m.trace).head?.map (Option.map (List.drop 28)))) =
          some (.connected, true, some (some [0, 0, 1, 1, 2])) := by
    decide +kernel
  obtain ⟨m, ran, state⟩ := Option.map_eq_some_iff.mp joined
  simp only [Prod.mk.injEq] at state
  obtain ⟨connected, qos, last⟩ := state
  have reach : station.Reachable m := System.reachable_of_run registeredMachine_registered ran
  obtain ⟨es, ⟨front, rest, handed, -, fixed, longest⟩, agree⟩ := claim m reach connected
  have short : Element.encode es = [0, 0, 1, 1, 2] := by
    have behind : (front ++ Element.encode es).drop 28 = Element.encode es := List.drop_left' fixed
    rw [handed, List.head?_cons, Option.map_some, Option.map_some, behind] at last
    exact Option.some.inj (Option.some.inj last)
  have own : Element.Longest [(0, []), (1, [2])] (Element.encode es) := by
    rw [short]
    exact Element.longest_encode (by decide)
  have same := longest.unique own
  rw [same] at agree
  exact absurd (agree.mp qos) (by decide)

end Lcompat.Mac80211
