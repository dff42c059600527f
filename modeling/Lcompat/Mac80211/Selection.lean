import Lcompat.Mac80211.Lifecycle

/-!
# Selection of an access point

`lcompat_ieee80211_select_bss` walks over the scan table twice. The first walk asks for everything
that the connect parameters name. The second asks for the network alone, so it may stop at another
access point than the one that is named, and `lcompat_netdev_connect` then takes over the beacon
interval and the capability of one access point and sends to the other.
-/

namespace Lcompat.Mac80211

open Lcompat.Logic
open Lcompat.Net

/-- A scan result satisfies connect parameters. -/
structure Suits (params : ConnectParams) (result : ScanResult) : Prop where
  /-- It is valid. -/
  valid : result.valid = true
  /-- It is of the access point, if one is named. -/
  bssid : params.hasBssid = true → result.bssid = params.bssid
  /-- It is of the network, if one is named. -/
  ssid : params.ssid ≠ [] → findIe result.ies wlanEidSsid = some params.ssid
  /-- Its privacy bit is the one that is asked for. -/
  privacy : result.capability &&& wlanCapabilityPrivacy ≠ 0 ↔ params.privacy = true

/-- A scan result is of the network that connect parameters name. -/
structure OfNetwork (params : ConnectParams) (result : ScanResult) : Prop where
  /-- It is valid. -/
  valid : result.valid = true
  /-- A network is named. -/
  named : params.ssid ≠ []
  /-- It is of that network. -/
  ssid : findIe result.ies wlanEidSsid = some params.ssid
  /-- Its privacy bit is the one that is asked for. -/
  privacy : result.capability &&& wlanCapabilityPrivacy ≠ 0 ↔ params.privacy = true

/-- The first result of a scan table with a property. -/
def FirstOf (holds : ScanResult → Prop) (results : List ScanResult) (result : ScanResult) : Prop :=
  ∃ front back, results = front ++ result :: back ∧ holds result ∧ ∀ e ∈ front, ¬holds e

/-- The network that is named is in the scan table only along with a result that satisfies all of
the parameters. -/
def NetworkSuits (params : ConnectParams) (results : List ScanResult) : Prop :=
  ∀ e ∈ results, OfNetwork params e → ∃ e' ∈ results, Suits params e'

/-- A selection from a scan table can keep its word. -/
structure Selectable (env : Env) (params : ConnectParams) (results : List ScanResult) : Prop where
  /-- No access point stands in for the one that is named. -/
  network : NetworkSuits params results
  /-- An SSID that is to be filled in fits. -/
  fits : params.ssid = [] → ∀ result, FirstOf (Suits params) results result →
    ∀ ie, findIe result.ies wlanEidSsid = some ie → ie.take env.ssidSize = [] ∨
      ie.length ≤ env.ssidSize

/-- What is selected from a scan table for some parameters is what it should be, and so are the
parameters afterwards. -/
structure WellSelected (asked : ConnectParams) (results : List ScanResult) (ret : Int)
    (selected : ScanResult) (params : ConnectParams) : Prop where
  /-- What is selected is in the table and satisfies the parameters. -/
  found : ret = 0 → selected ∈ results ∧ Suits params selected
  /-- Where nothing is selected there is nothing to select. -/
  missing : ret = -ENOENT → params = asked ∧ ∀ e ∈ results, ¬Suits asked e

/-- What a selection from a scan table comes to. -/
inductive Selection (env : Env) (asked : ConnectParams) (results : List ScanResult) :
    Int → ScanResult → ConnectParams → Prop
  /-- The first walk stops. -/
  | suits {result : ScanResult} (first : FirstOf (Suits asked) results result) :
      Selection env asked results 0 result (fillScanSsid env result asked)
  /-- The second walk stops. -/
  | network {result : ScanResult} (unsuited : ∀ e ∈ results, ¬Suits asked e)
      (here : result ∈ results) (other : OfNetwork asked result) :
      Selection env asked results 0 result (asked.withBssid result.bssid)
  /-- Neither walk stops. -/
  | missing (unsuited : ∀ e ∈ results, ¬Suits asked e)
      (others : ∀ e ∈ results, ¬OfNetwork asked e) :
      Selection env asked results (-ENOENT) .zero asked

section Walks

variable {params : ConnectParams} {result : ScanResult} {results : List ScanResult}

/-- `bssPrivacyMatches` compares the privacy bit. -/
theorem bssPrivacyMatches_iff : bssPrivacyMatches result params = true ↔
    (result.capability &&& wlanCapabilityPrivacy ≠ 0 ↔ params.privacy = true) := by
  unfold bssPrivacyMatches
  cases params.privacy <;> simp

/-- `ssidMatches` compares the SSID element. -/
theorem ssidMatches_iff (ssid : List UInt8) :
    ssidMatches result ssid = true ↔ findIe result.ies wlanEidSsid = some ssid := by
  unfold ssidMatches
  cases findIe result.ies wlanEidSsid <;> simp

/-- What the first walk asks for. -/
theorem suits_iff : Suits params result ↔
    (result.valid && (!params.hasBssid || result.bssid = params.bssid) &&
      (params.ssid = [] || ssidMatches result params.ssid) && bssPrivacyMatches result params) =
        true := by
  rw [Bool.and_eq_true, Bool.and_eq_true, Bool.and_eq_true, bssPrivacyMatches_iff, Bool.or_eq_true,
    Bool.or_eq_true, ssidMatches_iff, decide_eq_true_eq, decide_eq_true_eq]
  constructor
  · rintro ⟨valid, bssid, ssid, privacy⟩
    refine ⟨⟨⟨valid, ?_⟩, ?_⟩, privacy⟩
    · cases named : params.hasBssid with
      | false => exact .inl rfl
      | true => exact .inr (bssid named)
    · by_cases unnamed : params.ssid = []
      · exact .inl unnamed
      · exact .inr (ssid unnamed)
  · rintro ⟨⟨⟨valid, bssid⟩, ssid⟩, privacy⟩
    refine ⟨valid, fun named => ?_, fun named => ?_, privacy⟩
    · exact bssid.resolve_left (by simp [named])
    · exact ssid.resolve_left named

/-- What the second walk asks for. -/
theorem ofNetwork_iff : OfNetwork params result ↔
    (result.valid && (params.ssid ≠ [] && ssidMatches result params.ssid) &&
      bssPrivacyMatches result params) = true := by
  rw [Bool.and_eq_true, Bool.and_eq_true, Bool.and_eq_true, bssPrivacyMatches_iff, ssidMatches_iff,
    decide_eq_true_eq]
  constructor
  · rintro ⟨valid, named, ssid, privacy⟩
    exact ⟨⟨valid, named, ssid⟩, privacy⟩
  · rintro ⟨⟨valid, named, ssid⟩, privacy⟩
    exact ⟨valid, named, ssid, privacy⟩

/-- The first walk stops at the first result that satisfies the parameters. -/
theorem firstMatch_eq_some_iff :
    firstMatch params results = some result ↔ FirstOf (Suits params) results result := by
  unfold firstMatch FirstOf
  rw [List.find?_eq_some_iff_append]
  constructor
  · rintro ⟨suits, front, back, split, others⟩
    refine ⟨front, back, split, suits_iff.mpr suits, fun e mem suits => ?_⟩
    have unsuited := others e mem
    rw [suits_iff.mp suits] at unsuited
    cases unsuited
  · rintro ⟨front, back, split, suits, others⟩
    refine ⟨suits_iff.mp suits, front, back, split, fun e mem => ?_⟩
    rw [Bool.not_eq_true']
    exact Bool.eq_false_iff.mpr fun holds => others e mem (suits_iff.mpr holds)

/-- The first walk does not stop where no result satisfies the parameters. -/
theorem unsuited_of_firstMatch (none : firstMatch params results = none) :
    ∀ e ∈ results, ¬Suits params e := by
  intro e mem suits
  exact List.find?_eq_none.mp none e mem (suits_iff.mp suits)

/-- The result that a table has first is in it. -/
theorem FirstOf.mem {holds : ScanResult → Prop} (first : FirstOf holds results result) :
    result ∈ results := by
  obtain ⟨front, back, split, -, -⟩ := first
  rw [split]
  exact List.mem_append_right front List.mem_cons_self

/-- The result that a table has first has the property. -/
theorem FirstOf.holds {holds : ScanResult → Prop} (first : FirstOf holds results result) :
    holds result := by
  obtain ⟨front, back, -, here, -⟩ := first
  exact here

/-- A result of the network that does not satisfy the parameters is of another access point. -/
theorem OfNetwork.other (other : OfNetwork params result) (unsuited : ¬Suits params result) :
    params.hasBssid = true ∧ result.bssid ≠ params.bssid := by
  by_contra same
  refine unsuited ⟨other.valid, fun named => ?_, fun _ => other.ssid, other.privacy⟩
  by_contra differs
  exact same ⟨named, differs⟩

end Walks

section Selections

variable {env : Env} {asked params : ConnectParams} {results : List ScanResult} {ret : Int}
variable {selected : ScanResult} {m : Machine}

/-- What a selection from a scan table leaves of the runtime and comes to. -/
theorem runs_selectBss (attached : m.rt.netdev = true)
    (table : env.scanState m.calls = some results) :
    (selectBss env).runs (fun result m' =>
      Selection env m.rt.connectParams results result.1 result.2 m'.rt.connectParams ∧
        m'.rt = { m.rt with connectParams := m'.rt.connectParams }) m := by
  unfold selectBss
  simp only [Program.runs_bind, runs_runtime]
  rw [if_neg (by simp [attached])]
  simp only [Program.runs_bind, runs_ask, table]
  cases first : firstMatch m.rt.connectParams results with
  | some result =>
    simp only [Program.runs_bind, runs_change, Program.runs_pure]
    exact ⟨.suits (firstMatch_eq_some_iff.mp first), trivial⟩
  | none =>
    have unsuited := unsuited_of_firstMatch first
    cases second : secondMatch m.rt.connectParams results with
    | some result =>
      simp only [Program.runs_bind, runs_change, Program.runs_pure]
      have here := List.mem_of_find?_eq_some second
      have passed := (List.find?_eq_some_iff_append.mp second).1
      have other : OfNetwork m.rt.connectParams result := ofNetwork_iff.mpr passed
      exact ⟨.network unsuited here other, trivial⟩
    | none =>
      simp only [Program.runs_pure]
      refine ⟨.missing unsuited fun e mem other => ?_, trivial⟩
      exact List.find?_eq_none.mp second e mem (ofNetwork_iff.mp other)

/-- What is selected is in the table. -/
theorem Selection.mem (selection : Selection env asked results 0 selected params) :
    selected ∈ results := by
  generalize zero : (0 : Int) = ret at selection
  cases selection with
  | suits first => exact first.mem
  | network _ here => exact here
  | missing => cases zero

/-- Filling in an SSID keeps a result suitable exactly where it fits. -/
theorem suits_fillScanSsid_iff (suits : Suits asked selected) :
    Suits (fillScanSsid env selected asked) selected ↔ (asked.ssid = [] →
      ∀ ie, findIe selected.ies wlanEidSsid = some ie →
        ie.take env.ssidSize = [] ∨ ie.length ≤ env.ssidSize) := by
  unfold fillScanSsid
  by_cases unnamed : asked.ssid = []
  · rw [if_neg (not_not.mpr unnamed)]
    split
    · rename_i none
      simp [none, suits]
    · rename_i empty
      simp [empty, suits]
    · rename_i ie _ found
      constructor
      · intro suits' _ ie' found'
        obtain rfl := Option.some.inj (found.symm.trans found')
        by_cases empty : ie.take env.ssidSize = []
        · exact .inl empty
        · have same := suits'.ssid empty
          rw [found] at same
          have whole : ie = ie.take env.ssidSize := Option.some.inj same
          refine .inr ?_
          rw [whole]
          exact List.length_take_le _ _
      · intro fits
        refine ⟨suits.valid, suits.bssid, fun filled => ?_, suits.privacy⟩
        have short := (fits unnamed ie found).resolve_left filled
        rw [found]
        exact congrArg some (List.take_of_length_le short).symm
  · rw [if_pos unnamed]
    exact ⟨fun _ empty => absurd empty unnamed, fun _ => suits⟩

/-- Filling in an SSID leaves the access point as it is. -/
theorem bssid_fillScanSsid (env : Env) (result : ScanResult) (params : ConnectParams) :
    (fillScanSsid env result params).hasBssid = params.hasBssid ∧
      (fillScanSsid env result params).bssid = params.bssid := by
  unfold fillScanSsid
  split
  · exact ⟨rfl, rfl⟩
  · split <;> exact ⟨rfl, rfl⟩

/-- A selection is what it should be exactly where it can be. -/
theorem Selection.wellSelected_iff (selection : Selection env asked results ret selected params) :
    WellSelected asked results ret selected params ↔ Selectable env asked results := by
  cases selection with
  | suits first =>
    have found : WellSelected asked results 0 selected (fillScanSsid env selected asked) ↔
        Suits (fillScanSsid env selected asked) selected := by
      constructor
      · exact fun well => (well.found rfl).2
      · exact fun suits => ⟨fun _ => ⟨first.mem, suits⟩, fun missing => by cases missing⟩
    rw [found, suits_fillScanSsid_iff first.holds]
    constructor
    · intro fits
      refine ⟨fun _ _ _ => ⟨selected, first.mem, first.holds⟩, fun unnamed result first' => ?_⟩
      have same := (firstMatch_eq_some_iff.mpr first).symm.trans (firstMatch_eq_some_iff.mpr first')
      obtain rfl := Option.some.inj same
      exact fits unnamed
    · exact fun selectable unnamed => selectable.fits unnamed selected first
  | network unsuited here other =>
    obtain ⟨named, differs⟩ := other.other (unsuited selected here)
    constructor
    · intro well
      have suits := (well.found rfl).2
      rw [ConnectParams.withBssid, if_pos named] at suits
      exact absurd (suits.bssid named) differs
    · intro selectable
      obtain ⟨e, mem, suits⟩ := selectable.network selected here other
      exact absurd suits (unsuited e mem)
  | missing unsuited others =>
    constructor
    · intro _
      refine ⟨fun e mem other => absurd other (others e mem), fun _ result first => ?_⟩
      exact absurd first.holds (unsuited result first.mem)
    · intro _
      exact ⟨fun zero => absurd zero (by decide), fun _ => ⟨rfl, unsuited⟩⟩

/-- Parameters are given the address of the selected access point exactly where none stands in for
the one that is named. -/
theorem Selection.bssid_iff (selection : Selection env asked results 0 selected params) :
    (params.withBssid selected.bssid).bssid = selected.bssid ↔ NetworkSuits asked results := by
  generalize zero : (0 : Int) = ret at selection
  cases selection with
  | suits first =>
    constructor
    · exact fun _ _ _ _ => ⟨selected, first.mem, first.holds⟩
    · intro _
      obtain ⟨named_eq, bssid_eq⟩ := bssid_fillScanSsid env selected asked
      unfold ConnectParams.withBssid
      split
      · rename_i named
        rw [named_eq] at named
        rw [bssid_eq, first.holds.bssid named]
      · rfl
  | network unsuited here other =>
    obtain ⟨named, differs⟩ := other.other (unsuited selected here)
    have same : asked.withBssid selected.bssid = asked := if_pos named
    rw [same, same]
    constructor
    · exact fun equal => absurd equal.symm differs
    · intro network
      obtain ⟨e, mem, suits⟩ := network selected here other
      exact absurd suits (unsuited e mem)
  | missing => cases zero

end Selections

section Connect

variable {env : Env} {m : Machine} {results : List ScanResult}

/-- A machine with connect parameters and a request. -/
def Machine.asked (m : Machine) (params : ConnectParams) (requestPortid : UInt32) : Machine :=
  { m with rt := { m.rt with connectParams := params, connectRequestPortid := requestPortid } }

/-- A runtime holds what `lcompat_netdev_connect` takes over from a scan result. -/
structure Adopted (rt : Runtime) (selected : ScanResult) : Prop where
  /-- Its beacon interval. -/
  beaconInterval : rt.beaconInterval = selected.beaconInterval
  /-- Its capability. -/
  capability : rt.capability = selected.capability
  /-- Whether it advertises WMM. -/
  useQos : rt.useQos = bssHasWmm selected

/-- The steps of a connect behind its check keep what they take over from the selected access point,
unless they fail. -/
theorem after_connectSteps_adopted (attached : m.rt.netdev = true)
    (table : env.scanState m.calls = some results) :
    (connectSteps env).after (fun ret m' => ret = 0 → ∃ selected m₁,
      selectBss env m = some ((0, selected), m₁) ∧ selected ∈ results ∧ Adopted m'.rt selected ∧
        (m'.rt.connectParams.bssid = selected.bssid ↔
          NetworkSuits m.rt.connectParams results)) m := by
  obtain ⟨⟨ret, selected⟩, m₁, ran, selection, -⟩ := runs_selectBss attached table
  unfold connectSteps
  rw [Program.after_bind]
  refine Program.runs.after ⟨(ret, selected), m₁, ran, ?_⟩
  simp only [Program.after_ite, Program.after_pure, Program.after_bind, after_change, after_runtime]
  split
  · rename_i failed
    exact fun zero => absurd zero failed
  rename_i zero
  obtain rfl : ret = 0 := not_not.mp zero
  refine (keepsQuiet_setChannel env _ _).mono fun ret m₂ channel => ?_
  split
  · rename_i failed
    exact fun zero => absurd zero failed
  refine (keepsQuiet_updateWirelessInfo _).mono fun _ m₃ told => ?_
  refine (keepsQuiet_sendAuth env m₃).mono fun ret' m₄ sent _ => ?_
  have core : m₄.rt.core =
      ({ m₁.rt.adopt selected with connState := .authenticating } : Runtime).core := by
    rw [sent.core, told.core]
    exact (congrArg (fun rt => ({ rt with connState := .authenticating } : Runtime)) channel.core :)
  have adopted : Adopted m₄.rt selected :=
    ⟨(congrArg Runtime.beaconInterval core :), (congrArg Runtime.capability core :),
      (congrArg Runtime.useQos core :)⟩
  have bssid : m₄.rt.connectParams.bssid = (m₁.rt.connectParams.withBssid selected.bssid).bssid :=
    (congrArg (fun rt => rt.connectParams.bssid) core :)
  refine ⟨selected, m₁, ran, selection.mem, adopted, ?_⟩
  rw [bssid]
  exact selection.bssid_iff

/-- The selection of an access point from a scan table is sound and complete exactly where it can
be, and a connect sends to the access point whose parameters it has taken over exactly where no
other stands in for the one that is named. -/
theorem selection_iff (attached : m.rt.netdev = true)
    (table : env.scanState m.calls = some results) :
    ((selectBss env).runs (fun result m' =>
        WellSelected m.rt.connectParams results result.1 result.2 m'.rt.connectParams) m ↔
      Selectable env m.rt.connectParams results) ∧
      ∀ params requestPortid m', netdevConnect env params requestPortid m = some (0, m') →
        ∃ selected m₁, selectBss env (m.asked params requestPortid) = some ((0, selected), m₁) ∧
          selected ∈ results ∧ Adopted m'.rt selected ∧
            (m'.rt.connectParams.bssid = selected.bssid ↔ NetworkSuits params results) := by
  constructor
  · exact Program.runs_iff_of_runs (runs_selectBss attached table) fun _ _ outcome =>
      outcome.1.wellSelected_iff
  · intro params requestPortid m' ran
    have done : (netdevConnect env params requestPortid).after (fun ret m' => ret = 0 →
        ∃ selected m₁, selectBss env (m.asked params requestPortid) = some ((0, selected), m₁) ∧
          selected ∈ results ∧ Adopted m'.rt selected ∧
            (m'.rt.connectParams.bssid = selected.bssid ↔ NetworkSuits params results)) m := by
      unfold netdevConnect connectRest
      rw [Program.after_bind]
      refine (after_connectCheck params requestPortid m).mono fun ret m₁ checked => ?_
      obtain ⟨refused, rfl⟩ | ⟨rfl, -, -, rfl⟩ := checked
      · rw [if_pos refused, Program.after_pure]
        exact fun zero => absurd zero refused
      · rw [if_neg (by simp), Program.after_bind]
        have steps := after_connectSteps_adopted (m := m.asked params requestPortid) attached table
        refine steps.mono fun ret m₂ outcome => ?_
        simp only [Program.after_ite, Program.after_bind, Program.after_pure]
        split
        · rename_i failed
          exact (Program.after_true _).mono fun _ _ _ zero => absurd zero failed
        · rename_i zero
          exact fun _ => outcome (not_not.mp zero)
    exact done 0 m' ran rfl

end Connect

/-- Parameters that name a network and an access point of it. -/
def networkParams : ConnectParams := ⟨[0x61], true, pointAddr, 2412, 0, false⟩

/-- An access point of that network. -/
def networkPoint (bssid : EtherAddr) : ScanResult :=
  { ScanResult.zero with
    valid := true, bssid, frequency := 2412, beaconInterval := 200, capability := 1,
    ies := [0, 1, 0x61] }

/-- Calls that all succeed, with some scan results. -/
def Env.listing (results : List ScanResult) : Env :=
  { Env.kind with scanState := fun _ => some results }

/-- The access point that is named is selected when it is listed, and connected to. -/
theorem selection_iff_named :
    (selectBss (.listing [networkPoint stationAddr, networkPoint pointAddr])).runs (fun result m' =>
        WellSelected networkParams [networkPoint stationAddr, networkPoint pointAddr] result.1
          result.2 m'.rt.connectParams) (registeredMachine.asked networkParams 7) ∧
      ∃ m' selected, netdevConnect (.listing [networkPoint stationAddr, networkPoint pointAddr])
          networkParams 7 registeredMachine = some (0, m') ∧
        Adopted m'.rt selected ∧ m'.rt.connectParams.bssid = selected.bssid := by
  have suits : Suits networkParams (networkPoint pointAddr) := suits_iff.mpr (by decide +kernel)
  have network : NetworkSuits networkParams [networkPoint stationAddr, networkPoint pointAddr] :=
    fun _ _ _ => ⟨networkPoint pointAddr, by simp, suits⟩
  have ran : (netdevConnect (.listing [networkPoint stationAddr, networkPoint pointAddr])
      networkParams 7 registeredMachine).map Prod.fst = some 0 := by
    decide +kernel
  obtain ⟨⟨ret, m'⟩, ran, rfl⟩ := Option.map_eq_some_iff.mp ran
  have table : (Env.listing [networkPoint stationAddr, networkPoint pointAddr]).scanState
      registeredMachine.calls = some [networkPoint stationAddr, networkPoint pointAddr] := rfl
  obtain ⟨selected, _, _, _, adopted, bssid⟩ := (selection_iff (m := registeredMachine) rfl
    table).2 networkParams 7 m' ran
  refine ⟨?_, m', selected, ran, adopted, bssid.mpr network⟩
  exact (selection_iff (m := registeredMachine.asked networkParams 7) rfl rfl).1.mpr
    ⟨network, fun unnamed => by cases unnamed⟩

/-- Where another access point of the network is listed alone it is selected in place of the one
that is named: its beacon interval is taken over, and the frames go to the one that is named. -/
theorem other_point_selected :
    ¬(selectBss (.listing [networkPoint stationAddr])).runs (fun result m' =>
        WellSelected networkParams [networkPoint stationAddr] result.1 result.2 m'.rt.connectParams)
          (registeredMachine.asked networkParams 7) ∧
      ∃ m', netdevConnect (.listing [networkPoint stationAddr]) networkParams 7 registeredMachine =
          some (0, m') ∧
        Adopted m'.rt (networkPoint stationAddr) ∧
        m'.rt.connectParams.bssid ≠ (networkPoint stationAddr).bssid := by
  constructor
  · rintro ⟨⟨ret, selected⟩, m', ran, well⟩
    have outcome : (selectBss (.listing [networkPoint stationAddr])
        (registeredMachine.asked networkParams 7)).map (fun result =>
          (result.1.1, result.1.2.bssid, result.2.rt.connectParams)) =
            some (0, stationAddr, networkParams) := by
      decide +kernel
    rw [ran, Option.map_some, Option.some_inj] at outcome
    simp only [Prod.mk.injEq] at outcome
    obtain ⟨zero, bssid, params⟩ := outcome
    have suits := (well.found zero).2
    rw [params] at suits
    exact absurd (bssid.symm.trans (suits.bssid rfl)) (by decide)
  · have outcome : (netdevConnect (.listing [networkPoint stationAddr]) networkParams 7
        registeredMachine).map (fun result => (result.1, result.2.rt.beaconInterval,
          result.2.rt.capability, result.2.rt.useQos, result.2.rt.connectParams.bssid)) =
            some (0, 200, 1, bssHasWmm (networkPoint stationAddr), pointAddr) := by
      decide +kernel
    obtain ⟨⟨ret, m'⟩, ran, held⟩ := Option.map_eq_some_iff.mp outcome
    simp only [Prod.mk.injEq] at held
    obtain ⟨rfl, beacon, capability, qos, bssid⟩ := held
    refine ⟨m', ran, ⟨beacon, capability, qos⟩, ?_⟩
    rw [bssid]
    decide

end Lcompat.Mac80211
