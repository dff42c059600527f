import Lcompat.Logic.Block
import Lcompat.Mac80211.Scan

/-!
# How a scan request is assembled

`lcompat_ieee80211_alloc_scan_req` counts the channels in one pass over the bands, allocates three
blocks, and fills them in two further passes. Here the blocks and the passes are as they are in the
source; a block that has been allocated is either part of the request or freed once, and nothing is
stored outside of a block.
-/

namespace Lcompat.Mac80211.Assembly

open Lcompat.Logic
open Lcompat.Net

/-- `struct ieee80211_supported_band`, with its count of channels. -/
structure BandTable where
  /-- `n_channels`. -/
  nChannels : Int
  /-- `channels`. -/
  channels : List Channel
  /-- `n_channels` is an `int`. -/
  int_range : nChannels ≤ intMax
  /-- There are as many channels as `n_channels` says. -/
  counted : 0 < nChannels → nChannels = channels.length

/-- `netdev_scan_params_t`, whose `ssids` is an array of some size. -/
structure ScanParams (size : Nat) where
  /-- `n_ssids`. -/
  nSsids : UInt32
  /-- The `ssid` of each of `ssids`, as long as its `len`. -/
  ssids : Fin size → List UInt8

/-- `struct ieee80211_scan_request`. -/
structure ScanRequest where
  /-- The number of its block. -/
  id : Nat
  /-- `req.channels`. -/
  channels : Block (Option Channel)
  /-- `req.n_channels`. -/
  nChannels : Int32
  /-- `req.ssids`, each as long as its `ssid_len`. -/
  ssids : Block (List UInt8)
  /-- `req.n_ssids`. -/
  nSsids : Int
  /-- `req.duration_mandatory`. -/
  durationMandatory : Bool
  /-- `req.no_cck`. -/
  noCck : Bool
  /-- `req.bssid`. -/
  bssid : EtherAddr
  deriving DecidableEq

/-- The `scan_req` of the runtime, the number of allocations so far, and what has become of them,
newest first. -/
structure Heap where
  /-- `scan_req`. -/
  scanReq : Option ScanRequest
  /-- How many allocations have been answered. -/
  calls : Nat
  /-- What has been allocated and freed. -/
  trace : List BlockEvent

/-- A program that allocates. -/
abbrev Allocator := Program Heap

/-- `kcalloc`. -/
def kcalloc {Cell : Type} (env : Env) (count : Nat) (zero : Cell) :
    Allocator (Option (Block Cell)) := do
  let heap ← get
  if env.kzalloc heap.calls then
    set { heap with calls := heap.calls + 1, trace := .alloc heap.calls :: heap.trace }
    return some (.zeroed heap.calls count zero)
  set { heap with calls := heap.calls + 1 }
  return none

/-- `kfree`. -/
def kfree (block : Option Nat) : Allocator Unit :=
  modify fun heap => { heap with trace := (block.map .free).toList ++ heap.trace }

/-- The first pass of `lcompat_ieee80211_alloc_scan_req`: the channels of some bands are counted, up
to `INT_MAX`. -/
def countChannels (bands : Fin 4 → Option BandTable) : List (Fin 4) → UInt32 → Option UInt32
  | [], nChannels => some nChannels
  | band :: rest, nChannels =>
    match bands band with
    | none => countChannels bands rest nChannels
    | some sband =>
      if sband.nChannels ≤ 0 then countChannels bands rest nChannels
      else if UInt32.ofInt sband.nChannels > UInt32.ofNat intMax - nChannels then none
      else countChannels bands rest (nChannels + UInt32.ofInt sband.nChannels)

/-- The channels of one band are stored, from a place on. -/
def fillBand : List Channel → Block (Option Channel) → UInt32 →
    Option (Block (Option Channel) × UInt32)
  | [], channels, nChannels => some (channels, nChannels)
  | chan :: rest, channels, nChannels => do
    let channels ← channels.store nChannels.toNat (some chan)
    fillBand rest channels (nChannels + 1)

/-- The second pass of `lcompat_ieee80211_alloc_scan_req`: the channels of some bands are stored. -/
def fillChannels (bands : Fin 4 → Option BandTable) : List (Fin 4) → Block (Option Channel) →
    UInt32 → Option (Block (Option Channel))
  | [], channels, _ => some channels
  | band :: rest, channels, nChannels =>
    match bands band with
    | none => fillChannels bands rest channels nChannels
    | some sband =>
      if sband.nChannels ≤ 0 then fillChannels bands rest channels nChannels
      else do
        let (channels, nChannels) ← fillBand sband.channels channels nChannels
        fillChannels bands rest channels nChannels

/-- The networks of the parameters are copied, from one on, up to the first that is too long. -/
def copySsids {size : Nat} (params : ScanParams size) : Nat → Nat → Block (List UInt8) →
    Option (Int × Block (List UInt8))
  | 0, _, ssids => some (0, ssids)
  | count + 1, i, ssids =>
    if inside : i < size then
      if (params.ssids ⟨i, inside⟩).length > maxSsidLen then some (-EINVAL, ssids)
      else do
        let ssids ← ssids.store i (params.ssids ⟨i, inside⟩)
        copySsids params count (i + 1) ssids
    else none

/-- The third pass of `lcompat_ieee80211_alloc_scan_req`: the networks are stored. -/
def fillSsids {size : Nat} (params : Option (ScanParams size)) (ssidCount : Nat)
    (ssids : Block (List UInt8)) : Option (Int × Block (List UInt8)) :=
  match params with
  | none => (ssids.store 0 []).map fun ssids => (0, ssids)
  | some params =>
    if params.nSsids ≠ 0 then copySsids params ssidCount 0 ssids
    else (ssids.store 0 []).map fun ssids => (0, ssids)

/-- How many networks there is room for. -/
def ssidCountOf {size : Nat} (params : Option (ScanParams size)) : Nat :=
  let count := match params with
    | none => 1
    | some params => if params.nSsids ≠ 0 then params.nSsids.toNat else 1
  if count > size then size else count

/-- The end of `lcompat_ieee80211_alloc_scan_req` for a call that fails. -/
def out (ssids : Option (Block (List UInt8))) (channels : Option (Block (Option Channel)))
    (scanReq : Option (Block Unit)) (ret : Int) : Allocator Int := do
  kfree (ssids.map Block.id)
  kfree (channels.map Block.id)
  kfree (scanReq.map Block.id)
  return ret

/-- The part of `lcompat_ieee80211_alloc_scan_req` behind its three allocations. -/
def fillRequest {size : Nat} (bands : Fin 4 → Option BandTable) (params : Option (ScanParams size))
    (nChannels : UInt32) : Option (Block Unit) → Option (Block (Option Channel)) →
      Option (Block (List UInt8)) → Allocator Int
  | some scanReq, some channels, some ssids => do
    let channels ← .require (fillChannels bands (List.finRange 4) channels 0)
    let (ret, ssids) ← .require (fillSsids params (ssidCountOf params) ssids)
    if ret ≠ 0 then out (some ssids) (some channels) (some scanReq) ret
    else do
      let request : ScanRequest := ⟨scanReq.id, channels, nChannels.toInt32, ssids,
        ssidCountOf params, false, false, .broadcast⟩
      modify fun heap => { heap with scanReq := some request }
      return 0
  | scanReq, channels, ssids => out ssids channels scanReq (-ENOMEM)

/-- `lcompat_ieee80211_alloc_scan_req`. -/
def allocScanReq (env : Env) (bands : Fin 4 → Option BandTable)
    (params : Option (ScanParams env.maxScanSsids)) : Allocator Int := do
  let heap ← get
  if heap.scanReq.isSome then return -EBUSY
  let some nChannels := countChannels bands (List.finRange 4) 0 | return -EOVERFLOW
  if nChannels = 0 then return -EINVAL
  let scanReq ← kcalloc env 1 ()
  let channels ← kcalloc env nChannels.toNat none
  let ssids ← kcalloc env (ssidCountOf params) []
  fillRequest bands params nChannels scanReq channels ssids

/-- `lcompat_ieee80211_free_scan_req`. -/
def freeScanReq : Allocator Unit := do
  let heap ← get
  match heap.scanReq with
  | none => return
  | some request =>
    kfree (some request.channels.id)
    kfree (some request.ssids.id)
    kfree (some request.id)
    modify fun heap => { heap with scanReq := none }

/-- The channels of a band, unless it is empty. -/
def BandTable.listed (sband : BandTable) : List Channel :=
  if sband.nChannels ≤ 0 then [] else sband.channels

/-- The channels of some bands, band by band. -/
def channelsOf (bands : Fin 4 → Option BandTable) (rest : List (Fin 4)) : List Channel :=
  rest.flatMap fun band => ((bands band).map BandTable.listed).getD []

/-- The networks that a scan request is to hold: those of the parameters as far as there is room for
them, and any network if none are given. -/
def requested {size : Nat} : Option (ScanParams size) → List (List UInt8)
  | none => [[]]
  | some params =>
    if params.nSsids ≠ 0 then (List.ofFn params.ssids).take params.nSsids.toNat else [[]]

section Passes

variable {bands : Fin 4 → Option BandTable} {rest : List (Fin 4)} {nChannels : UInt32}
  {table : Block (Option Channel)} {stored : List (Option Channel)} {cells size : Nat}

/-- The count of a band that is not empty, as it is added up. -/
theorem toNat_ofInt_nChannels {sband : BandTable} (some_channels : ¬sband.nChannels ≤ 0) :
    (UInt32.ofInt sband.nChannels).toNat = sband.listed.length := by
  have counted := sband.counted (by omega)
  have int_range := sband.int_range
  have small : sband.channels.length ≤ intMax := by omega
  rw [BandTable.listed, if_neg some_channels, counted, UInt32.ofInt]
  simp only [intMax] at small
  simp
  omega

/-- The first pass counts the channels of the bands, unless there are more than `INT_MAX`. -/
theorem countChannels_eq (bands : Fin 4 → Option BandTable) (rest : List (Fin 4))
    (fits : nChannels.toNat ≤ intMax) : countChannels bands rest nChannels =
      if nChannels.toNat + (channelsOf bands rest).length ≤ intMax then
        some (UInt32.ofNat (nChannels.toNat + (channelsOf bands rest).length)) else none := by
  induction rest generalizing nChannels with
  | nil =>
    rw [countChannels, channelsOf, List.flatMap_nil, List.length_nil, Nat.add_zero, if_pos fits,
      UInt32.ofNat_toNat]
  | cons band rest ih =>
    have split_length : (channelsOf bands (band :: rest)).length =
        (((bands band).map BandTable.listed).getD []).length + (channelsOf bands rest).length := by
      rw [channelsOf, List.flatMap_cons, List.length_append]
      rfl
    rw [countChannels, split_length]
    cases here : bands band with
    | none =>
      simp only [Option.map_none, Option.getD_none, List.length_nil, Nat.zero_add]
      exact ih fits
    | some sband =>
      simp only [Option.map_some, Option.getD_some]
      by_cases empty : sband.nChannels ≤ 0
      · rw [if_pos empty, BandTable.listed, if_pos empty, List.length_nil, Nat.zero_add]
        exact ih fits
      · rw [if_neg empty]
        have count := toNat_ofInt_nChannels empty
        have top : (UInt32.ofNat intMax).toNat = intMax := rfl
        have room : (UInt32.ofNat intMax - nChannels).toNat = intMax - nChannels.toNat := by
          rw [UInt32.toNat_sub_of_le _ _ (by rwa [UInt32.le_iff_toNat_le, top]), top]
        by_cases past : UInt32.ofInt sband.nChannels > UInt32.ofNat intMax - nChannels
        · rw [if_pos past]
          rw [gt_iff_lt, UInt32.lt_iff_toNat_lt, room, count] at past
          rw [if_neg (by omega)]
        · rw [if_neg past]
          rw [gt_iff_lt, UInt32.lt_iff_toNat_lt, room, count] at past
          have sum : (nChannels + UInt32.ofInt sband.nChannels).toNat =
              nChannels.toNat + sband.listed.length := by
            rw [UInt32.toNat_add, count, Nat.mod_eq_of_lt]
            simp only [intMax] at fits past
            omega
          rw [ih (by omega), sum, Nat.add_assoc]

/-- The channels of a band are stored one behind the other. -/
theorem fillBand_filled (chans : List Channel) (filled : table.Filled stored
      (chans.length + cells) none) (place : nChannels.toNat = stored.length)
    (fits : stored.length + chans.length ≤ intMax) :
    ∃ table' place', fillBand chans table nChannels = some (table', place') ∧
      table'.id = table.id ∧ place'.toNat = (stored ++ chans.map some).length ∧
        table'.Filled (stored ++ chans.map some) cells none := by
  induction chans generalizing table stored nChannels with
  | nil =>
    refine ⟨table, nChannels, rfl, rfl, ?_, ?_⟩
    · simpa using place
    · simpa using filled
  | cons chan chans ih =>
    rw [List.length_cons, Nat.add_right_comm] at filled
    obtain ⟨next, ran, same, filled'⟩ := filled.store (some chan)
    rw [List.length_cons] at fits
    have moved : (nChannels + 1).toNat = (stored ++ [some chan]).length := by
      simp only [intMax] at fits
      simp [place]
      omega
    obtain ⟨table', place', ran', same', count, full⟩ := ih filled' moved (by
      rw [List.length_append, List.length_singleton]
      omega)
    refine ⟨table', place', ?_, same'.trans same, ?_, ?_⟩
    · rw [fillBand, place, ran]
      exact ran'
    · rw [count, List.append_assoc]
      rfl
    · rw [List.append_assoc] at full
      exact full

/-- The second pass fills the table with the channels of the bands, one behind the other. -/
theorem fillChannels_filled (bands : Fin 4 → Option BandTable) (rest : List (Fin 4))
    (filled : table.Filled stored (channelsOf bands rest).length none)
    (place : nChannels.toNat = stored.length)
    (fits : stored.length + (channelsOf bands rest).length ≤ intMax) :
    ∃ table', fillChannels bands rest table nChannels = some table' ∧ table'.id = table.id ∧
      table'.cells = stored ++ (channelsOf bands rest).map some := by
  induction rest generalizing table stored nChannels with
  | nil =>
    refine ⟨table, rfl, rfl, ?_⟩
    simpa [channelsOf] using filled.cells_eq
  | cons band rest ih =>
    have parts : channelsOf bands (band :: rest) =
        ((bands band).map BandTable.listed).getD [] ++ channelsOf bands rest := List.flatMap_cons
    rw [parts] at filled fits ⊢
    rw [fillChannels]
    cases here : bands band with
    | none =>
      simp only [here, Option.map_none, Option.getD_none, List.nil_append] at filled fits ⊢
      exact ih filled place fits
    | some sband =>
      simp only [here, Option.map_some, Option.getD_some, BandTable.listed] at filled fits ⊢
      by_cases empty : sband.nChannels ≤ 0
      · simp only [if_pos empty, List.nil_append] at filled fits ⊢
        exact ih filled place fits
      · rw [if_neg empty] at filled fits ⊢
        rw [if_neg empty]
        rw [List.length_append] at filled fits
        obtain ⟨table₁, place₁, ran, same, count, filled₁⟩ :=
          fillBand_filled sband.channels filled place (by omega)
        obtain ⟨table', ran', same', full⟩ := ih filled₁ count (by
          rw [List.length_append, List.length_map]
          omega)
        refine ⟨table', ?_, same'.trans same, ?_⟩
        · rw [ran]
          exact ran'
        · rw [full, List.map_append, List.append_assoc]

/-- Networks are copied one behind the other, up to one that is too long. -/
theorem copySsids_filled (params : ScanParams size) {count i : Nat} {names : Block (List UInt8)}
    {copied : List (List UInt8)} (filled : names.Filled copied count [])
    (place : i = copied.length) (inside : i + count ≤ size) :
    ∃ ret names', copySsids params count i names = some (ret, names') ∧ names'.id = names.id ∧
      ((ret = -EINVAL ∧
          ∃ ssid ∈ ((List.ofFn params.ssids).drop i).take count, maxSsidLen < ssid.length) ∨
        (ret = 0 ∧ (∀ ssid ∈ ((List.ofFn params.ssids).drop i).take count,
            ssid.length ≤ maxSsidLen) ∧
          names'.cells = copied ++ ((List.ofFn params.ssids).drop i).take count)) := by
  induction count generalizing i names copied with
  | zero =>
    refine ⟨0, names, rfl, rfl, .inr ⟨rfl, by simp, ?_⟩⟩
    simpa using filled.cells_eq
  | succ count ih =>
    subst place
    have here : copied.length < size := by omega
    have next : ((List.ofFn params.ssids).drop copied.length).take (count + 1) =
        params.ssids ⟨_, here⟩ ::
          ((List.ofFn params.ssids).drop (copied.length + 1)).take count := by
      rw [List.drop_eq_getElem_cons (by simpa using here), List.take_succ_cons, List.getElem_ofFn]
    rw [copySsids, dif_pos here, next]
    split
    · rename_i long
      exact ⟨-EINVAL, names, rfl, rfl, .inl ⟨rfl, _, List.mem_cons_self, long⟩⟩
    · rename_i short
      obtain ⟨stored, ran, same, filled'⟩ := filled.store (params.ssids ⟨_, here⟩)
      obtain ⟨ret, names', ran', same', outcome⟩ := ih filled'
        (i := copied.length + 1) (by rw [List.length_append, List.length_singleton]) (by omega)
      refine ⟨ret, names', ?_, same'.trans same, ?_⟩
      · rw [ran]
        exact ran'
      · obtain ⟨failed, ssid, mem, long⟩ | ⟨success, all, full⟩ := outcome
        · exact .inl ⟨failed, ssid, List.mem_cons_of_mem _ mem, long⟩
        · refine .inr ⟨success, ?_, ?_⟩
          · rw [List.forall_mem_cons]
            exact ⟨by omega, all⟩
          · rw [full, List.append_assoc]
            rfl

/-- There is room for exactly the networks that are requested. -/
theorem length_requested (positive : 0 < size) (params : Option (ScanParams size)) :
    (requested params).length = ssidCountOf params := by
  have one : (if 1 > size then size else 1) = 1 := if_neg (by omega)
  cases params with
  | none => exact one.symm
  | some params =>
    rw [requested, ssidCountOf]
    split
    · rw [List.length_take, List.length_ofFn]
      split <;> omega
    · exact one.symm

/-- The third pass stores the networks that are requested, up to one that is too long. -/
theorem fillSsids_filled (positive : 0 < size) (params : Option (ScanParams size))
    {names : Block (List UInt8)} (fresh : names.Filled [] (ssidCountOf params) []) :
    ∃ ret names', fillSsids params (ssidCountOf params) names = some (ret, names') ∧
      names'.id = names.id ∧
        ((ret = -EINVAL ∧ ∃ ssid ∈ requested params, maxSsidLen < ssid.length) ∨
          (ret = 0 ∧ (∀ ssid ∈ requested params, ssid.length ≤ maxSsidLen) ∧
            names'.cells = requested params)) := by
  have wildcard : ssidCountOf params = 1 → ∃ names', names.store 0 [] = some names' ∧
      names'.id = names.id ∧ names'.cells = [[]] := by
    intro one
    rw [one] at fresh
    obtain ⟨names', ran, same, full⟩ := fresh.store []
    exact ⟨names', ran, same, full.cells_eq⟩
  have counted := length_requested positive params
  cases params with
  | none =>
    obtain ⟨names', ran, same, full⟩ := wildcard counted.symm
    refine ⟨0, names', ?_, same, .inr ⟨rfl, by simp [requested], full⟩⟩
    rw [fillSsids, ran]
    rfl
  | some params =>
    by_cases given : params.nSsids ≠ 0
    · have inside : 0 + ssidCountOf (some params) ≤ size := by
        simp only [ssidCountOf, if_pos given]
        split <;> omega
      have slice : ((List.ofFn params.ssids).drop 0).take (ssidCountOf (some params)) =
          requested (some params) := by
        rw [requested, if_pos given, List.drop_zero, List.take_eq_take_iff, List.length_ofFn,
          ssidCountOf]
        simp only [if_pos given]
        split <;> omega
      have copied := copySsids_filled params (i := 0) fresh rfl inside
      rw [slice, List.nil_append] at copied
      rw [fillSsids]
      simp only [if_pos given]
      exact copied
    · have none : requested (some params) = [[]] := by rw [requested, if_neg given]
      rw [none] at counted ⊢
      obtain ⟨names', ran, same, full⟩ := wildcard counted.symm
      refine ⟨0, names', ?_, same, .inr ⟨rfl, by simp, full⟩⟩
      rw [fillSsids]
      simp only [if_neg given]
      rw [ran]
      rfl

end Passes

/-- A scan request has been assembled from some bands and parameters, behind some allocations. -/
structure Assembled {size : Nat} (bands : Fin 4 → Option BandTable)
    (params : Option (ScanParams size)) (calls : Nat) (request : ScanRequest) : Prop where
  /-- The three blocks are its own. -/
  ids : [request.id, request.channels.id, request.ssids.id] = [calls, calls + 1, calls + 2]
  /-- It holds the channels of all bands in their order. -/
  channels : request.channels.cells = (channelsOf bands (List.finRange 4)).map some
  /-- It says how many they are. -/
  nChannels : request.nChannels.toInt = request.channels.cells.length
  /-- It holds the networks that are requested. -/
  ssids : request.ssids.cells = requested params
  /-- It says how many they are. -/
  nSsids : request.nSsids = request.ssids.cells.length
  /-- The rest of it asks for any access point. -/
  rest : request.durationMandatory = false ∧ request.noCck = false ∧
    request.bssid = .broadcast

/-- The blocks that three allocations give. -/
def granted (env : Env) (calls : Nat) : List Nat :=
  [calls, calls + 1, calls + 2].filter env.kzalloc

/-- The three blocks are given exactly where each allocation gives one. -/
theorem granted_eq_iff {env : Env} {calls : Nat} :
    granted env calls = [calls, calls + 1, calls + 2] ↔ env.kzalloc calls = true ∧
      env.kzalloc (calls + 1) = true ∧ env.kzalloc (calls + 1 + 1) = true := by
  rw [granted, List.filter_eq_self]
  simp

/-- What `lcompat_ieee80211_alloc_scan_req` comes to. -/
inductive Outcome (env : Env) (bands : Fin 4 → Option BandTable)
    (params : Option (ScanParams env.maxScanSsids)) (heap : Heap) : Int → Heap → Prop
  /-- There is a request already. -/
  | busy (taken : heap.scanReq.isSome = true) : Outcome env bands params heap (-EBUSY) heap
  /-- There are more channels than `INT_MAX`. -/
  | crowded (free : heap.scanReq = none)
      (many : intMax < (channelsOf bands (List.finRange 4)).length) :
      Outcome env bands params heap (-EOVERFLOW) heap
  /-- There is no channel. -/
  | bare (free : heap.scanReq = none) (empty : channelsOf bands (List.finRange 4) = []) :
      Outcome env bands params heap (-EINVAL) heap
  /-- An allocation fails. -/
  | starved (free : heap.scanReq = none)
      (fits : (channelsOf bands (List.finRange 4)).length ≤ intMax)
      (listed : channelsOf bands (List.finRange 4) ≠ [])
      (lacking : granted env heap.calls ≠ [heap.calls, heap.calls + 1, heap.calls + 2]) :
      Outcome env bands params heap (-ENOMEM) { heap with
        calls := heap.calls + 3, trace := returned (granted env heap.calls) ++ heap.trace }
  /-- A network is too long. -/
  | refused (free : heap.scanReq = none)
      (fits : (channelsOf bands (List.finRange 4)).length ≤ intMax)
      (listed : channelsOf bands (List.finRange 4) ≠ [])
      (given : granted env heap.calls = [heap.calls, heap.calls + 1, heap.calls + 2])
      (long : ∃ ssid ∈ requested params, maxSsidLen < ssid.length) :
      Outcome env bands params heap (-EINVAL) { heap with
        calls := heap.calls + 3, trace := returned (granted env heap.calls) ++ heap.trace }
  /-- The request is assembled. -/
  | stored {request : ScanRequest} (free : heap.scanReq = none)
      (fits : (channelsOf bands (List.finRange 4)).length ≤ intMax)
      (listed : channelsOf bands (List.finRange 4) ≠ [])
      (given : granted env heap.calls = [heap.calls, heap.calls + 1, heap.calls + 2])
      (short : ∀ ssid ∈ requested params, ssid.length ≤ maxSsidLen)
      (assembled : Assembled bands params heap.calls request) :
      Outcome env bands params heap 0 ⟨some request, heap.calls + 3,
        ((granted env heap.calls).map .alloc).reverse ++ heap.trace⟩

/-- A count of channels is counted in 32 bits. -/
theorem toNat_ofNat_of_le {count : Nat} (fits : count ≤ intMax) :
    (UInt32.ofNat count).toNat = count := by
  rw [UInt32.toNat_ofNat', Nat.mod_eq_of_lt]
  simp only [intMax] at fits
  omega

/-- A count of channels is not negative as an `int`. -/
theorem toInt_toInt32 {count : UInt32} (fits : count.toNat ≤ intMax) :
    count.toInt32.toInt = count.toNat := by
  show count.toBitVec.toInt = count.toBitVec.toNat
  refine BitVec.toInt_eq_toNat_of_lt ?_
  simp only [intMax] at fits
  show 2 * count.toNat < 2 ^ 32
  omega

section Steps

variable {heap : Heap} {env : Env}

/-- An allocation gives a block of zeros or nothing. -/
@[simp]
theorem runs_kcalloc {Cell : Type} {count : Nat} {zero : Cell}
    {holds : Option (Block Cell) → Heap → Prop} : (kcalloc env count zero).runs holds heap ↔
      holds (if env.kzalloc heap.calls then some (.zeroed heap.calls count zero) else none)
        { heap with calls := heap.calls + 1,
                    trace := if env.kzalloc heap.calls then .alloc heap.calls :: heap.trace
                      else heap.trace } := by
  cases given : env.kzalloc heap.calls <;> simp [kcalloc, given]

/-- A block is freed, if there is one. -/
@[simp]
theorem runs_kfree {block : Option Nat} {holds : Unit → Heap → Prop} :
    (kfree block).runs holds heap ↔
      holds () { heap with trace := (block.map .free).toList ++ heap.trace } := by
  simp [kfree]

/-- The end of a call that fails frees the blocks that there are. -/
theorem runs_out {ssids : Option (Block (List UInt8))} {channels : Option (Block (Option Channel))}
    {scanReq : Option (Block Unit)} {ret : Int} {holds : Int → Heap → Prop} :
    (out ssids channels scanReq ret).runs holds heap ↔ holds ret { heap with
      trace := (scanReq.map fun block => .free block.id).toList ++
        ((channels.map fun block => .free block.id).toList ++
          ((ssids.map fun block => .free block.id).toList ++ heap.trace)) } := by
  simp only [out, Program.runs_bind, runs_kfree, Program.runs_pure, Option.map_map]
  rfl

/-- What three allocations that give blocks come to. -/
theorem runs_fillRequest (positive : 0 < env.maxScanSsids) {bands : Fin 4 → Option BandTable}
    {params : Option (ScanParams env.maxScanSsids)} (free : heap.scanReq = none)
    (fits : (channelsOf bands (List.finRange 4)).length ≤ intMax)
    (listed : channelsOf bands (List.finRange 4) ≠ [])
    (given : granted env heap.calls = [heap.calls, heap.calls + 1, heap.calls + 2]) :
    (fillRequest bands params (UInt32.ofNat (channelsOf bands (List.finRange 4)).length)
      (some (.zeroed heap.calls 1 ()))
      (some (.zeroed (heap.calls + 1) (channelsOf bands (List.finRange 4)).length none))
      (some (.zeroed (heap.calls + 2) (ssidCountOf params) []))).runs
        (Outcome env bands params heap) { heap with
          calls := heap.calls + 3,
          trace := ((granted env heap.calls).map .alloc).reverse ++ heap.trace } := by
  have start : (0 : UInt32).toNat = ([] : List (Option Channel)).length := rfl
  obtain ⟨table, ran, table_id, full⟩ := fillChannels_filled bands (List.finRange 4)
    (Block.filled_zeroed (heap.calls + 1) _ none) start (by simpa using fits)
  obtain ⟨ret, names, ran', names_id, outcome⟩ := fillSsids_filled positive params
    (Block.filled_zeroed (heap.calls + 2) _ [])
  rw [List.nil_append] at full
  rw [fillRequest, ran, Program.require_some_bind, ran', Program.require_some_bind]
  dsimp only
  obtain ⟨rfl, long⟩ | ⟨rfl, short, full'⟩ := outcome
  · have refused := Outcome.refused free fits listed given long
    rw [given] at refused ⊢
    rw [if_pos (by decide), runs_out]
    simp only [Option.map_some, table_id, names_id]
    exact refused
  · rw [if_neg (by decide)]
    simp only [Program.runs_bind, Program.runs_modify, Program.runs_pure]
    refine .stored free fits listed given short ⟨?_, full, ?_, full', ?_, rfl, rfl, rfl⟩
    · rw [table_id, names_id]
      rfl
    · have count := toNat_ofNat_of_le fits
      have exact_ := toInt_toInt32 (by rwa [count])
      rw [count] at exact_
      rw [full, List.length_map]
      exact exact_
    · rw [full', length_requested positive]

/-- `lcompat_ieee80211_alloc_scan_req` does not fault, and comes to this. -/
theorem runs_allocScanReq (positive : 0 < env.maxScanSsids) (bands : Fin 4 → Option BandTable)
    (params : Option (ScanParams env.maxScanSsids)) (heap : Heap) :
    (allocScanReq env bands params).runs (Outcome env bands params heap) heap := by
  unfold allocScanReq
  simp only [Program.runs_bind, Program.runs_get, Program.runs_ite, Program.runs_pure]
  split
  · rename_i taken
    exact .busy taken
  rename_i idle
  have free : heap.scanReq = none := by simpa using idle
  have start : (0 : UInt32).toNat ≤ intMax := Nat.zero_le _
  rw [countChannels_eq bands _ start, UInt32.toNat_zero, Nat.zero_add]
  by_cases fits : (channelsOf bands (List.finRange 4)).length ≤ intMax
  · rw [if_pos fits]
    simp only [Program.runs_ite, Program.runs_pure, Program.runs_bind, runs_kcalloc]
    have count := toNat_ofNat_of_le fits
    split
    · rename_i zero
      rw [zero] at count
      exact .bare free (List.length_eq_zero_iff.mp count.symm)
    rename_i nonzero
    have listed : channelsOf bands (List.finRange 4) ≠ [] := by
      intro empty
      rw [empty] at nonzero
      exact nonzero rfl
    by_cases given : granted env heap.calls = [heap.calls, heap.calls + 1, heap.calls + 2]
    · obtain ⟨first, second, third⟩ := granted_eq_iff.mp given
      rw [if_pos first, if_pos first, if_pos second, if_pos second, if_pos third, if_pos third,
        count]
      have filled : Program.runs _ (Outcome env bands params heap) _ :=
        runs_fillRequest positive free fits listed given
      rw [given] at filled
      exact filled
    · cases first : env.kzalloc heap.calls <;> cases second : env.kzalloc (heap.calls + 1) <;>
        cases third : env.kzalloc (heap.calls + 1 + 1)
      case true.true.true => exact absurd (granted_eq_iff.mpr ⟨first, second, third⟩) given
      all_goals
        have starved : Outcome env bands params heap _ _ := .starved free fits listed given
        simp only [granted, List.filter, first, second, third] at starved
        exact runs_out.mpr starved
  · rw [if_neg fits, Program.runs_pure]
    exact .crowded free (by omega)

/-- `lcompat_ieee80211_free_scan_req` frees the three blocks of a request once each. -/
theorem runs_freeScanReq {request : ScanRequest} (held : heap.scanReq = some request) :
    freeScanReq.runs (fun _ heap' => heap'.scanReq = none ∧ heap'.trace =
      [.free request.id, .free request.ssids.id, .free request.channels.id] ++ heap.trace)
        heap := by
  unfold freeScanReq
  simp only [Program.runs_bind, Program.runs_get, held, runs_kfree, Program.runs_modify]
  exact ⟨trivial, rfl⟩

end Steps

section Results

variable {env : Env} {bands : Fin 4 → Option BandTable}
  {params : Option (ScanParams env.maxScanSsids)} {heap heap' : Heap} {ret : Int}

/-- The blocks that allocations give are different ones. -/
theorem nodup_granted (env : Env) (calls : Nat) : (granted env calls).Nodup := by
  refine List.Nodup.filter _ ?_
  simp

/-- A call that fails leaves the request as it is, and has freed what it has allocated. -/
theorem Outcome.failed (outcome : Outcome env bands params heap ret heap') (failure : ret ≠ 0) :
    ret < 0 ∧ heap'.scanReq = heap.scanReq ∧ ∃ events, heap'.trace = events ++ heap.trace ∧
      ∀ id, events.count (.alloc id) ≤ 1 ∧
        events.count (.free id) = events.count (.alloc id) := by
  have returns := count_returned (nodup_granted env heap.calls)
  cases outcome with
  | busy => exact ⟨by decide, rfl, [], rfl, by simp⟩
  | crowded => exact ⟨by decide, rfl, [], rfl, by simp⟩
  | bare => exact ⟨by decide, rfl, [], rfl, by simp⟩
  | starved => exact ⟨by decide, rfl, _, rfl, returns⟩
  | refused => exact ⟨by decide, rfl, _, rfl, returns⟩
  | stored => exact absurd rfl failure

/-- A call that succeeds has stored a request whose blocks it has allocated and not freed. -/
theorem Outcome.succeeded (outcome : Outcome env bands params heap 0 heap') :
    heap.scanReq = none ∧ ∃ request, heap'.scanReq = some request ∧
      Assembled bands params heap.calls request ∧ heap'.trace =
        [.alloc request.ssids.id, .alloc request.channels.id, .alloc request.id] ++ heap.trace := by
  generalize zero : (0 : Int) = ret at outcome
  cases outcome with
  | busy => cases zero
  | crowded => cases zero
  | bare => cases zero
  | starved => cases zero
  | refused => cases zero
  | stored free fits listed given short assembled =>
    refine ⟨free, _, rfl, assembled, ?_⟩
    have ids := assembled.ids
    rw [given, ← ids]
    rfl

/-- The networks that parameters give. -/
def given {size : Nat} : Option (ScanParams size) → List (List UInt8)
  | none => []
  | some params => (List.ofFn params.ssids).take params.nSsids.toNat

/-- What a scan finds in a request. -/
def ScanRequest.view (request : ScanRequest) : ScanReq :=
  ⟨request.channels.cells, request.ssids.cells⟩

/-- The networks that are requested, from those that are given. -/
theorem scanSsids_given (positive : 0 < env.maxScanSsids)
    (params : Option (ScanParams env.maxScanSsids)) :
    scanSsids env (given params) = requested params := by
  cases params with
  | none => rfl
  | some params =>
    rw [given, requested, scanSsids]
    by_cases zero : params.nSsids = 0
    · rw [if_neg (not_not.mpr zero), zero]
      rfl
    · have some_networks : 0 < params.nSsids.toNat := by
        rw [Nat.pos_iff_ne_zero]
        exact fun none => zero (UInt32.toNat_inj.mp none)
      have count : ((List.ofFn params.ssids).take params.nSsids.toNat).length ≤
          env.maxScanSsids := by
        rw [List.length_take, List.length_ofFn]
        omega
      rw [if_pos zero, if_neg, List.take_of_length_le count]
      intro empty
      have none := congrArg List.length empty
      rw [List.length_take, List.length_ofFn, List.length_nil] at none
      omega

/-- Where the blocks are left aside, a call is `allocScanReq` on the channels of the device. -/
theorem allocScanReq_refines (positive : 0 < env.maxScanSsids) {m : Machine}
    (calls : heap.calls = m.calls) (same : heap.scanReq.map ScanRequest.view = m.rt.scanReq)
    (tables : channelsOf bands (List.finRange 4) = m.rt.hw.channels) :
    (allocScanReq env bands params).runs (fun ret heap' =>
      (Mac80211.allocScanReq env (given params)).runs (fun ret' m' => ret' = ret ∧
        heap'.calls = m'.calls ∧ heap'.scanReq.map ScanRequest.view = m'.rt.scanReq) m) heap := by
  refine (runs_allocScanReq positive bands params heap).mono fun ret heap' outcome => ?_
  unfold Mac80211.allocScanReq
  simp only [Program.runs_bind, runs_runtime, Program.runs_ite, Program.runs_pure, runs_ask,
    runs_change, ← tables, ← same, ← calls, scanSsids_given positive, Option.isSome_map]
  cases outcome with
  | busy taken =>
    rw [if_pos taken]
    exact ⟨rfl, rfl, rfl⟩
  | crowded free many =>
    rw [if_neg (by simp [free]), if_pos many]
    exact ⟨rfl, rfl, rfl⟩
  | bare free empty =>
    rw [if_neg (by simp [free]), if_neg (by simp [empty]), if_pos empty]
    exact ⟨rfl, rfl, rfl⟩
  | starved free fits listed lacking =>
    rw [if_neg (by simp [free]), if_neg (by omega), if_neg listed, if_pos]
    · exact ⟨rfl, rfl, rfl⟩
    · rw [ne_eq, granted_eq_iff] at lacking
      simpa [← Bool.not_eq_true, or_assoc, imp_iff_not_or] using lacking
  | refused free fits listed given long =>
    obtain ⟨first, second, third⟩ := granted_eq_iff.mp given
    rw [if_neg (by simp [free]), if_neg (by omega), if_neg listed,
      if_neg (by simp [first, second, third]), if_pos (by simpa using long)]
    exact ⟨rfl, rfl, rfl⟩
  | stored free fits listed given short assembled =>
    obtain ⟨first, second, third⟩ := granted_eq_iff.mp given
    rw [if_neg (by simp [free]), if_neg (by omega), if_neg listed,
      if_neg (by simp [first, second, third]), if_neg (by simpa using short)]
    refine ⟨rfl, rfl, ?_⟩
    rw [Option.map_some, ScanRequest.view, assembled.channels, assembled.ssids]

/-- `lcompat_ieee80211_alloc_scan_req` stores nothing outside of a block. It returns zero with a
request that holds the channels of all bands in their order and the networks that are requested, or
it fails, leaves the request of the runtime as it is, and has freed each block it has allocated
once. -/
theorem allocScanReq_assembles (positive : 0 < env.maxScanSsids)
    (bands : Fin 4 → Option BandTable) (params : Option (ScanParams env.maxScanSsids))
    (heap : Heap) : (allocScanReq env bands params).runs (fun ret heap' =>
      (ret = 0 ∧ heap.scanReq = none ∧ ∃ request, heap'.scanReq = some request ∧
        Assembled bands params heap.calls request ∧ heap'.trace =
          [.alloc request.ssids.id, .alloc request.channels.id, .alloc request.id] ++
            heap.trace) ∨
      (ret < 0 ∧ heap'.scanReq = heap.scanReq ∧ ∃ events, heap'.trace = events ++ heap.trace ∧
        ∀ id, events.count (.alloc id) ≤ 1 ∧
          events.count (.free id) = events.count (.alloc id))) heap := by
  refine (runs_allocScanReq positive bands params heap).mono fun ret heap' outcome => ?_
  by_cases success : ret = 0
  · subst success
    exact .inl ⟨rfl, outcome.succeeded⟩
  · exact .inr (outcome.failed success)

end Results

/-- Two channels in one band, none in the next, and one more in the one behind it. -/
def threeChannels : Fin 4 → Option BandTable
  | 0 => some ⟨2, [⟨0, 0, 2412⟩, ⟨0, 1, 2437⟩], by decide, fun _ => rfl⟩
  | 1 => some ⟨-1, [], by decide, fun positive => absurd positive (by decide)⟩
  | 2 => some ⟨1, [⟨2, 0, 5180⟩], by decide, fun _ => rfl⟩
  | 3 => none

/-- More networks than there is room for. -/
def sixNetworks : ScanParams Env.kind.maxScanSsids where
  nSsids := 6
  ssids := fun i => [UInt8.ofNat i]

/-- The request for some bands and networks holds three channels and four networks. -/
theorem allocScanReq_assembles_three : ∃ heap' request,
    allocScanReq .kind threeChannels (some sixNetworks) ⟨none, 0, []⟩ = some (0, heap') ∧
      heap'.scanReq = some request ∧ request.nChannels.toInt = 3 ∧
        request.ssids.cells = [[0], [1], [2], [3]] := by
  obtain ⟨ret, heap', ran, outcome⟩ := allocScanReq_assembles (by decide) threeChannels
    (some sixNetworks) ⟨none, 0, []⟩
  obtain ⟨rfl, -, request, held, assembled, -⟩ | ⟨failed, -⟩ := outcome
  · refine ⟨heap', request, ran, held, ?_, assembled.ssids.trans (by decide)⟩
    rw [assembled.nChannels, assembled.channels]
    decide
  · have success : (allocScanReq .kind threeChannels (some sixNetworks) ⟨none, 0, []⟩).map
        Prod.fst = some 0 := by decide +kernel
    rw [ran] at success
    obtain rfl := Option.some.inj success
    omega

end Lcompat.Mac80211.Assembly
