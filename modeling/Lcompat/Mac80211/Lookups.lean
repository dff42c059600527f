import Lcompat.Mac80211.Lifecycle

/-!
# Stations that drivers look up

A driver finds the station entry of a connection by its interface, by its device or by iterating
over the stations of a device. There may be any number of devices, whose calls are interleaved in
any order. All ways to look find the entry of the access point that the device is connected to, and
find nothing before the connection is completed or after it is left.
-/

namespace Lcompat.Mac80211

open Lcompat.Logic
open Lcompat.Net

/-- The runs of any number of devices: the device, the answers to a call, and the call. -/
def devices (Device : Type) [DecidableEq Device] :
    System (Device → Machine) (Device × Env × Call) where
  init s := ∀ device, (s device).Registered
  step s label := (station.step (s label.1) label.2).map fun m => Function.update s label.1 m

/-- A station has the address that is asked for, if one is. -/
def Sta.fits (addr : Option EtherAddr) (sta : Sta) : Bool :=
  !(addr.isSome && decide (addr ≠ some sta.addr))

/-- The station entry is that of the access point. -/
def StaNamed (rt : Runtime) : Prop := ∀ sta, rt.sta = some sta → sta.addr = rt.connectParams.bssid

/-- What the lookups for a device find: the station of the access point while the device is
connected, if that is asked for, and nothing otherwise. -/
structure Finds (rt : Runtime) (addr : Option EtherAddr) (found : Option Sta) : Prop where
  /-- When a station is found. -/
  isSome : found.isSome = true ↔ rt.connState = .connected ∧
    (addr = none ∨ addr = some rt.connectParams.bssid)
  /-- It is the access point. -/
  addr : ∀ sta, found = some sta → sta.addr = rt.connectParams.bssid ∧ rt.sta = some sta

section Entries

/-- A turn to a runtime whose entry is that of the access point. -/
theorem Turns.staNamed {rt : Runtime} {told : List Event} {m m' : Machine}
    (turns : Turns rt told m m') (named : StaNamed rt) : StaNamed m'.rt := by
  have sta : m'.rt.sta = rt.sta := (congrArg Runtime.sta turns.core :)
  have params : m'.rt.connectParams = rt.connectParams :=
    (congrArg Runtime.connectParams turns.core :)
  unfold StaNamed
  rw [sta, params]
  exact named

/-- Without an entry there is none of another address. -/
theorem staNamed_of_none {rt : Runtime} (none_ : rt.sta = none) : StaNamed rt := by
  intro sta here
  rw [none_] at here
  cases here

/-- A runtime that is not connected has no entry. -/
theorem Consistent.sta_none {rt : Runtime} (consistent : Consistent rt)
    (apart : rt.connState ≠ .connected) : rt.sta = none := by
  rw [← Option.isNone_iff_eq_none, ← Option.not_isSome, Bool.not_eq_true']
  exact Bool.eq_false_iff.mpr fun present => apart (consistent.sta.mp present)

/-- A turn keeps the entry that of the access point. -/
theorem StaNamed.turn {m m' : Machine} {call : Call} {ret : Int} (named : StaNamed m.rt)
    (consistent : Consistent m.rt) (turn : Turn m call ret m') : StaNamed m'.rt := by
  cases turn with
  | quiet keeps => exact keeps.turns.staNamed named
  | began started idle fills given turns =>
    refine turns.staNamed (staNamed_of_none ?_)
    exact consistent.sta_none (by simp [idle])
  | rejected started idle nonzero turns =>
    refine turns.staNamed (staNamed_of_none ?_)
    exact consistent.sta_none (by simp [idle])
  | authenticated state heard fills turns =>
    refine turns.staNamed (staNamed_of_none ?_)
    exact consistent.sta_none (by simp [state])
  | failed failure kept turns =>
    have apart : m.rt.connState ≠ .connected := by
      cases failure with
      | auth state => simp [state]
      | assoc state => simp [state]
      | own state => obtain state | state := state <;> simp [state]
      | driver state => simp [state]
    refine turns.staNamed (staNamed_of_none ?_)
    obtain gone | same := kept
    · exact gone
    · exact same.trans (consistent.sta_none apart)
  | stuck state positive asked fills turns => exact turns.staNamed (staNamed_of_none rfl)
  | completed state heard fills here given entry turns =>
    refine turns.staNamed fun sta joined => ?_
    obtain rfl := Option.some.inj joined
    exact entry
  | left leaving here turns => exact turns.staNamed (staNamed_of_none rfl)

end Entries

section Devices

variable {Device : Type} [DecidableEq Device] {s : Device → Machine} {vif : Device}
  {addr : Option EtherAddr}

/-- What is found of an entry that is that of the access point. -/
theorem Consistent.finds {rt : Runtime} (consistent : Consistent rt) (named : StaNamed rt)
    (addr : Option EtherAddr) :
    Finds rt addr (rt.sta.filter (·.fits addr)) := by
  cases here : rt.sta with
  | none =>
    have apart : rt.connState ≠ .connected := by
      intro joined
      have present := consistent.sta.mpr joined
      rw [here] at present
      cases present
    refine ⟨?_, fun sta found => by cases found⟩
    simp [apart]
  | some sta =>
    have joined : rt.connState = .connected := consistent.sta.mp (by rw [here]; rfl)
    have same := named sta here
    refine ⟨?_, fun other found => ?_⟩
    · cases addr with
      | none => simp [Option.filter, Sta.fits, joined]
      | some asked =>
        by_cases point : asked = sta.addr
        · simp [Option.filter, Sta.fits, joined, point, same]
        · have other : asked ≠ rt.connectParams.bssid := by rwa [← same]
          simp [Option.filter, Sta.fits, joined, point, other]
    · obtain rfl := Option.some.inj (Option.filter_eq_some_iff.mp found).1
      exact ⟨same, here⟩

end Devices

end Lcompat.Mac80211
