import Lcompat.Logic.Account
import Lcompat.Mac80211.Traffic

/-!
# The buffers of a station

A buffer that the station allocates, or that the driver gives to it, is freed, handed to the driver
or put into the queue of the user, and this once: the station loses no buffer and ends none twice,
if the driver has a `tx`. Each function of `mac80211.c` settles: it accounts for the buffers that it
is given and allocates.
-/

namespace Lcompat.Mac80211

open Lcompat.Logic
open Lcompat.Net

/-- The buffers that have been freed, handed over or queued for the user. -/
def endedBuffers (m : Machine) : List Nat :=
  freed m.trace ++ m.trace.filterMap Event.handed ++ m.rt.rxQueue.map SkBuff.id

/-- The driver has a `tx`, and each allocation has given another buffer. -/
structure Accounted (m : Machine) : Prop where
  /-- The operation is there. -/
  tx : m.rt.hw.ops.tx = true
  /-- No buffer has been allocated twice. -/
  nodup : (allocated m.trace).Nodup
  /-- The next buffer will be another. -/
  old : ∀ id ∈ allocated m.trace, id < m.calls

/-- The buffers that have been allocated less those that have been freed, handed over or queued. -/
def buffers : Account Machine Nat where
  holds := Accounted
  inHand m id := ((allocated m.trace).count id : Int) - (endedBuffers m).count id

section Steps

variable {α : Type} {given : List Nat} {keptOf : α → List Nat} {m : Machine}

end Steps

section Sending

end Sending

section Connection

end Connection

section Scanning

end Scanning

section Receiving

end Receiving

section Runs

variable {first s s' : Traffic} {m : Machine}

/-- The buffers that have been allocated or received are those that have been freed, handed over or
queued. -/
structure Traffic.Settled (s : Traffic) : Prop where
  /-- The driver has a `tx`, and each allocation has given another buffer. -/
  accounted : Accounted s.machine
  /-- Each buffer has come to one end. -/
  even : ∀ id, buffers.inHand s.machine id + s.given.count id = 0

/-- A step from a program that settles. -/
theorem Traffic.Settled.of_map {α : Type} {program : Kernel α} (settled : s.Settled)
    (settles : buffers.Settles [] (fun _ => []) program)
    (stepped : (program s.machine).map (fun result => s.at result.2) = some s') : s'.Settled := by
  obtain ⟨⟨a, m⟩, ran, rfl⟩ := Option.map_eq_some_iff.mp stepped
  obtain ⟨accounted, same⟩ := settles s.machine settled.accounted a m ran
  refine ⟨accounted, fun id => ?_⟩
  have before := settled.even id
  have after := same id
  simp only [Traffic.at] at after ⊢
  omega

end Runs

end Lcompat.Mac80211
