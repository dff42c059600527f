import Lcompat.Mac80211.Delivery
import Lcompat.Mac80211.Ownership

/-!
# Traffic

A station as the native kernel and the driver use it: requests and scans of the user, frames that
are sent and frames that are received, in any order. The frames that the user reads are those that
have been queued, in their order; one is lost only where the place that the user gives for it is too
small.
-/

namespace Lcompat.Mac80211

open Lcompat.Logic
open Lcompat.Net

/-- `lcompat_netdev_recv`, with or without a place for some length of data: the result, and the
bytes that are copied to the place. -/
def netdevRecv (data : Bool) (len : UInt32) : Kernel (Int × List UInt8) := do
  if !data then return (-EINVAL, [])
  let rt ← runtime
  match rt.rxQueue with
  | [] => return (-EAGAIN, [])
  | skb :: behind =>
    change fun rt => { rt with rxQueue := behind }
    if len < skb.len then
      devKfreeSkbAny skb
      return (-EMSGSIZE, [])
    let bytes ← .require skb.bytes
    devKfreeSkbAny skb
    return (skb.len.toInt32.toInt, bytes)

/-- What the user gets of a frame. -/
structure Answer where
  /-- The length of the place. -/
  len : UInt32
  /-- The result. -/
  ret : Int
  /-- The bytes that are copied to the place. -/
  bytes : List UInt8

/-- The user gets a frame that fits, and an error for one that does not. -/
def Answer.Takes (answer : Answer) (frame : EthFrame) : Prop :=
  if frame.bytes.length ≤ answer.len.toNat then
    answer.ret = (UInt32.ofNat frame.bytes.length).toInt32.toInt ∧ answer.bytes = frame.bytes
  else answer.ret = -EMSGSIZE ∧ answer.bytes = []

/-- The user reads from a machine whose queue holds some frames: there is nothing to read, or the
first of them is taken. -/
def Reads (m m' : Machine) (len : UInt32) (answer : Int × List UInt8) : List EthFrame → Prop
  | [] => answer = (-EAGAIN, []) ∧ m' = m
  | frame :: behind => Answer.Takes ⟨len, answer.1, answer.2⟩ frame ∧
      List.Forall₂ HoldsFrame m'.rt.rxQueue behind

/-- A station with the frames that have been received and what the user got, oldest first, and the
buffers that the driver has given to it. -/
structure Traffic where
  /-- The machine. -/
  machine : Machine
  /-- The frames that the buffers stand for that have been received. -/
  arrived : List EthFrame
  /-- What the user got of the frames that have been read. -/
  answers : List Answer
  /-- The numbers of the buffers that have been received. -/
  given : List Nat

/-- A call of the native kernel or of the driver. -/
inductive Entry where
  /-- `lcompat_netdev_connect`. -/
  | connect (env : Env) (params : ConnectParams) (requestPortid : UInt32)
  /-- `lcompat_netdev_disconnect`. -/
  | disconnect (env : Env) (reasonCode : UInt16) (requestPortid : UInt32)
  /-- `ieee80211_disconnect`. -/
  | driverDisconnect
  /-- `lcompat_netdev_trigger_scan`, in which the driver may complete early what it accepts. -/
  | trigger (env : Env) (early : Option Bool) (params : List (List UInt8)) (requestPortid : UInt32)
  /-- `ieee80211_scan_completed`. -/
  | complete (aborted : Bool)
  /-- `lcompat_netdev_send`. -/
  | send (env : Env) (data : Memory) (len : UInt32)
  /-- `ieee80211_rx_irqsafe`, of a buffer without fragments. -/
  | receive (env : Env) (attached : Bool) (skb : { skb : SkBuff // ∃ bytes, skb.Linear bytes })
  /-- `lcompat_netdev_recv`. -/
  | recv (data : Bool) (len : UInt32)

/-- A call that has come to a machine. -/
def Traffic.at (s : Traffic) (machine : Machine) : Traffic := { s with machine }

/-- A step; `none` where a call faults. -/
def Traffic.step (s : Traffic) : Entry → Option Traffic
  | .connect env params requestPortid =>
    (netdevConnect env params requestPortid s.machine).map fun result => s.at result.2
  | .disconnect env reasonCode requestPortid =>
    (netdevDisconnect env reasonCode requestPortid s.machine).map fun result => s.at result.2
  | .driverDisconnect => (ieee80211Disconnect s.machine).map fun result => s.at result.2
  | .trigger env early params requestPortid =>
    (netdevTriggerScan env early params requestPortid s.machine).map fun result => s.at result.2
  | .complete aborted => (scanCompleted aborted s.machine).map fun result => s.at result.2
  | .send env data len => (netdevSend env data len s.machine).map fun result => s.at result.2
  | .receive env attached skb =>
    (rxIrqsafe env attached skb.1 s.machine).map fun result =>
      { s with
        machine := result.2
        arrived := s.arrived ++
          received env attached s.machine skb.1.status (skb.1.bytes.getD [])
        given := skb.1.id :: s.given }
  | .recv data len =>
    (netdevRecv data len s.machine).map fun result =>
      { s with
        machine := result.2
        answers := s.answers ++
          if data && !s.machine.rt.rxQueue.isEmpty then [⟨len, result.1.1, result.1.2⟩] else [] }

/-- The runs of a station, from any runtime with an empty queue. -/
def traffic : System Traffic Entry where
  init s := s.machine.rt.rxQueue = [] ∧ s.machine.trace = [] ∧ s.arrived = [] ∧ s.answers = [] ∧
    s.given = []
  step := Traffic.step

section Queue

variable {m : Machine}

/-- A program leaves the queue as it is. -/
abbrev KeepsQueue {α : Type} (program : Kernel α) : Prop :=
  Program.Keeps (fun m : Machine => m.rt.rxQueue) program

/-- Reading the runtime leaves the queue as it is. -/
theorem keepsQueue_runtime : KeepsQueue runtime := fun m => by rw [after_runtime]

/-- An event leaves the queue as it is. -/
theorem keepsQueue_note (event : Event) : KeepsQueue (note event) := fun m => by rw [after_note]

/-- A change of something else leaves the queue as it is. -/
theorem keepsQueue_change {update : Runtime → Runtime}
    (other : ∀ rt, (update rt).rxQueue = rt.rxQueue) : KeepsQueue (change update) := fun m => by
  rw [after_change]
  exact other m.rt

/-- A completion leaves the queue as it is. -/
theorem keepsQueue_scanCompleted (aborted : Bool) : KeepsQueue (scanCompleted aborted) := by
  refine keepsQueue_runtime.bind fun rt => Program.keeps_ite (Program.keeps_pure _) ?_
  have filter : KeepsQueue (configureScanFilter false) :=
    keepsQueue_runtime.bind fun rt => Program.keeps_ite
      ((keepsQueue_note _).bind fun _ => keepsQueue_change fun _ => rfl) (Program.keeps_pure _)
  refine filter.bind fun _ => (keepsQueue_note _).bind fun _ => ?_
  exact keepsQueue_change fun _ => rfl

/-- An allocation leaves the queue as it is. -/
theorem keepsQueue_allocTxSkb (env : Env) (payloadLen : Nat) :
    KeepsQueue (allocTxSkb env payloadLen) := by
  refine keepsQueue_runtime.bind fun rt => Program.keeps_ite (Program.keeps_pure _) ?_
  simp only
  split
  · exact Program.keeps_pure _
  · refine Program.keeps_ite (Program.keeps_pure _) (Program.Keeps.bind ?_ fun skb => ?_)
    · exact fun m => by rw [after_allocSkb]
    · cases skb with
      | none => exact Program.keeps_pure _
      | some skb => exact Program.keeps_pure _

/-- Building a data frame leaves the queue as it is. -/
theorem keepsQueue_buildDataFrame (env : Env) (data : Memory) (len : UInt32) :
    KeepsQueue (buildDataFrame env data len) := by
  have freed (skb : SkBuff) (result : Int × Option SkBuff) :
      KeepsQueue (devKfreeSkbAny skb >>= fun _ => pure result) :=
    (keepsQueue_note _).bind fun _ => Program.keeps_pure _
  refine keepsQueue_runtime.bind fun rt => ?_
  cases rt.vif with
  | none => exact Program.keeps_pure _
  | some vif =>
    refine Program.keeps_ite (Program.keeps_pure _) (Program.keeps_ite (Program.keeps_pure _) ?_)
    refine Program.keeps_ite (Program.keeps_pure _) ?_
    simp only
    split
    · refine Program.keeps_ite (Program.keeps_pure _) ((keepsQueue_allocTxSkb env _).bind ?_)
      rintro (_ | skb)
      · exact Program.keeps_pure _
      simp only
      split
      · refine (Program.keeps_require _).bind fun dest => Program.Keeps.bind ?_ fun _ => ?_
        · exact keepsQueue_change fun _ => rfl
        split
        · split
          · refine (Program.keeps_require _).bind fun proto => ?_
            exact (Program.keeps_require _).bind fun payload => Program.keeps_pure _
          · exact freed _ _
        · exact freed _ _
      · exact freed _ _
    · exact Program.keeps_pure _

/-- Sending leaves the queue as it is. -/
theorem keepsQueue_netdevSend (env : Env) (data : Memory) (len : UInt32) :
    KeepsQueue (netdevSend env data len) := by
  refine (keepsQueue_buildDataFrame env data len).bind fun built => ?_
  refine Program.keeps_ite (Program.keeps_pure _) ((Program.keeps_require _).bind fun skb => ?_)
  refine keepsQueue_runtime.bind fun rt => Program.keeps_ite ?_ ?_
  · refine (keepsQueue_note _).bind fun _ => ?_
    exact (keepsQueue_note _).bind fun _ => Program.keeps_pure _
  · exact (keepsQueue_note _).bind fun _ => Program.keeps_pure _

/-- A trigger leaves the queue as it is. -/
theorem ScanTurn.rxQueue {m' : Machine} {early : Option Bool} {ret : Int}
    (turn : ScanTurn m early ret m') : m'.rt.rxQueue = m.rt.rxQueue := by
  have filtered (rt : Runtime) (enable : Bool) : (rt.filtered enable).rxQueue = rt.rxQueue := by
    rw [Runtime.filtered]
  cases turn with
  | refused nonzero turns => exact turns.rxQueue
  | unbegun nonzero free turns => exact turns.rxQueue.trans (filtered m.rt false)
  | completed free owed turns => exact turns.rxQueue.trans (filtered m.rt false)
  | begun free later able turns => exact turns.rxQueue.trans (filtered _ true)

/-- The user gets the first frame that is queued, if there is one. -/
theorem runs_netdevRecv {waiting : List EthFrame}
    (held : List.Forall₂ HoldsFrame m.rt.rxQueue waiting) (len : UInt32) :
    (netdevRecv true len).runs (fun answer m' => Reads m m' len answer waiting) m := by
  unfold netdevRecv
  rw [Bool.not_true, if_neg (by decide), Program.runs_bind, runs_runtime]
  cases queued : m.rt.rxQueue with
  | nil =>
    rw [queued] at held
    obtain rfl := List.forall₂_nil_left_iff.mp held
    rw [Program.runs_pure]
    exact ⟨rfl, rfl⟩
  | cons skb behind =>
    rw [queued] at held
    obtain ⟨frame, frames, holds, rest, rfl⟩ := List.forall₂_cons_left_iff.mp held
    have count := holds.linear.len
    have fits : len < skb.len ↔ ¬frame.bytes.length ≤ len.toNat := by
      rw [UInt32.lt_iff_toNat_lt, count, Nat.not_le]
    simp only [Reads, Answer.Takes, Program.runs_bind, runs_change, devKfreeSkbAny, fits]
    by_cases inside : frame.bytes.length ≤ len.toNat
    · have same : UInt32.ofNat frame.bytes.length = skb.len := by
        rw [← count, UInt32.ofNat_toNat]
      simp only [inside, not_true_eq_false, ite_false, ite_true, Program.runs_bind,
        holds.linear.bytes_eq, Program.runs_require, runs_note, Program.runs_pure,
        Option.some.injEq, exists_eq_left', same, true_and]
      exact rest
    · simp only [inside, not_false_eq_true, ite_false, ite_true, Program.runs_bind, runs_note,
        Program.runs_pure, true_and]
      exact rest

end Queue

section Runs

variable {s s' : Traffic} {m : Machine}

/-- The frames that have arrived have been read, each as the user got it, or wait in the queue. -/
def Traffic.Delivered (s : Traffic) : Prop :=
  ∃ gone waiting, s.arrived = gone ++ waiting ∧ List.Forall₂ Answer.Takes s.answers gone ∧
    List.Forall₂ HoldsFrame s.machine.rt.rxQueue waiting

/-- A call that leaves the queue as it is leaves what waits in it. -/
theorem Traffic.Delivered.at (delivered : s.Delivered)
    (same : m.rt.rxQueue = s.machine.rt.rxQueue) : (s.at m).Delivered := by
  obtain ⟨gone, waiting, arrived, answered, held⟩ := delivered
  exact ⟨gone, waiting, arrived, answered, by rwa [Traffic.at, same]⟩

/-- A step from a program that leaves the queue as it is. -/
theorem Traffic.Delivered.of_map {α : Type} {program : Kernel α} (delivered : s.Delivered)
    (keeps : program.after (fun _ m => m.rt.rxQueue = s.machine.rt.rxQueue) s.machine)
    (stepped : (program s.machine).map (fun result => s.at result.2) = some s') :
    s'.Delivered := by
  obtain ⟨⟨a, m⟩, ran, rfl⟩ := Option.map_eq_some_iff.mp stepped
  exact delivered.at (keeps a m ran)

/-- What has been received waits behind what has been received before. -/
theorem Traffic.Delivered.receive (delivered : s.Delivered) {frames : List EthFrame}
    (queued : ∃ new, m.rt.rxQueue = s.machine.rt.rxQueue ++ new ∧
      List.Forall₂ HoldsFrame new frames) (given : List Nat) :
    Traffic.Delivered ⟨m, s.arrived ++ frames, s.answers, given⟩ := by
  obtain ⟨gone, waiting, arrived, answered, held⟩ := delivered
  obtain ⟨new, same, more⟩ := queued
  refine ⟨gone, waiting ++ frames, ?_, answered, ?_⟩
  · rw [← List.append_assoc, ← arrived]
  · rw [same]
    exact List.rel_append held more

/-- What is read has waited longest. -/
theorem Traffic.Delivered.recv (delivered : s.Delivered) {len : UInt32}
    {answer : Int × List UInt8} (ran : netdevRecv true len s.machine = some (answer, m)) :
    Traffic.Delivered ⟨m, s.arrived, s.answers ++
      if true && !s.machine.rt.rxQueue.isEmpty then [⟨len, answer.1, answer.2⟩] else [],
        s.given⟩ := by
  obtain ⟨gone, waiting, arrived, answered, held⟩ := delivered
  have reads := (runs_netdevRecv held len).after answer m ran
  cases waiting with
  | nil =>
    obtain ⟨-, rfl⟩ := reads
    have none : s.machine.rt.rxQueue = [] := List.forall₂_nil_right_iff.mp held
    refine ⟨gone, [], arrived, ?_, held⟩
    rw [none, List.isEmpty_nil, Bool.not_true, Bool.and_false, if_neg (by decide), List.append_nil]
    exact answered
  | cons frame behind =>
    obtain ⟨takes, rest⟩ := reads
    obtain ⟨skb, queue, -, -, same⟩ := List.forall₂_cons_right_iff.mp held
    refine ⟨gone ++ [frame], behind, ?_, ?_, rest⟩
    · rw [List.append_assoc, List.singleton_append]
      exact arrived
    · rw [same, List.isEmpty_cons, Bool.not_false, Bool.and_true, if_pos rfl]
      exact List.rel_append answered (.cons takes .nil)

/-- Every step keeps the frames that have arrived in order. -/
theorem delivered_of_step (delivered : s.Delivered) (entry : Entry)
    (stepped : s.step entry = some s') : s'.Delivered := by
  cases entry with
  | connect env params requestPortid =>
    refine delivered.of_map ?_ stepped
    exact (after_netdevConnect env params requestPortid _).mono fun _ _ turn => turn.rxQueue
  | disconnect env reasonCode requestPortid =>
    refine delivered.of_map ?_ stepped
    exact (after_netdevDisconnect env reasonCode requestPortid _).mono fun _ _ turn => turn.rxQueue
  | driverDisconnect =>
    refine delivered.of_map ?_ stepped
    have left := after_leave (m := s.machine) 0 wlanReasonDeauthLeaving 0 false .driver
    exact left.mono fun _ _ turn => turn.rxQueue
  | trigger env early params requestPortid =>
    refine delivered.of_map ?_ stepped
    exact (after_netdevTriggerScan env early params requestPortid _).mono
      fun _ _ turn => turn.rxQueue
  | complete aborted => exact delivered.of_map (keepsQueue_scanCompleted aborted _) stepped
  | send env data len => exact delivered.of_map (keepsQueue_netdevSend env data len _) stepped
  | receive env attached skb =>
    obtain ⟨⟨_, m⟩, ran, rfl⟩ := Option.map_eq_some_iff.mp stepped
    obtain ⟨skb, bytes, linear⟩ := skb
    have queued := after_rxIrqsafe linear env attached s.machine _ m ran
    simp only [linear.bytes_eq, Option.getD_some]
    exact delivered.receive queued _
  | recv data len =>
    obtain ⟨⟨answer, m⟩, ran, rfl⟩ := Option.map_eq_some_iff.mp stepped
    cases data with
    | true => exact delivered.recv ran
    | false =>
      obtain ⟨rfl, rfl⟩ := Prod.mk.inj (Option.some.inj ran)
      obtain ⟨gone, waiting, arrived, answered, held⟩ := delivered
      exact ⟨gone, waiting, arrived, by simpa using answered, held⟩

/-- In every run of a station, whatever its calls and their order, the frames that have arrived are
those that the user has read, in order, followed by those that wait in the queue. A frame is got
with its bytes, or is dropped where the place for it was too small. The next read does not fault,
and gets the first frame that waits, if there is one. -/
theorem traffic_in_order (reach : traffic.Reachable s) : ∃ gone waiting,
    s.arrived = gone ++ waiting ∧ List.Forall₂ Answer.Takes s.answers gone ∧
      List.Forall₂ HoldsFrame s.machine.rt.rxQueue waiting ∧ ∀ len,
        (netdevRecv true len).runs (fun answer m => Reads s.machine m len answer waiting)
          s.machine := by
  have delivered : s.Delivered := by
    refine reach.invariant Traffic.Delivered ?_ fun _ entry _ kept _ stepped =>
      delivered_of_step kept entry stepped
    rintro s ⟨empty, -, arrived, answers, -⟩
    exact ⟨[], [], arrived, by rw [answers]; exact .nil, by rw [empty]; exact .nil⟩
  obtain ⟨gone, waiting, arrived, answered, held⟩ := delivered
  exact ⟨gone, waiting, arrived, answered, held, runs_netdevRecv held⟩

/-- A station that has just been connected. -/
def trafficStart : Traffic := ⟨.start connectedRuntime, [], [], []⟩

/-- The station receives an A-MSDU. -/
theorem exists_step_amsdu : ∃ m, traffic.step trafficStart
    (.receive .kind true ⟨amsduFrame [0x88, 0x02] [0x80, 0x00], _, linear_amsduReceived⟩) =
      some ⟨m, [plainFrame, plainFrame], [], [0]⟩ := by
  obtain ⟨_, m, ran, -⟩ :=
    runs_rxIrqsafe linear_amsduReceived .kind true no_mgmt_amsduReceived
  refine ⟨m, Option.map_eq_some_iff.mpr ⟨((), m), ran, ?_⟩⟩
  rw [linear_amsduReceived.bytes_eq]
  exact congrArg (fun frames => (⟨m, frames, [], [0]⟩ : Traffic)) received_amsduReceived

/-- The frames of an A-MSDU have arrived, and wait. -/
theorem traffic_in_order_amsdu : ∃ s : Traffic, s.arrived = [plainFrame, plainFrame] ∧
    ∃ gone waiting, s.arrived = gone ++ waiting ∧ List.Forall₂ Answer.Takes s.answers gone ∧
      List.Forall₂ HoldsFrame s.machine.rt.rxQueue waiting ∧ ∀ len,
        (netdevRecv true len).runs (fun answer m => Reads s.machine m len answer waiting)
          s.machine := by
  obtain ⟨m, stepped⟩ := exists_step_amsdu
  have reach : traffic.Reachable ⟨m, [plainFrame, plainFrame], [], [0]⟩ :=
    ⟨trafficStart, ⟨rfl, rfl, rfl, rfl, rfl⟩, .single trivial stepped⟩
  exact ⟨_, rfl, traffic_in_order reach⟩

end Runs

end Lcompat.Mac80211
