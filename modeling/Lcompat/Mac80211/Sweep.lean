import Lcompat.Mac80211.Qos
import Lcompat.Mac80211.Tuning

/-!
# Scans in software

`lcompat_ieee80211_run_sw_scan` goes from channel to channel and asks for every network on each of
them. It stops at the first step that fails, and its end is the same wherever it stops: the channel
is put back, and the driver is told once.
-/

namespace Lcompat.Mac80211

open Lcompat.Logic
open Lcompat.Net

/-- One step of a scan in software. -/
inductive ScanStep where
  /-- The device goes to a channel. -/
  | tune (chan : Channel)
  /-- A network is asked for. -/
  | probe (ssid : List UInt8)
  deriving DecidableEq

/-- What a step calls. -/
def ScanStep.perform (env : Env) : ScanStep → Kernel Int
  | .tune chan => setChannel env chan.centerFreq
  | .probe ssid => sendProbeReq env ssid

/-- The networks that are asked for on each channel: any network, if none is given. -/
def scanProbes (ssids : List (List UInt8)) : List (List UInt8) :=
  if ssids = [] then [[]] else ssids

/-- The steps of a scan of some channels for some networks. -/
def scanPlan (ssids : List (List UInt8)) (channels : List (Option Channel)) : List ScanStep :=
  channels.reduceOption.flatMap fun chan => .tune chan :: (scanProbes ssids).map .probe

/-- The first of some results that is a failure, or zero. -/
def firstFailure (rets : List Int) : Int := (rets.find? (· ≠ 0)).getD 0

/-- Steps are performed in order up to the first that fails, with these results. -/
inductive Performs (env : Env) : List ScanStep → Machine → List Int → Machine → Prop
  /-- All steps have been performed. -/
  | done (m : Machine) : Performs env [] m [] m
  /-- A step fails, and those behind it are not performed. -/
  | failed {step : ScanStep} {steps : List ScanStep} {m m' : Machine} {ret : Int}
      (ran : step.perform env m = some (ret, m')) (failure : ret ≠ 0) :
      Performs env (step :: steps) m [ret] m'
  /-- A step succeeds, and those behind it are performed. -/
  | next {step : ScanStep} {steps : List ScanStep} {m m' m'' : Machine} {rets : List Int}
      (ran : step.perform env m = some (0, m')) (rest : Performs env steps m' rets m'') :
      Performs env (step :: steps) m (0 :: rets) m''

/-- Whether an event is the start or the end of a scan in software. -/
def Event.isSwScan : Event → Bool
  | .swScanStart | .swScanComplete => true
  | _ => false

/-- What a step that succeeds leaves in the trace, oldest first. -/
def ScanStep.Leaves : ScanStep → List Event → Prop
  | .tune chan, events => events = [] ∨
      ∃ chandef, chandef.centerFreq1 = chan.centerFreq ∧ events = [.config chandef 0]
  | .probe ssid, events => ∃ id bytes prepared, IsProbeReq ssid bytes ∧
      (prepared = [] ∨ prepared = [.mgdPrepareTx]) ∧
        events = .allocSkb id :: (prepared ++ [.tx id (some bytes)])

/-- The network that a step asks for. -/
def ScanStep.ssid? : ScanStep → Option (List UInt8)
  | .tune _ => none
  | .probe ssid => some ssid

/-- A frame is a probe request for a network. -/
def Probes (ssid : List UInt8) (frame : Option (List UInt8)) : Prop :=
  ∃ bytes, frame = some bytes ∧ IsProbeReq ssid bytes

section Plans

variable {env : Env} {m m' m'' : Machine} {front back : List ScanStep} {rets rets' : List Int}

/-- Results without a failure. -/
theorem firstFailure_zero_cons (rets : List Int) :
    firstFailure (0 :: rets) = firstFailure rets := by
  simp [firstFailure]

/-- A failure is the first one when it comes first. -/
theorem firstFailure_singleton (ret : Int) : firstFailure [ret] = ret := by
  by_cases zero : ret = 0 <;> simp [firstFailure, zero]

/-- Steps behind others are performed when none of those fails. -/
theorem Performs.append (first : Performs env front m rets m') (success : firstFailure rets = 0)
    (second : Performs env back m' rets' m'') :
    Performs env (front ++ back) m (rets ++ rets') m'' ∧
      firstFailure (rets ++ rets') = firstFailure rets' := by
  induction first with
  | done => exact ⟨second, rfl⟩
  | failed ran failure =>
    rw [firstFailure_singleton] at success
    exact absurd success failure
  | next ran rest ih =>
    rw [firstFailure_zero_cons] at success
    obtain ⟨performs, same⟩ := ih success second
    refine ⟨.next ran performs, ?_⟩
    rw [List.cons_append, firstFailure_zero_cons, same]

/-- Steps behind one that fails are not performed. -/
theorem Performs.append_of_failed (first : Performs env front m rets m')
    (failure : firstFailure rets ≠ 0) (back : List ScanStep) :
    Performs env (front ++ back) m rets m' := by
  induction first with
  | done => exact absurd rfl failure
  | failed ran nonzero => exact .failed ran nonzero
  | next ran rest ih =>
    rw [firstFailure_zero_cons] at failure
    exact .next ran (ih failure)

/-- A program carries a plan out, and returns the first failure. -/
def Carries (env : Env) (plan : List ScanStep) (program : Kernel Int) : Prop := ∀ m,
  program.after (fun ret m' => ∃ rets, Performs env plan m rets m' ∧ ret = firstFailure rets) m

/-- Nothing is carried out. -/
theorem carries_nil (env : Env) : Carries env [] (pure 0) := fun m => by
  rw [Program.after_pure]
  exact ⟨[], .done m, rfl⟩

/-- One step is carried out. -/
theorem carries_step (env : Env) (step : ScanStep) : Carries env [step] (step.perform env) := by
  intro m ret m' ran
  refine ⟨[ret], ?_, (firstFailure_singleton ret).symm⟩
  by_cases zero : ret = 0
  · subst zero
    exact .next ran (.done m')
  · exact .failed ran zero

/-- One plan is carried out behind the other, unless that fails. -/
theorem Carries.seq {program other : Kernel Int} (first : Carries env front program)
    (second : Carries env back other) : Carries env (front ++ back)
      (program >>= fun ret => if ret ≠ 0 then pure ret else other) := fun m => by
  rw [Program.after_bind]
  refine (first m).mono ?_
  rintro ret m₁ ⟨rets, performs, rfl⟩
  rw [Program.after_ite]
  split
  · rename_i failure
    rw [Program.after_pure]
    exact ⟨rets, performs.append_of_failed failure back, rfl⟩
  · rename_i success
    refine (second m₁).mono ?_
    rintro ret m₂ ⟨rets', performs', rfl⟩
    obtain ⟨both, same⟩ := performs.append (not_not.mp success) performs'
    exact ⟨rets ++ rets', both, same.symm⟩

/-- The requests for some networks are carried out. -/
theorem carries_probeAll (env : Env) (ssids : List (List UInt8)) :
    Carries env (ssids.map .probe) (probeAll env ssids) := by
  induction ssids with
  | nil => exact carries_nil env
  | cons ssid ssids ih => exact (carries_step env (.probe ssid)).seq ih

/-- The loop of a scan in software carries out its plan. -/
theorem carries_scanAll (env : Env) (ssids : List (List UInt8)) (channels : List (Option Channel)) :
    Carries env (scanPlan ssids channels) (scanAll env ssids channels) := by
  induction channels with
  | nil => exact carries_nil env
  | cons entry channels ih =>
    cases entry with
    | none => exact ih
    | some chan =>
      have probed : Carries env ((scanProbes ssids).map .probe)
          (if ssids = [] then sendProbeReq env [] else probeAll env ssids) := by
        unfold scanProbes
        split
        · exact carries_step env (.probe [])
        · exact carries_probeAll env ssids
      have turn : Carries env (.tune chan :: (scanProbes ssids).map .probe)
          (scanChannel env ssids chan) := (carries_step env (.tune chan)).seq probed
      exact turn.seq ih

/-- What a step leaves in the trace. -/
theorem leaves_of_performed {step : ScanStep} {ret : Int}
    (ran : step.perform env m = some (ret, m')) : ∃ events, m'.trace = events ++ m.trace ∧
      (∀ e ∈ events, e.isSwScan = false) ∧ (ret = 0 → step.Leaves events.reverse) := by
  cases step with
  | tune chan =>
    cases switch_of_ran ran with
    | ignored => exact ⟨[], rfl, by simp, fun _ => .inl rfl⟩
    | unknown => exact ⟨[], rfl, by simp, fun _ => .inl rfl⟩
    | current => exact ⟨[], rfl, by simp, fun _ => .inl rfl⟩
    | silent => exact ⟨[], rfl, by simp, fun _ => .inl rfl⟩
    | @asked found_chan asks found =>
      refine ⟨[_], rfl, by simp [Event.isSwScan], fun zero => .inr ⟨.width20 found_chan, ?_, ?_⟩⟩
      · exact centerFreq_of_find found
      · rw [zero]
        rfl
  | probe ssid =>
    obtain ⟨-, events, trace, fate⟩ := sends_sendProbeReq env ssid m ret m' ran
    refine ⟨events, trace, fun e mem => ?_, ?_⟩
    · obtain buffer | rfl := fate.isBuffer e mem
      · cases e <;> first | rfl | cases buffer
      · rfl
    · rintro rfl
      obtain ⟨id, bytes, prepared, written, prepare, rfl⟩ := fate.of_zero
      refine ⟨id, bytes, prepared, written, prepare, ?_⟩
      obtain rfl | rfl := prepare <;> rfl

/-- What the steps of a plan leave in the trace. -/
theorem Performs.leaves {plan : List ScanStep} (performs : Performs env plan m rets m') :
    ∃ events, m'.trace = events ++ m.trace ∧ (∀ e ∈ events, e.isSwScan = false) ∧
      (firstFailure rets = 0 → ∃ groups, List.Forall₂ ScanStep.Leaves plan groups ∧
        events.reverse = groups.flatten) := by
  induction performs with
  | done => exact ⟨[], rfl, by simp, fun _ => ⟨[], .nil, rfl⟩⟩
  | failed ran failure =>
    obtain ⟨events, trace, apart, -⟩ := leaves_of_performed ran
    refine ⟨events, trace, apart, fun success => ?_⟩
    rw [firstFailure_singleton] at success
    exact absurd success failure
  | next ran rest ih =>
    obtain ⟨older, trace, apart, leaves⟩ := leaves_of_performed ran
    obtain ⟨newer, trace', apart', others⟩ := ih
    refine ⟨newer ++ older, by rw [trace', trace, List.append_assoc], fun e mem => ?_, ?_⟩
    · obtain mem | mem := List.mem_append.mp mem
      · exact apart' e mem
      · exact apart e mem
    · intro success
      rw [firstFailure_zero_cons] at success
      obtain ⟨groups, all, flat⟩ := others success
      refine ⟨older.reverse :: groups, .cons (leaves rfl) all, ?_⟩
      rw [List.reverse_append, flat, List.flatten_cons]

/-- The frames of steps that succeed are the requests for their networks. -/
theorem frames_of_leaves {plan : List ScanStep} {groups : List (List Event)}
    (leaves : List.Forall₂ ScanStep.Leaves plan groups) :
    List.Forall₂ Probes (plan.filterMap ScanStep.ssid?) (frames groups.flatten) := by
  induction leaves with
  | nil => exact .nil
  | @cons step group plan groups left _ ih =>
    rw [List.flatten_cons, frames, List.filterMap_append]
    cases step with
    | tune chan =>
      obtain rfl | ⟨chandef, -, rfl⟩ := left
      · exact ih
      · exact ih
    | probe ssid =>
      obtain ⟨id, bytes, prepared, written, prepare, rfl⟩ := left
      have own : Probes ssid (some bytes) := ⟨bytes, rfl, written⟩
      obtain rfl | rfl := prepare
      · exact .cons own ih
      · exact .cons own ih

/-- A plan asks for every network on every channel. -/
theorem ssids_scanPlan (ssids : List (List UInt8)) (channels : List (Option Channel)) :
    (scanPlan ssids channels).filterMap ScanStep.ssid? =
      (channels.reduceOption ×ˢ scanProbes ssids).map Prod.snd := by
  have own : ((scanProbes ssids).map ScanStep.probe).filterMap ScanStep.ssid? =
      scanProbes ssids := by
    rw [List.filterMap_map]
    exact List.filterMap_some
  show ((channels.reduceOption).flatMap _).filterMap _ = ((channels.reduceOption).flatMap _).map _
  induction channels.reduceOption with
  | nil => rfl
  | cons chan channels ih =>
    rw [List.flatMap_cons, List.flatMap_cons, List.filterMap_append, List.map_append, ih,
      List.filterMap_cons_none rfl, own, List.map_map]
    exact congrArg (· ++ _) (List.map_id _).symm

end Plans

/-- What a scan in software comes to once it has started, with these events between its start and
its end, and these results of its steps. -/
structure Swept (env : Env) (m : Machine) (scanReq : ScanReq) (events : List Event)
    (rets : List Int) (m' : Machine) : Prop where
  /-- The driver is told of the start first, and of the end last. -/
  trace : m'.trace = .swScanComplete :: (events ++ .swScanStart :: m.trace)
  /-- It is told neither in between. -/
  apart : ∀ e ∈ events, e.isSwScan = false
  /-- The steps of the plan are performed up to the first that fails. -/
  performs : ∃ m₁, Performs env (scanPlan scanReq.ssids scanReq.channels)
    { m with trace := .swScanStart :: m.trace } rets m₁
  /-- Without a failure, one request has been sent for each network on each channel. -/
  probed : firstFailure rets = 0 → List.Forall₂ (fun target frame => Probes target.2 frame)
    (scanReq.channels.reduceOption ×ˢ scanProbes scanReq.ssids) (frames events).reverse

/-- Frames in the order in which they have been handed over. -/
theorem frames_reverse (events : List Event) : frames events.reverse = (frames events).reverse :=
  List.filterMap_reverse

/-- What a scan in software has come to when its loop has ended and the channel is put back. -/
theorem Performs.swept {env : Env} {m m₁ : Machine} {scanReq : ScanReq} {rets : List Int}
    (performs : Performs env (scanPlan scanReq.ssids scanReq.channels)
      { m with trace := .swScanStart :: m.trace } rets m₁) {m' : Machine} (restored : List Event)
    (configs : ∀ e ∈ restored, e.isConfig = true)
    (trace : m'.trace = .swScanComplete :: (restored ++ m₁.trace)) :
    ∃ events, Swept env m scanReq events rets m' := by
  obtain ⟨events, trace₁, apart, leaves⟩ := performs.leaves
  refine ⟨restored ++ events, ?_, fun e mem => ?_, ⟨m₁, performs⟩, fun success => ?_⟩
  · rw [trace, trace₁, List.append_assoc]
  · obtain mem | mem := List.mem_append.mp mem
    · have config := configs e mem
      cases e <;> first | rfl | cases config
    · exact apart e mem
  · obtain ⟨groups, all, flat⟩ := leaves success
    have silent : frames restored = [] := by
      rw [frames, List.filterMap_eq_nil_iff]
      intro e mem
      have config := configs e mem
      cases e <;> first | rfl | cases config
    have sent := frames_of_leaves all
    rw [ssids_scanPlan, List.forall₂_map_left_iff, ← flat, frames_reverse] at sent
    rw [frames, List.filterMap_append]
    show List.Forall₂ _ _ (frames restored ++ frames events).reverse
    rw [silent]
    exact sent

/-- A scan in software puts the channel back and leaves the request as it is. It is refused without
a change, or it tells the driver of its start and of its end once each and returns the first failure
of its steps; without a failure it has sent one request for each network on each channel. -/
theorem runSwScan_swept (env : Env) (m : Machine) : (runSwScan env).runs (fun ret m' =>
    m'.rt.hw.chandef = m.rt.hw.chandef ∧ m'.rt.scanReq = m.rt.scanReq ∧
      ((m' = m ∧ ret = -EINVAL ∧ (m.rt.scanReq = none ∨ m.rt.vif = none)) ∨
        (m' = m ∧ ret = -EOPNOTSUPP ∧
          (m.rt.hw.ops.swScanStart = false ∨ m.rt.hw.ops.swScanComplete = false)) ∨
        ∃ scanReq rets, m.rt.scanReq = some scanReq ∧ ret = firstFailure rets ∧
          ∃ events, Swept env m scanReq events rets m')) m := by
  refine (total_runSwScan env).runs ?_
  have same : (runSwScan env).after (fun _ m' => m'.rt.scanReq = m.rt.scanReq) m :=
    (keepsQuiet_runSwScan env m).mono fun _ _ quiet => (congrArg Runtime.scanReq quiet.core :)
  have swept : (runSwScan env).after (fun ret m' => m'.rt.hw.chandef = m.rt.hw.chandef ∧
      ((m' = m ∧ ret = -EINVAL ∧ (m.rt.scanReq = none ∨ m.rt.vif = none)) ∨
        (m' = m ∧ ret = -EOPNOTSUPP ∧
          (m.rt.hw.ops.swScanStart = false ∨ m.rt.hw.ops.swScanComplete = false)) ∨
        ∃ scanReq rets, m.rt.scanReq = some scanReq ∧ ret = firstFailure rets ∧
          ∃ events, Swept env m scanReq events rets m')) m := by
    unfold runSwScan
    simp only [Program.after_bind, after_runtime]
    cases asked : m.rt.scanReq with
    | none =>
      rw [Program.after_pure]
      exact ⟨rfl, .inl ⟨rfl, rfl, .inl rfl⟩⟩
    | some scanReq =>
    simp only [Program.after_ite, Program.after_pure, Program.after_bind, after_note]
    split
    · rename_i alone
      exact ⟨trivial, .inl ⟨trivial, trivial, .inr (Option.isNone_iff_eq_none.mp alone)⟩⟩
    split
    · rename_i unsupported
      refine ⟨trivial, .inr (.inl ⟨trivial, trivial, ?_⟩)⟩
      simpa using unsupported
    refine (carries_scanAll env _ _ _).mono ?_
    rintro ret m₁ ⟨rets, performs, rfl⟩
    simp only [callConfig, after_change, Program.after_bind, after_runtime, Program.after_ite,
      after_ask, after_note, Program.after_pure]
    split
    · refine ⟨trivial, .inr (.inr ⟨scanReq, rets, rfl, rfl, ?_⟩)⟩
      refine performs.swept [.config m.rt.hw.chandef (env.result m₁.calls)] ?_ rfl
      simp [Event.isConfig]
    · refine ⟨trivial, .inr (.inr ⟨scanReq, rets, rfl, rfl, ?_⟩)⟩
      exact performs.swept [] (by simp) rfl
  refine (same.and swept).mono fun ret m' both => ?_
  exact ⟨both.2.1, both.1, both.2.2⟩

end Lcompat.Mac80211
