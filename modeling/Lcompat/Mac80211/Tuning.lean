import Lcompat.Mac80211.Ownership

/-!
# The channel of a device

`lcompat_ieee80211_set_channel` writes a channel into `hw->conf` before it asks the driver for it,
and leaves it there when the driver refuses. A later call for the same frequency finds the channel
in place and does not ask. The channel of a device is what the driver has accepted along runs in
which the driver accepts what it is asked for.
-/

namespace Lcompat.Mac80211

open Lcompat.Logic
open Lcompat.Net

/-- Whether an event is a call of `ops->config`. -/
def Event.isConfig : Event → Bool
  | .config _ _ => true
  | _ => false

/-- The channel that the driver accepts in an event. -/
def Event.accepted : Event → Option ChanDef
  | .config chandef ret => if ret = 0 then some chandef else none
  | _ => none

/-- The channel that the driver has accepted last. -/
def accepted (trace : List Event) : Option ChanDef := trace.findSome? Event.accepted

/-- A device is on the channel of a frequency already. -/
def Hw.IsOn (hw : Hw) (frequency : UInt32) : Prop :=
  frequency ≠ 0 ∧ ∃ chan, findChannelByFreq hw frequency = some chan ∧
    hw.chandef.chan = some chan ∧ hw.chandef.centerFreq1 = frequency

/-- The driver of a device is asked for the channel of a frequency. -/
def Hw.Asks (hw : Hw) (frequency : UInt32) : Prop :=
  frequency ≠ 0 ∧ (findChannelByFreq hw frequency).isSome = true ∧ ¬hw.IsOn frequency ∧
    hw.ops.config = true

/-- A machine whose device has been put on a channel. -/
def Machine.tuned (m : Machine) (chan : Channel) : Machine :=
  { m with rt := { m.rt with hw.chandef := .width20 chan } }

/-- What a switch to a frequency comes to. -/
inductive Switch (env : Env) (frequency : UInt32) (m : Machine) : Int → Machine → Prop
  /-- No frequency is given. -/
  | ignored (zero : frequency = 0) : Switch env frequency m 0 m
  /-- The device has no such channel. -/
  | unknown (nonzero : frequency ≠ 0) (missing : findChannelByFreq m.rt.hw frequency = none) :
      Switch env frequency m (-ENOENT) m
  /-- The device is on the channel. -/
  | current (here : m.rt.hw.IsOn frequency) : Switch env frequency m 0 m
  /-- The channel is written, and the driver has no operation to ask. -/
  | silent {chan : Channel} (found : findChannelByFreq m.rt.hw frequency = some chan)
      (other : ¬m.rt.hw.IsOn frequency) (without : m.rt.hw.ops.config = false) :
      Switch env frequency m 0 (m.tuned chan)
  /-- The channel is written, and the driver is asked. -/
  | asked {chan : Channel} (asks : m.rt.hw.Asks frequency)
      (found : findChannelByFreq m.rt.hw frequency = some chan) :
      Switch env frequency m (env.result m.calls) { m.tuned chan with
        calls := m.calls + 1, trace := .config (.width20 chan) (env.result m.calls) :: m.trace }

section Switches

variable {env : Env} {frequency : UInt32} {m m' : Machine} {ret : Int}

/-- The channel of a frequency has that frequency. -/
theorem centerFreq_of_find {hw : Hw} {chan : Channel}
    (found : findChannelByFreq hw frequency = some chan) : chan.centerFreq = frequency := by
  unfold findChannelByFreq at found
  split at found
  · cases found
  · obtain ⟨band, -, found⟩ := List.exists_of_findSome?_eq_some found
    obtain ⟨sband, -, found⟩ := Option.bind_eq_some_iff.mp found
    simpa using List.find?_some found

/-- A switch runs, and comes to this. -/
theorem runs_setChannel (env : Env) (frequency : UInt32) (m : Machine) :
    (setChannel env frequency).runs (Switch env frequency m) m := by
  unfold setChannel
  simp only [Program.runs_bind, runs_runtime, Program.runs_ite, Program.runs_pure]
  split
  · rename_i zero
    exact .ignored zero
  rename_i nonzero
  cases found : findChannelByFreq m.rt.hw frequency with
  | none =>
    rw [Program.runs_pure]
    exact .unknown nonzero found
  | some chan =>
    simp only [Program.runs_ite, Program.runs_pure, Program.runs_bind, runs_change, callConfig,
      runs_runtime, runs_ask, runs_note]
    split
    · rename_i here
      exact .current ⟨nonzero, chan, found, here.1, here.2⟩
    rename_i there
    have other : ¬m.rt.hw.IsOn frequency := by
      rintro ⟨-, chan', found', here⟩
      obtain rfl := Option.some.inj (found.symm.trans found')
      exact there here
    split
    · rename_i operation
      exact .asked ⟨nonzero, by rw [found]; rfl, other, operation⟩ found
    · rename_i without
      exact .silent found other (by simpa using without)

/-- What a switch comes to, in a run of it. -/
theorem switch_of_ran (ran : setChannel env frequency m = some (ret, m')) :
    Switch env frequency m ret m' :=
  (runs_setChannel env frequency m).after ret m' ran

/-- A channel that is written is another one. -/
theorem width20_ne {hw : Hw} {chan : Channel} (nonzero : frequency ≠ 0)
    (found : findChannelByFreq hw frequency = some chan) (other : ¬hw.IsOn frequency) :
    ChanDef.width20 chan ≠ hw.chandef := by
  intro same
  refine other ⟨nonzero, chan, found, ?_⟩
  rw [← same]
  exact ⟨rfl, centerFreq_of_find found⟩

/-- A switch that fails leaves the channel as it is, exactly unless the driver is asked and
refuses. -/
theorem channel_kept_iff (env : Env) (frequency : UInt32) (m : Machine) :
    (setChannel env frequency).runs
      (fun ret m' => ret ≠ 0 → m'.rt.hw.chandef = m.rt.hw.chandef) m ↔
        (m.rt.hw.Asks frequency → env.result m.calls = 0) := by
  refine Program.runs_iff_of_runs (runs_setChannel env frequency m) fun ret m' outcome => ?_
  cases outcome with
  | ignored zero => exact iff_of_true (fun _ => rfl) fun asks => absurd zero asks.1
  | unknown _ missing =>
    refine iff_of_true (fun _ => rfl) fun asks => ?_
    have found := asks.2.1
    rw [missing] at found
    cases found
  | current here => exact iff_of_true (fun _ => rfl) fun asks => absurd here asks.2.2.1
  | silent _ _ without =>
    refine iff_of_true (fun failed => absurd rfl failed) fun asks => ?_
    have operation := asks.2.2.2
    rw [without] at operation
    cases operation
  | asked asks found =>
    constructor
    · intro kept _
      by_contra refused
      exact width20_ne asks.1 found asks.2.2.1 (kept refused)
    · exact fun accepts failed => absurd (accepts asks) failed

/-- A switch to the channel that a device is on does nothing. -/
theorem setChannel_of_isOn (env : Env) (here : m.rt.hw.IsOn frequency) :
    setChannel env frequency m = some (0, m) := by
  obtain ⟨ret, m', ran, outcome⟩ := runs_setChannel env frequency m
  rw [ran]
  cases outcome with
  | ignored => rfl
  | unknown _ missing =>
    obtain ⟨-, chan, found, -⟩ := here
    rw [missing] at found
    cases found
  | current => rfl
  | silent _ other => exact absurd here other
  | asked asks => exact absurd here asks.2.2.1

/-- A switch for which the driver is asked leaves the device on the channel, whatever the driver
answers. -/
theorem isOn_of_asks (asks : m.rt.hw.Asks frequency)
    (ran : setChannel env frequency m = some (ret, m')) : m'.rt.hw.IsOn frequency := by
  cases switch_of_ran ran with
  | ignored zero => exact absurd zero asks.1
  | unknown _ missing =>
    have found := asks.2.1
    rw [missing] at found
    cases found
  | current here => exact here
  | silent _ _ without =>
    have operation := asks.2.2.2
    rw [without] at operation
    cases operation
  | asked _ found => exact ⟨asks.1, _, found, rfl, centerFreq_of_find found⟩

end Switches

/-- What `lcompat_ieee80211_run_sw_scan` does to put the channel back. -/
def restoreChannel (env : Env) (chandef : ChanDef) : Kernel Int := do
  change fun rt => { rt with hw.chandef := chandef }
  callConfig env

/-- A step that concerns the channel, or leaves it alone. -/
inductive TuneLabel where
  /-- `lcompat_ieee80211_set_channel`. -/
  | switch (env : Env) (frequency : UInt32)
  /-- The end of a scan in software, which puts a channel back. -/
  | restore (env : Env) (chandef : ChanDef)
  /-- Anything else: the device stays as it is, and `ops->config` is not called. -/
  | aside (rt : Runtime) (calls : Nat) (events : List Event)

/-- A step. -/
def tuneStep (m : Machine) : TuneLabel → Option Machine
  | .switch env frequency => (setChannel env frequency m).map Prod.snd
  | .restore env chandef => (restoreChannel env chandef m).map Prod.snd
  | .aside rt calls events =>
    if events.any Event.isConfig then none
    else some ⟨{ rt with hw := m.rt.hw }, calls, events ++ m.trace⟩

/-- The runs of a device, from states in which the driver has accepted no other channel than the one
of the device. -/
def tuning : System Machine TuneLabel where
  init m := ∀ chandef, accepted m.trace = some chandef → chandef = m.rt.hw.chandef
  step := tuneStep

/-- A switch in a run. -/
structure Switched where
  /-- The frequency. -/
  frequency : UInt32
  /-- The result. -/
  ret : Int
  /-- Whether `ops->config` has been called. -/
  asked : Bool
  deriving DecidableEq

/-- The switch that a step is. -/
def switchedBy (m : Machine) : TuneLabel → List Switched
  | .switch env frequency => ((setChannel env frequency m).map fun result => ⟨frequency, result.1,
      result.2.trace.countP Event.isConfig ≠ m.trace.countP Event.isConfig⟩).toList
  | _ => []

/-- A switch that follows one to the same frequency that the driver has refused asks again. -/
def Again (notes : List Switched) : Prop :=
  ∀ newer later between first older, notes = newer ++ later :: (between ++ first :: older) →
    later.frequency = first.frequency → (∀ n ∈ between, n.frequency ≠ first.frequency) →
      first.asked = true → first.ret ≠ 0 → later.asked = true

/-- The driver accepts what a step asks it for, and the channel that a device has at first is not
taken for one that the driver has accepted. -/
def Obeys (m : Machine) : TuneLabel → Prop
  | .switch env frequency => (m.rt.hw.Asks frequency → env.result m.calls = 0) ∧
      (m.rt.hw.ops.config = true → m.rt.hw.IsOn frequency → accepted m.trace ≠ none)
  | .restore env _ => m.rt.hw.ops.config = true → env.result m.calls = 0
  | .aside _ _ _ => True

/-- What the driver has accepted, if it can be asked and has been, is the channel of the device. -/
def Follows (m : Machine) : Prop := m.rt.hw.ops.config = true →
  ∀ chandef, accepted m.trace = some chandef → chandef = m.rt.hw.chandef

section Runs

variable {env : Env} {frequency : UInt32} {m m' : Machine} {ret : Int}

/-- Events that do not call `ops->config` leave what the driver has accepted. -/
theorem accepted_append {events : List Event} (others : ∀ e ∈ events, e.isConfig = false) :
    accepted (events ++ m.trace) = accepted m.trace := by
  have none : events.findSome? Event.accepted = none := by
    rw [List.findSome?_eq_none_iff]
    intro e mem
    have other := others e mem
    cases e <;> first | rfl | cases other
  rw [accepted, List.findSome?_append, none]
  rfl

/-- What the driver accepts is what it has accepted last. -/
theorem accepted_config (chandef : ChanDef) (trace : List Event) :
    accepted (.config chandef 0 :: trace) = some chandef := rfl

/-- What a switch keeps of the driver, and what holds of it. -/
theorem Switch.follows (outcome : Switch env frequency m ret m') (follows : Follows m)
    (obeys : Obeys m (.switch env frequency)) :
    Follows m' ∧ (ret = 0 → frequency ≠ 0 → m.rt.hw.ops.config = true →
      accepted m'.trace = some m'.rt.hw.chandef) := by
  cases outcome with
  | ignored zero => exact ⟨follows, fun _ nonzero => absurd zero nonzero⟩
  | unknown => exact ⟨follows, fun zero => absurd zero (by decide)⟩
  | current here =>
    refine ⟨follows, fun _ _ operation => ?_⟩
    obtain ⟨chandef, found⟩ := Option.ne_none_iff_exists'.mp (obeys.2 operation here)
    rw [found, follows operation chandef found]
  | silent _ _ without =>
    have never : m.rt.hw.ops.config ≠ true := by simp [without]
    exact ⟨fun operation => absurd operation never, fun _ _ operation => absurd operation never⟩
  | asked asks found =>
    rename_i chan
    have accepts := obeys.1 asks
    rw [accepts]
    refine ⟨fun _ chandef last => ?_, fun _ _ _ => accepted_config _ _⟩
    rw [accepted_config] at last
    exact (Option.some.inj last).symm

/-- A step in which the driver accepts what it is asked for keeps the channel and the driver
together. -/
theorem Follows.step {label : TuneLabel} (follows : Follows m) (obeys : Obeys m label)
    (stepped : tuning.step m label = some m') : Follows m' := by
  cases label with
  | switch env frequency =>
    obtain ⟨⟨ret, next⟩, ran, rfl⟩ := Option.map_eq_some_iff.mp stepped
    exact ((switch_of_ran ran).follows follows obeys).1
  | restore env chandef =>
    obtain ⟨⟨ret, next⟩, ran, rfl⟩ := Option.map_eq_some_iff.mp stepped
    have done : (restoreChannel env chandef).after (fun _ m' => Follows m') m := by
      simp only [restoreChannel, callConfig, Program.after_bind, after_change, after_runtime,
        Program.after_ite, after_ask, after_note, Program.after_pure]
      split
      · rename_i operation
        intro _ last accepts
        rw [obeys operation, accepted_config] at accepts
        exact (Option.some.inj accepts).symm
      · rename_i without
        exact fun operation => absurd operation without
    exact done ret next ran
  | aside rt calls events =>
    simp only [tuning, tuneStep] at stepped
    split at stepped
    · cases stepped
    · rename_i others
      obtain rfl := Option.some.inj stepped
      have others : ∀ e ∈ events, e.isConfig = false := by simpa using others
      intro operation chandef last
      rw [accepted_append others] at last
      exact follows operation chandef last

/-- A switch that asks succeeds, where the driver accepts what it is asked for. -/
theorem ret_of_asked {label : TuneLabel} (obeys : Obeys m label) {n : Switched}
    (noted : n ∈ switchedBy m label) (asked : n.asked = true) : n.ret = 0 := by
  cases label with
  | switch env frequency =>
    rw [switchedBy, Option.mem_toList, Option.map_eq_some_iff] at noted
    obtain ⟨⟨ret, m'⟩, ran, rfl⟩ := noted
    cases switch_of_ran ran with
    | ignored => rfl
    | unknown => simp at asked
    | current => rfl
    | silent => rfl
    | asked asks => exact obeys.1 asks
  | restore env chandef => cases noted
  | aside rt calls events => cases noted

/-- A switch leaves the channel as it is when it fails, exactly unless the driver is asked and
refuses; and when it has been asked, the same switch does not ask again. Along runs in which the
driver accepts what it is asked for, a refused switch is asked for again, and after a switch that
succeeds the channel of the device is what the driver has accepted last. -/
theorem channel_follows_driver (env : Env) (frequency : UInt32) (m : Machine) :
    ((setChannel env frequency).runs
        (fun ret m' => ret ≠ 0 → m'.rt.hw.chandef = m.rt.hw.chandef) m ↔
      (m.rt.hw.Asks frequency → env.result m.calls = 0)) ∧
    (∀ ret m', m.rt.hw.Asks frequency → setChannel env frequency m = some (ret, m') →
      ∀ later, setChannel later frequency m' = some (0, m')) ∧
    ∀ notes, (tuning.record switchedBy).Reach (fun s label => Obeys s.1 label) (m, notes) →
      Again notes ∧ ∀ ret m', Obeys m (.switch env frequency) →
        setChannel env frequency m = some (ret, m') →
          (ret ≠ 0 → m'.rt.hw.chandef = m.rt.hw.chandef) ∧
          (ret = 0 → frequency ≠ 0 → m.rt.hw.ops.config = true →
            accepted m'.trace = some m'.rt.hw.chandef) := by
  refine ⟨channel_kept_iff env frequency m, fun _ _ asks ran later => ?_, fun notes reach => ?_⟩
  · exact setChannel_of_isOn later (isOn_of_asks asks ran)
  have kept := reach.invariant
    (fun s => Follows s.1 ∧ ∀ n ∈ s.2, n.asked = true → n.ret = 0) ?_ ?_
  · obtain ⟨follows, settled⟩ := kept
    refine ⟨?_, fun ret m' obeys ran => ⟨?_, ?_⟩⟩
    · rintro newer later between first older rfl - - asked failed
      refine absurd (settled first ?_ asked) failed
      simp
    · exact ((channel_kept_iff env frequency m).mpr obeys.1).after ret m' ran
    · exact ((switch_of_ran ran).follows follows obeys).2
  · rintro ⟨start, notes⟩ ⟨initial, rfl⟩
    exact ⟨fun _ => initial, fun n mem => absurd mem List.not_mem_nil⟩
  · rintro s label t ⟨follows, settled⟩ obeys stepped
    obtain ⟨stepped, noted⟩ := System.record_step_eq_some.mp stepped
    refine ⟨follows.step obeys stepped, fun n mem => ?_⟩
    rw [noted] at mem
    obtain mem | mem := List.mem_append.mp mem
    · exact ret_of_asked obeys mem
    · exact settled n mem

end Runs

/-- A machine that is on the first of two channels, with a driver that has not been asked yet. -/
def twoChannelMachine : Machine :=
  .start { connectedRuntime with
    hw := { tunedHw with
      bands := fun band =>
        if band = 0 then some ⟨0, [⟨0, 0, 2412⟩, ⟨0, 0, 2437⟩], [10]⟩ else none } }

/-- Calls whose results are all `-EIO`. -/
def Env.refusing : Env := { Env.kind with result := fun _ => -5 }

/-- A device goes to its second channel and back. -/
theorem channel_follows_driver_back : ∃ m m',
    setChannel .kind 2437 twoChannelMachine = some (0, m) ∧
      setChannel .kind 2412 m = some (0, m') ∧ accepted m'.trace = some m'.rt.hw.chandef := by
  refine ⟨_, _, rfl, rfl, ?_⟩
  have elsewhere : ∀ {m : Machine} {frequency : UInt32}, m.rt.hw.chandef.centerFreq1 ≠ frequency →
      Obeys m (.switch .kind frequency) := by
    intro m frequency other
    exact ⟨fun _ => rfl, fun _ ⟨_, _, _, _, here⟩ => absurd here other⟩
  have first : Obeys twoChannelMachine (.switch .kind 2437) := elsewhere (by decide)
  have start : (tuning.record switchedBy).Reach (fun s label => Obeys s.1 label)
      (twoChannelMachine, []) := by
    refine ⟨_, ⟨fun chandef none => ?_, rfl⟩, .refl _⟩
    cases none
  have reach := start.step (t := (_, _)) first (System.record_step_eq_some.mpr ⟨rfl, rfl⟩)
  have kept := ((channel_follows_driver .kind 2412 _).2.2 _ reach).2
  have outcome := kept 0 _ (elsewhere (by decide)) rfl
  exact outcome.2 rfl (by decide) rfl

/-- A device stays on the channel that its driver has refused, and does not ask for it again. -/
theorem refused_channel_kept : ∃ m m',
    setChannel .refusing 2437 twoChannelMachine = some (-5, m) ∧
      m.rt.hw.chandef ≠ twoChannelMachine.rt.hw.chandef ∧
      setChannel .kind 2437 m = some (0, m') ∧ m'.trace = m.trace ∧
      m'.rt.hw.ops.config = true ∧ accepted m'.trace = none := by
  refine ⟨_, _, rfl, ?_, rfl, ?_, ?_, ?_⟩
  · decide
  · rfl
  · rfl
  · rfl

/-- A program switches and restores the channel, and leaves it alone otherwise. -/
def Tunes {α : Type} (program : Kernel α) : Prop :=
  ∀ m, program.after (fun _ m' => tuning.Path (fun _ _ => True) m m') m

section Tunings

variable {α β : Type}

/-- A step that leaves the device as it is and does not call `ops->config`. -/
theorem path_aside {m m' : Machine} (events : List Event) (device : m'.rt.hw = m.rt.hw)
    (trace : m'.trace = events ++ m.trace) (others : ∀ e ∈ events, e.isConfig = false) :
    tuning.Path (fun _ _ => True) m m' := by
  refine System.Path.single (a := .aside m'.rt m'.calls events) trivial ?_
  have none : ¬events.any Event.isConfig = true := by simpa using others
  simp only [tuning, tuneStep]
  rw [if_neg none, ← device, ← trace]

/-- A result concerns no channel. -/
theorem tunes_pure (a : α) : Tunes (pure a) := fun m => by
  rw [Program.after_pure]
  exact .refl m

/-- Reading the runtime concerns no channel. -/
theorem tunes_runtime : Tunes runtime := fun m => by
  rw [after_runtime]
  exact .refl m

/-- An answer concerns no channel. -/
theorem tunes_ask (answer : Nat → α) : Tunes (ask answer) := fun m => by
  rw [after_ask]
  exact path_aside [] rfl rfl (by simp)

/-- A change of anything but the device concerns no channel. -/
theorem tunes_change {update : Runtime → Runtime} (keeps : ∀ rt, (update rt).hw = rt.hw) :
    Tunes (change update) := fun m => by
  rw [after_change]
  exact path_aside [] (keeps m.rt) rfl (by simp)

/-- An event other than a call of `ops->config` concerns no channel. -/
theorem tunes_note {event : Event} (other : event.isConfig = false) : Tunes (note event) :=
  fun m => by
    rw [after_note]
    exact path_aside [event] rfl rfl (by simpa using other)

/-- Switches one after the other. -/
theorem Tunes.bind {program : Kernel β} {next : β → Kernel α} (first : Tunes program)
    (second : ∀ b, Tunes (next b)) : Tunes (program >>= next) := fun m => by
  rw [Program.after_bind]
  refine (first m).mono fun b m₁ before => ?_
  exact (second b m₁).mono fun _ _ behind => before.trans behind

/-- Either of two programs. -/
theorem tunes_ite {condition : Prop} [Decidable condition] {yes no : Kernel α} (one : Tunes yes)
    (other : Tunes no) : Tunes (if condition then yes else no) := by
  split
  · exact one
  · exact other

/-- A switch is a step. -/
theorem tunes_setChannel (env : Env) (frequency : UInt32) : Tunes (setChannel env frequency) := by
  intro m ret m' ran
  refine System.Path.single (a := .switch env frequency) trivial ?_
  exact Option.map_eq_some_iff.mpr ⟨(ret, m'), ran, rfl⟩

/-- What puts a channel back is a step. -/
theorem tunes_restoreChannel (env : Env) (chandef : ChanDef) :
    Tunes (restoreChannel env chandef) := by
  intro m ret m' ran
  refine System.Path.single (a := .restore env chandef) trivial ?_
  exact Option.map_eq_some_iff.mpr ⟨(ret, m'), ran, rfl⟩

/-- A frame that is sent concerns no channel. -/
theorem tunes_of_sends {built : Machine → Prop} {content : Machine → List UInt8 → Prop}
    {program : Kernel Int} (sends : ∀ m, Sends (built m) (content m) program m) :
    Tunes program := by
  intro m
  refine (sends m).mono ?_
  rintro ret m' ⟨device, events, trace, fate⟩
  refine path_aside events device trace fun e mem => ?_
  obtain buffer | rfl := fate.isBuffer e mem
  · cases e <;> first | rfl | cases buffer
  · rfl

/-- Telling the interface what the runtime holds concerns no channel. -/
theorem tunes_updateWirelessInfo : Tunes updateWirelessInfo :=
  tunes_runtime.bind fun _ => tunes_ite (tunes_note rfl) (tunes_pure _)

/-- A connection attempt that fails concerns no channel. -/
theorem tunes_connectFailed (statusCode : UInt16) : Tunes (connectFailed statusCode) := by
  have link : Tunes (setLinkState false) :=
    tunes_runtime.bind fun _ => tunes_ite (tunes_note rfl) (tunes_pure _)
  have cleared : Tunes clearConnectParams := tunes_change fun _ => rfl
  refine tunes_runtime.bind fun rt => (tunes_change fun _ => by rfl).bind fun _ => ?_
  refine link.bind fun _ => tunes_updateWirelessInfo.bind fun _ => ?_
  refine (tunes_note rfl).bind fun _ => cleared.bind fun _ => ?_
  exact tunes_updateWirelessInfo

/-- Selecting an access point concerns no channel. -/
theorem tunes_selectBss (env : Env) : Tunes (selectBss env) := by
  refine tunes_runtime.bind fun rt => tunes_ite (tunes_pure _) ?_
  refine (tunes_ask _).bind fun scan => ?_
  cases scan with
  | none => exact tunes_ite (tunes_pure _) (tunes_pure _)
  | some results =>
    simp only
    split
    · exact (tunes_change fun _ => by rfl).bind fun _ => tunes_pure _
    · split
      · exact (tunes_change fun _ => by rfl).bind fun _ => tunes_pure _
      · exact tunes_pure _

/-- `lcompat_netdev_connect` is a run of switches. -/
theorem tunes_netdevConnect (env : Env) (params : ConnectParams) (requestPortid : UInt32) :
    Tunes (netdevConnect env params requestPortid) := by
  have checked : Tunes (connectCheck params requestPortid) := by
    refine tunes_runtime.bind fun rt => tunes_ite (tunes_pure _) (tunes_ite (tunes_pure _) ?_)
    refine tunes_ite (tunes_pure _) (tunes_ite (tunes_pure _) ?_)
    exact (tunes_change fun _ => by rfl).bind fun _ => tunes_pure _
  have stepped : Tunes (connectSteps env) := by
    refine (tunes_selectBss env).bind fun selected => tunes_ite (tunes_pure _) ?_
    refine (tunes_change fun _ => by rfl).bind fun _ => tunes_runtime.bind fun rt => ?_
    refine (tunes_setChannel env _).bind fun ret => tunes_ite (tunes_pure _) ?_
    refine (tunes_change fun _ => by rfl).bind fun _ => tunes_updateWirelessInfo.bind fun _ => ?_
    exact tunes_of_sends (sends_sendAuth env)
  refine checked.bind fun ret => tunes_ite (tunes_pure _) (stepped.bind fun ret => ?_)
  refine tunes_ite ?_ (tunes_pure _)
  exact (tunes_connectFailed _).bind fun _ => tunes_pure _

/-- The loop of a scan in software is a run of switches. -/
theorem tunes_scanAll (env : Env) (ssids : List (List UInt8)) (channels : List (Option Channel)) :
    Tunes (scanAll env ssids channels) := by
  have probed : ∀ ssids, Tunes (probeAll env ssids) := by
    intro ssids
    induction ssids with
    | nil => exact tunes_pure _
    | cons ssid ssids ih =>
      refine (tunes_of_sends (sends_sendProbeReq env ssid)).bind fun ret => ?_
      exact tunes_ite (tunes_pure _) ih
  induction channels with
  | nil => exact tunes_pure _
  | cons entry channels ih =>
    cases entry with
    | none => exact ih
    | some chan =>
      have turn : Tunes (scanChannel env ssids chan) := by
        refine (tunes_setChannel env _).bind fun ret => tunes_ite (tunes_pure _) ?_
        exact tunes_ite (tunes_of_sends (sends_sendProbeReq env [])) (probed ssids)
      exact turn.bind fun ret => tunes_ite (tunes_pure _) ih

/-- `lcompat_ieee80211_run_sw_scan` is a run of switches with a channel put back at its end. -/
theorem tunes_runSwScan (env : Env) : Tunes (runSwScan env) := by
  refine tunes_runtime.bind fun rt => ?_
  cases rt.scanReq with
  | none => exact tunes_pure _
  | some scanReq =>
    refine tunes_ite (tunes_pure _) (tunes_ite (tunes_pure _) ?_)
    refine (tunes_note rfl).bind fun _ => (tunes_scanAll env _ _).bind fun ret => ?_
    have restored := tunes_restoreChannel env rt.hw.chandef
    intro m
    have done := restored m
    simp only [restoreChannel, Program.after_bind] at done ⊢
    refine done.mono fun _ m₁ first => first.mono fun _ m₂ path => ?_
    rw [after_note, Program.after_pure]
    exact path.trans (path_aside [.swScanComplete] rfl rfl (by decide))

end Tunings

end Lcompat.Mac80211
