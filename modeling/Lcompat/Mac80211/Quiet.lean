import Lcompat.Mac80211.Management

/-!
# Quiet calls

Most of what the station calls says nothing of the connection or a scan: it sends a frame, sets a
channel or tells the interface what it already holds. Such a call is quiet: it changes nothing of
the runtime but the sequence number and the channel, its events do not concern the connection or a
scan, and it frees no buffer but its own and those it was given.
-/

namespace Lcompat.Mac80211

open Lcompat.Logic
open Lcompat.Net

/-- Whether an event concerns the connection or a scan. -/
def Event.isSignal : Event → Bool
  | .staAdd _ | .staRemove | .connectResult _ _ | .disconnectEvent _ _ _ => true
  | .scanBegin _ _ | .hwScan _ | .scanComplete _ => true
  | _ => false

/-- The events of a trace that concern the connection or a scan. -/
def signals (trace : List Event) : List Event := trace.filter Event.isSignal

/-- The buffer that an event allocates. -/
def Event.allocated : Event → Option Nat
  | .allocSkb id => some id
  | _ => none

/-- The buffer that an event frees. -/
def Event.freed : Event → Option Nat
  | .freeSkb id => some id
  | _ => none

/-- What is read from the events that concern the connection or a scan alone is read from them. -/
theorem filterMap_signals {α : Type} {value : Event → Option α}
    (among : ∀ event, event.isSignal = false → value event = none) (trace : List Event) :
    (signals trace).filterMap value = trace.filterMap value := by
  rw [signals, List.filterMap_filter]
  congr 1
  funext event
  split
  · rfl
  · rename_i silent
    exact (among event (by simpa using silent)).symm

/-- The buffers that have been allocated. -/
def allocated (trace : List Event) : List Nat := trace.filterMap Event.allocated

/-- The buffers that have been freed. -/
def freed (trace : List Event) : List Nat := trace.filterMap Event.freed

/-- What a runtime holds apart from the sequence number and the channel. -/
def Runtime.core (rt : Runtime) : Runtime :=
  { rt with txSeq := 0, hw.chandef := ⟨none, 0, 0, 0⟩ }

/-- From one machine to another these events have concerned the connection, and of the buffers that
were given and allocated these are still in hand: no buffer has been freed twice, or without being
given or allocated. -/
structure Tells (given kept : List Nat) (told : List Event) (m m' : Machine) : Prop where
  /-- Events are only added. -/
  grown : m.trace <:+ m'.trace
  /-- These concern the connection. -/
  signals : signals m'.trace = told ++ signals m.trace
  /-- The buffers that are freed and kept. -/
  freed : ∀ id, (freed m'.trace).count id + (allocated m.trace).count id + kept.count id ≤
    (freed m.trace).count id + (allocated m'.trace).count id + given.count id

/-- A call that says nothing of the connection. -/
structure Quiet (given kept : List Nat) (m m' : Machine) : Prop where
  /-- The runtime is as it was. -/
  core : m'.rt.core = m.rt.core
  /-- No event concerns the connection. -/
  tells : Tells given kept [] m m'

variable {given kept more : List Nat} {told told' : List Event} {m m' m'' : Machine}

/-- Nothing is told where nothing is called. -/
theorem Tells.of_trace (same : m'.trace = m.trace) : Tells given given [] m m' := by
  refine ⟨?_, ?_, fun id => ?_⟩
  · rw [same]
  · rw [same, List.nil_append]
  · rw [same]

/-- What is told in two steps is told together. -/
theorem Tells.trans (first : Tells given kept told m m') (second : Tells kept more told' m' m'') :
    Tells given more (told' ++ told) m m'' := by
  refine ⟨first.grown.trans second.grown, ?_, fun id => ?_⟩
  · rw [second.signals, first.signals, List.append_assoc]
  · have one := first.freed id
    have two := second.freed id
    omega

/-- Buffers that are kept may be left to others. -/
theorem Tells.leave (tells : Tells given kept told m m') : Tells given [] told m m' := by
  refine ⟨tells.grown, tells.signals, fun id => ?_⟩
  have most := tells.freed id
  rw [List.count_nil]
  omega

/-- Buffers that a call does not touch are kept. -/
theorem Tells.frame (tells : Tells given kept told m m') (others : List Nat) :
    Tells (others ++ given) (others ++ kept) told m m' := by
  refine ⟨tells.grown, tells.signals, fun id => ?_⟩
  have most := tells.freed id
  rw [List.count_append, List.count_append]
  omega

/-- One event is told if it concerns the connection. -/
theorem Tells.note (given : List Nat) (m : Machine) (rt : Runtime) (calls : Nat) {event : Event}
    (owned : event.freed = none) :
    Tells given (event.allocated.toList ++ given) (if event.isSignal then [event] else []) m
      ⟨rt, calls, event :: m.trace⟩ := by
  refine ⟨List.suffix_cons event m.trace, ?_, fun id => ?_⟩
  · by_cases signal : event.isSignal <;> simp [Mac80211.signals, signal]
  · have more : allocated (event :: m.trace) = event.allocated.toList ++ allocated m.trace := by
      cases here : event.allocated <;> simp [allocated, here]
    have same : Mac80211.freed (event :: m.trace) = Mac80211.freed m.trace := by
      simp [Mac80211.freed, owned]
    show (Mac80211.freed (event :: m.trace)).count id + _ + _ ≤
      _ + (allocated (event :: m.trace)).count id + _
    rw [same, more, List.count_append, List.count_append]
    omega

/-- Nothing is called. -/
theorem Quiet.refl (m : Machine) : Quiet given given m m := ⟨rfl, .of_trace rfl⟩

/-- Two quiet calls are quiet together. -/
theorem Quiet.trans (first : Quiet given kept m m') (second : Quiet kept more m' m'') :
    Quiet given more m m'' :=
  ⟨second.core.trans first.core, first.tells.trans second.tells⟩

/-- An event that does not concern the connection and frees nothing. -/
theorem Quiet.note (given : List Nat) (m : Machine) {event : Event}
    (silent : event.isSignal = false) (owned : event.freed = none) :
    Quiet given (event.allocated.toList ++ given) m { m with trace := event :: m.trace } := by
  have tells := Tells.note given m m.rt m.calls owned
  rw [silent] at tells
  exact ⟨rfl, tells⟩

/-- A buffer in hand is freed. -/
theorem Quiet.free (m : Machine) (id : Nat) :
    Quiet [id] [] m { m with trace := .freeSkb id :: m.trace } := by
  refine ⟨rfl, List.suffix_cons _ _, by simp [signals, Event.isSignal], fun other => ?_⟩
  have same : allocated (.freeSkb id :: m.trace) = allocated m.trace := rfl
  have more : freed (.freeSkb id :: m.trace) = id :: freed m.trace := rfl
  rw [same, more, List.count_cons, List.count_cons, List.count_nil]
  omega

/-- A program that is quiet wherever it runs, given some buffers, with these kept. -/
def keepsQuiet {α : Type} (given : List Nat) (kept : α → List Nat) (program : Kernel α) : Prop :=
  ∀ m, program.after (fun a m' => Quiet given (kept a) m m') m

section Programs

variable {α β : Type} {keptOf : α → List Nat}

/-- A quiet program before another. -/
theorem keepsQuiet.bind {handed : β → List Nat} {program : Kernel β} {next : β → Kernel α}
    (first : keepsQuiet given handed program)
    (second : ∀ b, keepsQuiet (handed b) keptOf (next b)) :
    keepsQuiet given keptOf (program >>= next) := by
  intro m
  rw [Program.after_bind]
  exact (first m).mono fun b m' quiet => (second b m').mono fun _ m'' later => quiet.trans later

/-- Buffers that are kept may be left to others. -/
theorem keepsQuiet.leave {program : Kernel α} (quiet : keepsQuiet given keptOf program) :
    keepsQuiet given (fun _ => []) program :=
  fun m => (quiet m).mono fun _ _ here => ⟨here.core, here.tells.leave⟩

/-- Buffers that a program does not touch are kept. -/
theorem keepsQuiet.frame {program : Kernel α} (quiet : keepsQuiet [] (fun _ => []) program)
    (given : List Nat) : keepsQuiet given (fun _ => given) program :=
  fun m => (quiet m).mono fun _ _ here => ⟨here.core, by simpa using here.tells.frame given⟩

/-- A result is quiet when the buffers in hand are those that it keeps. -/
theorem keepsQuiet_pure {a : α} (same : given = keptOf a) : keepsQuiet given keptOf (pure a) :=
  fun m => by
    rw [Program.after_pure, ← same]
    exact .refl m

/-- A result is quiet when the buffers in hand are left to others. -/
theorem keepsQuiet_return (a : α) : keepsQuiet given (fun _ => []) (pure a) := by
  have kept : keepsQuiet given (fun _ => given) (pure a) := keepsQuiet_pure rfl
  exact kept.leave

/-- A value that is required is quiet. -/
theorem keepsQuiet_require (value : Option α) :
    keepsQuiet given (fun _ => given) (.require value) := fun m => by
  rw [Program.after_require]
  exact fun _ _ => .refl m

/-- Reading the runtime is quiet. -/
theorem keepsQuiet_runtime : keepsQuiet given (fun _ => given) runtime := fun m => by
  rw [after_runtime]
  exact .refl m

/-- An answer is quiet. -/
theorem keepsQuiet_ask (answer : Nat → α) : keepsQuiet given (fun _ => given) (ask answer) :=
  fun m => by
    rw [after_ask]
    exact ⟨rfl, .of_trace rfl⟩

/-- A change that leaves the core alone is quiet. -/
theorem keepsQuiet_change {update : Runtime → Runtime}
    (core : ∀ rt, (update rt).core = rt.core) :
    keepsQuiet given (fun _ => given) (change update) := fun m => by
  rw [after_change]
  exact ⟨core m.rt, .of_trace rfl⟩

/-- An event that does not concern the connection, of no buffer that is allocated or freed. -/
theorem keepsQuiet_note {event : Event} (silent : event.isSignal = false)
    (owned : event.freed = none) (old : event.allocated = none) :
    keepsQuiet given (fun _ => given) (note event) := fun m => by
  rw [after_note]
  have quiet := Quiet.note given m silent owned
  rwa [old] at quiet

/-- Freeing a buffer in hand is quiet. -/
theorem keepsQuiet_free (skb : SkBuff) : keepsQuiet [skb.id] (fun _ => []) (devKfreeSkbAny skb) :=
  fun m => by
    rw [devKfreeSkbAny, after_note]
    exact Quiet.free m skb.id

/-- Either of two quiet programs is quiet. -/
theorem keepsQuiet_ite {condition : Prop} [Decidable condition] {yes no : Kernel α}
    (one : keepsQuiet given keptOf yes) (other : keepsQuiet given keptOf no) :
    keepsQuiet given keptOf (if condition then yes else no) := by
  split
  · exact one
  · exact other

end Programs

section Calls

/-- Telling the interface of the connection is quiet. -/
theorem keepsQuiet_updateWirelessInfo : keepsQuiet [] (fun _ => []) updateWirelessInfo :=
  keepsQuiet_runtime.bind fun _ =>
    keepsQuiet_ite (keepsQuiet_note rfl rfl rfl) (keepsQuiet_pure rfl)

/-- Setting the state of the link is quiet. -/
theorem keepsQuiet_setLinkState (up : Bool) : keepsQuiet [] (fun _ => []) (setLinkState up) :=
  keepsQuiet_runtime.bind fun _ =>
    keepsQuiet_ite (keepsQuiet_note rfl rfl rfl) (keepsQuiet_pure rfl)

/-- Telling the driver of the access point is quiet. -/
theorem keepsQuiet_callBssInfoChanged (conf : BssConf) :
    keepsQuiet [] (fun _ => []) (callBssInfoChanged conf) :=
  keepsQuiet_runtime.bind fun _ =>
    keepsQuiet_ite (keepsQuiet_note rfl rfl rfl) (keepsQuiet_pure rfl)

/-- Configuring the device is quiet. -/
theorem keepsQuiet_callConfig (env : Env) : keepsQuiet [] (fun _ => []) (callConfig env) :=
  keepsQuiet_runtime.bind fun _ => keepsQuiet_ite ((keepsQuiet_ask _).bind fun _ =>
    (keepsQuiet_note rfl rfl rfl).bind fun _ => keepsQuiet_pure rfl) (keepsQuiet_pure rfl)

/-- Setting the channel is quiet. -/
theorem keepsQuiet_setChannel (env : Env) (frequency : UInt32) :
    keepsQuiet [] (fun _ => []) (setChannel env frequency) := by
  refine keepsQuiet_runtime.bind fun rt => keepsQuiet_ite (keepsQuiet_pure rfl) ?_
  split
  · exact keepsQuiet_pure rfl
  · refine keepsQuiet_ite (keepsQuiet_pure rfl) ?_
    refine keepsQuiet.bind (keepsQuiet_change ?_) fun _ => keepsQuiet_callConfig env
    exact fun _ => rfl

/-- Taking a sequence number is quiet. -/
theorem keepsQuiet_nextSeqCtrl : keepsQuiet [] (fun _ => []) nextSeqCtrl := by
  refine keepsQuiet_runtime.bind fun rt => ?_
  refine keepsQuiet.bind (keepsQuiet_change ?_) fun _ => keepsQuiet_pure rfl
  exact fun _ => rfl

/-- Sending a management frame is quiet. -/
theorem keepsQuiet_sendMgmt (skb : SkBuff) : keepsQuiet [skb.id] (fun _ => []) (sendMgmt skb) := by
  refine keepsQuiet_runtime.bind fun rt => keepsQuiet_ite (keepsQuiet_return _) ?_
  have prepare : keepsQuiet [] (fun _ => []) mgdPrepareTx := keepsQuiet_runtime.bind fun _ =>
    keepsQuiet_ite (keepsQuiet_note rfl rfl rfl) (keepsQuiet_pure rfl)
  refine (prepare.frame [skb.id]).bind fun _ => ?_
  exact (keepsQuiet_note rfl rfl rfl).bind fun _ => keepsQuiet_return _

/-- Allocating a buffer is quiet, and the buffer is in hand. -/
theorem keepsQuiet_allocSkb (env : Env) (size : Nat) :
    keepsQuiet [] (fun skb => (skb.map SkBuff.id).toList) (allocSkb env size) := fun m => by
  rw [after_allocSkb]
  cases Net.allocSkb (env.page m.calls) m.calls size with
  | none => exact ⟨rfl, .of_trace rfl⟩
  | some skb =>
    have quiet := @Quiet.note [] m (.allocSkb skb.id) rfl rfl
    exact ⟨rfl, quiet.tells.grown, quiet.tells.signals, quiet.tells.freed⟩

/-- Reserving room leaves a buffer the one it is. -/
theorem id_skbReserve (skb : SkBuff) (len : UInt32) : (skbReserve skb len).id = skb.id := by
  unfold skbReserve
  split <;> rfl

/-- Taking room leaves a buffer the one it is. -/
theorem id_of_skbPut {skb out : SkBuff} {len : UInt32} {pos : Nat}
    (put : skbPut skb len = some (pos, out)) : out.id = skb.id := by
  unfold skbPut at put
  split at put
  · cases put
  · obtain ⟨-, rfl⟩ := Prod.mk.inj (Option.some.inj put)
    rfl

/-- Allocating a buffer for a frame is quiet, and the buffer is in hand. -/
theorem keepsQuiet_allocTxSkb (env : Env) (payloadLen : Nat) :
    keepsQuiet [] (fun skb => (skb.map SkBuff.id).toList) (allocTxSkb env payloadLen) := by
  refine keepsQuiet_runtime.bind fun rt => keepsQuiet_ite (keepsQuiet_pure rfl) ?_
  simp only
  split
  · exact keepsQuiet_pure rfl
  · refine keepsQuiet_ite (keepsQuiet_pure rfl) ?_
    refine (keepsQuiet_allocSkb env _).bind fun skb => ?_
    cases skb with
    | none => exact keepsQuiet_pure rfl
    | some skb =>
      have same : (if rt.hw.extraTxHeadroom.toNat = 0 then skb
          else skbReserve skb (UInt32.ofNat rt.hw.extraTxHeadroom.toNat)).id = skb.id := by
        split
        · rfl
        · exact id_skbReserve _ _
      exact keepsQuiet_pure (by simp only [Option.map_some, same])

/-- Starting a management frame is quiet, and its buffer is in hand. -/
theorem keepsQuiet_allocMgmt (env : Env) (frameLen : UInt32) (more : Nat) :
    keepsQuiet [] (fun frame => (frame.map fun frame => frame.2.id).toList)
      (allocMgmt env frameLen more) := by
  refine (keepsQuiet_allocTxSkb env _).bind fun skb => ?_
  cases skb with
  | none => exact keepsQuiet_pure rfl
  | some skb =>
    simp only
    cases zeroed : skbPutZero skb frameLen with
    | none => exact (keepsQuiet_free skb).bind fun _ => keepsQuiet_pure rfl
    | some frame =>
      have same : frame.2.id = skb.id := by
        obtain ⟨⟨pos, out⟩, put, rfl⟩ := Option.map_eq_some_iff.mp zeroed
        exact (id_of_skbPut put : out.id = skb.id)
      exact keepsQuiet_pure (by simp only [Option.map_some, same])

/-- Writing the header of a management frame is quiet, and its buffer is still in hand. -/
theorem keepsQuiet_writeMgmtHeader (skb : SkBuff) (frame : Nat) (fc : UInt16) :
    keepsQuiet [skb.id] (fun out => [out.id]) (writeMgmtHeader skb frame fc) := by
  refine keepsQuiet_runtime.bind fun rt => (keepsQuiet_require rt.vif).bind fun vif => ?_
  exact (keepsQuiet_nextSeqCtrl.frame _).bind fun seqCtrl => keepsQuiet_pure rfl

/-- Sending an authentication frame is quiet. -/
theorem keepsQuiet_sendAuth (env : Env) : keepsQuiet [] (fun _ => []) (sendAuth env) := by
  refine keepsQuiet_runtime.bind fun rt => keepsQuiet_ite (keepsQuiet_pure rfl) ?_
  refine (keepsQuiet_allocMgmt env _ _).bind fun frame => ?_
  cases frame with
  | none => exact keepsQuiet_pure rfl
  | some frame =>
    refine (keepsQuiet_writeMgmtHeader _ _ _).bind fun skb => ?_
    exact keepsQuiet_sendMgmt (skb.write _ _)

/-- Sending a frame with elements is quiet. -/
theorem keepsQuiet_sendWithIes (skb : SkBuff) (count : Nat) (ies : List UInt8) :
    keepsQuiet [skb.id] (fun _ => []) (sendWithIes skb count ies) := by
  unfold sendWithIes
  cases put : skbPut skb (UInt32.ofNat count) with
  | none => exact (keepsQuiet_free skb).bind fun _ => keepsQuiet_pure rfl
  | some result =>
    obtain ⟨pos, out⟩ := result
    have same : out.id = skb.id := id_of_skbPut put
    have written : (out.write pos ies).id = skb.id := same
    simp only
    rw [← written]
    exact keepsQuiet_ite ((keepsQuiet_free _).bind fun _ => keepsQuiet_pure rfl)
      (keepsQuiet_sendMgmt _)

/-- Sending an association request is quiet. -/
theorem keepsQuiet_sendAssocReq (env : Env) (bss : ScanResult) :
    keepsQuiet [] (fun _ => []) (sendAssocReq env bss) := by
  refine keepsQuiet_runtime.bind fun rt => keepsQuiet_ite (keepsQuiet_pure rfl) ?_
  refine (keepsQuiet_require _).bind fun chan => keepsQuiet_ite (keepsQuiet_pure rfl) ?_
  simp only
  split
  · refine keepsQuiet_ite (keepsQuiet_pure rfl) ?_
    refine (keepsQuiet_allocMgmt env _ _).bind fun frame => ?_
    cases frame with
    | none => exact keepsQuiet_pure rfl
    | some frame =>
      refine (keepsQuiet_writeMgmtHeader _ _ _).bind fun skb => ?_
      exact keepsQuiet_sendWithIes (skb.write _ _) _ _
  · exact keepsQuiet_pure rfl

/-- Taking leave of the access point is quiet. -/
theorem keepsQuiet_sendDeauth (env : Env) (reasonCode : UInt16) :
    keepsQuiet [] (fun _ => []) (sendDeauth env reasonCode) := by
  refine (keepsQuiet_allocMgmt env _ _).bind fun frame => ?_
  cases frame with
  | none => exact keepsQuiet_pure rfl
  | some frame =>
    refine (keepsQuiet_writeMgmtHeader _ _ _).bind fun skb => ?_
    exact (keepsQuiet_sendMgmt (skb.write _ _)).bind fun _ => keepsQuiet_pure rfl

/-- Storing a scan result is quiet. -/
theorem keepsQuiet_storeScanResult (env : Env) (skb : SkBuff) :
    keepsQuiet [] (fun _ => []) (storeScanResult env skb) := by
  refine keepsQuiet_runtime.bind fun rt => keepsQuiet_ite (keepsQuiet_pure rfl) ?_
  refine (keepsQuiet_require _).bind fun memory => (keepsQuiet_require _).bind fun fc => ?_
  refine keepsQuiet_ite (keepsQuiet_pure rfl) (keepsQuiet_ite (keepsQuiet_pure rfl) ?_)
  exact (keepsQuiet_require _).bind fun result => keepsQuiet_note rfl rfl rfl

/-- Allocating entries is quiet. -/
theorem keepsQuiet_kzallocAll (env : Env) (count : Nat) :
    keepsQuiet [] (fun _ => []) (kzallocAll env count) := by
  induction count with
  | zero => exact keepsQuiet_pure rfl
  | succ count ih =>
    exact (keepsQuiet_ask _).bind fun given =>
      keepsQuiet_ite ih (keepsQuiet_pure rfl)

end Calls

end Lcompat.Mac80211
