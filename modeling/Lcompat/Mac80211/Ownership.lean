import Lcompat.Mac80211.Filling
import Lcompat.Mac80211.Requests

/-!
# Who owns a frame

Five functions of `mac80211.c` allocate a buffer and write a frame into it. What becomes of the
buffer is in the trace: it is handed over, to `ops->tx` or through a queue of which the driver is
told, or it is freed. `lcompat_ieee80211_send_mgmt` does neither for a driver that has no `tx`.
-/

namespace Lcompat.Mac80211

open Lcompat.Logic
open Lcompat.Net

/-- The queue that `lcompat_netdev_send` takes. A station entry has all of its queues, and a runtime
with an interface has the queue of the interface. -/
def txqOf (rt : Runtime) (skb : SkBuff) : TxQueue :=
  if rt.sta.isSome then .sta (Fin.ofNat 16 (skb.priority &&& 15).toNat) else .vif

/-- `lcompat_netdev_send`. -/
def netdevSend (env : Env) (data : Memory) (len : UInt32) : Kernel Int := do
  let (ret, frame) ← buildDataFrame env data len
  if ret ≠ 0 then return ret
  let skb ← .require frame
  let rt ← runtime
  let txq := txqOf rt skb
  if rt.hw.ops.wakeTxQueue then
    note (.queueTx txq skb.id skb.bytes)
    note (.wakeTxQueue txq)
    return 0
  note (.tx skb.id skb.bytes)
  return 0

/-- The buffer that an event hands over. -/
def Event.handed : Event → Option Nat
  | .tx id _ | .queueTx _ id _ => some id
  | _ => none

/-- Whether an event concerns a buffer. -/
def Event.isBuffer : Event → Bool
  | .tx _ _ | .queueTx _ _ _ | .wakeTxQueue _ | .allocSkb _ | .freeSkb _ => true
  | _ => false

/-- The driver is told of every buffer that is appended to a queue. -/
def Woken (events : List Event) : Prop :=
  ∀ newer older queue id frame, events = newer ++ .queueTx queue id frame :: older →
    ∃ newest, newer = newest ++ [.wakeTxQueue queue]

/-- Each buffer that has been allocated from one machine to another is handed over once or freed
once, and it is handed over exactly where success is reported. -/
def SettledOnce (m m' : Machine) (reported : Prop) : Prop :=
  ∃ events, m'.trace = events ++ m.trace ∧ Woken events ∧ ∀ id ∈ allocated events,
    (events.filterMap Event.handed).count id + (freed events).count id = 1 ∧
      ((events.filterMap Event.handed).count id = 1 ↔ reported)

/-- An allocation comes to a buffer with memory for a frame of some length. -/
def Gets (env : Env) (m : Machine) (payloadLen : Nat) : Prop :=
  0 ≤ m.rt.hw.extraTxHeadroom ∧ m.rt.hw.extraTxHeadroom.toNat + payloadLen ≤ uintMax ∧
    (env.page m.calls).isMapped = true

/-- What becomes of a management frame, given whether the driver has `tx`, whether the frame can be
built, and what is known of its bytes: the result, and the events. -/
inductive Fate (tx : Bool) (built : Prop) (content : List UInt8 → Prop) : Int → List Event → Prop
  /-- Nothing is allocated. -/
  | unallocated {ret : Int} (unbuilt : ¬built) (failed : ret < 0) : Fate tx built content ret []
  /-- The buffer has no memory, and is freed. -/
  | released {ret : Int} {id : Nat} (unbuilt : ¬built) (failed : ret < 0) :
      Fate tx built content ret [.freeSkb id, .allocSkb id]
  /-- The frame is handed over. -/
  | passed {id : Nat} {bytes : List UInt8} {prepared : List Event} (driver : tx = true)
      (whole : built) (written : content bytes)
      (prepare : prepared = [] ∨ prepared = [.mgdPrepareTx]) :
      Fate tx built content 0 (.tx id (some bytes) :: (prepared ++ [.allocSkb id]))
  /-- The frame is neither handed over nor freed. -/
  | leaked {id : Nat} (driver : tx = false) (whole : built) :
      Fate tx built content (-EINVAL) [.allocSkb id]

/-- A program sends a frame: it leaves the device as it is, and this becomes of the frame. -/
def Sends (built : Prop) (content : List UInt8 → Prop) (program : Kernel Int) (m : Machine) :
    Prop :=
  program.after (fun ret m' => m'.rt.hw = m.rt.hw ∧ ∃ events, m'.trace = events ++ m.trace ∧
    Fate m.rt.hw.ops.tx built content ret events) m

/-- The one buffer of some events is handed over once. -/
theorem handed_once {events : List Event} {own : Nat} {reported : Prop}
    (one : allocated events = [own]) (once : events.filterMap Event.handed = [own])
    (never : freed events = []) (success : reported) {id : Nat} (mem : id ∈ allocated events) :
    (events.filterMap Event.handed).count id + (freed events).count id = 1 ∧
      ((events.filterMap Event.handed).count id = 1 ↔ reported) := by
  rw [one, List.mem_singleton] at mem
  rw [once, never, mem]
  simp [success]

section Fates

variable {tx : Bool} {built : Prop} {content : List UInt8 → Prop} {ret : Int} {events : List Event}

/-- A frame that cannot be built, or that there is a driver to take, is handed over or freed. -/
theorem Fate.settled (fate : Fate tx built content ret events) (safe : tx = true ∨ ¬built)
    {id : Nat} (mem : id ∈ allocated events) :
    (events.filterMap Event.handed).count id + (freed events).count id = 1 ∧
      ((events.filterMap Event.handed).count id = 1 ↔ ret = 0) := by
  cases fate with
  | unallocated => simp [allocated] at mem
  | released _ failed =>
    rename_i own _
    have once : freed [.freeSkb own, .allocSkb own] = [own] := rfl
    have never : [Event.freeSkb own, .allocSkb own].filterMap Event.handed = [] := rfl
    have same : allocated [.freeSkb own, .allocSkb own] = [own] := rfl
    rw [same, List.mem_singleton] at mem
    rw [once, never, mem]
    have nonzero : ret ≠ 0 := by omega
    simp [nonzero]
  | passed _ _ _ prepare =>
    rename_i own _ _ _ _ _
    obtain rfl | rfl := prepare
    · exact @handed_once _ own _ rfl rfl rfl rfl id mem
    · exact @handed_once _ own _ rfl rfl rfl rfl id mem
  | leaked driver whole =>
    obtain here | unbuilt := safe
    · rw [driver] at here
      cases here
    · exact absurd whole unbuilt

/-- A frame that is built for a driver that cannot take it is lost. -/
theorem Fate.lost (fate : Fate tx built content ret events) (driver : tx = false) (whole : built) :
    ∃ id, events = [.allocSkb id] := by
  cases fate with
  | unallocated unbuilt => exact absurd whole unbuilt
  | released unbuilt => exact absurd whole unbuilt
  | passed here =>
    rw [driver] at here
    cases here
  | leaked => exact ⟨_, rfl⟩

/-- A frame succeeds exactly where it is built and there is a driver to take it. -/
theorem Fate.zero_iff (fate : Fate tx built content ret events) : ret = 0 ↔ tx = true ∧ built := by
  cases fate with
  | unallocated unbuilt failed =>
    exact iff_of_false (by omega) fun both => unbuilt both.2
  | released unbuilt failed =>
    exact iff_of_false (by omega) fun both => unbuilt both.2
  | passed driver whole => exact iff_of_true rfl ⟨driver, whole⟩
  | leaked driver =>
    refine iff_of_false (by decide) fun both => ?_
    rw [driver] at both
    cases both.1

/-- A frame is not queued. -/
theorem Fate.unqueued (fate : Fate tx built content ret events) :
    ∀ e ∈ events, ∀ queue id frame, e ≠ .queueTx queue id frame := by
  cases fate with
  | unallocated => simp
  | released => simp
  | passed _ _ _ prepare => obtain rfl | rfl := prepare <;> simp
  | leaked => simp

/-- Only buffers are concerned, and the driver that prepares for a frame. -/
theorem Fate.isBuffer (fate : Fate tx built content ret events) :
    ∀ e ∈ events, e.isBuffer = true ∨ e = .mgdPrepareTx := by
  cases fate with
  | unallocated => simp
  | released => simp [Event.isBuffer]
  | passed _ _ _ prepare => obtain rfl | rfl := prepare <;> simp [Event.isBuffer]
  | leaked => simp [Event.isBuffer]

/-- A frame that succeeds has been handed over. -/
theorem Fate.of_zero (fate : Fate tx built content 0 events) : ∃ id bytes prepared,
    content bytes ∧ (prepared = [] ∨ prepared = [.mgdPrepareTx]) ∧
      events = .tx id (some bytes) :: (prepared ++ [.allocSkb id]) := by
  generalize zero : (0 : Int) = ret at fate
  cases fate with
  | unallocated _ failed => omega
  | released _ failed => omega
  | passed _ _ written prepare => exact ⟨_, _, _, written, prepare, rfl⟩
  | leaked => cases zero

/-- The same fate, of a frame of which less is known. -/
theorem Fate.imp {built' : Prop} {content' : List UInt8 → Prop}
    (fate : Fate tx built content ret events) (same : built' ↔ built)
    (weaker : ∀ bytes, content bytes → content' bytes) : Fate tx built' content' ret events := by
  cases fate with
  | unallocated unbuilt failed => exact .unallocated (mt same.mp unbuilt) failed
  | released unbuilt failed => exact .released (mt same.mp unbuilt) failed
  | passed driver whole written prepare =>
    exact .passed driver (same.mpr whole) (weaker _ written) prepare
  | leaked driver whole => exact .leaked driver (same.mpr whole)

end Fates

section Building

variable {env : Env} {m : Machine}

/-- A buffer that has just been allocated has its number, and memory if its page has. -/
theorem head_of_allocSkb {page : Page} {id size : Nat} {skb : SkBuff}
    (allocated : Net.allocSkb page id size = some skb) :
    skb.head.isSome = page.isMapped := by
  cases page with
  | failed => simp [Net.allocSkb] at allocated
  | unmapped =>
    obtain ⟨-, rfl⟩ : size ≤ uintMax ∧ _ = skb := by simpa [Net.allocSkb] using allocated
    rfl
  | mapped memory =>
    obtain ⟨-, rfl⟩ : size ≤ uintMax ∧ _ = skb := by simpa [Net.allocSkb] using allocated
    rfl

/-- An allocation of a size that is counted in 32 bits gives a buffer when there is memory. -/
theorem isSome_allocSkb {page : Page} {size : Nat} (mapped : page.isMapped = true)
    (fits : size ≤ uintMax) (id : Nat) : (Net.allocSkb page id size).isSome = true := by
  cases page with
  | failed => cases mapped
  | unmapped => cases mapped
  | mapped memory =>
    obtain ⟨skb, given⟩ := exists_allocSkb fits memory id
    rw [given]
    rfl

/-- A frame buffer is allocated, and has memory exactly where the allocation comes to it. -/
theorem after_allocTxSkb_gets (env : Env) (payloadLen : Nat) (m : Machine) :
    (allocTxSkb env payloadLen).after (fun out m' => m'.rt = m.rt ∧
      ((out = none ∧ ¬Gets env m payloadLen ∧ m'.trace = m.trace) ∨
        ∃ skb, out = some skb ∧ m'.trace = .allocSkb skb.id :: m.trace ∧
          (skb.head.isSome = true ↔ Gets env m payloadLen))) m := by
  unfold allocTxSkb
  simp only [Program.after_bind, after_runtime, Program.after_ite, Program.after_pure]
  split
  · rename_i negative
    exact ⟨trivial, .inl ⟨trivial, fun gets => absurd gets.1 (by omega), trivial⟩⟩
  cases sum : sizeAdd m.rt.hw.extraTxHeadroom.toNat payloadLen with
  | none =>
    simp only [Program.after_pure]
    refine ⟨trivial, .inl ⟨trivial, fun gets => ?_, trivial⟩⟩
    rw [sizeAdd_of_fits gets.2.1] at sum
    cases sum
  | some skbLen =>
    obtain rfl := add_of_sizeAdd sum
    simp only [Program.after_ite, Program.after_pure]
    split
    · refine ⟨trivial, .inl ⟨trivial, fun gets => ?_, trivial⟩⟩
      have fits := gets.2.1
      omega
    have gets : Gets env m payloadLen ↔ (env.page m.calls).isMapped = true :=
      ⟨fun gets => gets.2.2, fun mapped => ⟨by omega, by omega, mapped⟩⟩
    simp only [Program.after_bind, after_allocSkb]
    cases given : Net.allocSkb (env.page m.calls) m.calls
        (m.rt.hw.extraTxHeadroom.toNat + payloadLen) with
    | none =>
      simp only [Program.after_pure]
      refine ⟨trivial, .inl ⟨trivial, fun got => ?_, rfl⟩⟩
      have found := isSome_allocSkb got.2.2 got.2.1 m.calls
      rw [given] at found
      cases found
    | some skb =>
      simp only [Program.after_pure]
      have mapped := head_of_allocSkb given
      refine ⟨trivial, .inr ⟨_, rfl, ?_, ?_⟩⟩
      · rw [apply_ite SkBuff.id, id_skbReserve, ite_self]
        rfl
      · rw [gets, apply_ite SkBuff.head, head_skbReserve, ite_self, mapped]

/-- A management frame is started with zeros and room for what is to come behind them, exactly where
the allocation comes to a buffer with memory. A buffer without memory is freed. -/
theorem after_allocMgmt_gets (env : Env) (frameLen : UInt32) (more : Nat) (m : Machine) :
    (allocMgmt env frameLen more).after (fun out m' => m'.rt = m.rt ∧
      ((out = none ∧ ¬Gets env m (frameLen.toNat + more) ∧
          (m'.trace = m.trace ∨ ∃ id, m'.trace = .freeSkb id :: .allocSkb id :: m.trace)) ∨
        ∃ skb, out = some (skb.data, skb) ∧ Gets env m (frameLen.toNat + more) ∧
          m'.trace = .allocSkb skb.id :: m.trace ∧ skb.Linear (List.replicate frameLen.toNat 0) ∧
          skb.tail.toNat + more ≤ skb.limit.toNat)) m := by
  unfold allocMgmt
  simp only [Program.after_bind]
  refine ((after_allocTxSkb_gets env _ m).and (after_allocTxSkb env _ m)).mono ?_
  rintro given m' ⟨⟨same, outcome⟩, -, room⟩
  obtain ⟨rfl, lacks, trace⟩ | ⟨skb, rfl, trace, gets⟩ := outcome
  · rw [Program.after_pure]
    exact ⟨same, .inl ⟨rfl, lacks, .inl trace⟩⟩
  · simp only
    cases mapped : skb.head.isSome with
    | false =>
      rw [mapped] at gets
      simp only [skbPutZero, skbPut_of_unmapped mapped, Option.map_none, devKfreeSkbAny,
        Program.after_bind, after_note, Program.after_pure]
      refine ⟨same, .inl ⟨trivial, fun got => ?_, .inr ⟨skb.id, by rw [trace]⟩⟩⟩
      cases gets.mpr got
    | true =>
      obtain ⟨empty, room⟩ := room skb rfl mapped
      have zeros : (List.replicate frameLen.toNat (0 : UInt8)).length = frameLen.toNat :=
        List.length_replicate
      have start : skb.tail.toNat = skb.data := by simpa using empty.tail
      rw [empty.skbPutZero_eq (by omega), start]
      simp only [Program.after_pure]
      refine ⟨same, .inr ⟨skb.appended (List.replicate frameLen.toNat 0), rfl, gets.mp mapped,
        trace, empty.appended (by omega), ?_⟩⟩
      refine SkBuff.Linear.room_appended ?_
      rw [zeros]
      exact room

/-- A frame for which no buffer stays is not handed over. -/
theorem exists_fate_of_none {built : Prop} {content : List UInt8 → Prop} {ret : Int} {m' : Machine}
    {tx : Bool} (unbuilt : ¬built) (failed : ret < 0) (outcome : m'.trace = m.trace ∨
      ∃ id, m'.trace = .freeSkb id :: .allocSkb id :: m.trace) :
    ∃ events, m'.trace = events ++ m.trace ∧ Fate tx built content ret events := by
  obtain same | ⟨id, freed⟩ := outcome
  · exact ⟨[], same, .unallocated unbuilt failed⟩
  · exact ⟨[.freeSkb id, .allocSkb id], freed, .released unbuilt failed⟩

/-- A frame that has been built is handed over if there is a driver to take it. -/
theorem after_sendMgmt_fate {built : Prop} {content : List UInt8 → Prop} {skb : SkBuff}
    {bytes : List UInt8} {m₁ : Machine} (linear : skb.Linear bytes) (written : content bytes)
    (whole : built) (device : m₁.rt.hw = m.rt.hw) (trace : m₁.trace = .allocSkb skb.id :: m.trace) :
    (sendMgmt skb).after (fun ret m' => m'.rt.hw = m.rt.hw ∧ ∃ events,
      m'.trace = events ++ m.trace ∧ Fate m.rt.hw.ops.tx built content ret events) m₁ := by
  simp only [sendMgmt, mgdPrepareTx, Program.after_bind, after_runtime, Program.after_ite,
    Program.after_pure, after_note, device, linear.bytes_eq, trace]
  cases driver : m.rt.hw.ops.tx with
  | false => exact ⟨trivial, [.allocSkb skb.id], rfl, .leaked rfl whole⟩
  | true =>
    rw [if_neg (by simp)]
    split
    · exact ⟨trivial, _, rfl, .passed rfl whole written (.inr rfl)⟩
    · exact ⟨trivial, _, rfl, .passed rfl whole written (.inl rfl)⟩

/-- Writing the header of a management frame touches neither the buffer's number nor the device. -/
theorem after_writeMgmtHeader_kept (skb : SkBuff) (frame : Nat) (fc : UInt16) (m : Machine) :
    (writeMgmtHeader skb frame fc).after (fun skb' m' => skb'.id = skb.id ∧
      m'.trace = m.trace ∧ m'.rt.hw = m.rt.hw ∧ m.rt.vif.isSome = true) m := by
  simp only [writeMgmtHeader, nextSeqCtrl, Program.after_bind, after_runtime, Program.after_require,
    after_change, Program.after_pure]
  intro vif here
  exact ⟨rfl, trivial, trivial, by rw [here]; rfl⟩

/-- `lcompat_ieee80211_send_auth` comes to a frame. -/
def BuildsAuth (env : Env) (m : Machine) : Prop :=
  m.rt.connectParams.hasBssid = true ∧ m.rt.vif.isSome = true ∧ Gets env m authFrameLen.toNat

/-- What becomes of an authentication frame. -/
theorem sends_sendAuth (env : Env) (m : Machine) :
    Sends (BuildsAuth env m) (fun bytes => cpuToLe16 fcAuth <+: bytes) (sendAuth env) m := by
  unfold Sends sendAuth BuildsAuth
  simp only [Program.after_bind, after_runtime, Program.after_ite, Program.after_pure]
  split
  · rename_i unnamed
    refine ⟨trivial, [], rfl, .unallocated (fun builds => ?_) (by decide)⟩
    rw [builds.1] at unnamed
    cases unnamed
  rename_i named
  refine (after_allocMgmt_gets env authFrameLen 0 m).mono ?_
  rintro given m₁ ⟨same, ⟨rfl, lacks, outcome⟩ | ⟨skb, rfl, gets, trace, linear, -⟩⟩
  · rw [Program.after_pure]
    refine ⟨by rw [same], exists_fate_of_none (fun builds => ?_) (by decide) outcome⟩
    exact lacks builds.2.2
  · simp only [Program.after_bind]
    refine ((after_writeMgmtHeader linear (by simp [authFrameLen]) fcAuth m₁).and
      (after_writeMgmtHeader_kept skb skb.data fcAuth m₁)).mono ?_
    rintro skb' m₂ ⟨⟨data, -, -, bytes, count, begins, linear'⟩, id_eq, trace', device, here⟩
    obtain ⟨bytes', -, begins', whole⟩ := linear_write_behind linear' begins
      (show _ ≤ 24 by simp [length_cpuToLe16])
      (show 24 + (cpuToLe16 0 ++ cpuToLe16 1 ++ cpuToLe16 wlanStatusSuccess).length ≤ _ by
        rw [count]
        simp [length_cpuToLe16, authFrameLen])
    rw [data] at whole
    have named' : m.rt.connectParams.hasBssid = true := by simpa using named
    refine after_sendMgmt_fate whole begins' ⟨named', by rwa [same] at here, gets⟩ ?_ ?_
    · rw [device, same]
    · rw [trace', trace]
      exact congrArg (fun id => .allocSkb id :: m.trace) id_eq.symm

/-- `lcompat_ieee80211_send_assoc_req` comes to a frame. -/
def BuildsAssocReq (env : Env) (bss : ScanResult) (m : Machine) : Prop :=
  m.rt.connectParams.hasBssid = true ∧
    (∃ chan, m.rt.hw.chandef.chan = some chan ∧ (m.rt.hw.bands chan.band).isSome = true) ∧
    m.rt.vif.isSome = true ∧
    ∃ total, assocReqLen m.rt.connectParams.ssid (assocReqRates m.rt.hw bss).1
        (assocReqRates m.rt.hw bss).2 (bssHasWmm bss) = some total ∧ total ≤ uintMax ∧
      Gets env m total

/-- What becomes of an association request. -/
theorem sends_sendAssocReq (env : Env) (bss : ScanResult) (m : Machine) :
    Sends (BuildsAssocReq env bss m) (fun bytes => cpuToLe16 fcAssocReq <+: bytes)
      (sendAssocReq env bss) m := by
  obtain ⟨supp_le, ext_le⟩ := length_assocReqRates_le m.rt.hw bss
  have supp_eq : (buildSupportedRatesIe m.rt.hw bss 8 16).1.takeWhile (· ≠ 0) =
    (assocReqRates m.rt.hw bss).1 := rfl
  have ext_eq : (buildSupportedRatesIe m.rt.hw bss 8 16).2.takeWhile (· ≠ 0) =
    (assocReqRates m.rt.hw bss).2 := rfl
  unfold Sends sendAssocReq
  simp only [supp_eq, ext_eq, Program.after_bind, after_runtime, Program.after_ite,
    Program.after_pure, Program.after_require]
  split
  · rename_i unnamed
    refine ⟨trivial, exists_fate_of_none (fun builds => ?_) (by decide) (.inl rfl)⟩
    rw [builds.1] at unnamed
    cases unnamed
  rename_i named
  intro chan tuned
  split
  · rename_i unknown
    refine ⟨trivial, exists_fate_of_none (fun builds => ?_) (by decide) (.inl rfl)⟩
    obtain ⟨-, ⟨chan', tuned', known⟩, -⟩ := builds
    obtain rfl := Option.some.inj (tuned.symm.trans tuned')
    rw [Option.isNone_iff_eq_none] at unknown
    rw [unknown] at known
    cases known
  rename_i known
  cases counted : assocReqLen m.rt.connectParams.ssid (assocReqRates m.rt.hw bss).1
      (assocReqRates m.rt.hw bss).2 (bssHasWmm bss) with
  | none =>
    rw [Program.after_pure]
    refine ⟨rfl, exists_fate_of_none (fun builds => ?_) (by decide) (.inl rfl)⟩
    obtain ⟨-, -, -, total, some_total, -⟩ := builds
    rw [counted] at some_total
    cases some_total
  | some total =>
    obtain ⟨ssid_le, total_eq⟩ := (assocReqLen_eq_some_iff supp_le ext_le).mp counted
    have same_total : ∀ {other}, assocReqLen m.rt.connectParams.ssid (assocReqRates m.rt.hw bss).1
        (assocReqRates m.rt.hw bss).2 (bssHasWmm bss) = some other → other = total := by
      intro other some_other
      exact Option.some.inj (some_other.symm.trans counted)
    simp only [Program.after_ite, Program.after_pure, Program.after_bind]
    split
    · rename_i long
      refine ⟨trivial, exists_fate_of_none (fun builds => ?_) (by decide) (.inl rfl)⟩
      obtain ⟨-, -, -, other, some_other, short, -⟩ := builds
      rw [same_total some_other] at short
      omega
    rename_i short
    have parts : assocReqFrameLen.toNat + (total - assocReqFrameLen.toNat) = total := by omega
    refine (after_allocMgmt_gets env _ _ m).mono ?_
    rw [parts]
    rintro given m₁ ⟨same, ⟨rfl, lacks, outcome⟩ | ⟨skb, rfl, gets, trace, linear, room⟩⟩
    · rw [Program.after_pure]
      refine ⟨by rw [same], exists_fate_of_none (fun builds => ?_) (by decide) outcome⟩
      obtain ⟨-, -, -, other, some_other, -, gets⟩ := builds
      rw [same_total some_other] at gets
      exact lacks gets
    · simp only [Program.after_bind]
      refine ((after_writeMgmtHeader linear (by simp [assocReqFrameLen]) fcAssocReq m₁).and
        (after_writeMgmtHeader_kept skb skb.data fcAssocReq m₁)).mono ?_
      rintro skb' m₂ ⟨written, id_eq, trace', device, here⟩
      obtain ⟨data, tail, limit, bytes, count, begins, linear'⟩ := written
      obtain ⟨bytes', -, begins', whole⟩ := linear_write_behind linear' begins
        (show _ ≤ 24 by simp [length_cpuToLe16])
        (show 24 + (cpuToLe16 (assocReqCapability m.rt) ++ cpuToLe16 10).length ≤ _ by
          rw [count]
          simp [length_cpuToLe16, assocReqFrameLen])
      rw [data] at whole
      rw [← tail, ← limit] at room
      have named' : m.rt.connectParams.hasBssid = true := by simpa using named
      have known' : (m.rt.hw.bands chan.band).isSome = true := by
        cases band : m.rt.hw.bands chan.band with
        | none => simp [band] at known
        | some sband => rfl
      have builds : BuildsAssocReq env bss m :=
        ⟨named', ⟨chan, tuned, known'⟩, by rwa [same] at here, total, counted, by omega, gets⟩
      have more : total - assocReqFrameLen.toNat = (assocReqIes m.rt.connectParams.ssid
          (assocReqRates m.rt.hw bss).1 (assocReqRates m.rt.hw bss).2 (bssHasWmm bss)).length := by
        omega
      rw [more] at room ⊢
      show Program.after (sendWithIes _ _ (assocReqIes m.rt.connectParams.ssid
        (assocReqRates m.rt.hw bss).1 (assocReqRates m.rt.hw bss).2 (bssHasWmm bss))) _ _
      rw [sendWithIes_eq whole room]
      have still : ∀ more, cpuToLe16 fcAssocReq <+: bytes' ++ more := fun more =>
        begins'.trans (List.prefix_append bytes' more)
      refine after_sendMgmt_fate (whole.appended room) (still _) builds ?_ ?_
      · rw [device, same]
      · rw [trace', trace]
        exact congrArg (fun id => .allocSkb id :: m.trace) id_eq.symm

/-- The rates of a probe request. -/
def probeReqRates (sband : SupportedBand) : List UInt8 × List UInt8 :=
  (((sband.bitrates.map rateOf).take 16).take 8, ((sband.bitrates.map rateOf).take 16).drop 8)

/-- The rates of a probe request fit its elements. -/
theorem length_probeReqRates_le (sband : SupportedBand) :
    (probeReqRates sband).1.length ≤ 8 ∧ (probeReqRates sband).2.length ≤ 16 := by
  refine ⟨List.length_take_le _ _, ?_⟩
  rw [probeReqRates, List.length_drop, List.length_take]
  omega

/-- What is counted for a probe request, if it is not too much, and its elements. -/
theorem probeReqLen_eq_some_iff {ssid suppRates extRates : List UInt8} {total : Nat}
    (supp_le : suppRates.length ≤ 8) (ext_le : extRates.length ≤ 16) :
    probeReqLen ssid suppRates extRates = some total ↔ ssid.length ≤ 255 ∧
      total = hdr3addrLen.toNat + (probeReqIes ssid suppRates extRates).length := by
  by_cases ssid_le : ssid.length ≤ 255
  · rw [probeReqLen_eq ssid_le supp_le ext_le, Option.some_inj]
    exact ⟨fun same => ⟨ssid_le, same.symm⟩, fun both => both.2.symm⟩
  · have long : probeReqLen ssid suppRates extRates = none := by
      rw [probeReqLen, sizeAddIe, if_pos (by omega)]
      rfl
    rw [long]
    simp [ssid_le]

/-- `lcompat_ieee80211_send_probe_req` comes to a frame. -/
def BuildsProbeReq (env : Env) (ssid : List UInt8) (m : Machine) : Prop :=
  m.rt.vif.isSome = true ∧ ∃ sband, m.rt.hw.currentBand = some sband ∧
    ∃ total, probeReqLen ssid (probeReqRates sband).1 (probeReqRates sband).2 = some total ∧
      total ≤ uintMax ∧ Gets env m total

/-- Bytes that are those of a probe request for a network. -/
def IsProbeReq (ssid bytes : List UInt8) : Prop :=
  ∃ front suppRates extRates, bytes = front ++ Element.encode
      (requestElements ssid suppRates extRates false) ∧
    cpuToLe16 fcProbeReq <+: front ∧ front.length = hdr3addrLen.toNat

/-- What becomes of a probe request. -/
theorem sends_sendProbeReq (env : Env) (ssid : List UInt8) (m : Machine) :
    Sends (BuildsProbeReq env ssid m) (IsProbeReq ssid) (sendProbeReq env ssid) m := by
  unfold Sends sendProbeReq
  simp only [Program.after_bind, after_runtime]
  cases here : m.rt.vif with
  | none =>
    simp only [Program.after_pure]
    refine ⟨trivial, exists_fate_of_none (fun builds => ?_) (by decide) (.inl rfl)⟩
    rw [BuildsProbeReq, here] at builds
    cases builds.1
  | some vif =>
  cases band : m.rt.hw.currentBand with
  | none =>
    simp only [Program.after_pure]
    refine ⟨trivial, exists_fate_of_none (fun builds => ?_) (by decide) (.inl rfl)⟩
    obtain ⟨-, sband, found, -⟩ := builds
    rw [band] at found
    cases found
  | some sband =>
  obtain ⟨supp_le, ext_le⟩ := length_probeReqRates_le sband
  have supp_eq : ((sband.bitrates.map rateOf).take 16).take 8 = (probeReqRates sband).1 := rfl
  have ext_eq : ((sband.bitrates.map rateOf).take 16).drop 8 = (probeReqRates sband).2 := rfl
  simp only [supp_eq, ext_eq]
  have builds_iff : BuildsProbeReq env ssid m ↔ ∃ total, probeReqLen ssid (probeReqRates sband).1
      (probeReqRates sband).2 = some total ∧ total ≤ uintMax ∧ Gets env m total := by
    unfold BuildsProbeReq
    rw [here, band]
    simp
  cases counted : probeReqLen ssid (probeReqRates sband).1 (probeReqRates sband).2 with
  | none =>
    rw [Program.after_pure]
    refine ⟨rfl, exists_fate_of_none (fun builds => ?_) (by decide) (.inl rfl)⟩
    obtain ⟨total, some_total, -⟩ := builds_iff.mp builds
    rw [counted] at some_total
    cases some_total
  | some total =>
    obtain ⟨ssid_le, total_eq⟩ := (probeReqLen_eq_some_iff supp_le ext_le).mp counted
    have gets_of : BuildsProbeReq env ssid m → total ≤ uintMax ∧ Gets env m total := by
      intro builds
      obtain ⟨other, some_other, short, gets⟩ := builds_iff.mp builds
      obtain rfl := Option.some.inj (some_other.symm.trans counted)
      exact ⟨short, gets⟩
    simp only [Program.after_ite, Program.after_pure, Program.after_bind]
    split
    · rename_i long
      refine ⟨trivial, exists_fate_of_none (fun builds => ?_) (by decide) (.inl rfl)⟩
      have short := (gets_of builds).1
      omega
    rename_i short
    have parts : hdr3addrLen.toNat + (total - hdr3addrLen.toNat) = total := by omega
    refine (after_allocMgmt_gets env _ _ m).mono ?_
    rw [parts]
    rintro given m₁ ⟨same, ⟨rfl, lacks, outcome⟩ | ⟨skb, rfl, gets, trace, linear, room⟩⟩
    · rw [Program.after_pure]
      exact ⟨by rw [same], exists_fate_of_none (fun builds => lacks (gets_of builds).2) (by decide)
        outcome⟩
    · simp only [nextSeqCtrl, Program.after_bind, after_runtime, after_change, Program.after_pure]
      obtain ⟨front, count, begins, whole⟩ := linear_writeHeader_within linear
        (by simp [hdr3addrLen]) fcProbeReq ((m₁.rt.txSeq &&& 0xfff) <<< 4) .broadcast vif.addr
        .broadcast
      have more : total - hdr3addrLen.toNat = (probeReqIes ssid (probeReqRates sband).1
          (probeReqRates sband).2).length := by
        omega
      rw [more] at room ⊢
      show Program.after (sendWithIes _ _ (probeReqIes ssid (probeReqRates sband).1
        (probeReqRates sband).2)) _ _
      rw [sendWithIes_eq whole room]
      refine after_sendMgmt_fate (whole.appended room) ⟨front,
        (probeReqRates sband).1, (probeReqRates sband).2, ?_, begins, ?_⟩ (builds_iff.mpr
          ⟨total, counted, by omega, gets⟩) ?_ ?_
      · rw [probeReqIes_eq]
      · rw [count, List.length_replicate]
      · show m₁.rt.hw = m.rt.hw
        rw [same]
      · exact trace

/-- `lcompat_netdev_disconnect` comes to a frame. -/
def BuildsDeauth (env : Env) (m : Machine) : Prop :=
  m.rt.vif.isSome = true ∧ Gets env m reasonFrameLen.toNat

/-- What becomes of a deauthentication. -/
theorem after_sendDeauth_fate (env : Env) (reasonCode : UInt16) (m : Machine) :
    (sendDeauth env reasonCode).after (fun _ m' => m'.rt.hw = m.rt.hw ∧ ∃ ret events,
      m'.trace = events ++ m.trace ∧ Fate m.rt.hw.ops.tx (BuildsDeauth env m)
        (fun bytes => cpuToLe16 fcDeauth <+: bytes) ret events) m := by
  unfold sendDeauth BuildsDeauth
  simp only [Program.after_bind]
  refine (after_allocMgmt_gets env reasonFrameLen 0 m).mono ?_
  rintro given m₁ ⟨same, ⟨rfl, lacks, outcome⟩ | ⟨skb, rfl, gets, trace, linear, -⟩⟩
  · rw [Program.after_pure]
    exact ⟨by rw [same], -ENOMEM, exists_fate_of_none (fun builds => lacks builds.2) (by decide)
      outcome⟩
  · simp only [Program.after_bind]
    refine ((after_writeMgmtHeader linear (by simp [reasonFrameLen]) fcDeauth m₁).and
      (after_writeMgmtHeader_kept skb skb.data fcDeauth m₁)).mono ?_
    rintro skb' m₂ ⟨⟨data, -, -, bytes, count, begins, linear'⟩, id_eq, trace', device, here⟩
    obtain ⟨bytes', -, begins', whole⟩ := linear_write_behind linear' begins
      (show _ ≤ 24 by simp [length_cpuToLe16])
      (show 24 + (cpuToLe16 reasonCode).length ≤ _ by
        rw [count]
        simp [length_cpuToLe16, reasonFrameLen])
    rw [data] at whole
    have here' : m.rt.vif.isSome = true := by rwa [same] at here
    have built : m.rt.vif.isSome = true ∧ Gets env m reasonFrameLen.toNat := ⟨here', gets⟩
    have device' : m₂.rt.hw = m.rt.hw := by rw [device, same]
    have trace'' : m₂.trace = .allocSkb skb'.id :: m.trace := by rw [trace', trace, id_eq]
    refine (after_sendMgmt_fate whole begins' built device' trace'').mono ?_
    rintro ret m' ⟨device, fate⟩
    rw [Program.after_pure]
    exact ⟨device, ret, fate⟩

end Building

/-- A program adds events of one kind to the trace, and nothing else. -/
def Adds {α : Type} (kind : Event → Prop) (program : Kernel α) : Prop :=
  ∀ m, program.after (fun _ m' => ∃ events, m'.trace = events ++ m.trace ∧ ∀ e ∈ events, kind e) m

section Adding

variable {α β : Type} {kind : Event → Prop}

/-- What leaves the trace as it is adds nothing. -/
theorem adds_of_keeps {program : Kernel α} (keeps : Program.Keeps Machine.trace program) :
    Adds kind program := fun m =>
  (keeps m).mono fun _ _ same => ⟨[], same, fun _ none => absurd none List.not_mem_nil⟩

/-- A result adds nothing. -/
theorem adds_pure (a : α) : Adds kind (pure a) := adds_of_keeps (Program.keeps_pure a)

/-- Reading the runtime adds nothing. -/
theorem adds_runtime : Adds kind runtime := adds_of_keeps fun m => by rw [after_runtime]

/-- A change of the runtime adds nothing. -/
theorem adds_change (update : Runtime → Runtime) : Adds kind (change update) :=
  adds_of_keeps fun m => by rw [after_change]

/-- An event of the kind is added. -/
theorem adds_note {event : Event} (here : kind event) : Adds kind (note event) := fun m => by
  rw [after_note]
  exact ⟨[event], rfl, by simpa using here⟩

/-- Events of the kind are added one after the other. -/
theorem Adds.bind {program : Kernel β} {next : β → Kernel α} (first : Adds kind program)
    (second : ∀ b, Adds kind (next b)) : Adds kind (program >>= next) := fun m => by
  rw [Program.after_bind]
  refine (first m).mono ?_
  rintro b m₁ ⟨older, trace, olderKind⟩
  refine (second b m₁).mono ?_
  rintro a m₂ ⟨newer, trace', newerKind⟩
  refine ⟨newer ++ older, by rw [trace', trace, List.append_assoc], fun e mem => ?_⟩
  obtain mem | mem := List.mem_append.mp mem
  · exact newerKind e mem
  · exact olderKind e mem

/-- Either of two programs that add events of the kind adds such. -/
theorem adds_ite {condition : Prop} [Decidable condition] {yes no : Kernel α}
    (one : Adds kind yes) (other : Adds kind no) : Adds kind (if condition then yes else no) := by
  split
  · exact one
  · exact other

/-- An event of the kind is added, or nothing. -/
theorem adds_optional {condition : Prop} [Decidable condition] {event : Event}
    (here : kind event) : Adds kind (if condition then note event else pure ()) :=
  adds_ite (adds_note here) (adds_pure _)

/-- Leaving the access point tells the driver and the user. -/
theorem adds_disconnectLocal (reasonCode : UInt16) (requestPortid : UInt32) (byAp : Bool) :
    Adds (fun e => e.isBuffer = false) (disconnectLocal reasonCode requestPortid byAp) := by
  refine adds_runtime.bind fun rt => ?_
  cases rt.vif with
  | none => exact adds_pure _
  | some vif =>
    have removed : Adds (fun e => e.isBuffer = false) callStaRemove :=
      adds_runtime.bind fun _ => adds_optional rfl
    have informed : Adds (fun e => e.isBuffer = false) (callBssInfoChanged vif.left.bssConf) :=
      adds_runtime.bind fun _ => adds_optional rfl
    have told : Adds (fun e => e.isBuffer = false) updateWirelessInfo :=
      adds_runtime.bind fun _ => adds_optional rfl
    have link : Adds (fun e => e.isBuffer = false) (setLinkState false) :=
      adds_runtime.bind fun _ => adds_optional rfl
    have published : Adds (fun e => e.isBuffer = false) (publishDisconnect
        (rt.netdev && rt.connectParams.hasBssid) requestPortid reasonCode byAp) :=
      adds_optional rfl
    refine removed.bind fun _ => (adds_change _).bind fun _ => (adds_change _).bind fun _ => ?_
    refine informed.bind fun _ => published.bind fun _ => (adds_change _).bind fun _ => ?_
    exact (adds_change _).bind fun _ => link.bind fun _ => told

end Adding

section Data

/-- Room with zeros leaves a buffer the one it is. -/
theorem id_of_skbPutZero {skb out : SkBuff} {len : UInt32} {pos : Nat}
    (zeroed : skbPutZero skb len = some (pos, out)) : out.id = skb.id := by
  obtain ⟨⟨pos', out'⟩, put, same⟩ := Option.map_eq_some_iff.mp zeroed
  obtain ⟨-, rfl⟩ := Prod.mk.inj same
  exact (id_of_skbPut put : out'.id = skb.id)

/-- A QoS control field leaves a buffer the one it is. -/
theorem id_of_putQos {skb out : SkBuff} {useQos : Bool} (qos : putQos useQos skb = some out) :
    out.id = skb.id := by
  unfold putQos at qos
  split at qos
  · obtain ⟨⟨pos, out'⟩, zeroed, rfl⟩ := Option.map_eq_some_iff.mp qos
    exact id_of_skbPutZero zeroed
  · obtain rfl := Option.some.inj qos
    rfl

/-- What a frame carries leaves a buffer the one it is. -/
theorem id_putMsdu (skb : SkBuff) (pos : Nat) (proto : UInt16) (payload : List UInt8) :
    (putMsdu skb pos proto payload).id = skb.id := by
  unfold putMsdu
  simp only
  cases carried : skbPutData ((skb.write pos rfc1042Header).write (pos + 6) (cpuToBe16 proto))
      payload with
  | none => rfl
  | some result =>
    obtain ⟨⟨place, out⟩, put, rfl⟩ := Option.map_eq_some_iff.mp carried
    have same := id_of_skbPut put
    exact same

/-- What becomes of a data frame that is built. -/
theorem after_buildDataFrame_fate (env : Env) (data : Memory) (len : UInt32) (m : Machine) :
    (buildDataFrame env data len).after (fun result m' => m'.rt.hw = m.rt.hw ∧
      ((result.1 < 0 ∧ (m'.trace = m.trace ∨
          ∃ id, m'.trace = .freeSkb id :: .allocSkb id :: m.trace)) ∨
        ∃ skb, result = (0, some skb) ∧ m'.trace = .allocSkb skb.id :: m.trace)) m := by
  unfold buildDataFrame
  simp only [Program.after_bind, after_runtime]
  cases here : m.rt.vif with
  | none =>
    simp only [Program.after_pure]
    exact ⟨trivial, .inl ⟨by decide, .inl trivial⟩⟩
  | some vif =>
  simp only [Program.after_ite, Program.after_pure]
  split
  · exact ⟨trivial, .inl ⟨by decide, .inl trivial⟩⟩
  split
  · exact ⟨trivial, .inl ⟨by decide, .inl trivial⟩⟩
  split
  · exact ⟨trivial, .inl ⟨by decide, .inl trivial⟩⟩
  split
  · simp only [Program.after_ite, Program.after_pure, Program.after_bind]
    split
    · exact ⟨trivial, .inl ⟨by decide, .inl trivial⟩⟩
    refine (after_allocTxSkb_gets env _ m).mono ?_
    rintro given m₁ ⟨same, ⟨rfl, -, trace⟩ | ⟨skb, rfl, trace, -⟩⟩
    · simp only [Program.after_pure]
      exact ⟨by rw [same], .inl ⟨by decide, .inl trace⟩⟩
    simp only
    cases zeroed : skbPutZero skb hdr3addrLen with
    | none =>
      simp only [devKfreeSkbAny, Program.after_bind, after_note, Program.after_pure]
      exact ⟨by rw [same], .inl ⟨by decide, .inr ⟨skb.id, by rw [trace]⟩⟩⟩
    | some frame =>
    obtain ⟨hdr, skb₂⟩ := frame
    have id₂ : skb₂.id = skb.id := id_of_skbPutZero zeroed
    simp only [Program.after_bind, Program.after_require, after_change]
    intro dest _
    cases qos : putQos m.rt.useQos (writeHeader skb₂ hdr (txFrameControl m.rt.useQos)
        ((m.rt.txSeq &&& 0xfff) <<< 4) vif.bssConf.bssid vif.addr dest) with
    | none =>
      simp only [devKfreeSkbAny, Program.after_bind, after_note, Program.after_pure]
      refine ⟨by rw [same], .inl ⟨by decide, .inr ⟨skb.id, ?_⟩⟩⟩
      rw [trace]
      exact congrArg (fun id => .freeSkb id :: .allocSkb skb.id :: m.trace) id₂
    | some skb₃ =>
    have id₃ : skb₃.id = skb.id := (id_of_putQos qos).trans id₂
    simp only
    cases llc : skbPut skb₃ llcSnapLen with
    | none =>
      simp only [devKfreeSkbAny, Program.after_bind, after_note, Program.after_pure]
      refine ⟨by rw [same], .inl ⟨by decide, .inr ⟨skb.id, ?_⟩⟩⟩
      rw [trace, id₃]
    | some front =>
    obtain ⟨pos, skb₄⟩ := front
    have id₄ : skb₄.id = skb.id := (id_of_skbPut llc).trans id₃
    simp only [Program.after_bind, Program.after_require, Program.after_pure]
    intro proto _ payload _
    refine ⟨by rw [same], .inr ⟨_, rfl, ?_⟩⟩
    rw [trace, id_putMsdu, id₄]
  · rw [Program.after_pure]
    exact ⟨rfl, .inl ⟨by decide, .inl rfl⟩⟩

/-- Where nothing is queued there is nothing to tell the driver of. -/
theorem woken_of_unqueued {events : List Event}
    (unqueued : ∀ e ∈ events, ∀ queue id frame, e ≠ .queueTx queue id frame) : Woken events := by
  rintro newer older queue id frame rfl
  exact absurd rfl (unqueued _ (List.mem_append_right newer List.mem_cons_self) queue id frame)

/-- The driver is told of a buffer that has been appended to a queue. -/
theorem woken_cons {events : List Event} (queue : TxQueue) (id : Nat) (frame : Option (List UInt8))
    (unqueued : ∀ e ∈ events, ∀ queue id frame, e ≠ .queueTx queue id frame) :
    Woken (.wakeTxQueue queue :: .queueTx queue id frame :: events) := by
  intro newer older queue' id' frame' split
  cases newer with
  | nil => cases split
  | cons first newer =>
    injection split with head tail
    cases newer with
    | nil =>
      injection tail with same _
      cases same
      exact ⟨[], by rw [← head]; rfl⟩
    | cons second newer =>
      injection tail with _ rest
      refine absurd rfl (unqueued (.queueTx queue' id' frame') ?_ queue' id' frame')
      rw [rest]
      exact List.mem_append_right newer List.mem_cons_self

/-- What becomes of the buffer of a data frame. -/
theorem after_netdevSend_settled (env : Env) (data : Memory) (len : UInt32) (m : Machine) :
    (netdevSend env data len).after (fun ret m' => SettledOnce m m' (ret = 0)) m := by
  unfold netdevSend
  simp only [Program.after_bind]
  refine (after_buildDataFrame_fate env data len m).mono ?_
  rintro ⟨ret, frame⟩ m₁ ⟨-, ⟨failed, outcome⟩ | ⟨skb, built, trace⟩⟩
  · have failed : ret < 0 := failed
    rw [if_pos (show ret ≠ 0 by omega), Program.after_pure]
    obtain ⟨events, trace, fate⟩ : ∃ events, m₁.trace = events ++ m.trace ∧
        Fate true False (fun _ => True) ret events :=
      exists_fate_of_none not_false failed outcome
    exact ⟨events, trace, woken_of_unqueued fate.unqueued, fun _ => fate.settled (.inl rfl)⟩
  · obtain ⟨rfl, rfl⟩ := Prod.mk.inj built
    rw [if_neg (by simp)]
    simp only [Program.after_bind, Program.after_require, Option.some.injEq, forall_eq',
      after_runtime, Program.after_ite, after_note, Program.after_pure]
    split
    · refine ⟨[.wakeTxQueue (txqOf m₁.rt skb), .queueTx (txqOf m₁.rt skb) skb.id skb.bytes,
        .allocSkb skb.id], by rw [trace]; rfl, ?_, ?_⟩
      · exact woken_cons _ _ _ (by simp)
      · exact fun id mem => handed_once rfl rfl rfl trivial mem
    · refine ⟨[.tx skb.id skb.bytes, .allocSkb skb.id], by rw [trace]; rfl,
        woken_of_unqueued (by simp), fun id mem => handed_once rfl rfl rfl trivial mem⟩

end Data

/-- A call that allocates a buffer for a frame. -/
inductive SendCall where
  /-- `lcompat_ieee80211_send_auth`. -/
  | auth
  /-- `lcompat_ieee80211_send_assoc_req`. -/
  | assocReq (bss : ScanResult)
  /-- `lcompat_ieee80211_send_probe_req`. -/
  | probeReq (ssid : List UInt8)
  /-- `lcompat_netdev_disconnect`. -/
  | disconnect (reasonCode : UInt16) (requestPortid : UInt32)
  /-- `lcompat_netdev_send`. -/
  | data (bytes : Memory) (len : UInt32)

/-- What a call does and returns. -/
def SendCall.run (env : Env) : SendCall → Kernel Int
  | .auth => sendAuth env
  | .assocReq bss => sendAssocReq env bss
  | .probeReq ssid => sendProbeReq env ssid
  | .disconnect reasonCode requestPortid => netdevDisconnect env reasonCode requestPortid
  | .data bytes len => netdevSend env bytes len

/-- A call comes to `lcompat_ieee80211_send_mgmt` with a frame: it is not refused, and gets a buffer
with memory. -/
def SendCall.Builds (env : Env) (m : Machine) : SendCall → Prop
  | .auth => BuildsAuth env m
  | .assocReq bss => BuildsAssocReq env bss m
  | .probeReq ssid => BuildsProbeReq env ssid m
  | .disconnect _ _ =>
    m.rt.started = true ∧ m.rt.connState = .connected ∧ BuildsDeauth env m
  | .data _ _ => False

/-- The function that sends the frame of a call reports success. It is the call itself, but for
`lcompat_netdev_disconnect`, which drops what `lcompat_ieee80211_send_mgmt` returns if it has come
to a frame. -/
def SendCall.Reports (env : Env) (m : Machine) (ret : Int) : SendCall → Prop
  | .disconnect _ _ => BuildsDeauth env m ∧ ∀ skb, (sendMgmt skb).after (fun sent _ => sent = 0) m
  | _ => ret = 0

section Calls

variable {env : Env} {m : Machine}

/-- Sending a management frame succeeds exactly for a driver that has `tx`. -/
theorem sendMgmt_zero_iff :
    (∀ skb, (sendMgmt skb).after (fun sent _ => sent = 0) m) ↔ m.rt.hw.ops.tx = true := by
  simp only [sendMgmt, mgdPrepareTx, Program.after_bind, after_runtime, Program.after_ite,
    Program.after_pure, after_note]
  cases m.rt.hw.ops.tx with
  | false =>
    refine iff_of_false (fun sent => ?_) (by decide)
    have failed := sent (byteSkb [])
    rw [if_pos (by decide)] at failed
    cases failed
  | true => simp

/-- What is read from the events that concern a buffer is not in the others. -/
theorem filterMap_aside {value : Event → Option Nat} {aside : List Event}
    (others : ∀ e ∈ aside, e.isBuffer = false)
    (among : ∀ e, e.isBuffer = false → value e = none) : aside.filterMap value = [] := by
  rw [List.filterMap_eq_nil_iff]
  exact fun e mem => among e (others e mem)

/-- An event that does not concern a buffer hands nothing over. -/
theorem handed_aside (e : Event) (other : e.isBuffer = false) : e.handed = none := by
  cases e <;> first | rfl | cases other

/-- An event that does not concern a buffer frees nothing. -/
theorem freed_aside (e : Event) (other : e.isBuffer = false) : e.freed = none := by
  cases e <;> first | rfl | cases other

/-- An event that does not concern a buffer allocates nothing. -/
theorem allocated_aside (e : Event) (other : e.isBuffer = false) : e.allocated = none := by
  cases e <;> first | rfl | cases other

/-- A call without events has no buffer. -/
theorem settledOnce_still (m : Machine) (reported : Prop) : SettledOnce m m reported :=
  ⟨[], rfl, woken_of_unqueued (by simp), by simp [allocated]⟩

/-- A buffer that is only allocated is lost. -/
theorem not_settledOnce_of_lost {m' : Machine} {aside : List Event} {id : Nat} {reported : Prop}
    (trace : m'.trace = aside ++ .allocSkb id :: m.trace)
    (others : ∀ e ∈ aside, e.isBuffer = false) : ¬SettledOnce m m' reported := by
  rintro ⟨events, trace', -, settled⟩
  have whole : events = aside ++ [.allocSkb id] := by
    refine (List.append_left_inj m.trace).mp ?_
    rw [← trace', trace, List.append_assoc]
    rfl
  have own : allocated events = [id] := by
    rw [whole, allocated, List.filterMap_append, filterMap_aside others allocated_aside]
    rfl
  have never : events.filterMap Event.handed = [] := by
    rw [whole, List.filterMap_append, filterMap_aside others handed_aside]
    rfl
  have kept : freed events = [] := by
    rw [whole, freed, List.filterMap_append, filterMap_aside others freed_aside]
    rfl
  have once := (settled id (by rw [own]; exact List.mem_singleton_self id)).1
  rw [never, kept] at once
  cases once

/-- A call that is safe has its buffers handed over or freed, and one that is not has lost one. -/
inductive Outcome (m : Machine) (built reported : Prop) (m' : Machine) : Prop
  /-- The buffers are handed over or freed. -/
  | settled (safe : m.rt.hw.ops.tx = true ∨ ¬built) (once : SettledOnce m m' reported)
  /-- A buffer is lost. -/
  | lost {aside : List Event} {id : Nat} (driver : m.rt.hw.ops.tx = false) (whole : built)
      (trace : m'.trace = aside ++ .allocSkb id :: m.trace)
      (others : ∀ e ∈ aside, e.isBuffer = false)

/-- What a call that only sends a frame comes to. -/
theorem Sends.outcome {built : Prop} {content : List UInt8 → Prop} {program : Kernel Int}
    (sends : Sends built content program m) :
    program.after (fun ret m' => Outcome m built (ret = 0) m') m := by
  refine sends.mono ?_
  rintro ret m' ⟨-, events, trace, fate⟩
  by_cases safe : m.rt.hw.ops.tx = true ∨ ¬built
  · exact .settled safe ⟨events, trace, woken_of_unqueued fate.unqueued, fun _ => fate.settled safe⟩
  · rw [not_or, not_not, Bool.not_eq_true] at safe
    obtain ⟨id, rfl⟩ := fate.lost safe.1 safe.2
    exact @Outcome.lost _ _ _ _ [] id safe.1 safe.2 trace (by simp)

/-- What becomes of the buffer of a disconnect. -/
theorem after_netdevDisconnect_settled (env : Env) (reasonCode : UInt16) (requestPortid : UInt32)
    (m : Machine) : (netdevDisconnect env reasonCode requestPortid).after (fun _ m' =>
      Outcome m (m.rt.started = true ∧ m.rt.connState = .connected ∧ BuildsDeauth env m)
        (BuildsDeauth env m ∧ m.rt.hw.ops.tx = true) m') m := by
  unfold netdevDisconnect
  simp only [Program.after_bind, after_runtime, Program.after_ite, Program.after_pure]
  split
  · rename_i stopped
    refine .settled (.inr fun builds => ?_) (settledOnce_still m _)
    rw [builds.1] at stopped
    cases stopped
  rename_i started
  split
  · rename_i idle
    exact .settled (.inr fun builds => idle builds.2.1) (settledOnce_still m _)
  rename_i connected
  refine (after_sendDeauth_fate env reasonCode m).mono ?_
  rintro _ m₁ ⟨-, ret, events, trace, fate⟩
  refine (adds_disconnectLocal _ requestPortid false m₁).mono ?_
  rintro _ m₂ ⟨aside, trace', others⟩
  rw [trace] at trace'
  by_cases safe : m.rt.hw.ops.tx = true ∨ ¬BuildsDeauth env m
  · refine .settled (safe.imp_right fun unbuilt builds => unbuilt builds.2.2)
      ⟨aside ++ events, by rw [trace', List.append_assoc], ?_, fun id mem => ?_⟩
    · refine woken_of_unqueued fun e mem queue id frame same => ?_
      obtain mem | mem := List.mem_append.mp mem
      · have other := others e mem
        rw [same] at other
        cases other
      · exact fate.unqueued e mem queue id frame same
    · rw [allocated, List.filterMap_append, filterMap_aside others allocated_aside,
        List.nil_append] at mem
      obtain ⟨once, success⟩ := fate.settled safe mem
      rw [freed, List.filterMap_append, List.filterMap_append, filterMap_aside others handed_aside,
        filterMap_aside others freed_aside, List.nil_append, List.nil_append]
      exact ⟨once, success.trans (fate.zero_iff.trans and_comm)⟩
  · rw [not_or, not_not, Bool.not_eq_true] at safe
    obtain ⟨id, rfl⟩ := fate.lost safe.1 safe.2
    exact .lost safe.1 ⟨by simpa using started, not_not.mp connected, safe.2⟩ trace' others

/-- What a call comes to. -/
theorem after_run_outcome (env : Env) (m : Machine) (call : SendCall) :
    (call.run env).after (fun ret m' =>
      Outcome m (call.Builds env m) (call.Reports env m ret) m') m := by
  cases call with
  | auth => exact (sends_sendAuth env m).outcome
  | assocReq bss => exact (sends_sendAssocReq env bss m).outcome
  | probeReq ssid => exact (sends_sendProbeReq env ssid m).outcome
  | disconnect reasonCode requestPortid =>
    refine (after_netdevDisconnect_settled env reasonCode requestPortid m).mono ?_
    intro _ m' outcome
    rw [SendCall.Reports, sendMgmt_zero_iff]
    exact outcome
  | data bytes len =>
    refine (after_netdevSend_settled env bytes len m).mono fun _ _ once => ?_
    exact .settled (.inr not_false) once

/-- The header of a management frame is written where there is an interface. -/
theorem runs_writeMgmtHeader (here : m.rt.vif.isSome = true) (skb : SkBuff) (frame : Nat)
    (fc : UInt16) : (writeMgmtHeader skb frame fc).runs (fun _ _ => True) m := by
  obtain ⟨vif, here⟩ := Option.isSome_iff_exists.mp here
  simp only [writeMgmtHeader, nextSeqCtrl, Program.runs_bind, runs_runtime, here,
    Program.runs_require, Option.some.injEq, exists_eq_left', runs_change, Program.runs_pure]

/-- A call that comes to a frame does not fault. -/
theorem runs_run_of_builds {call : SendCall} (builds : call.Builds env m) :
    (call.run env).runs (fun _ _ => True) m := by
  cases call with
  | auth =>
    obtain ⟨named, here, -⟩ := builds
    simp only [SendCall.run, sendAuth, Program.runs_bind, runs_runtime]
    rw [if_neg (by simp [named]), Program.runs_bind]
    refine (runs_allocMgmt env authFrameLen 0 m).mono fun frame m₁ same => ?_
    cases frame with
    | none =>
      rw [Program.runs_pure]
      trivial
    | some frame =>
      rw [Program.runs_bind]
      refine (runs_writeMgmtHeader (by rwa [same]) _ _ _).mono fun skb m₂ _ => ?_
      exact total_sendMgmt _ m₂
  | assocReq bss =>
    obtain ⟨named, ⟨chan, tuned, known⟩, here, -⟩ := builds
    simp only [SendCall.run, sendAssocReq, Program.runs_bind, runs_runtime]
    rw [if_neg (by simp [named])]
    simp only [tuned, Program.require_some_bind, Program.runs_ite, Program.runs_pure]
    split
    · trivial
    split
    · simp only [Program.runs_ite, Program.runs_pure, Program.runs_bind]
      split
      · trivial
      refine (runs_allocMgmt env _ _ m).mono fun frame m₁ same => ?_
      cases frame with
      | none =>
        rw [Program.runs_pure]
        trivial
      | some frame =>
        simp only [Program.runs_bind]
        refine (runs_writeMgmtHeader (by rwa [same]) _ _ _).mono fun skb m₂ _ => ?_
        exact total_sendWithIes _ _ _ m₂
    · rw [Program.runs_pure]
      trivial
  | probeReq ssid => exact total_sendProbeReq env ssid m
  | disconnect reasonCode requestPortid =>
    obtain ⟨started, connected, here, -⟩ := builds
    obtain ⟨vif, here⟩ := Option.isSome_iff_exists.mp here
    exact (runs_netdevDisconnect here started connected env reasonCode requestPortid).mono
      fun _ _ _ => trivial
  | data bytes len => cases builds

/-- The buffers of the five functions are handed over once or freed once, and handed over exactly
where success is reported, if and only if the driver has `tx` or no frame comes to
`lcompat_ieee80211_send_mgmt`. -/
theorem frames_settled_iff (env : Env) (m : Machine) (call : SendCall) :
    (call.run env).after (fun ret m' => SettledOnce m m' (call.Reports env m ret)) m ↔
      m.rt.hw.ops.tx = true ∨ ¬call.Builds env m := by
  constructor
  · intro settled
    by_contra unsafe_
    rw [not_or, not_not, Bool.not_eq_true] at unsafe_
    obtain ⟨driver, builds⟩ := unsafe_
    have both := settled.and (after_run_outcome env m call)
    obtain ⟨ret, m', -, once, outcome⟩ := (runs_run_of_builds builds).and_after both
    cases outcome with
    | settled safe =>
      obtain here | unbuilt := safe
      · rw [driver] at here
        cases here
      · exact unbuilt builds
    | lost _ _ trace others => exact not_settledOnce_of_lost trace others once
  · intro safe
    refine (after_run_outcome env m call).mono fun ret m' outcome => ?_
    cases outcome with
    | settled _ once => exact once
    | lost driver builds =>
      obtain here | unbuilt := safe
      · rw [driver] at here
        cases here
      · exact absurd builds unbuilt

end Calls

/-- A connected machine whose driver has no `tx`. -/
def muteMachine : Machine :=
  .start { connectedRuntime with hw.ops := { plainHw.ops with tx := false } }

/-- A driver without `tx` loses the buffer of an authentication frame. -/
theorem mute_driver_loses_auth : ¬(SendCall.auth.run .kind).after
    (fun ret m' => SettledOnce muteMachine m' (SendCall.auth.Reports .kind muteMachine ret))
      muteMachine := by
  intro settled
  have outcome : (sendAuth .kind muteMachine).map (fun result => (result.1, result.2.trace)) =
      some (-EINVAL, [.allocSkb 0]) := by
    decide +kernel
  obtain ⟨⟨ret, m'⟩, ran, same⟩ := Option.map_eq_some_iff.mp outcome
  obtain ⟨-, trace⟩ := Prod.mk.inj same
  obtain ⟨events, trace', -, once⟩ := settled ret m' ran
  have whole : events = [.allocSkb 0] := by
    rw [trace] at trace'
    simpa [muteMachine, Machine.start] using trace'.symm
  subst whole
  exact absurd (once 0 (by decide)).1 (by decide)

end Lcompat.Mac80211
