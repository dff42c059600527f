import Lcompat.Logic.References
import Lcompat.Usb.Refill

/-!
# Native pipes and who has them

`lcompat_usb_get_native_pipe` makes a native pipe where it finds none. The pipe of an endpoint of a
bound interface stays with the wrapper until `lcompat_usb_native_remove` gives it back; a URB or a
synchronous transfer for another endpoint has a pipe of its own, and gives it back when it is freed
or done. So every pipe has one holder. What can go wrong is that a URB is handed on with a pipe that
it borrowed from a wrapper that is gone, or that it is freed after it was filled for another device.

A `struct usb_device` is the `dev` of a wrapper, which keeps its memory when it is given back and
may then stand for another device. Calls run one after the other; what a driver's `disconnect` does
comes before the wrapper is given back.
-/

namespace Lcompat.UsbPipes

open Lcompat.Logic Lcompat.Usb

/-- A pipe that `usb_alloc_pipe` made. -/
structure NativePipe where
  /-- The native device that it was made for. -/
  dev : Nat
  /-- Its place among all that were made. -/
  number : Nat
  deriving DecidableEq

/-- What `lcompat_usb_wrapper_t` says of an interface. -/
structure Slot where
  /-- `used`. -/
  used : Bool
  /-- `native_dev`, which is also `dev.native`, and `native_intf`. -/
  native : Option (Nat × Nat)
  /-- `endpoints`, the first `endpoint_count` of them. -/
  endpoints : List EndpointDescriptor

/-- `lcompat_usb_urb_state_t`, as far as it is about pipes. -/
structure UrbPipe where
  /-- `native_pipe`. -/
  nativePipe : Option NativePipe
  /-- `owns_pipe`. -/
  ownsPipe : Bool
  /-- `queue_owner` with `queue_ep_index`. -/
  queue : Option Endpoint

/-- `struct urb`, as far as it is about pipes. -/
structure PipeUrb where
  /-- `dev`, by its wrapper. -/
  dev : Option Nat
  /-- `pipe`. -/
  pipe : BitVec 32
  /-- `hcpriv`. -/
  hcpriv : Option UrbPipe

/-- The memory of `usb.c`, as far as it is about pipes. -/
structure State (U : Type) where
  /-- `lcompat_usb_wrappers`. -/
  wrappers : List Slot
  /-- `native_pipes` of the wrappers. -/
  nativePipes : Endpoint → Option NativePipe
  /-- The URBs. -/
  urbs : U → PipeUrb
  /-- How many pipes have been made. -/
  made : Nat
  /-- History that no function reads: the pipes of URBs that were freed without a device. -/
  lost : List NativePipe

/-- What the native kernel is called for. -/
inductive Event where
  /-- `usb_alloc_pipe`. -/
  | alloc (pipe : NativePipe)
  /-- `usb_free_pipe` with a native device. -/
  | free (dev : Option Nat) (pipe : NativePipe)
  /-- `usb_submit_xfer`, on the default pipe if none is given. -/
  | xfer (pipe : Option NativePipe)
  deriving DecidableEq

/-- What `lcompat_usb_get_native_pipe` returns. -/
inductive Found where
  /-- `NULL`. -/
  | missing
  /-- `defpipe`. -/
  | control
  /-- A pipe, and whether it is the caller's own. -/
  | pipe (pipe : NativePipe) (owns : Bool)

/-- A call. -/
inductive Op (U : Type) where
  /-- `lcompat_usb_wrap` for an interface with these endpoints. -/
  | wrap (nativeDev nativeIntf : Nat) (endpoints : List EndpointDescriptor)
  /-- What `lcompat_usb_native_remove` does for a wrapper behind the call of `disconnect`. -/
  | release (i : Nat)
  /-- `usb_fill_bulk_urb`. -/
  | fill (u : U) (dev : Option Nat) (pipe : BitVec 32)
  /-- `usb_submit_urb` for a URB that is not submitted: whether memory is there, whether the native
  kernel has the pipe or makes it, and whether the URB is handed on at once. -/
  | submit (u : U) (allocated made handed : Bool)
  /-- `lcompat_usb_submit_native_urb` for a URB, from a completion. -/
  | handOver (u : U)
  /-- `lcompat_usb_sync_xfer`, of which `usb_bulk_msg` and `usb_control_msg` are made. -/
  | syncXfer (dev : Option Nat) (pipe : BitVec 32) (made : Bool)
  /-- `usb_free_urb` with the last reference; the next URB there is a new one. -/
  | free (u : U)

variable {U : Type} [DecidableEq U]

/-- `native_dev` of a wrapper, which is also `dev.native`. -/
def Slot.nativeDev (slot : Slot) : Option Nat := slot.native.map Prod.fst

/-- What is looked at to find an endpoint. -/
def Slot.wrapper (slot : Slot) : Usb.Wrapper :=
  ⟨slot.used, slot.nativeDev.getD 0, slot.endpoints⟩

namespace State

/-- `lcompat_usb_native_dev`. -/
def native (s : State U) (dev : Option Nat) : Option Nat :=
  dev.bind fun i => (s.wrappers[i]?).bind Slot.nativeDev

/-- Write `hcpriv` of a URB. -/
def setPriv (s : State U) (u : U) (own : Option UrbPipe) : State U :=
  { s with urbs := Function.update s.urbs u { s.urbs u with hcpriv := own } }

end State

/-- `lcompat_usb_get_native_pipe`, for a URB with its private state or for none, given whether the
native kernel has the pipe or makes it. -/
def getNativePipe (dev : Option Nat) (pipe : BitVec 32) (own : Option UrbPipe) (made : Bool)
    (s : State U) : State U × Option UrbPipe × Found × List Event :=
  match s.native dev with
  | none => (s, own, .missing, [])
  | some nativeDev =>
    if pipeType pipe = 0 then (s, own, if made then .control else .missing, [])
    else match own.bind UrbPipe.nativePipe with
      | some found => (s, own, .pipe found false, [])
      | none =>
        match findWrapperFrom nativeDev pipe 0 (s.wrappers.map Slot.wrapper) with
        | some e =>
          match s.nativePipes e with
          | some found => (s, own.map fun _ => ⟨some found, false, some e⟩, .pipe found false, [])
          | none =>
            if made then
              let new := ⟨nativeDev, s.made⟩
              ({ s with
                nativePipes := Function.update s.nativePipes e (some new), made := s.made + 1 },
                own.map fun _ => ⟨some new, false, some e⟩, .pipe new false, [.alloc new])
            else (s, own, .missing, [])
        | none =>
          if made then
            let new := ⟨nativeDev, s.made⟩
            ({ s with made := s.made + 1 }, own.map fun _ => ⟨some new, true, none⟩,
              .pipe new true, [.alloc new])
          else (s, own, .missing, [])

/-- `lcompat_usb_submit_native_urb`, as far as it is about pipes. -/
def submitNative (own : Option UrbPipe) : List Event :=
  match own.bind UrbPipe.nativePipe with
  | none => []
  | some pipe => [.xfer (some pipe)]

/-- `usb_submit_urb`, as far as it is about pipes. -/
def submitUrb (u : U) (allocated made handed : Bool) (s : State U) : State U × List Event :=
  match (s.urbs u).dev with
  | none => (s, [])
  | some dev =>
    if (s.urbs u).hcpriv.isNone && !allocated then (s, [])
    else
      let own := (s.urbs u).hcpriv.getD ⟨none, false, none⟩
      match getNativePipe (some dev) (s.urbs u).pipe (some own) made s with
      | (s, own, .missing, events) => (s.setPriv u own, events)
      | (s, own, _, events) =>
        (s.setPriv u own, events ++ if handed then submitNative own else [])

/-- `lcompat_usb_sync_xfer`, as far as it is about pipes. -/
def syncXfer (dev : Option Nat) (pipe : BitVec 32) (made : Bool) (s : State U) :
    State U × List Event :=
  match s.native dev with
  | none => (s, [])
  | some nativeDev =>
    if pipeType pipe = 0 then (s, [.xfer none])
    else match getNativePipe dev pipe none made s with
      | (s, _, .pipe found owns, events) =>
        (s, events ++ .xfer (some found) ::
          if owns then [.free (some nativeDev) found] else [])
      | (s, _, _, events) => (s, events)

/-- `usb_free_urb`, as far as it is about pipes. -/
def freeUrb (u : U) (s : State U) : State U × List Event :=
  let s' := { s with urbs := Function.update s.urbs u ⟨none, 0, none⟩ }
  match (s.urbs u).hcpriv with
  | none => (s', [])
  | some own =>
    match own.nativePipe with
    | none => (s', [])
    | some pipe =>
      if !own.ownsPipe then (s', [])
      else if (s.urbs u).dev.isSome then (s', [.free (s.native (s.urbs u).dev) pipe])
      else ({ s' with lost := pipe :: s.lost }, [])

/-- `lcompat_usb_wrap`, as far as it is about pipes. -/
def wrap (nativeDev nativeIntf : Nat) (endpoints : List EndpointDescriptor) (s : State U) :
    State U :=
  if s.wrappers.any fun slot => slot.used && slot.native == some (nativeDev, nativeIntf) then s
  else match s.wrappers.findIdx? fun slot => !slot.used with
    | none => s
    | some i =>
      { s with
        wrappers := s.wrappers.set i ⟨true, some (nativeDev, nativeIntf), endpoints⟩
        nativePipes := fun e => if e.1 = i then none else s.nativePipes e }

/-- The pipes of a wrapper, as its loop in `lcompat_usb_native_remove` finds them. -/
def slotPipes (i : Nat) (slot : Slot) (s : State U) : List NativePipe :=
  (List.range slot.endpoints.length).filterMap fun ep => s.nativePipes (i, ep)

/-- The end of the loop of `lcompat_usb_native_remove`, for a wrapper that is used. -/
def release (i : Nat) (s : State U) : State U × List Event :=
  match s.wrappers[i]? with
  | none => (s, [])
  | some slot =>
    if !slot.used then (s, [])
    else
      ({ s with
        wrappers := s.wrappers.set i { slot with used := false }
        nativePipes := fun e =>
          if e.1 = i ∧ e.2 < slot.endpoints.length then none else s.nativePipes e },
        (slotPipes i slot s).map (.free slot.nativeDev))

/-- A call, and what the native kernel is called for. -/
def Op.run (s : State U) : Op U → State U × List Event
  | .wrap nativeDev nativeIntf endpoints => (UsbPipes.wrap nativeDev nativeIntf endpoints s, [])
  | .release i => UsbPipes.release i s
  | .fill u dev pipe =>
    ({ s with urbs := Function.update s.urbs u { s.urbs u with dev := dev, pipe := pipe } }, [])
  | .submit u allocated made handed => submitUrb u allocated made handed s
  | .handOver u => (s, submitNative (s.urbs u).hcpriv)
  | .syncXfer dev pipe made => UsbPipes.syncXfer dev pipe made s
  | .free u => freeUrb u s

/-- Some calls, one after the other. -/
def runOps : List (Op U) → State U → State U × List Event
  | [], s => (s, [])
  | op :: ops, s => ((runOps ops (op.run s).1).1, (op.run s).2 ++ (runOps ops (op.run s).1).2)

/-- The memory at first, with some number of wrappers. -/
def fresh (U : Type) (count : Nat) : State U where
  wrappers := List.replicate count ⟨false, none, []⟩
  nativePipes := fun _ => none
  urbs := fun _ => ⟨none, 0, none⟩
  made := 0
  lost := []

/-- Who may have a pipe. -/
inductive Holder (U : Type) where
  /-- An endpoint of a wrapper. -/
  | slot (e : Endpoint)
  /-- A URB. -/
  | owner (u : U)
  /-- No one any more. -/
  | lost

namespace State

/-- A holder has a pipe. -/
def Holds (s : State U) : Holder U → NativePipe → Prop
  | .slot e, pipe => s.nativePipes e = some pipe
  | .owner u, pipe => ∃ own, (s.urbs u).hcpriv = some own ∧ own.nativePipe = some pipe ∧
      own.ownsPipe = true
  | .lost, pipe => pipe ∈ s.lost

/-- Some holder has a pipe. -/
def Held (s : State U) (pipe : NativePipe) : Prop := ∃ holder, s.Holds holder pipe

/-- A URB has a pipe that it borrowed, and that its wrapper has given back since. -/
def Stale (s : State U) (u : U) : Prop :=
  ∃ own pipe, (s.urbs u).hcpriv = some own ∧ own.nativePipe = some pipe ∧ own.ownsPipe = false ∧
    ∀ e, own.queue = some e → s.nativePipes e ≠ some pipe

/-- A URB has a pipe of its own that was made for another device than it has now. -/
def Misplaced (s : State U) (u : U) : Prop :=
  ∃ own pipe, (s.urbs u).hcpriv = some own ∧ own.nativePipe = some pipe ∧ own.ownsPipe = true ∧
    (s.urbs u).dev.isSome = true ∧ s.native (s.urbs u).dev ≠ some pipe.dev

end State

/-- A call hands on a URB with the pipe that it had before. -/
def Op.Hands (s : State U) (u : U) : Op U → Prop
  | .submit v _ made handed => v = u ∧ handed = true ∧ (s.native (s.urbs u).dev).isSome = true ∧
      (pipeType (s.urbs u).pipe = 0 → made = true)
  | .handOver v => v = u
  | _ => False

/-- A call is as `usb.c` means it: a URB is not handed on after its wrapper has given its pipe back,
and not freed after it has got another device than its pipe. -/
def Op.Proper (s : State U) (op : Op U) : Prop :=
  (∀ u, op.Hands s u → ¬s.Stale u) ∧ ∀ u, op = .free u → ¬s.Misplaced u

/-- All calls are proper where they are made. -/
def ProperOps : List (Op U) → State U → Prop
  | [], _ => True
  | op :: ops, s => op.Proper s ∧ ProperOps ops (op.run s).1

/-- The references to pipes: a pipe comes with its device. -/
def pipeLedger : RefLedger Event (Option Nat × NativePipe) where
  gained
    | .alloc pipe, resource => if resource = (some pipe.dev, pipe) then 1 else 0
    | _, _ => 0
  dropped
    | .free dev pipe, resource => if resource = (dev, pipe) then 1 else 0
    | _, _ => 0
  Uses
    | .xfer (some pipe), resource => resource = (some pipe.dev, pipe)
    | _, _ => False

open Classical in
/-- One reference to each of some pipes. -/
noncomputable def counts (some_ : NativePipe → Prop) (resource : Option Nat × NativePipe) : Nat :=
  if some_ resource.2 ∧ resource.1 = some resource.2.dev then 1 else 0

/-- What holds of the memory between calls. -/
structure Kept (s : State U) : Prop where
  /-- Every pipe that is held has been made. -/
  made : ∀ holder pipe, s.Holds holder pipe → pipe.number < s.made
  /-- It has one holder. -/
  one : ∀ holder other pipe, s.Holds holder pipe → s.Holds other pipe → holder = other
  /-- Wrappers have pipes for their endpoints and their device, while they are used. -/
  slots : ∀ e pipe, s.nativePipes e = some pipe → ∃ slot, s.wrappers[e.1]? = some slot ∧
    slot.used = true ∧ e.2 < slot.endpoints.length ∧ slot.nativeDev = some pipe.dev
  /-- A wrapper that is used has a device. -/
  used : ∀ slot ∈ s.wrappers, slot.used = true → slot.native.isSome = true
  /-- What a URB has borrowed is still with the wrapper or gone. -/
  borrowed : ∀ u own pipe, (s.urbs u).hcpriv = some own → own.nativePipe = some pipe →
    own.ownsPipe = false → pipe.number < s.made ∧
      ∃ e, own.queue = some e ∧ (s.nativePipes e = some pipe ∨ ¬s.Held pipe)

section Ledger

variable {held held' : Option Nat × NativePipe → Nat} {some_ others : NativePipe → Prop}
  {pipe : NativePipe} {dev : Option Nat} {events : List Event}

/-- A pipe of both has as many references in both. -/
theorem counts_at (same : some_ pipe ↔ others pipe) :
    counts some_ (dev, pipe) = counts others (dev, pipe) := by
  classical exact if_congr (and_congr_left' same) rfl rfl

/-- There is a reference to a pipe with its device. -/
theorem counts_of (here : some_ pipe) : counts some_ (some pipe.dev, pipe) = 1 := if_pos ⟨here, rfl⟩

/-- There is none to a pipe that is not there. -/
theorem counts_of_not (gone : ¬some_ pipe) : counts some_ (dev, pipe) = 0 :=
  if_neg fun both => gone both.1

/-- There is none to a pipe with another device. -/
theorem counts_of_ne (other : dev ≠ some pipe.dev) : counts some_ (dev, pipe) = 0 :=
  if_neg fun both => other both.2

/-- A pipe that is made is one more. -/
theorem replays_alloc (new : ¬some_ pipe) :
    pipeLedger.Replays (counts some_) (.alloc pipe :: events) held' ↔
      pipeLedger.Replays (counts fun other => some_ other ∨ other = pipe) events held' := by
  have next : pipeLedger.next (counts some_) (.alloc pipe) =
      counts fun other => some_ other ∨ other = pipe := by
    funext resource
    obtain ⟨dev, other⟩ := resource
    show counts some_ (dev, other) - 0 + (if (dev, other) = (some pipe.dev, pipe) then 1 else 0) = _
    by_cases same : other = pipe
    · subst same
      by_cases device : dev = some other.dev
      · subst device
        rw [counts_of_not new, counts_of (Or.inr rfl), if_pos rfl]
      · rw [counts_of_ne device, counts_of_ne device, if_neg (by simp [device])]
    · rw [if_neg (by simp [same]), Nat.sub_zero, Nat.add_zero]
      exact counts_at (by simp [same])
  have covered : pipeLedger.Covered (counts some_) (.alloc pipe) :=
    fun resource => ⟨fun uses => uses.elim, Nat.zero_le _⟩
  rw [RefLedger.Replays, next]
  exact and_iff_right covered

/-- A transfer needs its pipe. -/
theorem replays_xfer :
    pipeLedger.Replays (counts some_) (.xfer (some pipe) :: events) held' ↔
      some_ pipe ∧ pipeLedger.Replays (counts some_) events held' := by
  have next : pipeLedger.next (counts some_) (.xfer (some pipe)) = counts some_ := rfl
  have covered : pipeLedger.Covered (counts some_) (.xfer (some pipe)) ↔ some_ pipe := by
    constructor
    · intro covered
      by_contra gone
      have positive := (covered (some pipe.dev, pipe)).1 rfl
      rw [counts_of_not gone] at positive
      exact Nat.lt_irrefl 0 positive
    · intro here resource
      refine ⟨fun uses => ?_, Nat.zero_le _⟩
      have same : resource = (some pipe.dev, pipe) := uses
      rw [same, counts_of here]
      exact Nat.one_pos
  rw [RefLedger.Replays, next, covered]

end Ledger

section Memory

variable {s s' : State U} {u : U} {own : UrbPipe} {e : Endpoint} {nativeDev : Nat}

omit [DecidableEq U] in
/-- The pipe that a URB has is held unless the URB is stale. -/
theorem Kept.held_iff (kept : Kept s) {pipe : NativePipe} (here : (s.urbs u).hcpriv = some own)
    (has : own.nativePipe = some pipe) : s.Held pipe ↔ ¬s.Stale u := by
  constructor
  · rintro held ⟨own', pipe', here', has', borrows, gone⟩
    obtain rfl := Option.some.inj (here.symm.trans here')
    obtain rfl := Option.some.inj (has.symm.trans has')
    obtain ⟨-, e, queue, there | lost⟩ := kept.borrowed u own pipe here has borrows
    · exact gone e queue there
    · exact lost held
  · intro fresh
    by_cases owns : own.ownsPipe = true
    · exact ⟨.owner u, own, here, has, owns⟩
    · have borrows := Bool.eq_false_iff.mpr owns
      obtain ⟨-, e, queue, there | lost⟩ := kept.borrowed u own pipe here has borrows
      · exact ⟨.slot e, there⟩
      · refine absurd ⟨own, pipe, here, has, borrows, fun e' queue' there => ?_⟩ fresh
        exact lost ⟨.slot e', there⟩

/-- A wrapper in which an endpoint is found is used. -/
theorem used_of_findWrapperFrom {wrappers : List Usb.Wrapper} {i : Nat} {pipe : BitVec 32}
    (found : findWrapperFrom nativeDev pipe i wrappers = some e) :
    ∃ wrapper, wrappers[e.1 - i]? = some wrapper ∧ wrapper.used = true := by
  induction wrappers generalizing i with
  | nil => cases found
  | cons wrapper rest ih =>
    have later (found : findWrapperFrom nativeDev pipe (i + 1) rest = some e) :
        ∃ wrapper', (wrapper :: rest)[e.1 - i]? = some wrapper' ∧ wrapper'.used = true := by
      obtain ⟨wrapper', here, used⟩ := ih found
      have behind := (findWrapperFrom_eq_some found).1
      have place : e.1 - i = e.1 - (i + 1) + 1 := by omega
      refine ⟨wrapper', ?_, used⟩
      rw [place, List.getElem?_cons_succ]
      exact here
    rw [findWrapperFrom] at found
    by_cases bound : wrapper.used = true ∧ wrapper.nativeDev = nativeDev
    · rw [if_pos bound] at found
      cases index : findWrapperEpIndex wrapper pipe with
      | none =>
        rw [index] at found
        exact later found
      | some ep =>
        rw [index] at found
        obtain rfl := Option.some.inj found
        exact ⟨wrapper, by simp, bound.1⟩
    · rw [if_neg bound] at found
      exact later found

omit [DecidableEq U] in
/-- An endpoint that is found is one of a wrapper of the device. -/
theorem Kept.found (kept : Kept s) {pipe : BitVec 32}
    (found : findWrapperFrom nativeDev pipe 0 (s.wrappers.map Slot.wrapper) = some e) :
    ∃ slot, s.wrappers[e.1]? = some slot ∧ slot.used = true ∧ e.2 < slot.endpoints.length ∧
      slot.nativeDev = some nativeDev := by
  obtain ⟨-, wrapper, epd, here, device, inside, -⟩ := findWrapperFrom_eq_some found
  obtain ⟨wrapper', here', used⟩ := used_of_findWrapperFrom found
  obtain rfl := Option.some.inj (here.symm.trans here')
  rw [Nat.sub_zero, List.getElem?_map, Option.map_eq_some_iff] at here
  obtain ⟨slot, there, rfl⟩ := here
  refine ⟨slot, there, used, (List.getElem?_eq_some_iff.mp inside).1, ?_⟩
  obtain ⟨native, named⟩ :=
    Option.isSome_iff_exists.mp (kept.used slot (List.mem_of_getElem? there) used)
  have same : slot.nativeDev = some native.1 := by
    rw [Slot.nativeDev, named]
    rfl
  rw [Slot.wrapper, same] at device
  rw [same]
  exact congrArg some device

/-- The private state of a URB is written, with the pipe of its own that it had. -/
theorem Kept.setPriv (kept : Kept s)
    (owner : ∀ pipe, own.nativePipe = some pipe ∧ own.ownsPipe = true ↔ s.Holds (.owner u) pipe)
    (borrowed : ∀ pipe, own.nativePipe = some pipe → own.ownsPipe = false →
      pipe.number < s.made ∧ ∃ e, own.queue = some e ∧ (s.nativePipes e = some pipe ∨ ¬s.Held pipe))
    (next : s' = s.setPriv u (some own)) :
    Kept s' ∧ ∀ holder pipe, s'.Holds holder pipe ↔ s.Holds holder pipe := by
  subst next
  have holds : ∀ holder pipe,
      (s.setPriv u (some own)).Holds holder pipe ↔ s.Holds holder pipe := by
    intro holder pipe
    cases holder with
    | slot e => exact Iff.rfl
    | owner v =>
      by_cases same : v = u
      · subst same
        rw [← owner pipe]
        simp [State.Holds, State.setPriv]
      · simp [State.Holds, State.setPriv, same]
    | lost => exact Iff.rfl
  have held : ∀ pipe, (s.setPriv u (some own)).Held pipe ↔ s.Held pipe :=
    fun pipe => exists_congr fun holder => holds holder pipe
  refine ⟨⟨?_, ?_, kept.slots, kept.used, ?_⟩, holds⟩
  · exact fun holder pipe here => kept.made holder pipe ((holds holder pipe).mp here)
  · exact fun holder other pipe here there =>
      kept.one holder other pipe ((holds holder pipe).mp here) ((holds other pipe).mp there)
  · intro v own' pipe here has borrows
    rw [held]
    by_cases same : v = u
    · subst same
      simp only [State.setPriv, Function.update_self, Option.some.injEq] at here
      subst here
      exact borrowed pipe has borrows
    · simp only [State.setPriv, Function.update_of_ne same] at here
      exact kept.borrowed v own' pipe here has borrows

omit [DecidableEq U] in
/-- Some holders have nothing any more. -/
theorem Kept.drop (kept : Kept s) (dropped : Holder U → Prop) (made : s'.made = s.made)
    (holds : ∀ holder pipe, s'.Holds holder pipe ↔ s.Holds holder pipe ∧ ¬dropped holder)
    (privs : ∀ v own, (s'.urbs v).hcpriv = some own → (s.urbs v).hcpriv = some own)
    (slots : ∀ e pipe, s'.nativePipes e = some pipe → ∃ slot, s'.wrappers[e.1]? = some slot ∧
      slot.used = true ∧ e.2 < slot.endpoints.length ∧ slot.nativeDev = some pipe.dev)
    (used : ∀ slot ∈ s'.wrappers, slot.used = true → slot.native.isSome = true) : Kept s' := by
  refine ⟨?_, ?_, slots, used, ?_⟩
  · intro holder pipe here
    rw [made]
    exact kept.made holder pipe ((holds holder pipe).mp here).1
  · exact fun holder other pipe here there =>
      kept.one holder other pipe ((holds holder pipe).mp here).1 ((holds other pipe).mp there).1
  · intro v own pipe here has borrows
    obtain ⟨old, e, queue, there | gone⟩ := kept.borrowed v own pipe (privs v own here) has borrows
    · rw [made]
      refine ⟨old, e, queue, ?_⟩
      by_cases away : dropped (.slot e)
      · right
        rintro ⟨holder, here⟩
        obtain ⟨before, stays⟩ := (holds holder pipe).mp here
        obtain rfl := kept.one holder (.slot e) pipe before there
        exact stays away
      · exact .inl ((holds (.slot e) pipe).mpr ⟨there, away⟩)
    · rw [made]
      refine ⟨old, e, queue, .inr ?_⟩
      rintro ⟨holder, here⟩
      exact gone ⟨holder, ((holds holder pipe).mp here).1⟩

/-- A URB is freed. -/
theorem Kept.free (kept : Kept s)
    (next : s' = { s with urbs := Function.update s.urbs u ⟨none, 0, none⟩ }) :
    Kept s' ∧ ∀ holder pipe, s'.Holds holder pipe ↔ s.Holds holder pipe ∧ ¬holder = .owner u := by
  subst next
  have holds : ∀ holder pipe,
      State.Holds { s with urbs := Function.update s.urbs u ⟨none, 0, none⟩ } holder pipe ↔
        s.Holds holder pipe ∧ ¬holder = .owner u := by
    intro holder pipe
    cases holder with
    | slot e => simp [State.Holds]
    | owner v =>
      by_cases same : v = u
      · subst same
        simp [State.Holds]
      · simp [State.Holds, same]
    | lost => simp [State.Holds]
  refine ⟨kept.drop (· = .owner u) rfl holds ?_ kept.slots kept.used, holds⟩
  intro v own here
  by_cases same : v = u
  · subst same
    simp at here
  · simpa [same] using here

/-- A URB is freed, and its pipe is lost. -/
theorem Kept.lose (kept : Kept s) {pipe : NativePipe} (has : s.Holds (.owner u) pipe)
    (next : s' = { s with
      urbs := Function.update s.urbs u ⟨none, 0, none⟩
      lost := pipe :: s.lost }) :
    Kept s' ∧ ∀ other, s'.Held other ↔ s.Held other := by
  obtain ⟨freed, holds⟩ := @Kept.free U _ s _ u kept rfl
  generalize between : { s with urbs := Function.update s.urbs u ⟨none, 0, none⟩ } = mid
    at freed holds
  have same : s' = { mid with lost := pipe :: s.lost } := by
    rw [next, ← between]
  have rest : mid.lost = s.lost := by rw [← between]
  have count : mid.made = s.made := by rw [← between]
  have holds' : ∀ holder other, s'.Holds holder other ↔
      mid.Holds holder other ∨ holder = .lost ∧ other = pipe := by
    intro holder other
    subst same
    cases holder with
    | slot e => simp [State.Holds]
    | owner v => simp [State.Holds]
    | lost => simp [State.Holds, rest, or_comm]
  have gone : ¬mid.Held pipe := by
    rintro ⟨holder, there⟩
    obtain ⟨before, other⟩ := (holds holder pipe).mp there
    exact other (kept.one holder (.owner u) pipe before has)
  have held : ∀ other, s'.Held other ↔ s.Held other := by
    intro other
    constructor
    · rintro ⟨holder, here⟩
      rcases (holds' holder other).mp here with before | ⟨-, rfl⟩
      · exact ⟨holder, ((holds holder other).mp before).1⟩
      · exact ⟨.owner u, has⟩
    · rintro ⟨holder, here⟩
      by_cases own : holder = .owner u
      · subst own
        obtain ⟨priv, there, named, -⟩ := here
        obtain ⟨priv', there', named', -⟩ := has
        obtain rfl := Option.some.inj (there.symm.trans there')
        obtain rfl := Option.some.inj (named.symm.trans named')
        exact ⟨.lost, (holds' .lost other).mpr (.inr ⟨rfl, rfl⟩)⟩
      · exact ⟨holder, (holds' holder other).mpr (.inl ((holds holder other).mpr ⟨here, own⟩))⟩
  refine ⟨⟨?_, ?_, ?_, ?_, ?_⟩, held⟩
  · intro holder other here
    obtain ⟨holder', before⟩ := (held other).mp ⟨holder, here⟩
    have less := kept.made holder' other before
    rw [same]
    rwa [← count] at less
  · intro holder holder' other here here'
    rcases (holds' holder other).mp here with before | ⟨rfl, rfl⟩
    · rcases (holds' holder' other).mp here' with before' | ⟨-, rfl⟩
      · exact freed.one holder holder' other before before'
      · exact (gone ⟨holder, before⟩).elim
    · rcases (holds' holder' _).mp here' with before' | ⟨rfl, -⟩
      · exact (gone ⟨holder', before'⟩).elim
      · rfl
  · rw [same]
    exact freed.slots
  · rw [same]
    exact freed.used
  · intro v own other here there borrows
    have before : (mid.urbs v).hcpriv = some own := by
      rw [same] at here
      exact here
    have mine : (s.urbs v).hcpriv = some own := by
      rw [← between] at before
      by_cases this : v = u
      · subst this
        simp at before
      · simpa [this] using before
    obtain ⟨old, e, queue, kept'⟩ := kept.borrowed v own other mine there borrows
    rw [held, same]
    refine ⟨by rw [← count] at old; exact old, e, queue, ?_⟩
    rw [← between]
    exact kept'

end Memory

/-- What a call should do: the native kernel is called for what can be done with the pipes that are
held, exactly if the call is proper, and then the pipes that are held are those of the memory. -/
def Sound (s : State U) (op : Op U) (s' : State U) (events : List Event) : Prop :=
  Kept s' ∧ ∀ held, pipeLedger.Replays (counts s.Held) events held ↔
    op.Proper s ∧ held = counts s'.Held

section Steps

variable {s : State U}

omit [DecidableEq U] in
/-- A URB is handed on with the pipe of its private state, if that is held. -/
theorem replays_submitNative (kept : Kept s) {u : U} {own : UrbPipe}
    (here : (s.urbs u).hcpriv = some own) {held : Option Nat × NativePipe → Nat} :
    pipeLedger.Replays (counts s.Held) (submitNative (some own)) held ↔
      ¬s.Stale u ∧ held = counts s.Held := by
  have looked : (some own).bind UrbPipe.nativePipe = own.nativePipe := rfl
  rw [submitNative, looked]
  cases has : own.nativePipe with
  | none =>
    refine (and_iff_right ?_).symm
    rintro ⟨own', pipe, here', has', -⟩
    obtain rfl := Option.some.inj (here.symm.trans here')
    rw [has] at has'
    cases has'
  | some pipe =>
    rw [replays_xfer, kept.held_iff here has]
    rfl

/-- The private state that `usb_submit_urb` finds or makes. -/
structure Priv (s : State U) (u : U) (own : UrbPipe) : Prop where
  /-- It has the pipe of its own that the URB has. -/
  owner : ∀ pipe, own.nativePipe = some pipe ∧ own.ownsPipe = true ↔ s.Holds (.owner u) pipe
  /-- What it has borrowed is still with the wrapper or gone. -/
  borrowed : ∀ pipe, own.nativePipe = some pipe → own.ownsPipe = false → pipe.number < s.made ∧
    ∃ e, own.queue = some e ∧ (s.nativePipes e = some pipe ∨ ¬s.Held pipe)
  /-- Without a pipe it is not stale. -/
  bare : own.nativePipe = none → ¬s.Stale u
  /-- It is handed on with the pipe that it has. -/
  handed : ∀ held, pipeLedger.Replays (counts s.Held) (submitNative (some own)) held ↔
    ¬s.Stale u ∧ held = counts s.Held

omit [DecidableEq U] in
/-- `usb_submit_urb` takes the private state of the URB, or one without a pipe. -/
theorem Kept.priv (kept : Kept s) (u : U) :
    Priv s u ((s.urbs u).hcpriv.getD ⟨none, false, none⟩) := by
  cases here : (s.urbs u).hcpriv with
  | none =>
    have fresh : ¬s.Stale u := by
      rintro ⟨own, pipe, here', -⟩
      rw [here] at here'
      cases here'
    refine ⟨fun pipe => ?_, fun pipe has => (by cases has), fun _ => fresh, fun held => ?_⟩
    · constructor
      · rintro ⟨has, -⟩
        cases has
      · rintro ⟨own, here', -⟩
        rw [here] at here'
        cases here'
    · exact (and_iff_right fresh).symm
  | some own =>
    refine ⟨fun pipe => ?_, fun pipe => kept.borrowed u own pipe here, ?_,
      fun held => replays_submitNative kept here⟩
    · constructor
      · exact fun has => ⟨own, here, has⟩
      · rintro ⟨own', here', has⟩
        obtain rfl := Option.some.inj (here.symm.trans here')
        exact has
    · rintro none_ ⟨own', pipe, here', has, -⟩
      obtain rfl := Option.some.inj (here.symm.trans here')
      cases none_.symm.trans has

end Steps

end Lcompat.UsbPipes
