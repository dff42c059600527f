import Lcompat.Logic.Window
import Lcompat.Net.Bounds
import Lcompat.Net.References

/-!
# Buffers without fragments as windows

A buffer without fragments shows some bytes of its memory: the headroom is in front of them and the
tailroom behind. What the functions do with pointers and 32-bit numbers is what the operations of a
window do with lists of bytes, over any sequence of calls and of stores into the packet, and they
refuse exactly what these refuse.
-/

namespace Lcompat.Net.Paged

open Lcompat.Logic

/-- A buffer without fragments shows the bytes of a packet in its memory. -/
structure Buffer.Shows (skb : Buffer) (memory : Memory) (window : Window UInt8) : Prop where
  /-- There is memory. -/
  head : skb.head ≠ 0
  /-- It holds the bytes. -/
  holds : memory.Holds skb.head window.whole
  /-- `data` is behind the headroom. -/
  data : skb.data = skb.head + window.front.length
  /-- `len` counts the packet. -/
  len : skb.len.toNat = window.body.length
  /-- `tail` is behind the packet. -/
  tail : skb.tail.toNat = window.front.length + window.body.length
  /-- `end` is behind the tailroom. -/
  limit : skb.limit.toNat = window.whole.length
  /-- No data lies in fragments. -/
  dataLen : skb.dataLen = 0
  /-- There are no fragments. -/
  frags : skb.frags = []

/-- A call that changes a buffer without fragments, or a store into its packet. -/
inductive WindowCall where
  /-- `skb_reserve`. -/
  | reserve (len : UInt32)
  /-- `skb_put`. -/
  | put (len : UInt32)
  /-- `skb_push`. -/
  | push (len : UInt32)
  /-- `skb_pull`. -/
  | pull (len : UInt32)
  /-- `skb_trim`. -/
  | trim (len : UInt32)
  /-- `skb_pad`. -/
  | pad (len : Int32)
  /-- `skb_cow_head`, with what `__dev_alloc_pages` returns. -/
  | cowHead (alloc : PageAlloc) (headroom : UInt32)
  /-- `skb_reset_tail_pointer`. -/
  | resetTailPointer
  /-- The caller stores bytes at an offset of the packet. -/
  | store (offset : Nat) (bytes : List UInt8)

/-- What a call leaves, with whether the caller is told that it succeeds, unless it faults. Who
calls a function that returns nothing is told nothing. -/
def WindowCall.run (s : Buffer × Memory) : WindowCall → Option (Bool × Buffer × Memory)
  | .reserve len => some (true, skbReserve s.1 len, s.2)
  | .put len => some ((skbPut s.1 len).isSome, ((skbPut s.1 len).map Prod.snd).getD s.1, s.2)
  | .push len => some ((skbPush s.1 len).isSome, (skbPush s.1 len).getD s.1, s.2)
  | .pull len => some ((skbPull s.1 len).isSome, (skbPull s.1 len).getD s.1, s.2)
  | .trim len => some (true, (skbTrim s.1 len).1, s.2)
  | .pad len =>
    let after := skbPad len s.1 s.2
    some (after.result = 0, after.skb, after.memory)
  | .cowHead alloc headroom =>
    (skbCowHead alloc headroom s.1 s.2).map fun after =>
      (after.result = 0, after.skb, after.memory)
  | .resetTailPointer => some (true, skbResetTailPointer s.1, s.2)
  | .store offset bytes =>
    if offset + bytes.length ≤ s.1.len.toNat then
      some (true, s.1, s.2.write (s.1.data + offset) bytes)
    else none

/-- An operation of a window is done, or refused where it cannot be done. -/
def Does (done : Option (Window UInt8)) (window : Window UInt8) (told : Bool)
    (window' : Window UInt8) : Prop :=
  told = true ∧ done = some window' ∨ told = false ∧ done = none ∧ window' = window

/-- What a call should do to the bytes that are shown, and what its caller should be told. -/
def WindowCall.Means (window : Window UInt8) (told : Bool) (window' : Window UInt8) :
    WindowCall → Prop
  | .reserve len => told = true ∧ window' = (window.slide len.toNat).getD window
  | .put len => Does (window.put len.toNat) window told window'
  | .push len => Does (window.push len.toNat) window told window'
  | .pull len => Does (window.pull len.toNat) window told window'
  | .trim len => told = true ∧ window' = (window.trim len.toNat).getD window
  | .pad len =>
    Does (if len < 0 then none else window.fill (List.replicate len.toNatClampNeg 0)) window told
      window'
  | .cowHead alloc headroom =>
    if headroom.toNat ≤ window.front.length then told = true ∧ window' = window
    else if headroom.toNat + (window.body.length + window.back.length) < 2 ^ 32 ∧
        (alloc (getOrder (UInt64.ofNat
          (headroom.toNat + (window.body.length + window.back.length))))).isSome then
      told = true ∧ window'.front.length = headroom.toNat ∧ window'.body = window.body ∧
        window'.back.length = window.back.length
    else told = false ∧ window' = window
  | .resetTailPointer => told = true ∧ window.trim 0 = some window'
  | .store offset bytes => told = true ∧ window.store offset bytes = some window'

/-- `__dev_alloc_pages` returns pages whose frames can be read and are not those of the buffer. -/
def Usable (s : Buffer × Memory) (alloc : PageAlloc) : Prop :=
  ∀ order page address, alloc order = some (page, address) → address ≠ 0 ∧
    (∀ offset < 4096 * 2 ^ order.toNat, (s.2 (address + offset)).isSome = true) ∧
      (address + 4096 * 2 ^ order.toNat ≤ s.1.head ∨ s.1.head + s.1.limit.toNat ≤ address)

/-- Pages are usable, and stores stay inside of the packet. -/
def WindowCall.Fair (s : Buffer × Memory) : WindowCall → Prop
  | .cowHead alloc _ => Usable s alloc
  | .store offset bytes => offset + bytes.length ≤ s.1.len.toNat
  | .reserve _ | .put _ | .push _ | .pull _ | .trim _ | .pad _ | .resetTailPointer => True

/-- What some calls leave, with what their callers are told, unless one of them faults. -/
def runWindowCalls : List WindowCall → Buffer × Memory → Option (List Bool × Buffer × Memory)
  | [], s => some ([], s)
  | call :: calls, s =>
    (call.run s).bind fun (told, s) =>
      (runWindowCalls calls s).map fun (answers, s) => (told :: answers, s)

/-- All calls are fair where they are made. -/
def FairCalls : List WindowCall → Buffer × Memory → Prop
  | [], _ => True
  | call :: calls, s =>
    call.Fair s ∧ ∀ told s', call.run s = some (told, s') → FairCalls calls s'

/-- What some calls should do to the bytes that are shown. -/
inductive MeansAll : Window UInt8 → List WindowCall → List Bool → Window UInt8 → Prop
  /-- No call does nothing. -/
  | nil (window : Window UInt8) : MeansAll window [] [] window
  /-- A call is followed by others. -/
  | cons {window window' window'' : Window UInt8} {call : WindowCall} {calls : List WindowCall}
      {told : Bool} {answers : List Bool} (first : call.Means window told window')
      (rest : MeansAll window' calls answers window'') :
      MeansAll window (call :: calls) (told :: answers) window''

section Shows

variable {skb : Buffer} {memory : Memory} {window : Window UInt8}

/-- The headroom of a buffer that shows a packet. -/
theorem Buffer.Shows.dataOff (shows_ : skb.Shows memory window) :
    skb.dataOff.toNat = window.front.length := by
  have limit := shows_.limit
  have small := skb.limit.toNat_lt
  rw [window.length_whole] at limit
  rw [toNat_dataOff, shows_.data, Nat.add_sub_cancel_left, Nat.mod_eq_of_lt (by omega)]

/-- A buffer that shows a packet is within its bounds. -/
theorem Buffer.Shows.valid (shows_ : skb.Shows memory window) : skbValidBounds skb = true := by
  have limit := shows_.limit
  have tail := shows_.tail
  have len := shows_.len
  rw [window.length_whole] at limit
  rw [validBounds_iff, shows_.dataOff, shows_.dataLen]
  refine ⟨shows_.head, by rw [shows_.data]; omega, Nat.zero_le _, by omega, ?_⟩
  show window.front.length + (skb.len.toNat - 0) ≤ skb.tail.toNat
  omega

/-- All of the packet is linear. -/
theorem Buffer.Shows.linearLen (shows_ : skb.Shows memory window) : skb.linearLen = skb.len := by
  rw [Buffer.linearLen, shows_.dataLen, UInt32.sub_zero]

/-- The tailroom of a buffer that shows a packet. -/
theorem Buffer.Shows.tailroom (shows_ : skb.Shows memory window) :
    (skb.limit - skb.tail).toNat = window.back.length := by
  have limit := shows_.limit
  have tail := shows_.tail
  rw [window.length_whole] at limit
  rw [UInt32.toNat_sub_of_le _ _ (UInt32.le_iff_toNat_le.mpr (by omega))]
  omega

/-- Moving `data` and `tail` over the same memory moves the ends of the window. -/
theorem Buffer.Shows.cut (shows_ : skb.Shows memory window) {data start count : Nat}
    {len tail : UInt32} (place : data = skb.head + start) (counted : len.toNat = count)
    (behind : tail.toNat = start + count) (inside : start + count ≤ window.whole.length) :
    { skb with data, len, tail }.Shows memory (Window.cut window.whole start count) where
  head := shows_.head
  holds := by
    rw [Window.whole_cut]
    exact shows_.holds
  data := by rw [Window.length_front_cut (by omega), place]
  len := by rw [Window.length_body_cut inside, counted]
  tail := by rw [Window.length_front_cut (by omega), Window.length_body_cut inside, behind]
  limit := by
    rw [Window.whole_cut]
    exact shows_.limit
  dataLen := shows_.dataLen
  frags := shows_.frags

/-- Room for a packet that grows is room in its tailroom. -/
theorem Buffer.Shows.room_iff (shows_ : skb.Shows memory window) (len : UInt32) :
    skb.Room len ↔ len.toNat ≤ window.back.length := by
  have limit := shows_.limit
  have tail := shows_.tail
  have counted := shows_.len
  have small := skb.limit.toNat_lt
  rw [window.length_whole] at limit
  constructor
  · rintro ⟨room, -⟩
    omega
  · intro enough
    constructor <;> omega

/-- A packet grows into its tailroom. -/
theorem Buffer.Shows.grown (shows_ : skb.Shows memory window) {len : UInt32}
    (enough : len.toNat ≤ window.back.length) :
    (skb.grown len).Shows memory (Window.cut window.whole window.front.length
      (window.body.length + len.toNat)) := by
  obtain ⟨tail, counted⟩ := ((shows_.room_iff len).mpr enough).grown
  refine shows_.cut shows_.data ?_ ?_ ?_
  · rw [counted, shows_.len]
  · rw [tail, shows_.tail, Nat.add_assoc]
  · rw [window.length_whole]
    omega

/-- `skb_put` refuses what the tailroom has no room for. -/
theorem Buffer.Shows.skbPut_eq (shows_ : skb.Shows memory window) (len : UInt32) :
    skbPut skb len = if len.toNat ≤ window.back.length then
      some (skb.head + skb.tail.toNat, skb.grown len) else none := by
  by_cases enough : len.toNat ≤ window.back.length
  · rw [if_pos enough, skbPut_eq_some shows_.valid ((shows_.room_iff len).mpr enough)]
  · have full : skb.limit - skb.tail < len := by
      rw [UInt32.lt_iff_toNat_lt, shows_.tailroom]
      omega
    rw [if_neg enough]
    simp [skbPut, full]

/-- `skb_put` shows bytes of the tailroom. -/
theorem Buffer.Shows.put (shows_ : skb.Shows memory window) (len : UInt32) :
    ∃ window', Does (window.put len.toNat) window (skbPut skb len).isSome window' ∧
      (((skbPut skb len).map Prod.snd).getD skb).Shows memory window' := by
  rw [shows_.skbPut_eq]
  by_cases enough : len.toNat ≤ window.back.length
  · rw [if_pos enough]
    exact ⟨_, .inl ⟨rfl, Window.put_eq_cut enough⟩, shows_.grown enough⟩
  · rw [if_neg enough]
    exact ⟨window, .inr ⟨rfl, if_neg enough, rfl⟩, shows_⟩

/-- `skb_push` shows bytes of the headroom. -/
theorem Buffer.Shows.push (shows_ : skb.Shows memory window) (len : UInt32) :
    ∃ window', Does (window.push len.toNat) window (skbPush skb len).isSome window' ∧
      ((skbPush skb len).getD skb).Shows memory window' := by
  have limit := shows_.limit
  have counted := shows_.len
  have small := skb.limit.toNat_lt
  have off := shows_.dataOff
  rw [window.length_whole] at limit
  by_cases enough : len.toNat ≤ window.front.length
  · have front : ¬skb.dataOff < len := by
      rw [UInt32.lt_iff_toNat_lt, off]
      omega
    have count : ¬len > 0xffffffff - skb.len := by
      have top : skb.len ≤ 0xffffffff :=
        UInt32.le_iff_toNat_le.mpr (by show skb.len.toNat ≤ 0xffffffff; omega)
      have most : (0xffffffff : UInt32).toNat = 0xffffffff := rfl
      rw [gt_iff_lt, UInt32.lt_iff_toNat_lt, UInt32.toNat_sub_of_le _ _ top]
      omega
    have pushed : skbPush skb len =
        some { skb with data := skb.data - len.toNat, len := skb.len + len } := by
      simp [skbPush, shows_.valid, front, count]
    rw [pushed]
    refine ⟨_, .inl ⟨rfl, Window.push_eq_cut enough⟩, ?_⟩
    have longer : (skb.len + len).toNat = window.body.length + len.toNat := by
      rw [UInt32.toNat_add, counted]
      exact Nat.mod_eq_of_lt (by omega)
    refine shows_.cut ?_ longer ?_ ?_
    · rw [shows_.data]
      omega
    · rw [shows_.tail]
      omega
    · rw [window.length_whole]
      omega
  · have refused : skbPush skb len = none := by
      have front : skb.dataOff < len := by
        rw [UInt32.lt_iff_toNat_lt, off]
        omega
      simp [skbPush, front]
    rw [refused]
    exact ⟨window, .inr ⟨rfl, if_neg enough, rfl⟩, shows_⟩

/-- `skb_pull` leaves bytes of the packet to the headroom. -/
theorem Buffer.Shows.pull (shows_ : skb.Shows memory window) (len : UInt32) :
    ∃ window', Does (window.pull len.toNat) window (skbPull skb len).isSome window' ∧
      ((skbPull skb len).getD skb).Shows memory window' := by
  have counted := shows_.len
  by_cases enough : len.toNat ≤ window.body.length
  · have least : len ≤ skb.len := UInt32.le_iff_toNat_le.mpr (by omega)
    have pulled : skbPull skb len =
        some { skb with data := skb.data + len.toNat, len := skb.len - len } := by
      simp [skbPull, shows_.valid, UInt32.not_lt.mpr least]
    rw [pulled]
    refine ⟨_, .inl ⟨rfl, Window.pull_eq_cut enough⟩, shows_.cut ?_ ?_ ?_ ?_⟩
    · rw [shows_.data, Nat.add_assoc]
    · rw [UInt32.toNat_sub_of_le _ _ least, counted]
    · rw [shows_.tail]
      omega
    · rw [window.length_whole]
      omega
  · have refused : skbPull skb len = none := by
      have large : skb.len < len := by
        rw [UInt32.lt_iff_toNat_lt]
        omega
      simp [skbPull, large]
    rw [refused]
    exact ⟨window, .inr ⟨rfl, if_neg enough, rfl⟩, shows_⟩

/-- `skb_trim` leaves bytes of the packet to the tailroom. -/
theorem Buffer.Shows.trim (shows_ : skb.Shows memory window) (len : UInt32) :
    (skbTrim skb len).1.Shows memory ((window.trim len.toNat).getD window) := by
  have counted := shows_.len
  by_cases enough : len.toNat ≤ window.body.length
  · have least : len ≤ skb.len := UInt32.le_iff_toNat_le.mpr (by omega)
    have limit := shows_.limit
    have small := skb.limit.toNat_lt
    have off := shows_.dataOff
    rw [window.length_whole] at limit
    have behind : (skb.dataOff + len).toNat = window.front.length + len.toNat := by
      rw [UInt32.toNat_add, off]
      exact Nat.mod_eq_of_lt (by omega)
    have trimmed : (skbTrim skb len).1 = { skb with len, tail := skb.dataOff + len } := by
      rw [skbTrim_eq shows_.valid least, shows_.linearLen]
      split
      · rw [← shows_.frags, ← shows_.dataLen]
      · next cut =>
        obtain rfl : len = skb.len := UInt32.le_antisymm least (UInt32.not_lt.mp cut)
        rw [UInt32.sub_self, UInt32.sub_zero]
    rw [trimmed, Window.trim_eq_cut enough, Option.getD_some]
    refine shows_.cut shows_.data rfl behind ?_
    rw [window.length_whole]
    omega
  · have refused : ¬len ≤ skb.len := by
      rw [UInt32.le_iff_toNat_le]
      omega
    have same : (skbTrim skb len).1 = skb := by
      simp [skbTrim, refused]
    rw [same, Window.trim, if_neg enough]
    exact shows_

/-- `skb_reserve` moves the window over the tailroom. -/
theorem Buffer.Shows.reserve (shows_ : skb.Shows memory window) (len : UInt32) :
    (skbReserve skb len).Shows memory ((window.slide len.toNat).getD window) := by
  by_cases enough : len.toNat ≤ window.back.length
  · have limit := shows_.limit
    have small := skb.limit.toNat_lt
    have tail := shows_.tail
    rw [window.length_whole] at limit
    have room : ¬len > skb.limit - skb.tail := by
      rw [gt_iff_lt, UInt32.lt_iff_toNat_lt, shows_.tailroom]
      omega
    have moved : skbReserve skb len =
        { skb with data := skb.data + len.toNat, tail := skb.tail + len } := by
      simp [skbReserve, shows_.valid, room]
    have behind : (skb.tail + len).toNat = skb.tail.toNat + len.toNat := by
      rw [UInt32.toNat_add]
      exact Nat.mod_eq_of_lt (by omega)
    rw [moved, Window.slide, if_pos enough, Option.getD_some]
    refine shows_.cut ?_ shows_.len ?_ ?_
    · rw [shows_.data, Nat.add_assoc]
    · omega
    · rw [window.length_whole]
      omega
  · have full : len > skb.limit - skb.tail := by
      rw [gt_iff_lt, UInt32.lt_iff_toNat_lt, shows_.tailroom]
      omega
    have same : skbReserve skb len = skb := by
      simp [skbReserve, full]
    rw [same, Window.slide, if_neg enough]
    exact shows_

/-- `skb_reset_tail_pointer` leaves the packet to the tailroom. -/
theorem Buffer.Shows.resetTailPointer (shows_ : skb.Shows memory window) :
    ∃ window', window.trim 0 = some window' ∧
      (skbResetTailPointer skb).Shows memory window' := by
  have limit := shows_.limit
  have off := shows_.dataOff
  rw [window.length_whole] at limit
  have inside : ¬skb.dataOff > skb.limit := by
    rw [gt_iff_lt, UInt32.lt_iff_toNat_lt]
    omega
  have order : ¬skb.data < skb.head := by
    rw [shows_.data]
    omega
  have reset : skbResetTailPointer skb = { skb with len := 0, tail := skb.dataOff } := by
    simp [skbResetTailPointer, shows_.head, inside, order]
  rw [reset]
  refine ⟨_, Window.trim_eq_cut (Nat.zero_le _), shows_.cut shows_.data rfl off ?_⟩
  rw [window.length_whole]
  omega

/-- Bytes that are written into the memory of a buffer are shown where they are. -/
theorem Buffer.Shows.write {front middle back bytes : List UInt8}
    (shows_ : skb.Shows memory window) {window' : Window UInt8}
    (all : window.whole = front ++ middle ++ back) (same : bytes.length = middle.length)
    (all' : window'.whole = front ++ bytes ++ back)
    (front' : window'.front.length = window.front.length)
    (body' : window'.body.length = window.body.length) :
    skb.Shows (memory.write (skb.head + front.length) bytes) window' where
  head := shows_.head
  holds := by
    have holds := shows_.holds
    rw [all] at holds
    rw [all']
    exact holds.write_inside same
  data := by rw [front', shows_.data]
  len := by rw [body', shows_.len]
  tail := by rw [front', body', shows_.tail]
  limit := by
    have lengths : window'.whole.length = window.whole.length := by
      rw [all, all', List.length_append, List.length_append, List.length_append,
        List.length_append, same]
    rw [lengths, shows_.limit]
  dataLen := shows_.dataLen
  frags := shows_.frags

/-- A store into the packet changes the packet. -/
theorem Buffer.Shows.store (shows_ : skb.Shows memory window) {offset : Nat} {bytes : List UInt8}
    (inside : offset + bytes.length ≤ window.body.length) :
    ∃ window', window.store offset bytes = some window' ∧
      skb.Shows (memory.write (skb.data + offset) bytes) window' := by
  have place : skb.data + offset =
      skb.head + (window.front ++ window.body.take offset).length := by
    rw [shows_.data, List.length_append, List.length_take, Nat.min_eq_left (by omega),
      Nat.add_assoc]
  have middle : ((window.body.drop offset).take bytes.length).length = bytes.length := by
    rw [List.length_take, List.length_drop]
    omega
  have split : window.body = window.body.take offset ++ ((window.body.drop offset).take bytes.length
      ++ window.body.drop (offset + bytes.length)) := by
    rw [← List.drop_drop, List.take_append_drop, List.take_append_drop]
  have all : window.whole = window.front ++ window.body.take offset ++
      (window.body.drop offset).take bytes.length ++
        (window.body.drop (offset + bytes.length) ++ window.back) := by
    rw [Window.whole]
    nth_rewrite 1 [split]
    simp only [List.append_assoc]
  refine ⟨_, if_pos inside, ?_⟩
  rw [place]
  refine shows_.write all middle.symm ?_ rfl ?_
  · simp only [Window.whole, List.append_assoc]
  · simp only [List.length_append, List.length_take, List.length_drop]
    omega

/-- A packet that is written where another one of its length is shown takes its place. -/
theorem Buffer.Shows.overwrite {all packet : List UInt8} {start : Nat}
    (shows_ : skb.Shows memory (Window.cut all start packet.length))
    (inside : start + packet.length ≤ all.length) :
    skb.Shows (memory.write (skb.head + start) packet)
      ⟨all.take start, packet, (all.drop start).drop packet.length⟩ := by
  have shown := Window.length_body_cut inside
  have parts : (Window.cut all start packet.length).whole =
      all.take start ++ (Window.cut all start packet.length).body ++
        (all.drop start).drop packet.length := by
    rw [Window.whole, Window.cut, List.append_assoc]
  have parts' : Window.whole ⟨all.take start, packet, (all.drop start).drop packet.length⟩ =
      all.take start ++ packet ++ (all.drop start).drop packet.length := by
    rw [Window.whole, List.append_assoc]
  have written := shows_.write parts shown.symm parts' rfl shown.symm
  rwa [List.length_take, Nat.min_eq_left (by omega)] at written

/-- `skb_pad` writes zeros into the tailroom. -/
theorem Buffer.Shows.pad (shows_ : skb.Shows memory window) (len : Int32) :
    ∃ window', WindowCall.Means window ((skbPad len skb memory).result = 0) window' (.pad len) ∧
      (skbPad len skb memory).skb.Shows (skbPad len skb memory).memory window' := by
  by_cases negative : len < 0
  · have refused : skbPad len skb memory = ⟨-EINVAL, skb, memory, []⟩ := if_pos negative
    rw [refused]
    have failed : ¬-EINVAL = 0 := by decide
    exact ⟨window, .inr ⟨decide_eq_false failed, if_pos negative, rfl⟩, shows_⟩
  have count : len.toUInt32.toNat = len.toNatClampNeg :=
    Int32.toNat_toUInt32_of_le (Int32.not_lt.mp negative)
  have zeros : (List.replicate len.toUInt32.toNat (0 : UInt8)).length = len.toUInt32.toNat :=
    List.length_replicate
  simp only [WindowCall.Means, if_neg negative]
  rw [← count]
  by_cases enough : len.toUInt32.toNat ≤ window.back.length
  · have padded : skbPad len skb memory =
        ⟨0, (skbTrim (skb.grown len.toUInt32) skb.len).1,
          memory.write (skb.head + skb.tail.toNat) (List.replicate len.toUInt32.toNat 0),
          (skbTrim (skb.grown len.toUInt32) skb.len).2⟩ := by
      rw [skbPad, if_neg negative, shows_.skbPut_eq, if_pos enough]
    have place : skb.head + skb.tail.toNat =
        skb.head + (window.front ++ window.body).length := by
      rw [shows_.tail, List.length_append]
    have taken : (window.back.take len.toUInt32.toNat).length = len.toUInt32.toNat := by
      rw [List.length_take, Nat.min_eq_left enough]
    have put := shows_.grown enough
    have all : (Window.cut window.whole window.front.length
        (window.body.length + len.toUInt32.toNat)).whole =
          window.front ++ window.body ++ window.back.take len.toUInt32.toNat ++
            window.back.drop len.toUInt32.toNat := by
      rw [Window.whole_cut, Window.whole, List.append_assoc, List.append_assoc,
        List.take_append_drop]
    have room : window.front.length + (window.body.length + len.toUInt32.toNat) ≤
        window.whole.length := by
      rw [window.length_whole]
      omega
    have written : (skb.grown len.toUInt32).Shows
        (memory.write (skb.head + (window.front ++ window.body).length)
          (List.replicate len.toUInt32.toNat 0))
        ⟨window.front, window.body ++ List.replicate len.toUInt32.toNat 0,
          window.back.drop (List.replicate len.toUInt32.toNat (0 : UInt8)).length⟩ := by
      refine put.write all (by rw [zeros, taken]) ?_ ?_ ?_
      · rw [zeros]
        simp only [Window.whole, List.append_assoc]
      · rw [Window.length_front_cut (by omega)]
      · rw [Window.length_body_cut room, List.length_append, zeros]
    have back : (List.replicate len.toUInt32.toNat (0 : UInt8)).length ≤ window.back.length := by
      rwa [zeros]
    have trimmed := written.trim skb.len
    rw [shows_.len, Window.trim_of_put _ back] at trimmed
    rw [padded, place]
    refine ⟨_, .inl ⟨decide_eq_true rfl, if_pos back⟩, ?_⟩
    rw [Window.fill, if_pos back] at trimmed
    exact trimmed
  · have refused : skbPad len skb memory = ⟨-ENOMEM, skb, memory, []⟩ := by
      rw [skbPad, if_neg negative, shows_.skbPut_eq, if_neg enough]
    rw [refused]
    refine ⟨window, .inr ⟨decide_eq_false (show ¬-ENOMEM = 0 by decide), ?_, rfl⟩, shows_⟩
    rw [Window.fill, zeros, if_neg enough]

/-- The page that `skb_cow_head` takes for a packet whose headroom is too small. -/
theorem Buffer.Shows.cowPage_eq (shows_ : skb.Shows memory window) {headroom : UInt32}
    (small : window.front.length < headroom.toNat) (alloc : PageAlloc) :
    cowPage alloc headroom skb =
      if headroom.toNat + (window.body.length + window.back.length) < 2 ^ 32 then
        alloc (getOrder (UInt64.ofNat
          (headroom.toNat + (window.body.length + window.back.length))))
      else none := by
  have off := shows_.dataOff
  have tailroom := shows_.tailroom
  have counted := shows_.len
  have roomy : ¬skb.dataOff ≥ headroom := by
    rw [ge_iff_le, UInt32.le_iff_toNat_le]
    omega
  have topLen : (0xffffffff - skb.len).toNat = 0xffffffff - skb.len.toNat := by
    have bound := skb.len.toNat_lt
    exact UInt32.toNat_sub_of_le _ _
      (UInt32.le_iff_toNat_le.mpr (by show skb.len.toNat ≤ 0xffffffff; omega))
  have topRoom : (0xffffffff - (skb.limit - skb.tail)).toNat =
      0xffffffff - (skb.limit - skb.tail).toNat := by
    have bound := (skb.limit - skb.tail).toNat_lt
    exact UInt32.toNat_sub_of_le _ _
      (UInt32.le_iff_toNat_le.mpr (by show (skb.limit - skb.tail).toNat ≤ 0xffffffff; omega))
  have sum : (headroom + skb.len).toNat = (headroom.toNat + window.body.length) % 2 ^ 32 := by
    rw [UInt32.toNat_add, counted]
  rw [cowPage, if_neg roomy, shows_.linearLen]
  by_cases fits : headroom.toNat + (window.body.length + window.back.length) < 2 ^ 32
  · have accepted : ¬(headroom > 0xffffffff - skb.len ||
        headroom + skb.len > 0xffffffff - (skb.limit - skb.tail)) = true := by
      simp only [Bool.or_eq_true, decide_eq_true_eq, gt_iff_lt, UInt32.lt_iff_toNat_lt]
      omega
    have newEnd : (headroom + skb.len + (skb.limit - skb.tail)).toNat =
        headroom.toNat + (window.body.length + window.back.length) := by
      rw [UInt32.toNat_add]
      omega
    have some_ : headroom + skb.len + (skb.limit - skb.tail) ≠ 0 := by
      intro none
      rw [none] at newEnd
      have zero : (0 : UInt32).toNat = 0 := rfl
      omega
    have wide : (headroom + skb.len + (skb.limit - skb.tail)).toUInt64 =
        UInt64.ofNat (headroom.toNat + (window.body.length + window.back.length)) := by
      rw [← UInt64.toNat_inj, UInt32.toNat_toUInt64, newEnd, UInt64.toNat_ofNat']
      exact (Nat.mod_eq_of_lt (by omega)).symm
    dsimp only
    rw [if_neg accepted, if_pos fits, if_pos some_, wide]
  · have refused : (headroom > 0xffffffff - skb.len ||
        headroom + skb.len > 0xffffffff - (skb.limit - skb.tail)) = true := by
      simp only [Bool.or_eq_true, decide_eq_true_eq, gt_iff_lt, UInt32.lt_iff_toNat_lt]
      omega
    rw [if_pos refused, if_neg fits]

/-- The frames of a page that is usable hold some bytes. -/
theorem exists_holds_of_isSome {start : Nat} (count : Nat)
    (readable : ∀ offset < count, (memory (start + offset)).isSome = true) :
    ∃ bytes : List UInt8, bytes.length = count ∧ memory.Holds start bytes := by
  refine ⟨List.ofFn fun index : Fin count =>
    (memory (start + index)).get (readable index index.isLt), List.length_ofFn, ?_⟩
  refine Memory.holds_of_get fun index inside => ?_
  rw [List.getElem_ofFn, Option.some_get]

/-- The frames of a page that `skb_cow_head` takes hold some bytes. -/
theorem Usable.exists_holds {s : Buffer × Memory} {alloc : PageAlloc} (usable : Usable s alloc)
    {count page address : Nat}
    (found : alloc (getOrder (UInt64.ofNat count)) = some (page, address))
    (fits : count < 2 ^ 32) : ∃ bytes : List UInt8, bytes.length = count ∧
      s.2.Holds address bytes := by
  have covered := getOrder_covers (UInt64.ofNat count)
  rw [UInt64.toNat_ofNat', Nat.mod_eq_of_lt (by omega)] at covered
  exact exists_holds_of_isSome count fun offset inside =>
    (usable _ page address found).2.1 offset (by omega)

/-- The memory holds the packet that a buffer shows. -/
theorem Buffer.Shows.packet (shows_ : skb.Shows memory window) :
    memory.Holds skb.data window.body := by
  have holds := shows_.holds
  rw [Window.whole, Memory.holds_append, Memory.holds_append] at holds
  rw [shows_.data]
  exact holds.2.1

/-- `skb_cow_head` moves the packet behind a headroom that is large enough. -/
theorem Buffer.Shows.cowHead (shows_ : skb.Shows memory window) {alloc : PageAlloc}
    (usable : Usable (skb, memory) alloc) (headroom : UInt32) :
    ∃ after window', skbCowHead alloc headroom skb memory = some after ∧
      WindowCall.Means window (after.result = 0) window' (.cowHead alloc headroom) ∧
        after.skb.Shows after.memory window' := by
  have off := shows_.dataOff
  have sound : BufferOp.Sound (.cowHead alloc headroom) := fun order page address found =>
    (usable order page address found).1
  obtain ⟨after, ran⟩ := run_of_sound sound skb memory
  refine ⟨after, ?_⟩
  simp only [WindowCall.Means]
  obtain ⟨none, same, kept, zero⟩ | ⟨page, address, found, zero, copied, front, whole, moved⟩ :=
    skbCowHead_eq shows_.valid ran
  · refine ⟨window, ran, ?_, by rw [same, kept]; exact shows_⟩
    by_cases enough : headroom.toNat ≤ window.front.length
    · rw [if_pos enough]
      exact ⟨decide_eq_true (zero.mpr (UInt32.le_iff_toNat_le.mpr (by omega))), rfl⟩
    · have failed : ¬after.result = 0 := by
        rw [zero, UInt32.le_iff_toNat_le]
        omega
      rw [shows_.cowPage_eq (Nat.not_le.mp enough)] at none
      rw [if_neg enough, if_neg]
      · exact ⟨decide_eq_false failed, rfl⟩
      · rintro ⟨fits, given⟩
        rw [if_pos fits] at none
        rw [none] at given
        cases given
  · have small : ¬headroom.toNat ≤ window.front.length := by
      intro enough
      have roomy : skb.dataOff ≥ headroom := UInt32.le_iff_toNat_le.mpr (by omega)
      rw [cowPage, if_pos roomy] at found
      cases found
    rw [shows_.cowPage_eq (Nat.not_le.mp small)] at found
    split at found
    · next fits =>
      obtain ⟨bytes, count, held⟩ := usable.exists_holds found fits
      have body := shows_.packet
      obtain ⟨copy, -⟩ := memcpy_eq_some copied
      rw [shows_.linearLen, shows_.len, body.copy_eq] at copy
      rw [shows_.linearLen, shows_.len] at front whole
      rw [shows_.linearLen] at moved
      have limit := shows_.limit
      have tail := shows_.tail
      rw [window.length_whole] at limit
      have between : (bytes.take headroom.toNat).length = headroom.toNat := by
        rw [List.length_take, count]
        omega
      have seen : after.skb.Shows memory
          (Window.cut bytes headroom.toNat window.body.length) := by
        rw [moved]
        constructor
        · exact (usable _ page address found).1
        · rwa [Window.whole_cut]
        · rw [Window.length_front_cut (by omega)]
        · rw [Window.length_body_cut (by omega), shows_.len]
        · rw [Window.length_front_cut (by omega), Window.length_body_cut (by omega)]
          exact front
        · rw [Window.whole_cut]
          show (headroom + skb.len + (skb.limit - skb.tail)).toNat = bytes.length
          omega
        · exact shows_.dataLen
        · exact shows_.frags
      refine ⟨⟨bytes.take headroom.toNat, window.body,
        (bytes.drop headroom.toNat).drop window.body.length⟩, ran, ?_, ?_⟩
      · have given : (alloc (getOrder (UInt64.ofNat (headroom.toNat +
            (window.body.length + window.back.length))))).isSome = true := by
          rw [found]
          rfl
        rw [if_neg small, if_pos ⟨fits, given⟩]
        refine ⟨decide_eq_true zero, between, rfl, ?_⟩
        rw [List.length_drop, List.length_drop, count]
        omega
      · have written := seen.overwrite (by omega)
        rw [moved] at written ⊢
        rw [copy]
        exact written
    · cases found

end Shows

section Runs

variable {window : Window UInt8}

/-- A new buffer shows an empty packet in front of the memory of its page. -/
theorem shows_allocSkb {alloc : PageAlloc} {size : UInt64} {skb : Buffer}
    {events : List PageEvent} {memory : Memory}
    (allocated : allocSkb true alloc size = (some skb, events)) {bytes : List UInt8}
    (there : skb.head ≠ 0) (count : bytes.length = size.toNat)
    (held : memory.Holds skb.head bytes) : skb.Shows memory ⟨[], [], bytes⟩ := by
  unfold allocSkb at allocated
  rw [Bool.not_true, if_neg Bool.false_ne_true] at allocated
  split at allocated
  · simp at allocated
  next small =>
  have fits : size.toNat < 2 ^ 32 := by
    have most : (0xffffffff : UInt64).toNat = 0xffffffff := rfl
    rw [gt_iff_lt, UInt64.lt_iff_toNat_lt] at small
    omega
  dsimp only at allocated
  split at allocated
  · simp at allocated
  obtain ⟨same, -⟩ := Prod.mk.inj allocated
  obtain rfl := Option.some.inj same
  constructor
  · exact there
  · exact held
  · rfl
  · rfl
  · rfl
  · show size.toUInt32.toNat = bytes.length
    rw [count, UInt64.toNat_toUInt32, Nat.mod_eq_of_lt fits]
  · rfl
  · rfl

/-- A fair call does to the buffer what it means for the bytes that are shown. -/
theorem window_step {s : Buffer × Memory} (shows_ : s.1.Shows s.2 window) {call : WindowCall}
    (fair : call.Fair s) : ∃ told s' window', call.run s = some (told, s') ∧
      call.Means window told window' ∧ s'.1.Shows s'.2 window' := by
  cases call with
  | reserve len => exact ⟨true, _, _, rfl, ⟨rfl, rfl⟩, shows_.reserve len⟩
  | put len =>
    obtain ⟨window', does, shown⟩ := shows_.put len
    exact ⟨_, _, window', rfl, does, shown⟩
  | push len =>
    obtain ⟨window', does, shown⟩ := shows_.push len
    exact ⟨_, _, window', rfl, does, shown⟩
  | pull len =>
    obtain ⟨window', does, shown⟩ := shows_.pull len
    exact ⟨_, _, window', rfl, does, shown⟩
  | trim len => exact ⟨true, _, _, rfl, ⟨rfl, rfl⟩, shows_.trim len⟩
  | pad len =>
    obtain ⟨window', does, shown⟩ := shows_.pad len
    exact ⟨_, _, window', rfl, does, shown⟩
  | cowHead alloc headroom =>
    obtain ⟨after, window', ran, means, shown⟩ := shows_.cowHead fair headroom
    refine ⟨_, (after.skb, after.memory), window', ?_, means, shown⟩
    rw [WindowCall.run, ran, Option.map_some]
  | resetTailPointer =>
    obtain ⟨window', empty, shown⟩ := shows_.resetTailPointer
    exact ⟨true, _, window', rfl, ⟨rfl, empty⟩, shown⟩
  | store offset bytes =>
    have inside : offset + bytes.length ≤ window.body.length := by
      rw [← shows_.len]
      exact fair
    obtain ⟨window', stored, shown⟩ := shows_.store inside
    exact ⟨true, _, window', if_pos fair, ⟨rfl, stored⟩, shown⟩

/-- Fair calls do to a buffer without fragments what they mean for the bytes that are shown. They
do not fault, and each caller is told whether its call has been refused. -/
theorem window_refines {s : Buffer × Memory} (shows_ : s.1.Shows s.2 window)
    {calls : List WindowCall} (fair : FairCalls calls s) : ∃ answers s' window',
      runWindowCalls calls s = some (answers, s') ∧ MeansAll window calls answers window' ∧
        s'.1.Shows s'.2 window' := by
  induction calls generalizing s window with
  | nil => exact ⟨[], s, window, rfl, .nil window, shows_⟩
  | cons call calls ih =>
    obtain ⟨told, s', window', ran, means, shown⟩ := window_step shows_ fair.1
    obtain ⟨answers, s'', window'', rest, others, shown'⟩ := ih shown (fair.2 told s' ran)
    refine ⟨told :: answers, s'', window'', ?_, .cons means others, shown'⟩
    rw [runWindowCalls, ran, Option.bind_some]
    dsimp only
    rw [rest, Option.map_some]

/-- A buffer of eight bytes that has been allocated. -/
def eightBytes : Buffer where
  head := 4096
  data := 4096
  headPage := some 0
  len := 0
  tail := 0
  limit := 8
  priority := 0
  dataLen := 0
  queueMapping := 0
  cb := Vector.replicate 128 0
  frags := []

/-- A single page, at an address. -/
def onePageAt (page address : Nat) : PageAlloc := fun order =>
  if order = 0 then some (page, address) else none

/-- A frame is built and moved behind a longer headroom. -/
def frameCalls : List WindowCall :=
  [.reserve 4, .put 2, .store 0 [1, 2], .cowHead (onePageAt 1 8192) 6, .push 1, .pad 1]

/-- A frame is built in a new buffer, and moved to another page for more headroom. -/
theorem window_refines_frameCalls : ∃ answers s' window',
    runWindowCalls frameCalls (eightBytes, fun _ => some 0) = some (answers, s') ∧
      MeansAll ⟨[], [], List.replicate 8 0⟩ frameCalls answers window' ∧
        s'.1.Shows s'.2 window' := by
  have built : eightBytes.Shows (fun _ => some 0) ⟨[], [], List.replicate 8 0⟩ :=
    @shows_allocSkb (onePageAt 0 4096) 8 eightBytes _ (fun _ => some 0) rfl _ (by decide) rfl rfl
  refine window_refines built ⟨trivial, fun _ _ reserved => ?_⟩
  obtain ⟨-, rfl⟩ := Prod.mk.inj (Option.some.inj reserved)
  refine ⟨trivial, fun _ _ put => ?_⟩
  obtain ⟨-, rfl⟩ := Prod.mk.inj (Option.some.inj put)
  refine ⟨Nat.le_refl 2, fun _ _ stored => ?_⟩
  obtain ⟨-, rfl⟩ := Prod.mk.inj (Option.some.inj stored)
  refine ⟨?_, fun _ _ _ => ⟨trivial, fun _ _ _ => ⟨trivial, fun _ _ _ => trivial⟩⟩⟩
  intro order page address found
  unfold onePageAt at found
  split at found
  · next zero =>
    obtain ⟨-, rfl⟩ := Prod.mk.inj (Option.some.inj found)
    subst zero
    refine ⟨by decide, fun offset _ => ?_, .inr (by decide)⟩
    simp only [Memory.write]
    split
    · next inside =>
      rw [List.getElem?_eq_getElem (by omega)]
      rfl
    · rfl
  · cases found

end Runs

end Lcompat.Net.Paged
