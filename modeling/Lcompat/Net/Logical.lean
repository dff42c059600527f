import Lcompat.Logic.Scattered
import Lcompat.Net.Bounds
import Lcompat.Net.References

/-!
# Logical packets

The packet of a buffer is a scattered string: the linear bytes are its front, and the fragments hold
the rest, of which what lies behind `len` is hidden. Every call does to the packet what the string
says, whatever has been called before: a fragment that is added behind hidden bytes shows these
first.
-/

namespace Lcompat.Net.Paged

open Lcompat.Logic

/-- Some bytes at a place lie outside of some memory. -/
def Outside (base size place count : Nat) : Prop := base + size ≤ place ∨ place + count ≤ base

/-- A fragment lies outside of some memory. -/
def FragOutside (address : Nat → Nat) (base size : Nat) (frag : Frag) : Prop :=
  ∀ page, frag.page = some page →
    Outside base size (address page + frag.pageOffset.toNat) frag.size.toNat

/-- A buffer has the bytes of a scattered string. -/
structure Buffer.Packs (skb : Buffer) (address : Nat → Nat) (memory : Memory)
    (packet : Scattered UInt8) : Prop where
  /-- The buffer is within its bounds. -/
  valid : skbValidBounds skb = true
  /-- The linear bytes are the front. -/
  linear : memory.Holds skb.data packet.front
  /-- There are as many. -/
  linearLen : packet.front.length = skb.linearLen.toNat
  /-- The fragments hold the rest and what is hidden. -/
  paged : FragsHold address memory skb.frags (packet.rest ++ packet.hidden)
  /-- `data_len` counts what is shown of them. -/
  dataLen : packet.rest.length = skb.dataLen.toNat
  /-- There are not more fragments than there is room for. -/
  few : skb.frags.length ≤ 8

/-- `__dev_alloc_pages` returns pages whose frames are not those of the buffer. -/
def PagesOutside (address : Nat → Nat) (s : Buffer × Memory) (alloc : PageAlloc) : Prop :=
  ∀ order page base, alloc order = some (page, base) → base ≠ 0 ∧
    Outside base (4096 * 2 ^ order.toNat) s.1.data s.1.linearLen.toNat ∧
      ∀ frag ∈ s.1.frags, FragOutside address base (4096 * 2 ^ order.toNat) frag

/-- A call is as `skbuff.h` means it: a fragment can be read and leaves `len` a 32-bit number, only
linear bytes are pulled, and pages that are allocated are not in use. -/
def BufferOp.Proper (address : Nat → Nat) (s : Buffer × Memory) : BufferOp → Prop
  | .addRxFrag page off size => 0 ≤ off ∧ 0 ≤ size ∧ s.1.frags.length < 8 ∧
      s.1.len.toNat + size.toUInt32.toNat < 2 ^ 32 ∧ ∃ given bytes, page = some given ∧
        s.2.Holds (address given + off.toUInt32.toNat) bytes ∧ bytes.length = size.toUInt32.toNat
  | .trim _ => True
  | .pull len => len ≤ skbHeadlen s.1 ∨ s.1.len < len
  | .cowHead alloc _ => PagesOutside address s alloc
  | .linearize alloc address' => address' = address ∧ PagesOutside address s alloc

/-- What a call should do to the packet, and what the packet shows then. -/
def BufferOp.Does (address : Nat → Nat) (s : Buffer × Memory) (packet packet' : Scattered UInt8)
    (outcome : Outcome) : BufferOp → Prop
  | .addRxFrag page off size => ∃ given bytes, page = some given ∧
      s.2.Holds (address given + off.toUInt32.toNat) bytes ∧
        bytes.length = size.toUInt32.toNat ∧ packet' = packet.add bytes ∧
          (packet'.shown = packet.shown ++ bytes ↔
            (packet.hidden ++ bytes).take bytes.length = bytes)
  | .trim len =>
    (packet' = if len.toNat ≤ packet.shown.length then packet.trim len.toNat else packet) ∧
      packet'.shown = packet.shown.take len.toNat
  | .pull len =>
    if len.toNat ≤ packet.shown.length then
      packet' = packet.pull len.toNat ∧ packet'.shown = packet.shown.drop len.toNat
    else packet' = packet
  | .cowHead _ _ => packet' = packet ∧ (outcome.result ≠ 0 → outcome.skb = s.1)
  | .linearize _ _ =>
    if outcome.result = 0 then packet' = packet.gather ∧ packet'.shown = packet.shown ∧
      outcome.skb.dataLen = 0 ∧ (packet.rest ≠ [] → outcome.skb.frags = [])
    else packet' = packet ∧ outcome.skb = s.1

/-- All calls are proper where they are made. -/
def ProperOps (address : Nat → Nat) : List BufferOp → Buffer × Memory → Prop
  | [], _ => True
  | op :: ops, s => op.Proper address s ∧ ∀ outcome, op.run s.1 s.2 = some outcome →
      ProperOps address ops (outcome.skb, outcome.memory)

section Fragments

variable {address : Nat → Nat} {memory memory' : Memory} {frags : List Frag}

/-- Bytes outside of what changes are still held. -/
def KeptOutside (base size : Nat) (memory memory' : Memory) : Prop :=
  ∀ place bytes, Outside base size place bytes.length → memory.Holds place bytes →
    memory'.Holds place bytes

/-- Fragments outside of what changes are still held. -/
theorem FragsHold.kept {base size : Nat} {bytes : List UInt8}
    (held : FragsHold address memory frags bytes) (kept : KeptOutside base size memory memory')
    (outside : ∀ frag ∈ frags, FragOutside address base size frag) :
    FragsHold address memory' frags bytes := by
  induction frags generalizing bytes with
  | nil => exact held
  | cons frag frags ih =>
    obtain ⟨page, front, back, named, holds, count, behind, rfl⟩ := held
    have here := outside frag List.mem_cons_self page named
    rw [← count] at here
    exact ⟨page, front, back, named, kept _ _ here holds, count,
      ih behind fun other mem => outside other (List.mem_cons_of_mem _ mem), rfl⟩

/-- A fragment more holds its bytes behind those of the others. -/
theorem FragsHold.append {bytes more : List UInt8} {page : Nat} {off size : UInt32}
    (held : FragsHold address memory frags bytes)
    (holds : memory.Holds (address page + off.toNat) more) (count : more.length = size.toNat) :
    FragsHold address memory (frags ++ [⟨some page, off, size⟩]) (bytes ++ more) := by
  induction frags generalizing bytes with
  | nil =>
    obtain rfl := held
    exact ⟨page, more, [], rfl, holds, count, rfl, by simp⟩
  | cons frag frags ih =>
    obtain ⟨given, front, back, named, here, size', behind, rfl⟩ := held
    exact ⟨given, front, back ++ more, named, here, size', ih behind, by simp⟩

end Fragments

section Calls

variable {address : Nat → Nat} {skb : Buffer} {memory : Memory} {packet : Scattered UInt8}

/-- As much is shown as `len` counts. -/
theorem Buffer.Packs.length_shown (packs : skb.Packs address memory packet) :
    packet.shown.length = skb.len.toNat := by
  have less := ((validBounds_iff skb).mp packs.valid).2.2.1
  have linear := toNat_linearLen packs.valid
  rw [Scattered.shown, List.length_append, packs.linearLen, packs.dataLen]
  omega

/-- The buffer carries what is shown. -/
theorem Buffer.Packs.carries (packs : skb.Packs address memory packet) :
    skb.Carries address memory packet.shown := by
  refine ⟨packet.front, packet.rest ++ packet.hidden, packs.linear, packs.linearLen, packs.paged,
    ?_⟩
  rw [← packs.length_shown, ← List.append_assoc, ← Scattered.shown, List.take_left]

/-- A fragment that is added at `nr_frags`. -/
theorem skbAddRxFrag_eq (room : skb.frags.length < 8) {page : Nat} {off size : Int32}
    (offNonneg : 0 ≤ off) (sizeNonneg : 0 ≤ size) :
    (skbAddRxFrag (Int32.ofNat skb.frags.length) (some page) off size skb).1 =
      { skb with
        frags := skb.frags ++ [⟨some page, off.toUInt32, size.toUInt32⟩]
        len := skb.len + size.toUInt32
        dataLen := skb.dataLen + size.toUInt32 } := by
  have index : (Int32.ofNat skb.frags.length).toInt = skb.frags.length :=
    Int32.toInt_ofNat_of_lt (by omega)
  have count : (Int32.ofNat skb.frags.length).toNatClampNeg = skb.frags.length := by
    rw [← Int32.toNat_toInt, index, Int.toNat_natCast]
  have negative : ¬Int32.ofNat skb.frags.length < 0 := by
    rw [Int32.lt_iff_toInt_lt, index, Int32.toInt_zero]
    omega
  have large : ¬Int32.ofNat skb.frags.length ≥ 8 := by
    have eight : (8 : Int32).toInt = 8 := rfl
    rw [ge_iff_le, Int32.le_iff_toInt_le, index, eight]
    omega
  simp only [skbAddRxFrag, negative, large, Int32.not_lt.mpr offNonneg, Int32.not_lt.mpr sizeNonneg,
    decide_false, Bool.or_self, Bool.false_eq_true, if_false, count, Nat.lt_irrefl, Nat.sub_self,
    List.replicate_zero, List.append_nil]

/-- A fragment is added to the packet. -/
theorem Buffer.Packs.addRxFrag (packs : skb.Packs address memory packet) {page : Nat}
    {off size : Int32} {bytes : List UInt8} (offNonneg : 0 ≤ off) (sizeNonneg : 0 ≤ size)
    (room : skb.frags.length < 8) (small : skb.len.toNat + size.toUInt32.toNat < 2 ^ 32)
    (holds : memory.Holds (address page + off.toUInt32.toNat) bytes)
    (count : bytes.length = size.toUInt32.toNat) :
    (skbAddRxFrag (Int32.ofNat skb.frags.length) (some page) off size skb).1.Packs address memory
      (packet.add bytes) := by
  have nonneg : size.toUInt32.toNat = size.toNatClampNeg := Int32.toNat_toUInt32_of_le sizeNonneg
  have valid := validBounds_skbAddRxFrag packs.valid (Int32.ofNat skb.frags.length) (some page)
    off size (by rwa [← nonneg])
  have less := ((validBounds_iff skb).mp packs.valid).2.2.1
  rw [skbAddRxFrag_eq room offNonneg sizeNonneg] at valid ⊢
  have same : (skb.len + size.toUInt32) - (skb.dataLen + size.toUInt32) = skb.linearLen := by
    exact add_sub_add_right_eq_sub _ _ _
  refine ⟨valid, packs.linear, ?_, ?_, ?_, ?_⟩
  · rw [Scattered.add, packs.linearLen, ← same]
    rfl
  · rw [Scattered.add, List.append_assoc, List.take_append_drop, ← List.append_assoc]
    exact packs.paged.append holds count
  · have more : (skb.dataLen + size.toUInt32).toNat = skb.dataLen.toNat + size.toUInt32.toNat := by
      rw [UInt32.toNat_add]
      exact Nat.mod_eq_of_lt (by omega)
    have enough : bytes.length ≤ (packet.hidden ++ bytes).length := by
      rw [List.length_append]
      omega
    rw [Scattered.add, List.length_append, List.length_take, Nat.min_eq_left enough,
      packs.dataLen, count]
    exact more.symm
  · rw [List.length_append, List.length_singleton]
    omega

/-- The packet is cut. -/
theorem Buffer.Packs.trim (packs : skb.Packs address memory packet) {len : UInt32}
    (least : len ≤ skb.len) :
    (skbTrim skb len).1.Packs address memory (packet.trim len.toNat) := by
  have few := UInt32.le_iff_toNat_le.mp least
  have valid := validBounds_skbTrim packs.valid len
  have linear := toNat_linearLen packs.valid
  have less := ((validBounds_iff skb).mp packs.valid).2.2.1
  rw [skbTrim_eq packs.valid least] at valid ⊢
  rw [Scattered.trim, packs.linearLen]
  by_cases cut : len < skb.linearLen
  · have inside := UInt32.lt_iff_toNat_lt.mp cut
    rw [if_pos cut] at valid ⊢
    rw [if_pos inside]
    refine ⟨valid, ?_, ?_, rfl, rfl, Nat.zero_le _⟩
    · have front := packs.linear.slice 0 len.toNat (Nat.zero_le _)
      simpa using front
    · rw [List.length_take, packs.linearLen, Nat.min_eq_left (Nat.le_of_lt inside),
        Buffer.linearLen, UInt32.sub_zero]
  · have outside := UInt32.le_iff_toNat_le.mp (UInt32.not_lt.mp cut)
    rw [if_neg cut] at valid ⊢
    rw [if_neg (Nat.not_lt.mpr outside)]
    have kept : (skb.dataLen - (skb.len - len)).toNat = len.toNat - skb.linearLen.toNat := by
      have cutOff : (skb.len - len).toNat = skb.len.toNat - len.toNat :=
        UInt32.toNat_sub_of_le _ _ least
      rw [UInt32.toNat_sub_of_le _ _ (UInt32.le_iff_toNat_le.mpr (by omega)), cutOff]
      omega
    refine ⟨valid, packs.linear, ?_, ?_, ?_, packs.few⟩
    · have same : len - (skb.dataLen - (skb.len - len)) = skb.linearLen := by
        refine UInt32.toNat_inj.mp ?_
        rw [UInt32.toNat_sub_of_le _ _ (UInt32.le_iff_toNat_le.mpr (by omega)), kept]
        omega
      rw [packs.linearLen, ← same]
      rfl
    · rw [← List.append_assoc, List.take_append_drop]
      exact packs.paged
    · rw [List.length_take, packs.dataLen, kept]
      omega

/-- The first bytes are left out. -/
theorem Buffer.Packs.pull (packs : skb.Packs address memory packet) {len : UInt32}
    (least : len ≤ skb.linearLen) :
    ((skbPull skb len).getD skb).Packs address memory (packet.pull len.toNat) := by
  have valid := (validBounds_skbPull_iff packs.valid len).mpr (.inl least)
  have linear := toNat_linearLen packs.valid
  have less := ((validBounds_iff skb).mp packs.valid).2.2.1
  have few := UInt32.le_iff_toNat_le.mp least
  have inside : ¬skb.len < len := by
    rw [UInt32.lt_iff_toNat_lt]
    omega
  rw [skbPull, packs.valid, Bool.not_true, Bool.false_or, if_neg (by simpa using inside),
    Option.getD_some] at valid ⊢
  refine ⟨valid, ?_, ?_, packs.paged, packs.dataLen, packs.few⟩
  · exact packs.linear.drop _ (by rw [packs.linearLen]; exact few)
  · have same : (skb.len - len - skb.dataLen).toNat = skb.linearLen.toNat - len.toNat := by
      have rest : (skb.len - len).toNat = skb.len.toNat - len.toNat :=
        UInt32.toNat_sub_of_le _ _ (UInt32.not_lt.mp inside)
      rw [UInt32.toNat_sub_of_le _ _ (UInt32.le_iff_toNat_le.mpr (by omega)), rest]
      omega
    rw [Scattered.pull, List.length_drop, packs.linearLen]
    exact same.symm

/-- Copying into some memory keeps what lies outside of it. -/
theorem keptOutside_copy {base size target source count : Nat} (memory : Memory)
    (low : base ≤ target) (high : target + count ≤ base + size) :
    KeptOutside base size memory (memory.copy target source count) := by
  intro place bytes outside holds
  refine holds.copy_of_disjoint ?_
  obtain behind | before := outside
  · exact .inr (by omega)
  · exact .inl (by omega)

/-- `get_order` of a number of bytes that is an `unsigned int`. -/
theorem le_of_getOrder_atLeastOne (size : UInt32) :
    size.toNat ≤ 4096 * 2 ^ (getOrder (if size ≠ 0 then size.toUInt64 else 1)).toNat := by
  by_cases none : size = 0
  · rw [none, UInt32.toNat_zero]
    exact Nat.zero_le _
  · rw [if_pos none, ← UInt32.toNat_toUInt64]
    exact getOrder_covers _

/-- The page to which `skb_cow_head` moves the linear bytes is large enough. -/
theorem exists_order_of_cowPage {alloc : PageAlloc} {headroom : UInt32} {page base : Nat}
    (found : cowPage alloc headroom skb = some (page, base)) :
    ∃ order, alloc order = some (page, base) ∧
      (headroom + skb.linearLen + (skb.limit - skb.tail)).toNat ≤ 4096 * 2 ^ order.toNat := by
  unfold cowPage at found
  split at found
  · cases found
  · dsimp only at found
    split at found
    · cases found
    · exact ⟨_, found, le_of_getOrder_atLeastOne _⟩

/-- Moving the linear bytes leaves the packet as it is. -/
theorem Buffer.Packs.cowHead (packs : skb.Packs address memory packet) {alloc : PageAlloc}
    {headroom : UInt32} {outcome : Outcome}
    (outside : PagesOutside address (skb, memory) alloc)
    (ran : skbCowHead alloc headroom skb memory = some outcome) :
    outcome.skb.Packs address outcome.memory packet ∧
      (outcome.result ≠ 0 → outcome.skb = skb) := by
  obtain ⟨none, same, kept, zero⟩ | ⟨page, base, found, zero, copied, front, whole, moved⟩ :=
    skbCowHead_eq packs.valid ran
  · rw [same, kept]
    exact ⟨packs, fun _ => rfl⟩
  · refine ⟨?_, fun nonzero => absurd zero nonzero⟩
    obtain ⟨order, given, covered⟩ := exists_order_of_cowPage found
    obtain ⟨there, -, frags⟩ := outside order page base given
    obtain ⟨copy, -⟩ := memcpy_eq_some copied
    have kept : KeptOutside base (4096 * 2 ^ order.toNat) memory outcome.memory := by
      rw [copy]
      exact keptOutside_copy memory (Nat.le_add_right _ _) (by omega)
    have valid : skbValidBounds outcome.skb = true :=
      (validBounds_skbCowHead_iff packs.valid ran).mpr fun page' null => by
        rw [found] at null
        exact there (Prod.mk.inj (Option.some.inj null)).2
    have held : outcome.memory.Holds (base + headroom.toNat) packet.front := by
      rw [copy, ← packs.linearLen, packs.linear.copy_eq]
      exact Memory.holds_write_self _
    rw [moved] at valid ⊢
    exact ⟨valid, held, packs.linearLen, packs.paged.kept kept frags, packs.dataLen, packs.few⟩

/-- As much of a fragment is copied as there is, and as is still needed. -/
theorem toNat_fragLen (size : UInt32) {copied len : UInt32} (least : copied ≤ len) :
    (min size (len - copied)).toNat = min size.toNat (len.toNat - copied.toNat) := by
  have least' : min size (len - copied) = if size ≤ len - copied then size else len - copied := rfl
  rw [← UInt32.toNat_sub_of_le _ _ least, least']
  split
  · next less => exact (Nat.min_eq_left (UInt32.le_iff_toNat_le.mp less)).symm
  · next more =>
    exact (Nat.min_eq_right (Nat.le_of_lt (UInt32.lt_iff_toNat_lt.mp (UInt32.not_le.mp more)))).symm

/-- What has been copied with this fragment. -/
theorem toNat_add_fragLen (size : UInt32) {copied len : UInt32} (least : copied ≤ len) :
    (copied + min size (len - copied)).toNat =
      copied.toNat + min size.toNat (len.toNat - copied.toNat) := by
  have most := UInt32.le_iff_toNat_le.mp least
  have bound := len.toNat_lt
  rw [UInt32.toNat_add, toNat_fragLen size least]
  exact Nat.mod_eq_of_lt (by omega)

/-- What the loop of `skb_linearize` copies behind what has been copied. -/
theorem copyFrags_copies {base : Nat} {dataOff len : UInt32} {frags : List Frag}
    {state state' : Copied} {bytes front : List UInt8}
    (ran : copyFrags address base dataOff len frags state = some state') (ok : state.ok = true)
    (held : FragsHold address state.memory frags bytes)
    (copied : state.memory.Holds (base + dataOff.toNat) front)
    (count : front.length = state.copied.toNat) (least : state.copied ≤ len)
    (enough : len.toNat ≤ state.copied.toNat + bytes.length) {size : Nat}
    (room : dataOff.toNat + len.toNat ≤ size)
    (outside : ∀ frag ∈ frags, FragOutside address base size frag) :
    KeptOutside base size state.memory state'.memory ∧ (state'.ok = true →
      state'.copied = len ∧ state'.memory.Holds (base + dataOff.toNat)
        (front ++ bytes.take (len.toNat - state.copied.toNat))) := by
  induction frags generalizing state bytes front with
  | nil =>
    obtain rfl := Option.some.inj ran
    obtain rfl := held
    have full : len.toNat = state.copied.toNat := by
      have most := UInt32.le_iff_toNat_le.mp least
      simpa using Nat.le_antisymm enough most
    refine ⟨fun _ _ _ holds => holds, fun _ => ⟨UInt32.toNat_inj.mp full.symm, ?_⟩⟩
    simpa using copied
  | cons frag frags ih =>
    obtain ⟨page, here, behind, named, holds, size', others, rfl⟩ := held
    unfold copyFrags at ran
    split at ran
    · next more =>
      dsimp only at ran
      rw [named] at ran
      dsimp only at ran
      split at ran
      · obtain rfl := Option.some.inj ran
        exact ⟨fun _ _ _ holds => holds, fun same => by cases same⟩
      · obtain ⟨memory', moved, ran⟩ := Option.bind_eq_some_iff.mp ran
        obtain ⟨copy, -⟩ := memcpy_eq_some moved
        have less := UInt32.lt_iff_toNat_lt.mp more
        have part := toNat_fragLen frag.size least
        have next := toNat_add_fragLen frag.size least
        -- the bytes of this fragment land behind those that are there already
        have copied' : memory'.Holds (base + dataOff.toNat)
            (front ++ here.take (min frag.size (len - state.copied)).toNat) := by
          have taken := holds.slice 0 (min frag.size (len - state.copied)).toNat (Nat.zero_le _)
          rw [List.drop_zero, Nat.add_zero] at taken
          have long : (here.take (min frag.size (len - state.copied)).toNat).length =
              (min frag.size (len - state.copied)).toNat := by
            rw [List.length_take, size', part]
            omega
          have place : base + (dataOff.toNat + state.copied.toNat) =
              base + dataOff.toNat + front.length := by
            rw [count, Nat.add_assoc]
          have write := taken.copy_eq (base + (dataOff.toNat + state.copied.toNat))
          rw [long] at write
          rw [copy, write, place]
          exact copied.append_write
        have kept : KeptOutside base size state.memory memory' := by
          rw [copy]
          exact keptOutside_copy _ (Nat.le_add_right _ _) (by rw [part]; omega)
        have below : state.copied + min frag.size (len - state.copied) ≤ len := by
          rw [UInt32.le_iff_toNat_le, next]
          omega
        obtain ⟨kept', whole⟩ := ih ran ok
          (others.kept kept fun other mem => outside other (List.mem_cons_of_mem _ mem)) copied'
          (by rw [List.length_append, List.length_take, count, next, part, size']; omega)
          below (by rw [List.length_append] at enough; rw [next]; omega)
          fun other mem => outside other (List.mem_cons_of_mem _ mem)
        refine ⟨fun _ _ apart held => kept' _ _ apart (kept _ _ apart held), fun fine => ?_⟩
        obtain ⟨same, held⟩ := whole fine
        refine ⟨same, ?_⟩
        rw [List.append_assoc, next, part] at held
        rw [List.take_append, size']
        have front' : here.take (min frag.size.toNat (len.toNat - state.copied.toNat)) =
            here.take (len.toNat - state.copied.toNat) := by
          by_cases long : frag.size.toNat ≤ len.toNat - state.copied.toNat
          · rw [Nat.min_eq_left long, List.take_of_length_le (Nat.le_of_eq size'),
              List.take_of_length_le (by rw [size']; exact long)]
          · rw [Nat.min_eq_right (Nat.le_of_not_le long)]
        have back : len.toNat - (state.copied.toNat +
            min frag.size.toNat (len.toNat - state.copied.toNat)) =
              len.toNat - state.copied.toNat - frag.size.toNat := by
          omega
        rwa [front', back] at held
    · next full =>
      obtain rfl := Option.some.inj ran
      have same : state.copied = len := UInt32.le_antisymm least (UInt32.not_lt.mp full)
      refine ⟨fun _ _ _ holds => holds, fun _ => ⟨same, ?_⟩⟩
      rw [same, Nat.sub_self, List.take_zero, List.append_nil]
      exact copied

/-- A packet outside of what changes stays as it is. -/
theorem Buffer.Packs.kept (packs : skb.Packs address memory packet) {base size : Nat}
    {memory' : Memory} (kept : KeptOutside base size memory memory')
    (linear : Outside base size skb.data skb.linearLen.toNat)
    (frags : ∀ frag ∈ skb.frags, FragOutside address base size frag) :
    skb.Packs address memory' packet where
  valid := packs.valid
  linear := kept _ _ (by rwa [packs.linearLen]) packs.linear
  linearLen := packs.linearLen
  paged := packs.paged.kept kept frags
  dataLen := packs.dataLen
  few := packs.few

/-- The packet is gathered, unless that fails. -/
theorem Buffer.Packs.linearize (packs : skb.Packs address memory packet) {alloc : PageAlloc}
    {outcome : Outcome} (outside : PagesOutside address (skb, memory) alloc)
    (ran : skbLinearize alloc address skb memory = some outcome) :
    (outcome.result = 0 → outcome.skb.Packs address outcome.memory packet.gather ∧
      outcome.skb.dataLen = 0 ∧ (packet.rest ≠ [] → outcome.skb.frags = [])) ∧
    (outcome.result ≠ 0 → outcome.skb.Packs address outcome.memory packet ∧
      outcome.skb = skb) := by
  have valid := validBounds_skbLinearize packs.valid ran
  have linear := toNat_linearLen packs.valid
  have less := ((validBounds_iff skb).mp packs.valid).2.2.1
  have noMemory : (-ENOMEM : Int) ≠ 0 := by decide
  have invalid : (-EINVAL : Int) ≠ 0 := by decide
  unfold skbLinearize at ran
  rw [packs.valid, Bool.not_true, if_neg Bool.false_ne_true] at ran
  split at ran
  · next none =>
    obtain rfl := Option.some.inj ran
    have nothing : packet.rest = [] := by
      rw [← List.length_eq_zero_iff, packs.dataLen, none]
      rfl
    refine ⟨fun _ => ⟨?_, none, fun some_ => absurd nothing some_⟩, fun failed => absurd rfl failed⟩
    rw [Scattered.gather, if_pos nothing]
    exact packs
  next some_ =>
  dsimp only at ran
  split at ran
  · obtain rfl := Option.some.inj ran
    exact ⟨fun done => absurd done noMemory, fun _ => ⟨packs, rfl⟩⟩
  next small =>
  have whole : (skb.dataOff + skb.len).toNat = skb.dataOff.toNat + skb.len.toNat := by
    rw [UInt32.add_comm, toNat_add_of_not_lt small, Nat.add_comm]
  split at ran
  · obtain rfl := Option.some.inj ran
    exact ⟨fun done => absurd done noMemory, fun _ => ⟨packs, rfl⟩⟩
  next page newHead found =>
  obtain ⟨order, given, covered⟩ : ∃ order, alloc order = some (page, newHead) ∧
      skb.dataOff.toNat + skb.len.toNat ≤ 4096 * 2 ^ order.toNat :=
    ⟨_, found, whole ▸ le_of_getOrder_atLeastOne (skb.dataOff + skb.len)⟩
  obtain ⟨-, apart, frags⟩ := outside order page newHead given
  obtain ⟨between, moved, ran⟩ := Option.bind_eq_some_iff.mp ran
  obtain ⟨state, loop, ran⟩ := Option.map_eq_some_iff.mp ran
  obtain ⟨copy, -⟩ := memcpy_eq_some moved
  -- the linear bytes come first, then those of the fragments
  have before : KeptOutside newHead (4096 * 2 ^ order.toNat) memory between := by
    rw [copy]
    exact keptOutside_copy _ (Nat.le_add_right _ _) (by omega)
  have first : between.Holds (newHead + skb.dataOff.toNat) packet.front := by
    rw [copy, ← packs.linearLen, packs.linear.copy_eq]
    exact Memory.holds_write_self _
  have room : skb.linearLen ≤ skb.len := by
    rw [UInt32.le_iff_toNat_le]
    omega
  have enough : skb.len.toNat ≤ skb.linearLen.toNat + (packet.rest ++ packet.hidden).length := by
    rw [List.length_append, packs.dataLen]
    omega
  obtain ⟨behind, gathered⟩ := copyFrags_copies loop rfl (packs.paged.kept before frags) first
    packs.linearLen room enough covered frags
  have kept : KeptOutside newHead (4096 * 2 ^ order.toNat) memory state.memory :=
    fun _ _ out held => behind _ _ out (before _ _ out held)
  split at ran
  · obtain rfl := ran
    exact ⟨fun done => absurd done invalid, fun _ => ⟨packs.kept kept apart frags, rfl⟩⟩
  · next complete =>
    obtain rfl := ran
    simp only [Bool.or_eq_true, Bool.not_eq_true', decide_eq_true_eq, not_or,
      Bool.not_eq_false] at complete
    obtain ⟨-, held⟩ := gathered complete.1
    have shown : skb.len.toNat - skb.linearLen.toNat = packet.rest.length := by
      rw [packs.dataLen]
      omega
    rw [shown, List.take_left] at held
    have full : packet.rest ≠ [] := by
      intro nothing
      have count := packs.dataLen
      rw [nothing, List.length_nil] at count
      exact some_ (UInt32.toNat_inj.mp count.symm)
    refine ⟨fun _ => ⟨?_, rfl, fun _ => rfl⟩, fun failed => absurd rfl failed⟩
    rw [Scattered.gather, if_neg full]
    refine ⟨valid, held, ?_, rfl, rfl, Nat.zero_le _⟩
    rw [packs.length_shown, Buffer.linearLen]
    exact (congrArg UInt32.toNat (UInt32.sub_zero skb.len)).symm

end Calls

section Runs

variable {address : Nat → Nat} {s : Buffer × Memory} {packet : Scattered UInt8}

end Runs

end Lcompat.Net.Paged
