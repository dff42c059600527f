import Lcompat.Logic.System
import Lcompat.Net.Packet

/-!
# The bounds of a buffer

`lcompat_skb_valid_bounds` after any sequence of calls of the ten functions that change a buffer.
Three of them can leave a buffer out of its bounds: `skb_pull` past the linear part and
`skb_reset_tail_pointer` change `len` and leave `data_len`, and `skb_cow_head` does not look at the
address of the page that it takes.
-/

namespace Lcompat.Net.Paged

open Lcompat.Logic

/-- A call that changes a buffer, with what the allocator returns to it. -/
inductive SkbCall where
  /-- `skb_reserve`. -/
  | reserve (len : UInt32)
  /-- `skb_put`. -/
  | put (len : UInt32)
  /-- `skb_push`. -/
  | push (len : UInt32)
  /-- `skb_pull`. -/
  | pull (len : UInt32)
  /-- `skb_trim`. -/
  | trim (len : UInt32)
  /-- `skb_pad`. -/
  | pad (len : Int32)
  /-- `skb_cow_head`. -/
  | cowHead (alloc : PageAlloc) (headroom : UInt32)
  /-- `skb_linearize`, with the addresses of pages. -/
  | linearize (alloc : PageAlloc) (address : Nat → Nat)
  /-- `skb_reset_tail_pointer`. -/
  | resetTailPointer
  /-- `skb_add_rx_frag`. -/
  | addRxFrag (i : Int32) (page : Option Nat) (off size : Int32)

/-- The buffer and the memory that a call leaves, unless it faults. -/
def SkbCall.run (s : Buffer × Memory) : SkbCall → Option (Buffer × Memory)
  | .reserve len => some (skbReserve s.1 len, s.2)
  | .put len => some (((skbPut s.1 len).map Prod.snd).getD s.1, s.2)
  | .push len => some ((skbPush s.1 len).getD s.1, s.2)
  | .pull len => some ((skbPull s.1 len).getD s.1, s.2)
  | .trim len => some ((skbTrim s.1 len).1, s.2)
  | .pad len => some ((skbPad len s.1 s.2).skb, (skbPad len s.1 s.2).memory)
  | .cowHead alloc headroom =>
    (skbCowHead alloc headroom s.1 s.2).map fun outcome => (outcome.skb, outcome.memory)
  | .linearize alloc address =>
    (skbLinearize alloc address s.1 s.2).map fun outcome => (outcome.skb, outcome.memory)
  | .resetTailPointer => some (skbResetTailPointer s.1, s.2)
  | .addRxFrag i page off size => some ((skbAddRxFrag i page off size s.1).1, s.2)

/-- `alloc_skb` or `build_skb` has returned a buffer with memory. -/
def Created (skb : Buffer) : Prop :=
  (∃ object alloc size events, allocSkb object alloc size = (some skb, events) ∧ skb.head ≠ 0) ∨
    ∃ object data page fragSize, buildSkb object data page fragSize = some skb

/-- Every sequence of calls with a buffer that has been created. -/
def skbCalls : System (Buffer × Memory) SkbCall where
  init s := Created s.1
  step s call := call.run s

/-- Fragments are added at `nr_frags`, and the total length has 32 bits. -/
def AddsInOrder (s : Buffer × Memory) : SkbCall → Prop
  | .addRxFrag i _ _ size => 0 ≤ i ∧ i < 8 ∧ i.toNatClampNeg = s.1.frags.length ∧
    s.1.len.toNat + size.toNatClampNeg < 2 ^ 32
  | .reserve _ | .put _ | .push _ | .pull _ | .trim _ | .pad _ | .cowHead _ _ | .linearize _ _
  | .resetTailPointer => True

/-- The page that `skb_cow_head` takes, if it takes one. -/
def cowPage (alloc : PageAlloc) (headroom : UInt32) (skb : Buffer) : Option (Nat × Nat) :=
  if skb.dataOff ≥ headroom then none
  else if headroom > 0xffffffff - skb.linearLen ||
      headroom + skb.linearLen > 0xffffffff - (skb.limit - skb.tail) then none
  else
    let newEnd := headroom + skb.linearLen + (skb.limit - skb.tail)
    alloc (getOrder (if newEnd ≠ 0 then newEnd.toUInt64 else 1))

/-- A call takes no more than the linear part from the front, resets `tail` only without data in
fragments, and takes no page without an address. -/
def Fits (s : Buffer × Memory) : SkbCall → Prop
  | .pull len => len ≤ s.1.linearLen ∨ s.1.len < len
  | .resetTailPointer => s.1.dataLen = 0
  | .cowHead alloc headroom => ∀ page, cowPage alloc headroom s.1 ≠ some (page, 0)
  | .reserve _ | .put _ | .push _ | .trim _ | .pad _ | .linearize _ _ | .addRxFrag _ _ _ _ => True

variable {skb : Buffer} {memory : Memory}

/-- `data_off` is the distance of `data` from `head` in 32 bits. -/
theorem toNat_dataOff (skb : Buffer) :
    skb.dataOff.toNat = (skb.data - skb.head) % 2 ^ 32 := by
  rw [Buffer.dataOff, UInt32.toNat_ofNat']

/-- The check before two numbers are added keeps their sum within 32 bits. -/
theorem toNat_add_of_not_lt {a b : UInt32} (small : ¬0xffffffff - b < a) :
    (a + b).toNat = a.toNat + b.toNat := by
  have bound := b.toNat_lt
  have top : b ≤ 0xffffffff := UInt32.le_iff_toNat_le.mpr (by show b.toNat ≤ 0xffffffff; omega)
  have most : (0xffffffff : UInt32).toNat = 0xffffffff := rfl
  rw [UInt32.lt_iff_toNat_lt, UInt32.toNat_sub_of_le _ _ top] at small
  rw [UInt32.toNat_add]
  exact Nat.mod_eq_of_lt (by omega)

/-- `skb_pull` keeps the bounds exactly when it takes no more than the linear part, or refuses. -/
theorem validBounds_skbPull_iff (valid : skbValidBounds skb = true) (len : UInt32) :
    skbValidBounds ((skbPull skb len).getD skb) = true ↔ len ≤ skb.linearLen ∨ skb.len < len := by
  have linear := toNat_linearLen valid
  unfold skbPull
  by_cases large : skb.len < len
  · simp only [valid, large, Bool.not_true, Bool.false_or, decide_true, if_true, Option.getD_none,
      or_true]
  · obtain ⟨head, data, less, tail, inside⟩ := (validBounds_iff skb).mp valid
    have least : len ≤ skb.len := UInt32.not_lt.mp large
    have newLen : (skb.len - len).toNat = skb.len.toNat - len.toNat :=
      UInt32.toNat_sub_of_le _ _ least
    have few := UInt32.le_iff_toNat_le.mp least
    have limit := skb.limit.toNat_lt
    have off := toNat_dataOff skb
    simp only [valid, large, Bool.not_true, Bool.false_or, decide_false,
      Bool.false_eq_true, if_false, Option.getD_some, or_false]
    rw [validBounds_iff, toNat_dataOff, UInt32.le_iff_toNat_le, linear]
    dsimp only
    rw [newLen]
    constructor
    · rintro ⟨-, -, less', -⟩
      omega
    · intro within
      exact ⟨head, by omega, by omega, tail, by omega⟩

/-- What `skb_trim` leaves of a buffer: some linear bytes without fragments, or all of them with
less in the fragments. -/
theorem skbTrim_eq (valid : skbValidBounds skb = true) {len : UInt32} (least : len ≤ skb.len) :
    (skbTrim skb len).1 =
      if len < skb.linearLen then
        { skb with frags := [], dataLen := 0, len, tail := skb.dataOff + len }
      else
        { skb with
          dataLen := skb.dataLen - (skb.len - len), len, tail := skb.dataOff + skb.linearLen } := by
  have fits := not_lt_linearLen valid
  simp only [skbTrim, valid, least, Bool.true_and, decide_true, if_true]
  by_cases cut : len < skb.linearLen
  · have fits' : ¬skb.limit - skb.dataOff < len := fun full => fits (UInt32.lt_trans full cut)
    simp only [cut, if_true, skbReleaseFrags]
    exact congrArg Prod.fst (if_neg fits')
  · by_cases shorter : len < skb.len
    · simp only [cut, shorter, if_true, if_false]
      exact congrArg Prod.fst (if_neg fits)
    · obtain rfl : len = skb.len := UInt32.le_antisymm least (UInt32.not_lt.mp shorter)
      simp only [cut, shorter, if_false, UInt32.sub_self, UInt32.sub_zero]
      exact congrArg Prod.fst (if_neg fits)

/-- `skb_trim` keeps the bounds. -/
theorem validBounds_skbTrim (valid : skbValidBounds skb = true) (len : UInt32) :
    skbValidBounds (skbTrim skb len).1 = true := by
  by_cases large : skb.len < len
  · have refused : ¬len ≤ skb.len := UInt32.not_le.mpr large
    simp [skbTrim, valid, refused]
  · obtain ⟨head, data, less, tail, inside⟩ := (validBounds_iff skb).mp valid
    have least : len ≤ skb.len := UInt32.not_lt.mp large
    have few := UInt32.le_iff_toNat_le.mp least
    have linear := toNat_linearLen valid
    have limit := skb.limit.toNat_lt
    rw [skbTrim_eq valid least]
    split
    · next cut =>
      have within := UInt32.lt_iff_toNat_lt.mp cut
      have behind : (skb.dataOff + len).toNat = skb.dataOff.toNat + len.toNat := by
        rw [UInt32.toNat_add]
        exact Nat.mod_eq_of_lt (by omega)
      refine (validBounds_iff _).mpr ⟨head, data, Nat.zero_le _, ?_, ?_⟩
      · show (skb.dataOff + len).toNat ≤ skb.limit.toNat
        omega
      · show skb.dataOff.toNat + (len.toNat - (0 : UInt32).toNat) ≤ (skb.dataOff + len).toNat
        omega
    · next cut =>
      have most : skb.linearLen.toNat ≤ len.toNat :=
        UInt32.le_iff_toNat_le.mp (UInt32.not_lt.mp cut)
      have behind := toNat_dataOff_add valid
      have taken : (skb.len - len).toNat = skb.len.toNat - len.toNat :=
        UInt32.toNat_sub_of_le _ _ least
      have newDataLen : (skb.dataLen - (skb.len - len)).toNat =
          skb.dataLen.toNat - (skb.len.toNat - len.toNat) := by
        rw [← taken]
        exact UInt32.toNat_sub_of_le _ _ (UInt32.le_iff_toNat_le.mpr (by omega))
      refine (validBounds_iff _).mpr ⟨head, data, ?_, ?_, ?_⟩
      · show (skb.dataLen - (skb.len - len)).toNat ≤ len.toNat
        omega
      · show (skb.dataOff + skb.linearLen).toNat ≤ skb.limit.toNat
        omega
      · show skb.dataOff.toNat + (len.toNat - (skb.dataLen - (skb.len - len)).toNat) ≤
          (skb.dataOff + skb.linearLen).toNat
        omega

/-- What `skb_cow_head` leaves of a buffer: the buffer, or its linear bytes in a page behind as
much headroom as was asked for. -/
theorem skbCowHead_eq (valid : skbValidBounds skb = true) {alloc : PageAlloc}
    {headroom : UInt32} {outcome : Outcome}
    (ran : skbCowHead alloc headroom skb memory = some outcome) :
    cowPage alloc headroom skb = none ∧ outcome.skb = skb ∧ outcome.memory = memory ∧
        (outcome.result = 0 ↔ headroom ≤ skb.dataOff) ∨
      ∃ page address, cowPage alloc headroom skb = some (page, address) ∧ outcome.result = 0 ∧
        memcpy address headroom.toNat skb.data skb.linearLen.toNat memory = some outcome.memory ∧
        (headroom + skb.linearLen).toNat = headroom.toNat + skb.linearLen.toNat ∧
        (headroom + skb.linearLen + (skb.limit - skb.tail)).toNat =
          headroom.toNat + skb.linearLen.toNat + (skb.limit.toNat - skb.tail.toNat) ∧
        outcome.skb =
          { skb with
            head := address
            headPage := some page
            data := address + headroom.toNat
            tail := headroom + skb.linearLen
            limit := headroom + skb.linearLen + (skb.limit - skb.tail) } := by
  unfold skbCowHead at ran
  unfold cowPage
  rw [valid, Bool.not_true, if_neg Bool.false_ne_true] at ran
  by_cases roomy : skb.dataOff ≥ headroom
  · rw [if_pos roomy] at ran ⊢
    obtain rfl := Option.some.inj ran
    exact .inl ⟨rfl, rfl, rfl, fun _ => roomy, fun _ => rfl⟩
  have refused : (-ENOMEM : Int) = 0 ↔ headroom ≤ skb.dataOff :=
    ⟨fun failed => absurd failed (by decide), fun enough => absurd enough roomy⟩
  rw [if_neg roomy] at ran ⊢
  dsimp only at ran ⊢
  split at ran
  · next large =>
    rw [if_pos large]
    obtain rfl := Option.some.inj ran
    exact .inl ⟨rfl, rfl, rfl, refused⟩
  next small =>
  rw [if_neg small]
  split at ran
  · next failed =>
    rw [failed]
    obtain rfl := Option.some.inj ran
    exact .inl ⟨rfl, rfl, rfl, refused⟩
  · next page address found =>
    rw [found]
    obtain ⟨copied, moved, rfl⟩ := Option.map_eq_some_iff.mp ran
    simp only [Bool.or_eq_true, decide_eq_true_eq, gt_iff_lt, not_or] at small
    have tail := ((validBounds_iff skb).mp valid).2.2.2.1
    have front := toNat_add_of_not_lt small.1
    have whole := toNat_add_of_not_lt small.2
    rw [front, UInt32.toNat_sub_of_le _ _ (UInt32.le_iff_toNat_le.mpr tail)] at whole
    exact .inr ⟨page, address, rfl, rfl, moved, front, whole, rfl⟩

/-- `skb_cow_head` keeps the bounds exactly when it does not move the bytes to a page without an
address. -/
theorem validBounds_skbCowHead_iff (valid : skbValidBounds skb = true) {alloc : PageAlloc}
    {headroom : UInt32} {outcome : Outcome}
    (ran : skbCowHead alloc headroom skb memory = some outcome) :
    skbValidBounds outcome.skb = true ↔
      ∀ page, cowPage alloc headroom skb ≠ some (page, 0) := by
  obtain ⟨none, same, -⟩ | ⟨page, address, found, -, -, front, whole, moved⟩ :=
    skbCowHead_eq valid ran
  · rw [same, none]
    simp [valid]
  · obtain ⟨-, -, less, tail, inside⟩ := (validBounds_iff skb).mp valid
    have linear := toNat_linearLen valid
    have off : outcome.skb.dataOff = headroom :=
      dataOff_add _ headroom (by rw [moved])
    rw [validBounds_iff, off, moved, found]
    dsimp only
    constructor
    · rintro ⟨there, -⟩ other same
      exact there (Prod.mk.inj (Option.some.inj same)).2
    · intro there
      exact ⟨fun null => there page (by rw [null]), Nat.le_add_right _ _, less, by omega, by omega⟩

/-- Nothing is copied to `NULL`. -/
theorem copied_of_null {address : Nat → Nat} {dataOff len : UInt32} {frags : List Frag}
    {state state' : Copied} (ran : copyFrags address 0 dataOff len frags state = some state') :
    state'.copied = state.copied := by
  induction frags generalizing state with
  | nil =>
    obtain rfl := Option.some.inj ran
    rfl
  | cons frag frags ih =>
    unfold copyFrags at ran
    split at ran
    · dsimp only at ran
      split at ran
      · obtain rfl := Option.some.inj ran
        rfl
      · split at ran
        · obtain rfl := Option.some.inj ran
          rfl
        · obtain ⟨memory', moved, rest⟩ := Option.bind_eq_some_iff.mp ran
          have nothing : min frag.size (len - state.copied) = 0 := by
            refine UInt32.toNat_inj.mp ?_
            by_contra some_
            exact (memcpy_eq_some moved).2 some_ rfl
          rw [ih rest, nothing, UInt32.add_zero]
    · obtain rfl := Option.some.inj ran
      rfl

/-- What `skb_linearize` leaves of a buffer: the buffer, or all that it carries in a page. -/
theorem skbLinearize_eq (valid : skbValidBounds skb = true) {alloc : PageAlloc}
    {address : Nat → Nat} {outcome : Outcome}
    (ran : skbLinearize alloc address skb memory = some outcome) :
    outcome.skb = skb ∧ (outcome.result = 0 ↔ skb.dataLen = 0) ∨
      ∃ order page newHead between state,
        alloc order = some (page, newHead) ∧ newHead ≠ 0 ∧ skb.dataLen ≠ 0 ∧
        outcome.result = 0 ∧
        memcpy newHead skb.dataOff.toNat skb.data skb.linearLen.toNat memory = some between ∧
        copyFrags address newHead skb.dataOff skb.len skb.frags
          ⟨true, skb.linearLen, between, .alloc order page :: touchHead skb ++ [.touch page]⟩ =
            some state ∧
        state.ok = true ∧ state.copied = skb.len ∧ outcome.memory = state.memory ∧
        (skb.dataOff + skb.len).toNat = skb.dataOff.toNat + skb.len.toNat ∧
        outcome.skb =
          { skb with
            frags := []
            dataLen := 0
            headPage := some page
            head := newHead
            data := newHead + skb.dataOff.toNat
            tail := skb.dataOff + skb.len
            limit := skb.dataOff + skb.len } := by
  unfold skbLinearize at ran
  rw [valid, Bool.not_true, if_neg Bool.false_ne_true] at ran
  by_cases none : skb.dataLen = 0
  · rw [if_pos none] at ran
    obtain rfl := Option.some.inj ran
    exact .inl ⟨rfl, fun _ => none, fun _ => rfl⟩
  have failed : (-ENOMEM : Int) = 0 ↔ skb.dataLen = 0 :=
    ⟨fun same => absurd same (by decide), fun empty => absurd empty none⟩
  have broken : (-EINVAL : Int) = 0 ↔ skb.dataLen = 0 :=
    ⟨fun same => absurd same (by decide), fun empty => absurd empty none⟩
  rw [if_neg none] at ran
  dsimp only at ran
  split at ran
  · obtain rfl := Option.some.inj ran
    exact .inl ⟨rfl, failed⟩
  next small =>
  split at ran
  · obtain rfl := Option.some.inj ran
    exact .inl ⟨rfl, failed⟩
  · next page newHead found =>
    obtain ⟨between, moved, rest⟩ := Option.bind_eq_some_iff.mp ran
    obtain ⟨state, loop, done⟩ := Option.map_eq_some_iff.mp rest
    split at done
    · obtain rfl := done
      exact .inl ⟨rfl, broken⟩
    · next complete =>
      simp only [Bool.or_eq_true, Bool.not_eq_true', decide_eq_true_eq, not_or,
        Bool.not_eq_false, Decidable.not_not, ne_eq] at complete
      obtain rfl := done
      have whole : (skb.dataOff + skb.len).toNat = skb.dataOff.toNat + skb.len.toNat := by
        rw [UInt32.add_comm, toNat_add_of_not_lt small, Nat.add_comm]
      refine .inr ⟨_, page, newHead, between, state, found, ?_, none, rfl, moved, loop, complete.1,
        complete.2, rfl, whole, rfl⟩
      -- a buffer with data in fragments could not have been copied to `NULL`
      rintro rfl
      have copied : skb.len = skb.linearLen := complete.2.symm.trans (copied_of_null loop)
      have less := ((validBounds_iff skb).mp valid).2.2.1
      have linear := toNat_linearLen valid
      rw [← copied] at linear
      exact none (UInt32.toNat_inj.mp (by show _ = 0; omega))

/-- `skb_linearize` keeps the bounds. -/
theorem validBounds_skbLinearize (valid : skbValidBounds skb = true) {alloc : PageAlloc}
    {address : Nat → Nat} {outcome : Outcome}
    (ran : skbLinearize alloc address skb memory = some outcome) :
    skbValidBounds outcome.skb = true := by
  obtain ⟨same, -⟩ | ⟨order, page, newHead, between, state, -, there, -, -, -, -, -, -, -, whole,
    moved⟩ := skbLinearize_eq valid ran
  · rwa [same]
  · have off : outcome.skb.dataOff = skb.dataOff := dataOff_add _ _ (by rw [moved])
    rw [validBounds_iff, off, moved]
    dsimp only
    exact ⟨there, Nat.le_add_right _ _, Nat.zero_le _, Nat.le_refl _, by omega⟩

/-- `skb_add_rx_frag` keeps the bounds where the total length has 32 bits. -/
theorem validBounds_skbAddRxFrag (valid : skbValidBounds skb = true) (i : Int32)
    (page : Option Nat) (off size : Int32)
    (counts : skb.len.toNat + size.toNatClampNeg < 2 ^ 32) :
    skbValidBounds (skbAddRxFrag i page off size skb).1 = true := by
  unfold skbAddRxFrag
  split
  · exact valid
  · split
    · exact valid
    · next accepted =>
      simp only [Bool.or_eq_true, decide_eq_true_eq, not_or] at accepted
      have count : size.toUInt32.toNat = size.toNatClampNeg :=
        Int32.toNat_toUInt32_of_le (Int32.not_lt.mp accepted.2)
      obtain ⟨head, data, less, tail, inside⟩ := (validBounds_iff skb).mp valid
      have newLen : (skb.len + size.toUInt32).toNat = skb.len.toNat + size.toNatClampNeg := by
        rw [UInt32.toNat_add, count]
        exact Nat.mod_eq_of_lt counts
      have newDataLen : (skb.dataLen + size.toUInt32).toNat =
          skb.dataLen.toNat + size.toNatClampNeg := by
        rw [UInt32.toNat_add, count]
        exact Nat.mod_eq_of_lt (by omega)
      refine (validBounds_iff _).mpr ⟨head, data, ?_, tail, ?_⟩
      · show (skb.dataLen + size.toUInt32).toNat ≤ (skb.len + size.toUInt32).toNat
        omega
      · show skb.dataOff.toNat + ((skb.len + size.toUInt32).toNat -
          (skb.dataLen + size.toUInt32).toNat) ≤ skb.tail.toNat
        omega

/-- The buffer that `build_skb` makes of sixteen bytes at an address. -/
def builtSkb : Buffer where
  head := 4096
  data := 4096
  headPage := none
  len := 0
  tail := 0
  limit := 16
  priority := 0
  dataLen := 0
  queueMapping := 0
  cb := Vector.replicate 128 0
  frags := []

/-- That is a buffer that has been created. -/
theorem created_builtSkb : Created builtSkb := .inr ⟨true, 4096, none, 16, rfl⟩

/-- A fragment is added, and one of its bytes is taken as if it were linear. -/
theorem validBounds_lost : ¬∀ (s : Buffer × Memory) (calls : List SkbCall), Created s.1 →
    skbCalls.Along AddsInOrder s calls →
      skbCalls.Throughout (fun s => skbValidBounds s.1 = true) s calls := by
  intro always
  have holds := always (builtSkb, fun _ => none) [.addRxFrag 0 (some 0) 0 8, .pull 1]
    created_builtSkb (System.along_cons ⟨by decide, by decide, by decide, by decide⟩ rfl
      (System.along_cons trivial rfl trivial))
  have last : skbValidBounds _ = true := (holds.2 _ rfl).2 _ rfl
  exact absurd last (by decide)

end Lcompat.Net.Paged
