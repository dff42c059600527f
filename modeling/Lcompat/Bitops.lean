import Lcompat.Logic.System

/-!
# Bitmaps

The operations of `bitops.h` shift a bit by the whole index and look at the first word of a bitmap,
so they agree on which bit an index stands for as long as the bitmap has one word. An index from the
width of a word on has no bit at all. The operations on one bit are atomic, and one step each here.
-/

namespace Lcompat.Bitops

open Lcompat.Logic

/-- `BITS_PER_LONG`. -/
def BITS_PER_LONG : Nat := 64

/-- `BITS_TO_LONGS`. -/
def BITS_TO_LONGS (nr : Nat) : Nat :=
  (nr + BITS_PER_LONG - 1) / BITS_PER_LONG

/-- `BIT`. A shift count that is not below the width of a word has no defined behaviour. -/
def BIT (nr : UInt32) : Option UInt64 :=
  if nr < 64 then some (1 <<< nr.toUInt64) else none

/-- `set_bit`. -/
def setBit (nr : UInt32) (addr : List UInt64) : Option (List UInt64) := do
  let mask ← BIT nr
  let old ← addr[0]?
  return addr.set 0 (old ||| mask)

/-- `clear_bit`. -/
def clearBit (nr : UInt32) (addr : List UInt64) : Option (List UInt64) := do
  let mask ← BIT nr
  let old ← addr[0]?
  return addr.set 0 (old &&& ~~~mask)

/-- `test_bit`. -/
def testBit (nr : UInt32) (addr : List UInt64) : Option Bool := do
  let mask ← BIT nr
  let val ← addr[0]?
  return val &&& mask != 0

/-- `test_and_set_bit`. -/
def testAndSetBit (nr : UInt32) (addr : List UInt64) : Option (Bool × List UInt64) := do
  let mask ← BIT nr
  let old ← addr[0]?
  return (old &&& mask != 0, addr.set 0 (old ||| mask))

/-- `test_and_clear_bit`. -/
def testAndClearBit (nr : UInt32) (addr : List UInt64) : Option (Bool × List UInt64) := do
  let mask ← BIT nr
  let old ← addr[0]?
  return (old &&& mask != 0, addr.set 0 (old &&& ~~~mask))

/-- The loops of `find_first_bit`, `find_next_bit`, `find_first_zero_bit` and `find_next_zero_bit`,
from an index on, for as many indices as there are before the size: they stop at the first bit
that is set, or not. An index is cut to 32 bits for `test_bit`. -/
def findFrom (addr : List UInt64) (set : Bool) (size : Nat) : Nat → Nat → Option Nat
  | 0, _ => some size
  | count + 1, i => do
    let here ← testBit (UInt32.ofNat i) addr
    if here = set then return i else findFrom addr set size count (i + 1)

/-- `find_first_bit`. -/
def findFirstBit (addr : List UInt64) (size : Nat) : Option Nat :=
  findFrom addr true size size 0

/-- `find_next_bit`. -/
def findNextBit (addr : List UInt64) (size offset : Nat) : Option Nat :=
  findFrom addr true size (size - offset) offset

/-- `find_first_zero_bit`. -/
def findFirstZeroBit (addr : List UInt64) (size : Nat) : Option Nat :=
  findFrom addr false size size 0

/-- `find_next_zero_bit`. -/
def findNextZeroBit (addr : List UInt64) (size offset : Nat) : Option Nat :=
  findFrom addr false size (size - offset) offset

/-- `bitmap_zero`. -/
def bitmapZero (dst : List UInt64) (nbits : Nat) : Option (List UInt64) :=
  if BITS_TO_LONGS nbits ≤ dst.length then
    some (List.replicate (BITS_TO_LONGS nbits) 0 ++ dst.drop (BITS_TO_LONGS nbits))
  else none

/-- The loop of `for_each_set_bit` from a bit on: the bits it goes through, if it comes to an end in
some turns. -/
def forEachFrom (addr : List UInt64) (size : Nat) : Nat → Nat → Option (List Nat)
  | 0, _ => none
  | turns + 1, bit =>
    if bit < size then do
      let next ← findNextBit addr size (bit + 1)
      let rest ← forEachFrom addr size turns next
      return bit :: rest
    else some []

/-- `for_each_set_bit`: the bits it goes through. -/
def forEachSetBit (addr : List UInt64) (size : Nat) : Option (List Nat) := do
  let first ← findFirstBit addr size
  forEachFrom addr size (size + 1) first

/-- A call that changes a bitmap. -/
inductive Call where
  /-- `set_bit`. -/
  | setBit (nr : Nat)
  /-- `clear_bit`. -/
  | clearBit (nr : Nat)
  /-- `test_and_set_bit`. -/
  | testAndSetBit (nr : Nat)
  /-- `test_and_clear_bit`. -/
  | testAndClearBit (nr : Nat)
  /-- `bitmap_zero`, of the whole bitmap. -/
  | bitmapZero

/-- What a call makes of a bitmap of some bits and of the set of naturals that it should be. Indices
are below the number of bits. -/
def Call.run (bits : Nat) (s : List UInt64 × (Nat → Bool)) :
    Call → Option (List UInt64 × (Nat → Bool))
  | .setBit nr => if nr < bits then (Bitops.setBit (UInt32.ofNat nr) s.1).map fun addr =>
      (addr, Function.update s.2 nr true) else none
  | .clearBit nr => if nr < bits then (Bitops.clearBit (UInt32.ofNat nr) s.1).map fun addr =>
      (addr, Function.update s.2 nr false) else none
  | .testAndSetBit nr => if nr < bits then
      (Bitops.testAndSetBit (UInt32.ofNat nr) s.1).map fun result =>
        (result.2, Function.update s.2 nr true) else none
  | .testAndClearBit nr => if nr < bits then
      (Bitops.testAndClearBit (UInt32.ofNat nr) s.1).map fun result =>
        (result.2, Function.update s.2 nr false) else none
  | .bitmapZero => (Bitops.bitmapZero s.1 bits).map fun addr => (addr, fun _ => false)

/-- The set of naturals that words stand for. -/
def denoted (addr : List UInt64) (nr : Nat) : Bool :=
  (addr[nr / BITS_PER_LONG]?).any fun word => word.toBitVec.getLsbD (nr % BITS_PER_LONG)

/-- The runs of a bitmap that `DECLARE_BITMAP` declares with a number of bits, from any contents. -/
def bitmaps (bits : Nat) : System (List UInt64 × (Nat → Bool)) Call where
  init s := s.1.length = BITS_TO_LONGS bits ∧ s.2 = denoted s.1
  step := Call.run bits

/-- An index is the first one of a set at or after an offset and below a size, or it is the size. -/
def FirstAt (members : Nat → Bool) (size offset result : Nat) : Prop :=
  (offset ≤ result ∧ result < size ∧ members result = true ∨ result = size) ∧
    ∀ i, offset ≤ i → i < result → members i = false

/-- The operations work on the set of naturals below the number of bits. -/
structure Faithful (bits : Nat) (addr : List UInt64) (members : Nat → Bool) : Prop where
  /-- `set_bit` and `clear_bit` have a defined behaviour. -/
  defined : ∀ nr < bits, (setBit (UInt32.ofNat nr) addr).isSome ∧
    (clearBit (UInt32.ofNat nr) addr).isSome
  /-- `test_bit` says what is in the set. -/
  test : ∀ nr < bits, testBit (UInt32.ofNat nr) addr = some (members nr)
  /-- So does `test_and_set_bit`. -/
  testAndSet : ∀ nr < bits, (testAndSetBit (UInt32.ofNat nr) addr).map Prod.fst =
    some (members nr)
  /-- So does `test_and_clear_bit`. -/
  testAndClear : ∀ nr < bits, (testAndClearBit (UInt32.ofNat nr) addr).map Prod.fst =
    some (members nr)
  /-- `bitmap_zero` stays in the bitmap. -/
  zero : (bitmapZero addr bits).isSome
  /-- `find_first_bit` finds the first member. -/
  first : ∀ size ≤ bits, ∃ result, findFirstBit addr size = some result ∧
    FirstAt members size 0 result
  /-- `find_next_bit` finds the first member from an offset on. -/
  next : ∀ size ≤ bits, ∀ offset, ∃ result, findNextBit addr size offset = some result ∧
    FirstAt members size offset result
  /-- `find_first_zero_bit` finds the first number that is no member. -/
  firstZero : ∀ size ≤ bits, ∃ result, findFirstZeroBit addr size = some result ∧
    FirstAt (!members ·) size 0 result
  /-- `find_next_zero_bit` finds the first number from an offset on that is no member. -/
  nextZero : ∀ size ≤ bits, ∀ offset, ∃ result, findNextZeroBit addr size offset = some result ∧
    FirstAt (!members ·) size offset result
  /-- `for_each_set_bit` goes through the members in ascending order. -/
  forEach : ∀ size ≤ bits, forEachSetBit addr size = some ((List.range size).filter members)

section Words

/-- The bits of `BIT`. -/
theorem getLsbD_bit {nr : UInt32} (small : nr.toNat < 64) (m : Nat) :
    (1 <<< nr.toUInt64 : UInt64).toBitVec.getLsbD m = decide (m = nr.toNat) := by
  have amount : (nr.toUInt64.toBitVec % 64).toNat = nr.toNat := by
    simp
    omega
  have one : ∀ i, (UInt64.toBitVec 1).getLsbD i = decide (i = 0) := by
    intro i
    exact BitVec.getLsbD_one.trans (by simp)
  rw [UInt64.toBitVec_shiftLeft, BitVec.shiftLeft_eq', amount, BitVec.getLsbD_shiftLeft, one]
  grind -ring -linarith

/-- A word and a mask of one bit. -/
theorem and_bit_bne_zero (word : UInt64) {nr : UInt32} (small : nr.toNat < 64) :
    (word &&& (1 <<< nr.toUInt64) != 0) = word.toBitVec.getLsbD nr.toNat := by
  rw [Bool.eq_iff_iff, bne_iff_ne, ne_eq, ← UInt64.toBitVec_inj, UInt64.toBitVec_and]
  constructor
  · intro nonzero
    by_contra clear
    apply nonzero
    apply BitVec.eq_of_getLsbD_eq
    intro m below
    rw [BitVec.getLsbD_and, getLsbD_bit small]
    by_cases here : m = nr.toNat
    · rw [here, Bool.eq_false_of_not_eq_true clear]
      simp
    · simp [here]
  · intro set zero
    have bit := congrArg (fun v => v.getLsbD nr.toNat) zero
    simp only [BitVec.getLsbD_and, getLsbD_bit small, set] at bit
    simp at bit

/-- A word with one more bit. -/
theorem getLsbD_or_bit (word : UInt64) {nr : UInt32} (small : nr.toNat < 64) :
    (word ||| (1 <<< nr.toUInt64)).toBitVec.getLsbD =
      Function.update word.toBitVec.getLsbD nr.toNat true := by
  funext m
  rw [UInt64.toBitVec_or, BitVec.getLsbD_or, getLsbD_bit small]
  by_cases here : m = nr.toNat
  · simp [here]
  · simp [here]

/-- A word without one bit. -/
theorem getLsbD_and_not_bit (word : UInt64) {nr : UInt32} (small : nr.toNat < 64) :
    (word &&& ~~~(1 <<< nr.toUInt64)).toBitVec.getLsbD =
      Function.update word.toBitVec.getLsbD nr.toNat false := by
  funext m
  rw [UInt64.toBitVec_and, UInt64.toBitVec_not, BitVec.getLsbD_and, BitVec.getLsbD_not,
    getLsbD_bit small]
  by_cases here : m = nr.toNat
  · simp [here]
  · by_cases inside : m < 64
    · simp [here, inside]
    · simp [here, BitVec.getLsbD_of_ge _ _ (Nat.not_lt.mp inside)]

/-- `BIT` of an index below the width of a word. -/
theorem BIT_of_lt {nr : Nat} (small : nr < 64) :
    BIT (UInt32.ofNat nr) = some (1 <<< (UInt32.ofNat nr).toUInt64) := by
  have value : (UInt32.ofNat nr).toNat = nr :=
    UInt32.toNat_ofNat_of_lt' (Nat.lt_trans small (by decide))
  have below : UInt32.ofNat nr < 64 := by
    rw [UInt32.lt_iff_toNat_lt, value]
    exact small
  exact if_pos below

end Words

/-- The invariant of a bitmap of no more bits than a word has: its first word holds the set. -/
structure OneWord (bits : Nat) (addr : List UInt64) (members : Nat → Bool) : Prop where
  /-- The bitmap has the words that were declared. -/
  length : addr.length = BITS_TO_LONGS bits
  /-- The bits of the first word are the members. -/
  agrees : ∀ nr < bits, ∃ word, addr[0]? = some word ∧ word.toBitVec.getLsbD nr = members nr

section OneWord

variable {bits : Nat} {addr : List UInt64} {members : Nat → Bool}

/-- The first word of a bitmap with an index in it, and the mask of the index. -/
theorem OneWord.word (one : OneWord bits addr members) (small : bits ≤ 64) {nr : Nat}
    (below : nr < bits) : ∃ word, addr[0]? = some word ∧
      BIT (UInt32.ofNat nr) = some (1 <<< (UInt32.ofNat nr).toUInt64) ∧
      (UInt32.ofNat nr).toNat = nr ∧ nr < 64 ∧ word.toBitVec.getLsbD nr = members nr := by
  have inside : nr < 64 := Nat.lt_of_lt_of_le below small
  obtain ⟨word, first, agrees⟩ := one.agrees nr below
  exact ⟨word, first, BIT_of_lt inside,
    UInt32.toNat_ofNat_of_lt' (Nat.lt_trans inside (by decide)), inside, agrees⟩

/-- A write of the first word keeps the invariant when it changes the set in the same way. -/
theorem OneWord.write (one : OneWord bits addr members) {word new : UInt64} {nr : Nat}
    {value : Bool} (first : addr[0]? = some word)
    (updated : new.toBitVec.getLsbD = Function.update word.toBitVec.getLsbD nr value) :
    OneWord bits (addr.set 0 new) (Function.update members nr value) := by
  have positive : 0 < addr.length := (List.getElem?_eq_some_iff.mp first).1
  refine ⟨?_, fun other below => ⟨new, List.getElem?_set_self positive, ?_⟩⟩
  · rw [List.length_set]
    exact one.length
  · obtain ⟨word', first', agrees⟩ := one.agrees other below
    obtain rfl : word' = word := Option.some.inj (first'.symm.trans first)
    rw [updated]
    by_cases here : other = nr
    · simp [here]
    · simp [here, agrees]

/-- `test_bit` says what is in the set. -/
theorem OneWord.test (one : OneWord bits addr members) (small : bits ≤ 64) {nr : Nat}
    (below : nr < bits) : testBit (UInt32.ofNat nr) addr = some (members nr) := by
  obtain ⟨word, first, mask, value, inside, agrees⟩ := one.word small below
  have bit := and_bit_bne_zero word (value.symm ▸ inside : (UInt32.ofNat nr).toNat < 64)
  rw [value, agrees] at bit
  simp [testBit, mask, first, bit]

/-- `set_bit` and `test_and_set_bit` put an index into the set. -/
theorem OneWord.setBit (one : OneWord bits addr members) (small : bits ≤ 64) {nr : Nat}
    (below : nr < bits) : ∃ addr', Bitops.setBit (UInt32.ofNat nr) addr = some addr' ∧
      testAndSetBit (UInt32.ofNat nr) addr = some (members nr, addr') ∧
      OneWord bits addr' (Function.update members nr true) := by
  obtain ⟨word, first, mask, value, inside, agrees⟩ := one.word small below
  have inside : (UInt32.ofNat nr).toNat < 64 := value.symm ▸ inside
  have bit := and_bit_bne_zero word inside
  have more := getLsbD_or_bit word inside
  rw [value, agrees] at bit
  rw [value] at more
  refine ⟨_, ?_, ?_, one.write first more⟩
  · simp [Bitops.setBit, mask, first]
  · simp [testAndSetBit, mask, first, bit]

/-- `clear_bit` and `test_and_clear_bit` take an index out of the set. -/
theorem OneWord.clearBit (one : OneWord bits addr members) (small : bits ≤ 64) {nr : Nat}
    (below : nr < bits) : ∃ addr', Bitops.clearBit (UInt32.ofNat nr) addr = some addr' ∧
      testAndClearBit (UInt32.ofNat nr) addr = some (members nr, addr') ∧
      OneWord bits addr' (Function.update members nr false) := by
  obtain ⟨word, first, mask, value, inside, agrees⟩ := one.word small below
  have inside : (UInt32.ofNat nr).toNat < 64 := value.symm ▸ inside
  have bit := and_bit_bne_zero word inside
  have less := getLsbD_and_not_bit word inside
  rw [value, agrees] at bit
  rw [value] at less
  refine ⟨_, ?_, ?_, one.write first less⟩
  · simp [Bitops.clearBit, mask, first]
  · simp [testAndClearBit, mask, first, bit]

/-- `bitmap_zero` empties the set. -/
theorem OneWord.zero (one : OneWord bits addr members) : ∃ addr',
    bitmapZero addr bits = some addr' ∧ OneWord bits addr' fun _ => false := by
  have enough : BITS_TO_LONGS bits ≤ addr.length := Nat.le_of_eq one.length.symm
  refine ⟨_, if_pos enough, ?_, fun nr below => ⟨0, ?_, ?_⟩⟩
  · simp [one.length]
  · have some_ : 0 < BITS_TO_LONGS bits := by
      unfold BITS_TO_LONGS BITS_PER_LONG
      omega
    rw [List.getElem?_append_left (by simpa using some_), List.getElem?_replicate, if_pos some_]
  · exact BitVec.getLsbD_zero

/-- The loop of the functions that look for a bit finds the first one. -/
theorem OneWord.findFrom (one : OneWord bits addr members) (small : bits ≤ 64) (set : Bool)
    {size count i : Nat} (inside : size ≤ bits)
    (exactly : i + count = size ∨ count = 0 ∧ size ≤ i) :
    ∃ result, Bitops.findFrom addr set size count i = some result ∧
      FirstAt (members · == set) size i result := by
  induction count generalizing i with
  | zero => exact ⟨size, rfl, .inr rfl, fun j least below => absurd below (by omega)⟩
  | succ count ih =>
    have below : i < size := by omega
    rw [Bitops.findFrom, one.test small (Nat.lt_of_lt_of_le below inside)]
    simp only [Option.bind_eq_bind, Option.bind_some]
    by_cases here : members i = set
    · rw [if_pos here]
      refine ⟨i, rfl, .inl ⟨Nat.le_refl i, below, by simpa using here⟩, fun j least less => ?_⟩
      exact absurd less (by omega)
    · rw [if_neg here]
      obtain ⟨result, found, last, before⟩ := @ih (i + 1) (by omega)
      refine ⟨result, found, last.imp_left fun far => ⟨by omega, far.2⟩, fun j least less => ?_⟩
      by_cases same : j = i
      · simpa [same] using here
      · exact before j (by omega) less

/-- `find_next_bit` finds the first member from an offset on. -/
theorem OneWord.next (one : OneWord bits addr members) (small : bits ≤ 64) {size : Nat}
    (inside : size ≤ bits) (offset : Nat) : ∃ result,
      findNextBit addr size offset = some result ∧ FirstAt members size offset result := by
  obtain ⟨result, found, first⟩ := one.findFrom small true inside
    (by omega : offset + (size - offset) = size ∨ size - offset = 0 ∧ size ≤ offset)
  refine ⟨result, found, ?_⟩
  simpa only [beq_true] using first

/-- `find_next_zero_bit` finds the first number from an offset on that is no member. -/
theorem OneWord.nextZero (one : OneWord bits addr members) (small : bits ≤ 64) {size : Nat}
    (inside : size ≤ bits) (offset : Nat) : ∃ result,
      findNextZeroBit addr size offset = some result ∧
        FirstAt (!members ·) size offset result := by
  obtain ⟨result, found, first⟩ := one.findFrom small false inside
    (by omega : offset + (size - offset) = size ∨ size - offset = 0 ∧ size ≤ offset)
  refine ⟨result, found, ?_⟩
  simpa only [beq_false] using first

/-- The members from an offset on, with the first one apart. -/
theorem filter_range'_of_firstAt {size offset bit : Nat} (first : FirstAt members size offset bit)
    (within : offset ≤ size) : (List.range' offset (size - offset)).filter members =
      if bit < size then bit :: (List.range' (bit + 1) (size - (bit + 1))).filter members
      else [] := by
  obtain ⟨here, before⟩ := first
  have least : offset ≤ bit := by omega
  have upto : bit ≤ size := by omega
  have nothing : (List.range' offset (bit - offset)).filter members = [] := by
    rw [List.filter_eq_nil_iff]
    intro i member
    rw [List.mem_range'_1] at member
    simp [before i (by omega) (by omega)]
  have parts : List.range' offset (size - offset) =
      List.range' offset (bit - offset) ++ List.range' bit (size - bit) := by
    have length : size - offset = bit - offset + (size - bit) := by omega
    have start : bit = offset + (bit - offset) := by omega
    rw [length]
    conv_rhs => rw [start]
    rw [← List.range'_append_1]
    congr 2 <;> omega
  rw [parts, List.filter_append, nothing, List.nil_append]
  by_cases below : bit < size
  · have member : members bit = true := by
      rcases here with ⟨-, -, member⟩ | last
      · exact member
      · omega
    have length : size - bit = size - (bit + 1) + 1 := by omega
    rw [if_pos below, length, List.range'_succ, List.filter_cons_of_pos member]
  · have length : size - bit = 0 := by omega
    rw [if_neg below, length]
    rfl

/-- The loop of `for_each_set_bit` goes through the members from a bit on. -/
theorem OneWord.forEachFrom (one : OneWord bits addr members) (small : bits ≤ 64)
    {size turns offset bit : Nat} (inside : size ≤ bits) (enough : size < turns + bit)
    (first : FirstAt members size offset bit) (within : offset ≤ size) :
    Bitops.forEachFrom addr size turns bit =
      some ((List.range' offset (size - offset)).filter members) := by
  induction turns generalizing offset bit with
  | zero =>
    have upto : bit ≤ size := by
      rcases first.1 with ⟨-, below, -⟩ | last
      · exact Nat.le_of_lt below
      · exact Nat.le_of_eq last
    omega
  | succ turns ih =>
    rw [Bitops.forEachFrom, filter_range'_of_firstAt first within]
    by_cases below : bit < size
    · obtain ⟨next, found, later⟩ := one.next small inside (bit + 1)
      have ahead : bit + 1 ≤ next := by
        rcases later.1 with ⟨least, -, -⟩ | last
        · exact least
        · omega
      have rest := ih (by omega) later (by omega)
      simp [below, found, rest]
    · simp [below]

/-- All operations work on a bitmap of no more bits than a word has. -/
theorem OneWord.faithful (one : OneWord bits addr members) (small : bits ≤ 64) :
    Faithful bits addr members := by
  refine ⟨fun nr below => ?_, fun nr below => one.test small below, fun nr below => ?_,
    fun nr below => ?_, ?_, fun size inside => one.next small inside 0,
    fun size inside => one.next small inside, fun size inside => one.nextZero small inside 0,
    fun size inside => one.nextZero small inside, fun size inside => ?_⟩
  · obtain ⟨_, set, -, -⟩ := one.setBit small below
    obtain ⟨_, cleared, -, -⟩ := one.clearBit small below
    simp [set, cleared]
  · obtain ⟨_, -, set, -⟩ := one.setBit small below
    simp [set]
  · obtain ⟨_, -, cleared, -⟩ := one.clearBit small below
    simp [cleared]
  · obtain ⟨_, zero, -⟩ := one.zero
    simp [zero]
  · obtain ⟨first, found, least⟩ := one.next small inside 0
    have found : findFirstBit addr size = some first := found
    have rest := one.forEachFrom small inside (by omega : size < size + 1 + first) least
      (Nat.zero_le size)
    rw [forEachSetBit, found, List.range_eq_range']
    exact rest

/-- A call keeps the invariant. -/
theorem OneWord.step {s s' : List UInt64 × (Nat → Bool)} (one : OneWord bits s.1 s.2)
    (small : bits ≤ 64) {call : Call} (ran : call.run bits s = some s') :
    OneWord bits s'.1 s'.2 := by
  cases call with
  | setBit nr =>
    obtain ⟨below, ran⟩ := Option.ite_none_right_eq_some.mp ran
    obtain ⟨addr', set, -, more⟩ := one.setBit small below
    rw [set, Option.map_some, Option.some.injEq] at ran
    exact ran ▸ more
  | clearBit nr =>
    obtain ⟨below, ran⟩ := Option.ite_none_right_eq_some.mp ran
    obtain ⟨addr', cleared, -, less⟩ := one.clearBit small below
    rw [cleared, Option.map_some, Option.some.injEq] at ran
    exact ran ▸ less
  | testAndSetBit nr =>
    obtain ⟨below, ran⟩ := Option.ite_none_right_eq_some.mp ran
    obtain ⟨addr', -, set, more⟩ := one.setBit small below
    rw [set, Option.map_some, Option.some.injEq] at ran
    exact ran ▸ more
  | testAndClearBit nr =>
    obtain ⟨below, ran⟩ := Option.ite_none_right_eq_some.mp ran
    obtain ⟨addr', -, cleared, less⟩ := one.clearBit small below
    rw [cleared, Option.map_some, Option.some.injEq] at ran
    exact ran ▸ less
  | bitmapZero =>
    obtain ⟨addr', zero, empty⟩ := one.zero
    rw [Call.run, zero, Option.map_some, Option.some.injEq] at ran
    exact ran ▸ empty

/-- The words that were declared stand for what they hold. -/
theorem oneWord_declared (small : bits ≤ 64) (length : addr.length = BITS_TO_LONGS bits) :
    OneWord bits addr (denoted addr) := by
  refine ⟨length, fun nr below => ?_⟩
  have positive : 0 < addr.length := by
    rw [length]
    unfold BITS_TO_LONGS BITS_PER_LONG
    omega
  have word : nr / BITS_PER_LONG = 0 := Nat.div_eq_of_lt (Nat.lt_of_lt_of_le below small)
  have bit : nr % BITS_PER_LONG = nr := Nat.mod_eq_of_lt (Nat.lt_of_lt_of_le below small)
  refine ⟨addr[0], List.getElem?_eq_getElem positive, ?_⟩
  rw [denoted, word, bit, List.getElem?_eq_getElem positive, Option.any_some]

end OneWord

/-- The first index from the width of a word on has no bit. -/
theorem BIT_word : BIT (UInt32.ofNat 64) = none :=
  rfl

/-- A bitmap of some number of bits is a set of naturals below this number, on which all operations
agree in every run, if and only if it has no more bits than a word. -/
theorem bitmap_is_set_iff (bits : Nat) :
    (∀ s, (bitmaps bits).Reachable s → Faithful bits s.1 s.2) ↔ bits ≤ 64 := by
  constructor
  · intro faithful
    by_contra large
    have declared : (bitmaps bits).init
        (List.replicate (BITS_TO_LONGS bits) 0, denoted (List.replicate (BITS_TO_LONGS bits) 0)) :=
      ⟨List.length_replicate, rfl⟩
    have test := (faithful _ ⟨_, declared, .refl _⟩).test 64 (by omega)
    rw [testBit, BIT_word] at test
    cases test
  · intro small s reach
    have one : OneWord bits s.1 s.2 := by
      refine reach.invariant (fun s => OneWord bits s.1 s.2) ?_ ?_
      · rintro s ⟨length, members⟩
        rw [members]
        exact oneWord_declared small length
      · exact fun s call s' one _ ran => one.step small ran
    exact one.faithful small

/-- In a bitmap of two words the first bit of the second word cannot be set. -/
theorem bitmap_two_words :
    ¬∀ s, (bitmaps 128).Reachable s → Faithful 128 s.1 s.2 := by
  intro faithful
  have declared : (bitmaps 128).init ([0, 0], denoted [0, 0]) := ⟨rfl, rfl⟩
  have set := ((faithful _ ⟨_, declared, .refl _⟩).defined 64 (by decide)).1
  exact absurd set (by decide)

end Lcompat.Bitops
