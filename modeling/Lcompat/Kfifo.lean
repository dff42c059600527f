import Lcompat.Logic.Ring

/-!
# Fifos on arrays

`kfifo.h` finds the slot of a counter by a mask, `size - 1`. For a power of two this is the counter
modulo the size, also when the counters wrap around, and the values come out as they went in. Any
other size makes the first slot also that of a later counter, and a value is lost.
-/

namespace Lcompat

open Lcompat.Logic

/-- What `DECLARE_KFIFO_PTR` declares, with the elements at `buffer`. -/
structure Kfifo (Elem : Type) where
  /-- `buffer`. -/
  buffer : List Elem
  /-- `size`. -/
  size : UInt32
  /-- `in`. -/
  in_ : UInt32
  /-- `out`. -/
  out : UInt32

namespace Kfifo

variable {Elem : Type}

/-- `kfifo_init`, for elements of a size in bytes. -/
def init (buf : List Elem) (bytes elemSize : Nat) : Kfifo Elem :=
  ⟨buf, UInt32.ofNat (bytes / elemSize), 0, 0⟩

/-- `kfifo_len`. -/
def len (fifo : Kfifo Elem) : UInt32 :=
  fifo.in_ - fifo.out

/-- `kfifo_is_empty`. -/
def isEmpty (fifo : Kfifo Elem) : Bool :=
  fifo.len == 0

/-- `kfifo_is_full`. -/
def isFull (fifo : Kfifo Elem) : Bool :=
  fifo.size == 0 || fifo.len ≥ fifo.size

/-- The slot of a counter. -/
def slot (fifo : Kfifo Elem) (counter : UInt32) : Nat :=
  (counter &&& (fifo.size - 1)).toNat

/-- `kfifo_put`: whether there is room, and the fifo. -/
def put (fifo : Kfifo Elem) (val : Elem) : Option (Bool × Kfifo Elem) :=
  if fifo.isFull then some (false, fifo)
  else if fifo.slot fifo.in_ < fifo.buffer.length then
    some (true, { fifo with
      buffer := fifo.buffer.set (fifo.slot fifo.in_) val
      in_ := fifo.in_ + 1 })
  else none

/-- `kfifo_get`: the value, if there is one, and the fifo. -/
def get (fifo : Kfifo Elem) : Option (Option Elem × Kfifo Elem) :=
  if fifo.isEmpty then some (none, fifo)
  else (fifo.buffer[fifo.slot fifo.out]?).map fun val =>
    (some val, { fifo with out := fifo.out + 1 })

/-- A fifo with what was put into it and what was got out of it, in this order. -/
structure Trace (Elem : Type) where
  /-- The fifo. -/
  fifo : Kfifo Elem
  /-- The values of successful puts. -/
  puts : List Elem
  /-- The values of successful gets. -/
  gots : List Elem

/-- A call. -/
inductive Call (Elem : Type) where
  /-- `kfifo_put`. -/
  | put (val : Elem)
  /-- `kfifo_get`. -/
  | get

/-- What a call makes of a fifo. -/
def Call.run (t : Trace Elem) : Call Elem → Option (Trace Elem)
  | .put val => (t.fifo.put val).map fun result =>
    { t with fifo := result.2, puts := if result.1 then t.puts ++ [val] else t.puts }
  | .get => t.fifo.get.map fun result =>
    { t with fifo := result.2, gots := t.gots ++ result.1.toList }

/-- The runs of a fifo after `kfifo_init`. The buffer has as many elements as fit into it, with any
contents. -/
def kfifos (Elem : Type) (bytes elemSize : Nat) : System (Trace Elem) (Call Elem) where
  init t := ∃ buf, buf.length = bytes / elemSize ∧ t = ⟨init buf bytes elemSize, [], []⟩
  step := Call.run

/-- Values come out in the order in which they were put, a put fails only if `size` values are
waiting, and a get only if none is. -/
structure Ordered (t : Trace Elem) : Prop where
  /-- What was got is the beginning of what was put. -/
  order : t.gots <+: t.puts
  /-- `kfifo_len` is the number of values that are waiting. -/
  len : t.gots.length + t.fifo.len.toNat = t.puts.length
  /-- A put fails only if as many values are waiting as there are elements. -/
  put : ∀ val, ∃ ok fifo', t.fifo.put val = some (ok, fifo') ∧
    (ok = false → t.fifo.len = t.fifo.size)
  /-- A get fails only if no value is waiting. -/
  get : ∃ ret fifo', t.fifo.get = some (ret, fifo') ∧ (ret = none → t.gots = t.puts)

section Masks

/-- For a power of two, the mask is a remainder. -/
theorem slot_eq_mod {fifo : Kfifo Elem} {k : Nat} (size : fifo.size.toNat = 2 ^ k)
    (counter : UInt32) : fifo.slot counter = counter.toNat % 2 ^ k := by
  have positive : 0 < 2 ^ k := Nat.two_pow_pos k
  have one_le : (1 : UInt32) ≤ fifo.size := by
    rw [UInt32.le_iff_toNat_le, size]
    exact positive
  rw [slot, UInt32.toNat_and, UInt32.toNat_sub_of_le _ _ one_le, size]
  exact Nat.and_two_pow_sub_one_eq_mod _ _

/-- A mask leaves a slot below the size. -/
theorem slot_lt {fifo : Kfifo Elem} (positive : fifo.size ≠ 0) (counter : UInt32) :
    fifo.slot counter < fifo.size.toNat := by
  have apart : fifo.size.toNat ≠ 0 := fun zero => positive (UInt32.toNat_inj.mp zero)
  have one_le : (1 : UInt32) ≤ fifo.size := by
    rw [UInt32.le_iff_toNat_le]
    exact Nat.pos_of_ne_zero apart
  have below : counter.toNat &&& (fifo.size.toNat - 1) ≤ fifo.size.toNat - 1 := Nat.and_le_right
  have one : (1 : UInt32).toNat = 1 := rfl
  rw [slot, UInt32.toNat_and, UInt32.toNat_sub_of_le _ _ one_le, one]
  omega

/-- A number is a power of two if the number before it has every bit below it. -/
theorem isPowerOfTwo_of_bits {n : Nat} (positive : 0 < n)
    (bits : ∀ b, 2 ^ b < n → (n - 1).testBit b = true) : ∃ k, n = 2 ^ k := by
  refine ⟨Nat.clog 2 n, ?_⟩
  have most : n ≤ 2 ^ Nat.clog 2 n := Nat.le_pow_clog (by decide) n
  have same : n - 1 = 2 ^ Nat.clog 2 n - 1 := by
    apply Nat.eq_of_testBit_eq
    intro b
    rw [Nat.testBit_two_pow_sub_one]
    by_cases low : b < Nat.clog 2 n
    · have below : 2 ^ b < n := (Nat.lt_clog_iff_pow_lt (by decide)).mp low
      simp [bits b below, low]
    · have high : n - 1 < 2 ^ b := by
        have grows : 2 ^ Nat.clog 2 n ≤ 2 ^ b := Nat.pow_le_pow_right (by decide) (by omega)
        omega
      simp [Nat.testBit_lt_two_pow high, low]
  have least : 0 < 2 ^ Nat.clog 2 n := Nat.two_pow_pos _
  omega

/-- For a size that is no power of two, a later counter has the first slot. -/
theorem exists_slot_eq_zero {fifo : Kfifo Elem} (positive : fifo.size ≠ 0)
    (uneven : ¬∃ k, fifo.size.toNat = 2 ^ k) : ∃ counter : UInt32,
      0 < counter.toNat ∧ counter.toNat < fifo.size.toNat ∧ fifo.slot counter = 0 := by
  have apart : fifo.size.toNat ≠ 0 := fun zero => positive (UInt32.toNat_inj.mp zero)
  have missing : ∃ b, 2 ^ b < fifo.size.toNat ∧ (fifo.size.toNat - 1).testBit b = false := by
    by_contra none
    refine uneven (isPowerOfTwo_of_bits (Nat.pos_of_ne_zero apart) fun b below => ?_)
    by_contra unset
    exact none ⟨b, below, by simpa using unset⟩
  obtain ⟨b, below, unset⟩ := missing
  have value : (UInt32.ofNat (2 ^ b)).toNat = 2 ^ b :=
    UInt32.toNat_ofNat_of_lt' (Nat.lt_trans below fifo.size.toNat_lt)
  have one_le : (1 : UInt32) ≤ fifo.size := by
    rw [UInt32.le_iff_toNat_le]
    exact Nat.pos_of_ne_zero apart
  refine ⟨UInt32.ofNat (2 ^ b), ?_, ?_, ?_⟩
  · rw [value]
    exact Nat.two_pow_pos b
  · rw [value]
    exact below
  · rw [slot, UInt32.toNat_and, UInt32.toNat_sub_of_le _ _ one_le, value, Nat.two_pow_and]
    have one : (1 : UInt32).toNat = 1 := rfl
    rw [one, unset]
    rfl

end Masks

/-- The invariant for a power of two: the counters count puts and gets, and the slots hold the
values that are waiting. -/
structure Waiting (t : Trace Elem) (k : Nat) : Prop where
  /-- The size is a power of two. -/
  size : t.fifo.size.toNat = 2 ^ k
  /-- The buffer has that many elements. -/
  room : 2 ^ k ≤ t.fifo.buffer.length
  /-- `in` counts the puts. -/
  in_ : t.fifo.in_.toNat = t.puts.length % 2 ^ 32
  /-- `out` counts the gets. -/
  out : t.fifo.out.toNat = t.gots.length % 2 ^ 32
  /-- What was got is the beginning of what was put. -/
  order : t.gots <+: t.puts
  /-- No more values are waiting than there are elements. -/
  few : t.puts.length ≤ t.gots.length + 2 ^ k
  /-- The slots hold the values that are waiting. -/
  holds : RingHolds t.fifo.buffer (2 ^ k) t.puts t.gots.length

section Powers

variable {t t' : Trace Elem} {k : Nat}

/-- The exponent is small, since the size is a word. -/
theorem Waiting.exponent (waiting : Waiting t k) : k < 32 := by
  have small := t.fifo.size.toNat_lt
  rw [waiting.size] at small
  exact (Nat.pow_lt_pow_iff_right (by decide)).mp small

/-- `kfifo_len` is the number of values that are waiting, also when the counters have wrapped. -/
theorem Waiting.len (waiting : Waiting t k) :
    t.gots.length + t.fifo.len.toNat = t.puts.length := by
  have few := waiting.few
  have most : 2 ^ k ≤ 2 ^ 31 :=
    Nat.pow_le_pow_right (by decide) (Nat.le_of_lt_succ waiting.exponent)
  have order := waiting.order.length_le
  unfold Kfifo.len
  rw [UInt32.toNat_sub, waiting.in_, waiting.out]
  omega

/-- The slot of a counter that has wrapped is that of the whole count. -/
theorem Waiting.slot (waiting : Waiting t k) {counter : UInt32} {count : Nat}
    (counts : counter.toNat = count % 2 ^ 32) : t.fifo.slot counter = count % 2 ^ k := by
  have divides : 2 ^ k ∣ 2 ^ 32 := Nat.pow_dvd_pow 2 (Nat.le_of_lt waiting.exponent)
  rw [slot_eq_mod waiting.size, counts, Nat.mod_mod_of_dvd _ divides]

/-- A put stores the value, or there is no room for it. -/
theorem Waiting.put (waiting : Waiting t k) (val : Elem) : ∃ ok fifo',
    t.fifo.put val = some (ok, fifo') ∧
      (ok = true ∧ Waiting { t with fifo := fifo', puts := t.puts ++ [val] } k ∨
        ok = false ∧ fifo' = t.fifo ∧ t.fifo.len = t.fifo.size) := by
  have positive : 0 < 2 ^ k := Nat.two_pow_pos k
  have size := waiting.size
  have len := waiting.len
  have few := waiting.few
  have nonzero : t.fifo.size ≠ 0 := by
    intro zero
    rw [zero, UInt32.toNat_zero] at size
    omega
  unfold Kfifo.put
  by_cases full : t.fifo.isFull = true
  · rw [if_pos full]
    refine ⟨false, t.fifo, rfl, .inr ⟨rfl, rfl, ?_⟩⟩
    have long : t.fifo.size ≤ t.fifo.len := by simpa [isFull, nonzero] using full
    rw [UInt32.le_iff_toNat_le] at long
    exact UInt32.toNat_inj.mp (by omega)
  · rw [if_neg full]
    have short : t.fifo.len < t.fifo.size := by simpa [isFull, nonzero] using full
    rw [UInt32.lt_iff_toNat_lt] at short
    have place := waiting.slot waiting.in_
    have inside : t.fifo.slot t.fifo.in_ < t.fifo.buffer.length :=
      Nat.lt_of_lt_of_le (slot_lt nonzero _) (size ▸ waiting.room)
    rw [if_pos inside]
    refine ⟨true, _, rfl, .inl ⟨rfl, waiting.size, ?_, ?_, waiting.out, ?_, ?_, ?_⟩⟩
    · simpa using waiting.room
    · simp only [List.length_append, List.length_singleton, UInt32.toNat_add, waiting.in_]
      exact Nat.mod_add_mod _ _ _
    · exact waiting.order.trans (List.prefix_append _ _)
    · simp only [List.length_append, List.length_singleton]
      omega
    · rw [place]
      exact waiting.holds.append (by omega) waiting.room val

/-- A get returns the value that waits longest, or none is waiting. -/
theorem Waiting.get (waiting : Waiting t k) : ∃ ret fifo', t.fifo.get = some (ret, fifo') ∧
    ((∃ val, ret = some val ∧ Waiting { t with fifo := fifo', gots := t.gots ++ [val] } k) ∨
      ret = none ∧ fifo' = t.fifo ∧ t.gots = t.puts) := by
  have len := waiting.len
  have few := waiting.few
  unfold Kfifo.get
  by_cases empty : t.fifo.isEmpty = true
  · rw [if_pos empty]
    have zero : t.fifo.len = 0 := by simpa [isEmpty] using empty
    rw [zero, UInt32.toNat_zero] at len
    exact ⟨none, t.fifo, rfl, .inr ⟨rfl, rfl, waiting.order.eq_of_length (by omega)⟩⟩
  · rw [if_neg empty]
    have apart : t.fifo.len ≠ 0 := by simpa [isEmpty] using empty
    have positive : t.fifo.len.toNat ≠ 0 := fun zero => apart (UInt32.toNat_inj.mp zero)
    have behind : t.gots.length < t.puts.length := by omega
    have held := waiting.holds t.gots.length (Nat.le_refl _) behind
    rw [List.getElem?_eq_getElem behind] at held
    rw [waiting.slot waiting.out, held]
    have next : t.gots ++ [t.puts[t.gots.length]] = t.puts.take (t.gots.length + 1) := by
      rw [List.take_add_one, ← List.prefix_iff_eq_take.mp waiting.order,
        List.getElem?_eq_getElem behind, Option.toList_some]
    refine ⟨_, _, rfl, .inl ⟨_, rfl, waiting.size, waiting.room, waiting.in_, ?_, ?_, ?_, ?_⟩⟩
    · simp only [List.length_append, List.length_singleton, UInt32.toNat_add, waiting.out]
      exact Nat.mod_add_mod _ _ _
    · rw [next]
      exact List.take_prefix _ _
    · simp only [List.length_append, List.length_singleton]
      omega
    · simp only [List.length_append, List.length_singleton]
      exact waiting.holds.mono (Nat.le_succ _)

/-- The invariant keeps the order. -/
theorem Waiting.ordered (waiting : Waiting t k) : Ordered t := by
  refine ⟨waiting.order, waiting.len, fun val => ?_, ?_⟩
  · obtain ⟨ok, fifo', made, outcome⟩ := waiting.put val
    refine ⟨ok, fifo', made, fun failed => ?_⟩
    rcases outcome with ⟨rfl, -⟩ | ⟨-, -, full⟩
    · cases failed
    · exact full
  · obtain ⟨ret, fifo', made, outcome⟩ := waiting.get
    refine ⟨ret, fifo', made, fun failed => ?_⟩
    rcases outcome with ⟨val, rfl, -⟩ | ⟨-, -, same⟩
    · cases failed
    · exact same

/-- A call keeps the invariant. -/
theorem Waiting.step (waiting : Waiting t k) {call : Call Elem} (ran : call.run t = some t') :
    Waiting t' k := by
  cases call with
  | put val =>
    obtain ⟨ok, fifo', made, outcome⟩ := waiting.put val
    rw [Call.run, made, Option.map_some, Option.some.injEq] at ran
    subst ran
    rcases outcome with ⟨rfl, stored⟩ | ⟨rfl, rfl, -⟩
    · exact stored
    · exact waiting
  | get =>
    obtain ⟨ret, fifo', made, outcome⟩ := waiting.get
    rw [Call.run, made, Option.map_some, Option.some.injEq] at ran
    subst ran
    rcases outcome with ⟨val, rfl, taken⟩ | ⟨rfl, rfl, -⟩
    · exact taken
    · simpa using waiting

end Powers

/-- The invariant of a fifo without elements: nothing happens. -/
structure Useless (t : Trace Elem) : Prop where
  /-- There are no elements. -/
  size : t.fifo.size = 0
  /-- The counters stay where they are. -/
  len : t.fifo.len = 0
  /-- Nothing was put. -/
  puts : t.puts = []
  /-- Nothing was got. -/
  gots : t.gots = []

section Useless

variable {t t' : Trace Elem}

/-- Puts and gets fail on a fifo without elements. -/
theorem Useless.fails (useless : Useless t) (val : Elem) :
    t.fifo.put val = some (false, t.fifo) ∧ t.fifo.get = some (none, t.fifo) := by
  simp [put, get, isFull, isEmpty, useless.size, useless.len]

/-- The order is kept. -/
theorem Useless.ordered (useless : Useless t) : Ordered t := by
  have same : t.gots = t.puts := useless.gots.trans useless.puts.symm
  refine ⟨same ▸ List.prefix_rfl, ?_, fun val => ?_, ?_⟩
  · rw [same, useless.len]
    rfl
  · exact ⟨false, t.fifo, (useless.fails val).1, fun _ => useless.len.trans useless.size.symm⟩
  · refine ⟨none, t.fifo, ?_, fun _ => same⟩
    simp [get, isEmpty, useless.len]

/-- A call changes nothing. -/
theorem Useless.step (useless : Useless t) {call : Call Elem} (ran : call.run t = some t') :
    Useless t' := by
  cases call with
  | put val =>
    rw [Call.run, (useless.fails val).1, Option.map_some, Option.some.injEq] at ran
    subst ran
    exact useless
  | get =>
    have failed : t.fifo.get = some (none, t.fifo) := by simp [get, isEmpty, useless.len]
    rw [Call.run, failed, Option.map_some, Option.some.injEq] at ran
    subst ran
    exact ⟨useless.size, useless.len, useless.puts, by simp [useless.gots]⟩

end Useless

/-- The number of elements that `kfifo_init` stores. -/
def elements (bytes elemSize : Nat) : Nat :=
  (UInt32.ofNat (bytes / elemSize)).toNat

/-- The stored number of elements is no larger than the buffer. -/
theorem elements_le (bytes elemSize : Nat) : elements bytes elemSize ≤ bytes / elemSize := by
  rw [elements, UInt32.toNat_ofNat']
  exact Nat.mod_le _ _

/-- In every run of a fifo whose size is a power of two or zero, the order is kept. -/
theorem ordered_of_power {bytes elemSize : Nat} {t : Trace Elem}
    (even : elements bytes elemSize = 0 ∨ ∃ k, elements bytes elemSize = 2 ^ k)
    (reach : (kfifos Elem bytes elemSize).Reachable t) : Ordered t := by
  rcases even with zero | ⟨k, power⟩
  · have useless : Useless t := by
      refine reach.invariant Useless ?_ fun t call t' useless _ ran => useless.step ran
      rintro _ ⟨buf, -, rfl⟩
      exact ⟨UInt32.toNat_inj.mp zero, by simp [Kfifo.len, init], rfl, rfl⟩
    exact useless.ordered
  · have waiting : Waiting t k := by
      refine reach.invariant (Waiting · k) ?_ fun t call t' waiting _ ran => waiting.step ran
      rintro _ ⟨buf, length, rfl⟩
      refine ⟨power, ?_, rfl, rfl, List.prefix_rfl, Nat.zero_le _, ringHolds_nil _ _ _⟩
      rw [← power]
      exact length ▸ elements_le bytes elemSize
    exact waiting.ordered

section Overwriting

/-- A put into a fifo that is not full takes the slot of `in`. -/
theorem put_of_lt {fifo : Kfifo Elem} (short : fifo.len < fifo.size)
    (room : fifo.size.toNat ≤ fifo.buffer.length) (val : Elem) :
    fifo.put val = some (true, { fifo with
      buffer := fifo.buffer.set (fifo.slot fifo.in_) val
      in_ := fifo.in_ + 1 }) := by
  have nonzero : fifo.size ≠ 0 := by
    intro zero
    rw [zero, UInt32.lt_iff_toNat_lt, UInt32.toNat_zero] at short
    omega
  have open_ : ¬fifo.isFull = true := by simpa [isFull, nonzero] using short
  have inside : fifo.slot fifo.in_ < fifo.buffer.length :=
    Nat.lt_of_lt_of_le (slot_lt nonzero _) room
  rw [put, if_neg open_, if_pos inside]

/-- Values were put into a fifo, no more than there are elements, and none was got. -/
structure Filled (t : Trace Elem) (size : UInt32) (first : Elem) (count : Nat) : Prop where
  /-- The buffer is large enough. -/
  room : size.toNat ≤ t.fifo.buffer.length
  /-- The size is that of the fifo. -/
  sized : t.fifo.size = size
  /-- `in` is the number of values. -/
  in_ : t.fifo.in_ = UInt32.ofNat count
  /-- `out` is 0. -/
  out : t.fifo.out = 0
  /-- The first value is the same in all runs. -/
  head : ∀ val, t.puts.head? = some val → val = first
  /-- Some values were put. -/
  length : t.puts.length = count
  /-- Nothing was got. -/
  gots : t.gots = []

/-- One more value can be put. -/
theorem Filled.put {t : Trace Elem} {size : UInt32} {first : Elem} {count : Nat}
    (filled : Filled t size first count) (few : count < size.toNat) (val : Elem)
    (same : count = 0 → val = first) : ∃ t', Call.run t (.put val) = some t' ∧
      Filled t' size first (count + 1) ∧
      t'.fifo.buffer = t.fifo.buffer.set (t.fifo.slot (UInt32.ofNat count)) val := by
  have small : count < 2 ^ 32 := Nat.lt_trans few size.toNat_lt
  have len : t.fifo.len.toNat = count := by
    rw [Kfifo.len, filled.in_, filled.out, UInt32.sub_zero]
    exact UInt32.toNat_ofNat_of_lt' small
  have short : t.fifo.len < t.fifo.size := by
    rw [UInt32.lt_iff_toNat_lt, len, filled.sized]
    exact few
  have stored := put_of_lt short (filled.sized ▸ filled.room) val
  have ran : Call.run t (.put val) = some
      ⟨{ t.fifo with
        buffer := t.fifo.buffer.set (t.fifo.slot t.fifo.in_) val
        in_ := t.fifo.in_ + 1 }, t.puts ++ [val], t.gots⟩ := by
    rw [Call.run, stored, Option.map_some]
    rfl
  refine ⟨_, ran, ⟨?_, filled.sized, ?_, filled.out, ?_, ?_,
    filled.gots⟩, ?_⟩
  · simpa using filled.room
  · simp [filled.in_, UInt32.ofNat_add]
  · intro other here
    cases puts : t.puts with
    | nil =>
      obtain rfl : val = other := by simpa [puts] using here
      have none_yet : count = 0 := by rw [← filled.length, puts, List.length_nil]
      exact same none_yet
    | cons older rest =>
      obtain rfl : older = other := by simpa [puts] using here
      exact filled.head older (by rw [puts, List.head?_cons])
  · simp [filled.length]
  · rw [← filled.in_]

/-- There is such a run for each number of values up to the size. -/
theorem exists_filled {bytes elemSize : Nat} (buf : List Elem)
    (length : buf.length = bytes / elemSize) (first : Elem) {count : Nat}
    (few : count ≤ elements bytes elemSize) : ∃ t,
      (kfifos Elem bytes elemSize).Reachable t ∧
        Filled t (UInt32.ofNat (bytes / elemSize)) first count := by
  induction count with
  | zero =>
    refine ⟨⟨init buf bytes elemSize, [], []⟩, ⟨_, ⟨buf, length, rfl⟩, .refl _⟩, ?_⟩
    have room : (UInt32.ofNat (bytes / elemSize)).toNat ≤ buf.length := by
      rw [length]
      exact elements_le bytes elemSize
    exact ⟨room, rfl, rfl, rfl, by simp, rfl, rfl⟩
  | succ count ih =>
    obtain ⟨t, reach, filled⟩ := ih (by omega)
    obtain ⟨t', ran, more, -⟩ := filled.put few first fun _ => rfl
    exact ⟨t', reach.step (a := .put first) trivial ran, more⟩

/-- For a size that is no power of two, a value takes the slot of one that is waiting, and comes out
in its place. -/
theorem exists_not_ordered (Elem : Type) [Nontrivial Elem] {bytes elemSize : Nat}
    (uneven : ¬(elements bytes elemSize = 0 ∨ ∃ k, elements bytes elemSize = 2 ^ k)) : ∃ t,
      (kfifos Elem bytes elemSize).Reachable t ∧ ¬Ordered t := by
  obtain ⟨first, later, apart⟩ := exists_pair_ne Elem
  have positive : UInt32.ofNat (bytes / elemSize) ≠ 0 := fun zero =>
    uneven (.inl (by rw [elements, zero, UInt32.toNat_zero]))
  have length : (List.replicate (bytes / elemSize) first).length = bytes / elemSize :=
    List.length_replicate
  obtain ⟨counter, past, below, shared⟩ :=
    @exists_slot_eq_zero _ (init (List.replicate (bytes / elemSize) first) bytes elemSize) positive
      fun even => uneven (.inr even)
  obtain ⟨t, reach, filled⟩ := exists_filled _ length first (Nat.le_of_lt below)
  have counted : UInt32.ofNat counter.toNat = counter := UInt32.ofNat_toNat
  obtain ⟨t', ran, more, buffer⟩ := filled.put below later fun zero => by omega
  have slots : ∀ other : UInt32, t.fifo.slot other =
      (init (List.replicate (bytes / elemSize) first) bytes elemSize).slot other := by
    intro other
    rw [slot, slot, filled.sized, init]
  -- the value that is put last lies in the slot of the first one
  rw [counted, slots, shared] at buffer
  have room : 0 < t.fifo.buffer.length := by
    have enough := filled.room
    have some_ : (UInt32.ofNat (bytes / elemSize)).toNat ≠ 0 := fun zero =>
      positive (UInt32.toNat_inj.mp zero)
    omega
  have out : t'.fifo.slot t'.fifo.out = 0 := by
    rw [more.out, slot, UInt32.zero_and, UInt32.toNat_zero]
  have waits : ¬t'.fifo.isEmpty = true := by
    have counts : t'.fifo.len.toNat = counter.toNat + 1 := by
      have small := counter.toNat_lt
      have size := (UInt32.ofNat (bytes / elemSize)).toNat_lt
      rw [Kfifo.len, more.in_, more.out, UInt32.sub_zero]
      exact UInt32.toNat_ofNat_of_lt' (Nat.lt_of_le_of_lt below size)
    intro empty
    have zero : t'.fifo.len = 0 := by simpa [isEmpty] using empty
    rw [zero, UInt32.toNat_zero] at counts
    omega
  have got : t'.fifo.get = some (some later, { t'.fifo with out := t'.fifo.out + 1 }) := by
    have first_slot : t'.fifo.buffer[0]? = some later := by
      rw [buffer, List.getElem?_set_self room]
    rw [Kfifo.get, if_neg waits, out, first_slot, Option.map_some]
  have stepped : Call.run t' .get =
      some ⟨{ t'.fifo with out := t'.fifo.out + 1 }, t'.puts, [later]⟩ := by
    rw [Call.run, got, Option.map_some, more.gots]
    rfl
  have reached : (kfifos Elem bytes elemSize).Reachable t' :=
    reach.step (a := .put later) trivial ran
  refine ⟨_, reached.step (a := .get) trivial stepped, fun ordered => ?_⟩
  obtain ⟨rest, puts⟩ := ordered.order
  exact apart (more.head later (by rw [← puts]; rfl)).symm

end Overwriting

/-- For each size of the buffer and of its elements: values come out in the order in which they were
put, puts fail only when the fifo is full and gets only when it is empty, in every run, if and only
if the number of elements is zero or a power of two. -/
theorem kfifo_ordered_iff [Nontrivial Elem] (bytes elemSize : Nat) :
    (∀ t, (kfifos Elem bytes elemSize).Reachable t → Ordered t) ↔
      elements bytes elemSize = 0 ∨ ∃ k, elements bytes elemSize = 2 ^ k := by
  constructor
  · intro ordered
    by_contra uneven
    obtain ⟨t, reach, lost⟩ := exists_not_ordered Elem uneven
    exact lost (ordered t reach)
  · exact fun even t reach => ordered_of_power even reach

/-- Four elements are a fifo, here after two puts and a get. -/
theorem kfifo_four_ordered : ∃ t : Trace Bool,
    t.puts = [true, false] ∧ t.gots = [true] ∧ Ordered t := by
  have ran : ∃ t, (kfifos Bool 4 1).run ⟨init [false, false, false, false] 4 1, [], []⟩
      [.put true, .put false, .get] = some t ∧ t.puts = [true, false] ∧ t.gots = [true] :=
    ⟨_, rfl, rfl, rfl⟩
  obtain ⟨t, executed, puts, gots⟩ := ran
  have fresh : (kfifos Bool 4 1).init ⟨init [false, false, false, false] 4 1, [], []⟩ :=
    ⟨_, rfl, rfl⟩
  have ordered : ∀ t, (kfifos Bool 4 1).Reachable t → Ordered t :=
    (kfifo_ordered_iff 4 1).mpr (.inr ⟨2, rfl⟩)
  exact ⟨t, puts, gots, ordered t (System.reachable_of_run fresh executed)⟩

/-- In a fifo of three elements the second value takes the slot of the first one. -/
def threePuts : List (Call Nat) :=
  [.put 5, .put 6, .put 7, .get]

/-- Three elements are no fifo. -/
theorem kfifo_three_not_ordered : ¬∀ t, (kfifos Nat 3 1).Reachable t → Ordered t := by
  intro always
  have ran : ∃ t, (kfifos Nat 3 1).run ⟨init [0, 0, 0] 3 1, [], []⟩ threePuts = some t ∧
      t.puts = [5, 6, 7] ∧ t.gots = [6] := ⟨_, rfl, rfl, rfl⟩
  obtain ⟨t, executed, puts, gots⟩ := ran
  have fresh : (kfifos Nat 3 1).init ⟨init [0, 0, 0] 3 1, [], []⟩ := ⟨_, rfl, rfl⟩
  have order := (always t (System.reachable_of_run fresh executed)).order
  rw [puts, gots] at order
  exact absurd order (by decide)

end Kfifo

end Lcompat
