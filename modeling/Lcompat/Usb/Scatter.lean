import Lcompat.Usb.Model

/-!
# Copies between a buffer and a scatter-gather list

`lcompat_usb_sg_copy_from_urb` and `lcompat_usb_sg_copy_to_urb` read and write the bytes of the
entries of a list, one behind the other. A list that `lcompat_usb_urb_data_len` accepts has all
its entries in memory and no more than `INT_MAX` bytes, so that no length leaves the range of `int`.
-/

namespace Lcompat.Usb

/-- The bytes of an entry. -/
def Scatterlist.bytes (entry : Scatterlist) : List UInt8 :=
  (entry.virt.getD []).take entry.length

/-- What lies behind them. -/
def Scatterlist.behind (entry : Scatterlist) : List UInt8 :=
  (entry.virt.getD []).drop entry.length

/-- The memory of an entry, if it has some, is at least as long as the entry. -/
def Scatterlist.Backed (entry : Scatterlist) : Prop :=
  ∀ memory, entry.virt = some memory → entry.length ≤ memory.length

/-- The bytes of a list. -/
def sgBytes (sg : List Scatterlist) : List UInt8 := sg.flatMap Scatterlist.bytes

/-- An entry is in memory. -/
structure Scatterlist.Present (entry : Scatterlist) : Prop where
  /-- `sg_virt` is not null. -/
  virt : entry.virt.isSome = true
  /-- There is enough memory. -/
  backed : entry.Backed
  /-- The length is an `int`. -/
  small : castInt entry.length = entry.length

/-- The lengths that `lcompat_usb_sg_total_len` computes in its loop. -/
def sgTotalLens (total : Int) : List Scatterlist → List Int
  | [] => [total]
  | entry :: rest =>
    if entry.virt = none then [total]
    else if INT_MAX - total < entry.length then [total, INT_MAX - total]
    else
      total :: (INT_MAX - total) :: castInt entry.length ::
        sgTotalLens (total + entry.length) rest

/-- The lengths that a copy computes in its loop. -/
def sgCopyLens (copied len : Int) : List Scatterlist → List Int
  | [] => [copied]
  | entry :: rest =>
    if len ≤ copied then [copied]
    else
      let fragLen := min (castInt entry.length) (len - copied)
      copied :: castInt entry.length :: (len - copied) :: fragLen ::
        if entry.virt = none then [] else sgCopyLens (copied + fragLen) len rest

/-- Some bytes are written to a list from its start: nothing else of it changes. -/
structure Rewrites (bytes : List UInt8) (sg sg' : List Scatterlist) : Prop where
  /-- The lengths stay. -/
  lengths : sg'.map Scatterlist.length = sg.map Scatterlist.length
  /-- The first bytes are written, the others stay. -/
  bytes : sgBytes sg' = bytes ++ (sgBytes sg).drop bytes.length
  /-- What lies behind the entries stays. -/
  behind : sg'.map Scatterlist.behind = sg.map Scatterlist.behind
  /-- The entries are in memory. -/
  present : ∀ entry ∈ sg', entry.Present

section Lists

variable {sg sg' : List Scatterlist}

/-- The bytes of an entry in memory are as many as its length says. -/
theorem Scatterlist.Present.length_bytes {entry : Scatterlist} (present : entry.Present) :
    entry.bytes.length = entry.length := by
  obtain ⟨memory, here⟩ := Option.isSome_iff_exists.mp present.virt
  rw [Scatterlist.bytes, here, Option.getD_some, List.length_take]
  exact Nat.min_eq_left (present.backed memory here)

/-- The memory of an entry is made of its bytes and what lies behind them. -/
theorem Scatterlist.Present.virt_eq {entry : Scatterlist} (present : entry.Present) :
    entry.virt = some (entry.bytes ++ entry.behind) := by
  obtain ⟨memory, here⟩ := Option.isSome_iff_exists.mp present.virt
  rw [Scatterlist.bytes, Scatterlist.behind, here, Option.getD_some, List.take_append_drop]

/-- Bytes are written to the memory of an entry. -/
theorem Scatterlist.Present.overwrite {entry : Scatterlist} (present : entry.Present)
    {frag : List UInt8} (inside : frag.length ≤ entry.length) :
    let entry' := { entry with
      virt := some (frag ++ (entry.bytes ++ entry.behind).drop frag.length) }
    entry'.Present ∧ entry'.bytes = frag ++ entry.bytes.drop frag.length ∧
      entry'.behind = entry.behind := by
  have length := present.length_bytes
  have cut : frag ++ (entry.bytes ++ entry.behind).drop frag.length =
      (frag ++ entry.bytes.drop frag.length) ++ entry.behind := by
    rw [List.drop_append_of_le_length (by omega), List.append_assoc]
  have whole : (frag ++ entry.bytes.drop frag.length).length = entry.length := by
    rw [List.length_append, List.length_drop]
    omega
  refine ⟨⟨rfl, ?_, present.small⟩, ?_, ?_⟩
  · intro memory same
    rw [← Option.some.inj same, cut, List.length_append, whole]
    exact Nat.le_add_right _ _
  · rw [Scatterlist.bytes, Option.getD_some, cut,
      List.take_append_of_le_length (Nat.le_of_eq whole.symm),
      List.take_of_length_le (Nat.le_of_eq whole)]
  · rw [Scatterlist.behind, Option.getD_some, cut,
      List.drop_append_of_le_length (Nat.le_of_eq whole.symm),
      List.drop_of_length_le (Nat.le_of_eq whole), List.nil_append]

/-- The bytes of a list with a first entry. -/
theorem sgBytes_cons (entry : Scatterlist) (rest : List Scatterlist) :
    sgBytes (entry :: rest) = entry.bytes ++ sgBytes rest := List.flatMap_cons

/-- The number of bytes of a list in memory. -/
theorem length_sgBytes (present : ∀ entry ∈ sg, entry.Present) :
    (sgBytes sg).length = (sg.map Scatterlist.length).sum := by
  induction sg with
  | nil => rfl
  | cons entry rest ih =>
    obtain ⟨first, others⟩ := List.forall_mem_cons.mp present
    rw [sgBytes_cons, List.length_append, first.length_bytes, ih others, List.map_cons,
      List.sum_cons]

/-- A list in memory is what its lengths and its bytes are. -/
theorem sg_ext (present : ∀ entry ∈ sg, entry.Present) (present' : ∀ entry ∈ sg', entry.Present)
    (lengths : sg'.map Scatterlist.length = sg.map Scatterlist.length)
    (bytes : sgBytes sg' = sgBytes sg)
    (behind : sg'.map Scatterlist.behind = sg.map Scatterlist.behind) : sg' = sg := by
  induction sg generalizing sg' with
  | nil => exact List.map_eq_nil_iff.mp lengths
  | cons entry rest ih =>
    cases sg' with
    | nil => cases lengths
    | cons entry' rest' =>
      obtain ⟨first, others⟩ := List.forall_mem_cons.mp present
      obtain ⟨first', others'⟩ := List.forall_mem_cons.mp present'
      obtain ⟨length, lengths⟩ := List.cons.inj lengths
      obtain ⟨back, behind⟩ := List.cons.inj behind
      rw [sgBytes_cons, sgBytes_cons] at bytes
      obtain ⟨front, bytes⟩ := List.append_inj bytes
        (by rw [first.length_bytes, first'.length_bytes, length])
      have virt : entry'.virt = entry.virt := by
        rw [first.virt_eq, first'.virt_eq, front, back]
      have same : entry' = entry := by
        cases entry
        cases entry'
        simp only [Scatterlist.mk.injEq]
        exact ⟨length, virt⟩
      rw [same, ih others others' lengths bytes behind]

end Lists

section Totals

variable {sg : List Scatterlist}

/-- A length that is no more than `INT_MAX` is an `int`. -/
theorem castInt_of_le {n : Nat} (small : (n : Int) ≤ INT_MAX) : castInt n = n := by
  have bound : INT_MAX = 2 ^ 31 - 1 := rfl
  rw [castInt, if_pos (by omega)]

/-- A running total that comes to an end without an error. -/
theorem sgTotalLenFrom_spec {total : Int} (least : 0 ≤ total) (most : total ≤ INT_MAX)
    (backed : ∀ entry ∈ sg, entry.Backed) (accepted : 0 ≤ sgTotalLenFrom total sg) :
    sgTotalLenFrom total sg = total + (sg.map Scatterlist.length).sum ∧
      sgTotalLenFrom total sg ≤ INT_MAX ∧ (∀ entry ∈ sg, entry.Present) ∧
      ∀ length ∈ sgTotalLens total sg, 0 ≤ length ∧ length ≤ INT_MAX := by
  induction sg generalizing total with
  | nil =>
    simp only [sgTotalLenFrom, List.map_nil, List.sum_nil, Nat.cast_zero, Int.add_zero,
      sgTotalLens, List.mem_singleton, forall_eq]
    exact ⟨trivial, most, fun entry member => (List.not_mem_nil member).elim, least, most⟩
  | cons entry rest ih =>
    obtain ⟨first, others⟩ := List.forall_mem_cons.mp backed
    rw [sgTotalLenFrom] at accepted ⊢
    by_cases null : entry.virt = none
    · rw [if_pos null] at accepted
      exact absurd accepted (by decide)
    · rw [if_neg null] at accepted ⊢
      by_cases large : INT_MAX - total < entry.length
      · rw [if_pos large] at accepted
        exact absurd accepted (by decide)
      · rw [if_neg large] at accepted ⊢
        obtain ⟨sum, bound, present, lens⟩ := ih (by omega) (by omega) others accepted
        have small : castInt entry.length = entry.length := castInt_of_le (by omega)
        refine ⟨?_, bound, ?_, ?_⟩
        · rw [sum, List.map_cons, List.sum_cons, Nat.cast_add]
          omega
        · refine List.forall_mem_cons.mpr ⟨⟨?_, first, small⟩, present⟩
          exact Option.isSome_iff_ne_none.mpr null
        · rw [sgTotalLens, if_neg null, if_neg large, small]
          refine List.forall_mem_cons.mpr ⟨⟨least, most⟩, List.forall_mem_cons.mpr ⟨?_, ?_⟩⟩
          · omega
          · exact List.forall_mem_cons.mpr ⟨by omega, lens⟩

/-- What `lcompat_usb_urb_data_len` accepts. -/
theorem urbDataLen_spec {urb : Urb} (listed : urb.sg ≠ [])
    (backed : ∀ entry ∈ urb.sg, entry.Backed) (accepted : 0 ≤ urbDataLen urb) :
    (∀ entry ∈ urb.sg, entry.Present) ∧
      urbDataLen urb ≤ (urb.sg.map Scatterlist.length).sum ∧
      ((urb.sg.map Scatterlist.length).sum : Int) ≤ INT_MAX ∧
      ∀ length ∈ sgTotalLens 0 urb.sg, 0 ≤ length ∧ length ≤ INT_MAX := by
  have total : 0 ≤ sgTotalLen urb := by
    by_contra negative
    rw [urbDataLen, if_neg listed, if_pos (Int.not_le.mp negative)] at accepted
    exact negative accepted
  obtain ⟨sum, bound, present, lens⟩ :=
    sgTotalLenFrom_spec (Int.le_refl 0) (by decide) backed total
  rw [Int.zero_add] at sum
  have same : sgTotalLen urb = (urb.sg.map Scatterlist.length).sum := sum
  refine ⟨present, ?_, by omega, lens⟩
  rw [urbDataLen, if_neg listed, if_neg (Int.not_lt.mpr total)]
  split
  · omega
  · next more =>
    split
    · have negative : -EINVAL < 0 := by decide
      omega
    · omega

end Totals

section Copies

variable {sg : List Scatterlist} {copied len : Int}

/-- What is gathered from a list in memory: its first bytes. -/
theorem sgGather_eq (present : ∀ entry ∈ sg, entry.Present) (least : copied ≤ len)
    (enough : len - copied ≤ (sgBytes sg).length) :
    sgGather copied len sg = ((sgBytes sg).take (len - copied).toNat, 0) := by
  induction sg generalizing copied with
  | nil =>
    have none : (sgBytes []).length = 0 := rfl
    have same : copied = len := by omega
    simp [sgGather, same, sgBytes]
  | cons entry rest ih =>
    obtain ⟨first, others⟩ := List.forall_mem_cons.mp present
    rw [sgGather]
    by_cases done : len ≤ copied
    · have same : copied = len := by omega
      simp [same]
    · have length := first.length_bytes
      rw [sgBytes_cons, List.length_append, length] at enough
      rw [if_neg done, first.virt_eq]
      dsimp only
      rw [first.small, ih others (by omega) (by omega), sgBytes_cons]
      have cut : (min (entry.length : Int) (len - copied)).toNat ≤ entry.bytes.length := by omega
      have front : entry.bytes.take (min (entry.length : Int) (len - copied)).toNat =
          entry.bytes.take (len - copied).toNat := by
        by_cases whole : (entry.length : Int) ≤ len - copied
        · rw [List.take_of_length_le (by omega), List.take_of_length_le (by omega)]
        · rw [min_eq_right (by omega)]
      have back : (len - (copied + min (entry.length : Int) (len - copied))).toNat =
          (len - copied).toNat - entry.length := by omega
      rw [List.take_append_of_le_length cut, front, back, List.take_append, length]

/-- What is scattered over a list in memory: nothing else of it changes. -/
theorem sgScatter_spec (present : ∀ entry ∈ sg, entry.Present) {src : List UInt8}
    (positive : 0 ≤ copied) (least : copied ≤ len)
    (enough : len - copied ≤ (sgBytes sg).length) (whole : len ≤ src.length) :
    ∃ sg', sgScatter src copied len sg = (sg', 0) ∧
      Rewrites ((src.drop copied.toNat).take (len - copied).toNat) sg sg' := by
  induction sg generalizing copied with
  | nil =>
    have none : (sgBytes []).length = 0 := rfl
    have same : copied = len := by omega
    refine ⟨[], by simp [sgScatter, same], rfl, ?_, rfl, fun entry member => ?_⟩
    · simp [same, sgBytes]
    · exact (List.not_mem_nil member).elim
  | cons entry rest ih =>
    obtain ⟨first, others⟩ := List.forall_mem_cons.mp present
    rw [sgScatter]
    by_cases done : len ≤ copied
    · have same : copied = len := by omega
      refine ⟨entry :: rest, by simp [same], rfl, ?_, rfl, present⟩
      simp [same]
    · have length := first.length_bytes
      rw [sgBytes_cons, List.length_append, length] at enough
      rw [if_neg done, first.virt_eq]
      dsimp only
      rw [first.small]
      generalize taken : min (entry.length : Int) (len - copied) = fragLen
      obtain ⟨sg', ran, rewrites⟩ := ih others (show 0 ≤ copied + fragLen by omega) (by omega)
        (by omega)
      rw [ran]
      have frag : ((src.drop copied.toNat).take fragLen.toNat).length = fragLen.toNat := by
        rw [List.length_take, List.length_drop]
        omega
      obtain ⟨present', bytes, behind⟩ := first.overwrite
        (show ((src.drop copied.toNat).take fragLen.toNat).length ≤ entry.length by omega)
      have rest' : (src.drop (copied + fragLen).toNat).take (len - (copied + fragLen)).toNat =
          ((src.drop copied.toNat).drop fragLen.toNat).take
            ((len - copied).toNat - fragLen.toNat) := by
        rw [List.drop_drop]
        congr 1
        · omega
        · congr 1
          omega
      have both : (src.drop copied.toNat).take (len - copied).toNat =
          (src.drop copied.toNat).take fragLen.toNat ++
            (src.drop (copied + fragLen).toNat).take (len - (copied + fragLen)).toNat := by
        rw [rest', ← List.take_add]
        congr 1
        omega
      refine ⟨_, rfl, ?_, ?_, ?_, List.forall_mem_cons.mpr ⟨present', rewrites.present⟩⟩
      · rw [List.map_cons, List.map_cons, rewrites.lengths]
      · rw [sgBytes_cons, sgBytes_cons, bytes, rewrites.bytes, both]
        generalize (src.drop copied.toNat).take fragLen.toNat = front at frag ⊢
        generalize cut : (src.drop (copied + fragLen).toNat).take
          (len - (copied + fragLen)).toNat = back
        by_cases inside : fragLen < entry.length
        · have nothing : back = [] := by
            rw [← cut, List.take_eq_nil_iff]
            omega
          rw [nothing, List.append_nil, List.drop_append_of_le_length (by omega)]
          simp only [List.nil_append, List.length_nil, List.drop_zero, List.append_assoc]
        · have none : entry.bytes.drop front.length = [] :=
            List.drop_of_length_le (by omega)
          have past : (entry.bytes ++ sgBytes rest).drop (front ++ back).length =
              (sgBytes rest).drop back.length := by
            rw [List.length_append, List.drop_append, List.drop_of_length_le (by omega),
              List.nil_append]
            congr 1
            omega
          rw [none, past, List.append_nil, List.append_assoc]
      · rw [List.map_cons, List.map_cons, behind, rewrites.behind]

/-- The lengths that a copy computes are in the range of `int`. -/
theorem sgCopyLens_bounds (present : ∀ entry ∈ sg, entry.Present) (positive : 0 ≤ copied)
    (least : copied ≤ len) (most : len ≤ INT_MAX)
    (bounded : ((sg.map Scatterlist.length).sum : Int) ≤ INT_MAX) :
    ∀ length ∈ sgCopyLens copied len sg, 0 ≤ length ∧ length ≤ INT_MAX := by
  induction sg generalizing copied with
  | nil =>
    rw [sgCopyLens, List.forall_mem_singleton]
    exact ⟨positive, Int.le_trans least most⟩
  | cons entry rest ih =>
    obtain ⟨first, others⟩ := List.forall_mem_cons.mp present
    rw [List.map_cons, List.sum_cons, Nat.cast_add] at bounded
    rw [sgCopyLens]
    by_cases done : len ≤ copied
    · rw [if_pos done, List.forall_mem_singleton]
      exact ⟨positive, Int.le_trans least most⟩
    · have some_ : ¬entry.virt = none := Option.isSome_iff_ne_none.mp first.virt
      rw [if_neg done]
      dsimp only
      rw [if_neg some_, first.small]
      simp only [List.forall_mem_cons]
      exact ⟨by omega, by omega, by omega, by omega, ih others (by omega) (by omega) (by omega)⟩

end Copies

/-- What copies of the first bytes of a list should come to. -/
structure RoundTrip (urb : Urb) (n : Nat) : Prop where
  /-- The first bytes are read, and writing them back changes nothing. -/
  fromList : ∀ dst : List UInt8, dst.length = n → ∃ buffer,
    sgCopyFromUrb urb (some dst) n = (some buffer, 0) ∧ buffer = (sgBytes urb.sg).take n ∧
      buffer.length = n ∧ sgCopyToUrb urb (some buffer) n = (urb.sg, 0)
  /-- Exactly the first bytes are written, and they are read back. -/
  toList : ∀ src : List UInt8, src.length = n → ∃ sg',
    sgCopyToUrb urb (some src) n = (sg', 0) ∧ Rewrites src urb.sg sg' ∧
      ∀ dst : List UInt8, dst.length = n →
        sgCopyFromUrb { urb with sg := sg' } (some dst) n = (some src, 0)
  /-- No length leaves the range of `int`. -/
  lens : ∀ length ∈ sgTotalLens 0 urb.sg ++ sgCopyLens 0 n urb.sg, 0 ≤ length ∧ length ≤ INT_MAX

section RoundTrips

variable {urb : Urb} {n : Nat}

/-- A copy from a list in memory. -/
theorem sgCopyFromUrb_eq (present : ∀ entry ∈ urb.sg, entry.Present)
    (enough : n ≤ (sgBytes urb.sg).length) {dst : List UInt8} (whole : dst.length = n) :
    sgCopyFromUrb urb (some dst) n = (some ((sgBytes urb.sg).take n), 0) := by
  have gathered := sgGather_eq present (Int.natCast_nonneg n) (by omega)
  rw [Int.sub_zero, Int.toNat_natCast] at gathered
  have nothing : dst.drop ((sgBytes urb.sg).take n).length = [] := by
    refine List.drop_of_length_le ?_
    rw [List.length_take]
    omega
  simp only [sgCopyFromUrb, Int.not_lt.mpr (Int.natCast_nonneg n), if_false, gathered, nothing,
    List.append_nil]

/-- A copy to a list in memory. -/
theorem sgCopyToUrb_spec (present : ∀ entry ∈ urb.sg, entry.Present)
    (enough : n ≤ (sgBytes urb.sg).length) {src : List UInt8} (whole : n ≤ src.length) :
    ∃ sg', sgCopyToUrb urb (some src) n = (sg', 0) ∧ Rewrites (src.take n) urb.sg sg' := by
  have first : (n : Int) - 0 ≤ (sgBytes urb.sg).length := by omega
  have last : (n : Int) ≤ src.length := by omega
  obtain ⟨sg', ran, rewrites⟩ := sgScatter_spec present (Int.le_refl 0) (Int.natCast_nonneg n)
    first last
  refine ⟨sg', ?_, ?_⟩
  · rw [sgCopyToUrb]
    simp only [Int.not_lt.mpr (Int.natCast_nonneg n), if_false, ran]
  · simpa only [Int.sub_zero, Int.toNat_natCast, Int.toNat_zero, List.drop_zero] using rewrites

end RoundTrips

/-- The bytes of a list that is accepted can be copied from it and to it. -/
theorem sgCopy_round_trip {urb : Urb} {n : Nat} (listed : urb.sg ≠ [])
    (backed : ∀ entry ∈ urb.sg, entry.Backed) (accepted : urbDataLen urb = n) :
    RoundTrip urb n := by
  obtain ⟨present, most, bounded, totals⟩ := urbDataLen_spec listed backed (by omega)
  have enough : n ≤ (sgBytes urb.sg).length := by
    rw [length_sgBytes present]
    omega
  constructor
  · intro dst whole
    have length : ((sgBytes urb.sg).take n).length = n := by
      rw [List.length_take]
      exact Nat.min_eq_left enough
    refine ⟨_, sgCopyFromUrb_eq present enough whole, rfl, length, ?_⟩
    obtain ⟨sg', ran, rewrites⟩ := sgCopyToUrb_spec present enough (Nat.le_of_eq length.symm)
    have same : sg' = urb.sg := by
      refine sg_ext present rewrites.present rewrites.lengths ?_ rewrites.behind
      rw [rewrites.bytes, List.take_take, Nat.min_self, length, List.take_append_drop]
    rw [ran, same]
  · intro src whole
    obtain ⟨sg', ran, rewrites⟩ := sgCopyToUrb_spec present enough (Nat.le_of_eq whole.symm)
    rw [List.take_of_length_le (Nat.le_of_eq whole)] at rewrites
    refine ⟨sg', ran, rewrites, fun dst space => ?_⟩
    have enough' : n ≤ (sgBytes sg').length := by
      rw [length_sgBytes rewrites.present, rewrites.lengths, ← length_sgBytes present]
      exact enough
    have copied := @sgCopyFromUrb_eq { urb with sg := sg' } n rewrites.present enough' dst space
    rw [copied, rewrites.bytes, List.take_append_of_le_length (Nat.le_of_eq whole.symm),
      List.take_of_length_le (Nat.le_of_eq whole)]
  · intro length member
    rcases List.mem_append.mp member with total | copy
    · exact totals length total
    · exact sgCopyLens_bounds present (Int.le_refl 0) (Int.natCast_nonneg n) (by omega) bounded
        length copy

/-- A list of three entries, of which one is empty and the last is used in part. -/
def threeParts : Urb :=
  { dev := none, pipe := 0, transferBuffer := none, transferBufferLength := 3, actualLength := 0
    status := 0, transferFlags := 0, complete := true, hcpriv := false
    sg := [⟨2, some [1, 2, 9]⟩, ⟨0, some []⟩, ⟨2, some [3, 4]⟩], submitted := false
    killed := false, refcount := 1 }

/-- Its first three bytes can be copied. -/
theorem sgCopy_round_trip_threeParts : RoundTrip threeParts 3 := by
  refine sgCopy_round_trip (by decide) ?_ (by decide)
  intro entry member memory here
  have all : ∀ entry ∈ threeParts.sg, entry.length ≤ (entry.virt.getD []).length := by decide
  have least := all entry member
  rwa [here] at least

end Lcompat.Usb
