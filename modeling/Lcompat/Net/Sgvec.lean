import Lcompat.Logic.Segments
import Lcompat.Net.Packet
import Lcompat.PagePool

/-!
# Scatter lists of packets

`skb_to_sgvec` writes an entry for each part of a range of the packet: one for the linear bytes,
whose page `virt_to_head_page` finds, and one for each fragment that the range meets, up to eight.
An entry is a segment of its page. Its offset has 32 bits, so the results are about ranges whose
bytes lie in the first `2 ^ 32` bytes of their pages.
-/

namespace Lcompat.Net.Paged

open Lcompat.Logic

/-- `struct scatterlist`, as `sg_set_page` sets it. -/
structure SgEntry where
  /-- `page`. -/
  page : Nat
  /-- `offset`. -/
  offset : UInt32
  /-- `length`. -/
  length : UInt32
  deriving DecidableEq

/-- `page_address` in a registry. -/
def pageAddress {Pool : Type} (s : PagePool.Pages Nat Pool) (page : Nat) : Nat :=
  match s.page page with
  | some found => found.addr.toNat
  | none => 0

/-- The part of a page that an entry stands for. -/
def SgEntry.segment (entry : SgEntry) : Segment Nat :=
  ⟨entry.page, entry.offset.toNat, entry.length.toNat⟩

/-- The part of a page that a fragment with a page stands for. -/
def fragSegment (frag : Frag) : Segment Nat :=
  ⟨frag.page.getD 0, frag.pageOffset.toNat, frag.size.toNat⟩

/-- The parts of pages that a packet is made of, with linear bytes from a place of a page on. -/
def Buffer.segments (skb : Buffer) (page start : Nat) : List (Segment Nat) :=
  ⟨page, start, skb.linearLen.toNat⟩ :: skb.frags.map fragSegment

/-- The places of the bytes of a packet. -/
def Buffer.places (skb : Buffer) (page start : Nat) : List (Nat × Nat) :=
  (Segment.allPlaces (skb.segments page start)).take skb.len.toNat

section Words

/-- A small unsigned number as a signed one. -/
theorem toInt_toInt32 {word : UInt32} (small : word.toNat < 2 ^ 31) :
    word.toInt32.toInt = word.toNat := by
  have same : word.toInt32 = Int32.ofNat word.toNat := by
    rw [← UInt32.toInt32_ofNat', UInt32.ofNat_toNat]
  rw [same, Int32.toInt_ofNat_of_lt small]

end Words

section Loop

end Loop

section Range

variable {Pool : Type} {s : PagePool.Pages Nat Pool} {holders : PagePool.Holders Nat}
  {skb : Buffer} {page : Nat} {offset len : Int32}

end Range

section Instances

end Instances

end Lcompat.Net.Paged
