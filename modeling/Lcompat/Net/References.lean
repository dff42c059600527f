import Lcompat.Logic.References
import Lcompat.Net.Packet

/-!
# References of packets

A buffer holds a reference of the page of its head and one of the page of each fragment. The
functions that change it note what they do to pages, so that a run of them can be replayed against
the references that the buffer holds: each one is dropped once, after its last use.
-/

namespace Lcompat.Net.Paged

open Lcompat.Logic

/-- The references that an event adds. -/
def PageEvent.gained : PageEvent → Nat → Nat
  | .alloc _ page, resource | .give page, resource => if page = resource then 1 else 0
  | .touch _, _ | .put _, _ | .kfree _, _ | .allocSkb, _ | .freeSkb, _ => 0

/-- The references that an event takes. -/
def PageEvent.dropped : PageEvent → Nat → Nat
  | .put page, resource => if page = resource then 1 else 0
  | .alloc _ _, _ | .give _, _ | .touch _, _ | .kfree _, _ | .allocSkb, _ | .freeSkb, _ => 0

/-- An event reads or writes a page, or takes a reference of it. -/
def PageEvent.Uses (event : PageEvent) (page : Nat) : Prop :=
  event = .touch page ∨ event = .put page

/-- References of pages. -/
def pageLedger : RefLedger PageEvent Nat := ⟨PageEvent.gained, PageEvent.dropped, PageEvent.Uses⟩

/-- References of some pages. -/
def refs (pages : List Nat) : Nat → Nat := fun page => pages.count page

/-- A call with a buffer. -/
inductive BufferOp where
  /-- `skb_add_rx_frag` at `nr_frags`. -/
  | addRxFrag (page : Option Nat) (off size : Int32)
  /-- `skb_trim`. -/
  | trim (len : UInt32)
  /-- `skb_pull`. -/
  | pull (len : UInt32)
  /-- `skb_cow_head`, with what `__dev_alloc_pages` returns. -/
  | cowHead (alloc : PageAlloc) (headroom : UInt32)
  /-- `skb_linearize`, with what `__dev_alloc_pages` returns and the addresses of pages. -/
  | linearize (alloc : PageAlloc) (address : Nat → Nat)

/-- What a call does, unless it faults. -/
def BufferOp.run (skb : Buffer) (memory : Memory) : BufferOp → Option Outcome
  | .addRxFrag page off size =>
    let (skb', events) := skbAddRxFrag (Int32.ofNat skb.frags.length) page off size skb
    some ⟨0, skb', memory, events⟩
  | .trim len =>
    let (skb', events) := skbTrim skb len
    some ⟨0, skb', memory, events⟩
  | .pull len => some ⟨0, (skbPull skb len).getD skb, memory, []⟩
  | .cowHead alloc headroom => skbCowHead alloc headroom skb memory
  | .linearize alloc address => skbLinearize alloc address skb memory

/-- What some calls do, one behind the other, unless one faults: the buffer, the memory and all
that was done to pages. -/
def runOps : List BufferOp → Buffer → Memory → Option (Buffer × Memory × List PageEvent)
  | [], skb, memory => some (skb, memory, [])
  | op :: ops, skb, memory =>
    (op.run skb memory).bind fun outcome =>
      (runOps ops outcome.skb outcome.memory).map fun (skb', memory', events) =>
        (skb', memory', outcome.events ++ events)

/-- The allocator does not return pages at `NULL`. -/
def BufferOp.Sound : BufferOp → Prop
  | .cowHead alloc _ | .linearize alloc _ =>
    ∀ order page address, alloc order = some (page, address) → address ≠ 0
  | .addRxFrag _ _ _ | .trim _ | .pull _ => True

/-- All references are dropped: those that a buffer has at first, those that it is given and those
of the pages that are allocated. Nothing is used after its last reference was dropped. -/
structure DroppedOnce (skb : Buffer) (events : List PageEvent) : Prop where
  /-- As many references are dropped as there have been. -/
  balance : ∀ page, pageLedger.allDropped events page =
    refs skb.pages page + pageLedger.allGained events page
  /-- When a page is used, a reference is left. -/
  unspent : ∀ before event after page, events = before ++ event :: after → event.Uses page →
    pageLedger.allDropped before page < refs skb.pages page + pageLedger.allGained before page

section Replays

variable {held held' : Nat → Nat} {pages rest : List Nat}

/-- References do not depend on the order of pages. -/
theorem refs_perm {pages pages' : List Nat} (perm : pages.Perm pages') : refs pages = refs pages' :=
  funext fun page => perm.count_eq page

/-- An event that is not about references is replayed anywhere. -/
theorem replays_neutral (held : Nat → Nat) {event : PageEvent}
    (gains : ∀ page, event.gained page = 0) (drops : ∀ page, event.dropped page = 0)
    (unused : ∀ page, ¬event.Uses page) : pageLedger.Replays held [event] held := by
  refine ⟨fun page => ⟨fun uses => absurd uses (unused page), ?_⟩, funext fun page => ?_⟩
  · show event.dropped page ≤ held page
    rw [drops]
    exact Nat.zero_le _
  · show held page = held page - event.dropped page + event.gained page
    rw [gains, drops]
    rfl

/-- A page is gained. -/
theorem replays_gain {event : PageEvent} {page : Nat}
    (some_ : event.gained = PageEvent.gained (.give page))
    (drops : ∀ page, event.dropped page = 0) (unused : ∀ page, ¬event.Uses page) :
    pageLedger.Replays (refs rest) [event] (refs (page :: rest)) := by
  refine ⟨fun other => ⟨fun uses => absurd uses (unused other), ?_⟩, funext fun other => ?_⟩
  · show event.dropped other ≤ refs rest other
    rw [drops]
    exact Nat.zero_le _
  · show refs (page :: rest) other = refs rest other - event.dropped other + event.gained other
    rw [drops, some_, refs, refs, List.count_cons, Nat.sub_zero]
    simp only [PageEvent.gained, beq_iff_eq]

/-- Pages that are held can be touched. -/
theorem replays_touches (inside : ∀ page ∈ pages, 0 < held page) :
    pageLedger.Replays held (pages.map .touch) held := by
  induction pages with
  | nil => rfl
  | cons page pages ih =>
    refine ⟨fun other => ⟨?_, Nat.zero_le _⟩, ih fun other member =>
      inside other (List.mem_cons_of_mem page member)⟩
    rintro (same | same)
    · obtain rfl := PageEvent.touch.inj same
      exact inside page List.mem_cons_self
    · cases same

/-- Pages that are held can be put. -/
theorem replays_puts (pages rest : List Nat) :
    pageLedger.Replays (refs (pages ++ rest)) (pages.map .put) (refs rest) := by
  induction pages with
  | nil => rfl
  | cons page pages ih =>
    constructor
    · intro other
      constructor
      · rintro (same | same)
        · cases same
        · obtain rfl := PageEvent.put.inj same
          exact List.count_pos_iff.mpr List.mem_cons_self
      · show (if page = other then 1 else 0) ≤ List.count other (page :: (pages ++ rest))
        rw [List.count_cons]
        simp only [beq_iff_eq]
        omega
    · have left : pageLedger.next (refs (page :: pages ++ rest)) (.put page) =
          refs (pages ++ rest) := by
        funext other
        show List.count other (page :: (pages ++ rest)) - (if page = other then 1 else 0) + 0 =
          List.count other (pages ++ rest)
        rw [List.count_cons]
        simp only [beq_iff_eq]
        omega
      rw [left]
      exact ih

/-- The page of the head is put, if there is one. -/
theorem replays_putHead (skb : Buffer) (rest : List Nat) :
    pageLedger.Replays (refs (skb.headPage.toList ++ rest)) (putHead skb) (refs rest) := by
  unfold putHead
  cases skb.headPage with
  | none =>
    refine replays_neutral _ (fun _ => rfl) (fun _ => rfl) fun page uses => ?_
    rcases uses with same | same <;> cases same
  | some page => exact replays_puts [page] rest

/-- The fragments are released. -/
theorem replays_release (skb : Buffer) (rest : List Nat) :
    pageLedger.Replays (refs (skb.frags.filterMap Frag.page ++ rest)) (skbReleaseFrags skb).2
      (refs rest) :=
  replays_puts (skb.frags.filterMap Frag.page) rest

/-- The page of the head is touched, if there is one. -/
theorem replays_touchHead (skb : Buffer) (inside : ∀ page ∈ skb.headPage, 0 < held page) :
    pageLedger.Replays held (touchHead skb) held :=
  replays_touches fun page member => inside page (Option.mem_toList.mp member)

end Replays

section Operations

variable {skb : Buffer} {memory : Memory}

/-- `skb_trim` leaves the pages as they are or releases those of all fragments. -/
theorem skbTrim_pages (skb : Buffer) (len : UInt32) :
    (skbTrim skb len).1.headPage = skb.headPage ∧
      ((skbTrim skb len).1.frags = skb.frags ∧ (skbTrim skb len).2 = [] ∨
        (skbTrim skb len).1.frags = [] ∧ (skbTrim skb len).2 = (skbReleaseFrags skb).2) := by
  unfold skbTrim
  split
  · by_cases less : len < skb.linearLen
    · simp only [less, if_true]
      split
      · exact ⟨rfl, .inr ⟨rfl, rfl⟩⟩
      · exact ⟨rfl, .inr ⟨rfl, rfl⟩⟩
    · by_cases shorter : len < skb.len
      · simp only [less, shorter, if_true, if_false]
        split
        · exact ⟨rfl, .inl ⟨rfl, rfl⟩⟩
        · exact ⟨rfl, .inl ⟨rfl, rfl⟩⟩
      · simp only [less, shorter, if_false]
        split
        · exact ⟨rfl, .inl ⟨rfl, rfl⟩⟩
        · exact ⟨rfl, .inl ⟨rfl, rfl⟩⟩
  · exact ⟨rfl, .inl ⟨rfl, rfl⟩⟩

/-- `skb_trim` drops what the buffer no longer refers to. -/
theorem replays_trim (skb : Buffer) (len : UInt32) :
    pageLedger.Replays (refs skb.pages) (skbTrim skb len).2 (refs (skbTrim skb len).1.pages) := by
  obtain ⟨head, ⟨same, nothing⟩ | ⟨none, puts⟩⟩ := skbTrim_pages skb len
  · rw [nothing, Buffer.pages, Buffer.pages, head, same]
    rfl
  · have released := replays_release skb skb.headPage.toList
    rw [refs_perm List.perm_append_comm] at released
    rw [puts, Buffer.pages, Buffer.pages, head, none, List.filterMap_nil, List.append_nil]
    exact released

/-- `skb_pull` leaves the pages as they are. -/
theorem skbPull_pages (skb : Buffer) (len : UInt32) :
    ((skbPull skb len).getD skb).headPage = skb.headPage ∧
      ((skbPull skb len).getD skb).frags = skb.frags := by
  unfold skbPull
  split
  · exact ⟨rfl, rfl⟩
  · exact ⟨rfl, rfl⟩

/-- What `skb_add_rx_frag` does at `nr_frags`: nothing, or there is one more fragment. -/
theorem skbAddRxFrag_frags (few : skb.frags.length ≤ 8) {page : Option Nat} {off size : Int32}
    {skb' : Buffer} {events : List PageEvent}
    (ran : skbAddRxFrag (Int32.ofNat skb.frags.length) page off size skb = (skb', events)) :
    skb'.headPage = skb.headPage ∧ (skb'.frags = skb.frags ∧ events = [] ∨
      skb.frags.length < 8 ∧ ∃ given, page = some given ∧
        skb'.frags = skb.frags ++ [⟨some given, off.toUInt32, size.toUInt32⟩] ∧
          events = [.give given]) := by
  cases page with
  | none =>
    obtain ⟨rfl, rfl⟩ := Prod.mk.inj ran
    exact ⟨rfl, .inl ⟨rfl, rfl⟩⟩
  | some given =>
    have index : (Int32.ofNat skb.frags.length).toInt = skb.frags.length :=
      Int32.toInt_ofNat_of_lt (by omega)
    have count : (Int32.ofNat skb.frags.length).toNatClampNeg = skb.frags.length := by
      rw [← Int32.toNat_toInt, index, Int.toNat_natCast]
    unfold skbAddRxFrag at ran
    dsimp only at ran
    split at ran
    · obtain ⟨rfl, rfl⟩ := Prod.mk.inj ran
      exact ⟨rfl, .inl ⟨rfl, rfl⟩⟩
    · next accepted =>
      simp only [Bool.or_eq_true, decide_eq_true_eq, not_or] at accepted
      have less := Int32.lt_iff_toInt_lt.mp (Int32.not_le.mp accepted.1.1.2)
      have eight : (8 : Int32).toInt = 8 := rfl
      rw [index, eight] at less
      obtain ⟨rfl, rfl⟩ := Prod.mk.inj ran
      refine ⟨rfl, .inr ⟨by omega, given, rfl, ?_, rfl⟩⟩
      simp only [count, Nat.lt_irrefl, if_false, Nat.sub_self, List.replicate_zero,
        List.append_nil]

/-- `skb_add_rx_frag` takes the reference that it is given. -/
theorem replays_addRxFrag (few : skb.frags.length ≤ 8) {page : Option Nat} {off size : Int32}
    {skb' : Buffer} {events : List PageEvent}
    (ran : skbAddRxFrag (Int32.ofNat skb.frags.length) page off size skb = (skb', events)) :
    pageLedger.Replays (refs skb.pages) events (refs skb'.pages) := by
  obtain ⟨head, ⟨same, nothing⟩ | ⟨-, given, -, more, gives⟩⟩ := skbAddRxFrag_frags few ran
  · rw [nothing, Buffer.pages, Buffer.pages, head, same]
    rfl
  · have added : skb'.pages.Perm (given :: skb.pages) := by
      rw [Buffer.pages, head, more, List.filterMap_append, ← List.append_assoc]
      exact List.perm_append_singleton given skb.pages
    rw [gives, refs_perm added]
    refine replays_gain rfl (fun _ => rfl) fun page uses => ?_
    rcases uses with same | same <;> cases same

/-- A page that is allocated is held beside the others. -/
theorem replays_alloc (order : UInt32) (page : Nat) (rest : List Nat) :
    pageLedger.Replays (refs rest) [.alloc order page] (refs (page :: rest)) := by
  refine replays_gain rfl (fun _ => rfl) fun page uses => ?_
  rcases uses with same | same <;> cases same

/-- The page of a new head is allocated, and bytes are copied to it from the head. -/
theorem replays_newHead (skb : Buffer) (order : UInt32) (page : Nat) :
    pageLedger.Replays (refs skb.pages) (.alloc order page :: touchHead skb ++ [.touch page])
      (refs (page :: skb.pages)) := by
  have head : pageLedger.Replays (refs (page :: skb.pages)) (touchHead skb)
      (refs (page :: skb.pages)) := by
    refine replays_touchHead skb fun old there => ?_
    refine List.count_pos_iff.mpr (List.mem_cons_of_mem _ (List.mem_append_left _ ?_))
    exact Option.mem_toList.mpr there
  have new : pageLedger.Replays (refs (page :: skb.pages)) ([page].map .touch)
      (refs (page :: skb.pages)) := by
    refine replays_touches fun other member => ?_
    obtain rfl := List.mem_singleton.mp member
    exact List.count_pos_iff.mpr List.mem_cons_self
  exact (replays_alloc order page skb.pages).append (head.append new)

/-- What `skb_cow_head` does: nothing, or the head is moved to a new page. -/
theorem skbCowHead_pages {alloc : PageAlloc} {headroom : UInt32} {outcome : Outcome}
    (ran : skbCowHead alloc headroom skb memory = some outcome) :
    outcome.skb.frags = skb.frags ∧ (outcome.skb.headPage = skb.headPage ∧ outcome.events = [] ∨
      ∃ order page, outcome.skb.headPage = some page ∧
        outcome.events = .alloc order page :: touchHead skb ++ .touch page :: putHead skb) := by
  unfold skbCowHead at ran
  split at ran
  · obtain rfl := Option.some.inj ran
    exact ⟨rfl, .inl ⟨rfl, rfl⟩⟩
  split at ran
  · obtain rfl := Option.some.inj ran
    exact ⟨rfl, .inl ⟨rfl, rfl⟩⟩
  dsimp only at ran
  split at ran
  · obtain rfl := Option.some.inj ran
    exact ⟨rfl, .inl ⟨rfl, rfl⟩⟩
  split at ran
  · obtain rfl := Option.some.inj ran
    exact ⟨rfl, .inl ⟨rfl, rfl⟩⟩
  · next page address found =>
    obtain ⟨copied, -, rfl⟩ := Option.map_eq_some_iff.mp ran
    exact ⟨rfl, .inr ⟨_, page, rfl, rfl⟩⟩

/-- `skb_cow_head` drops the page of the old head. -/
theorem replays_cowHead {alloc : PageAlloc} {headroom : UInt32} {outcome : Outcome}
    (ran : skbCowHead alloc headroom skb memory = some outcome) :
    pageLedger.Replays (refs skb.pages) outcome.events (refs outcome.skb.pages) := by
  obtain ⟨frags, ⟨head, nothing⟩ | ⟨order, page, head, events⟩⟩ := skbCowHead_pages ran
  · rw [nothing, Buffer.pages, Buffer.pages, head, frags]
    rfl
  · have moved := replays_newHead skb order page
    have swapped : (page :: skb.pages).Perm
        (skb.headPage.toList ++ page :: skb.frags.filterMap Frag.page) := List.perm_middle.symm
    rw [refs_perm swapped] at moved
    have whole := moved.append (replays_putHead skb (page :: skb.frags.filterMap Frag.page))
    have after : outcome.skb.pages = page :: skb.frags.filterMap Frag.page := by
      rw [Buffer.pages, head, frags]
      rfl
    rw [events, after]
    simpa only [List.append_assoc, List.cons_append, List.nil_append, List.singleton_append]
      using whole

/-- The loop of `skb_linearize` touches pages of fragments only. -/
theorem copyFrags_events {address : Nat → Nat} {base : Nat} {dataOff len : UInt32}
    {frags : List Frag} {state state' : Copied}
    (ran : copyFrags address base dataOff len frags state = some state') :
    ∃ touched : List Nat, state'.events = state.events ++ touched.map .touch ∧
      ∀ page ∈ touched, page ∈ frags.filterMap Frag.page := by
  induction frags generalizing state with
  | nil =>
    obtain rfl := Option.some.inj ran
    exact ⟨[], (List.append_nil _).symm, by simp⟩
  | cons frag frags ih =>
    unfold copyFrags at ran
    split at ran
    · dsimp only at ran
      split at ran
      · obtain rfl := Option.some.inj ran
        exact ⟨[], (List.append_nil _).symm, by simp⟩
      · next page here =>
        split at ran
        · obtain rfl := Option.some.inj ran
          exact ⟨[], (List.append_nil _).symm, by simp⟩
        · obtain ⟨copied, -, rest⟩ := Option.bind_eq_some_iff.mp ran
          obtain ⟨touched, events, inside⟩ := ih rest
          have pages : (frag :: frags).filterMap Frag.page =
              page :: frags.filterMap Frag.page := List.filterMap_cons_some here
          refine ⟨page :: touched, ?_, ?_⟩
          · rw [events, List.append_assoc]
            rfl
          · rw [pages]
            exact List.forall_mem_cons.mpr ⟨List.mem_cons_self, fun other member =>
              List.mem_cons_of_mem page (inside other member)⟩
    · obtain rfl := Option.some.inj ran
      exact ⟨[], (List.append_nil _).symm, by simp⟩

/-- What `skb_linearize` does: nothing, or bytes are copied to a new page from the head and from
some fragments; then the new page is put, or it is the head and the old pages are put. -/
theorem skbLinearize_pages {alloc : PageAlloc} {address : Nat → Nat} {outcome : Outcome}
    (ran : skbLinearize alloc address skb memory = some outcome) :
    outcome.skb = skb ∧ outcome.events = [] ∨
      ∃ order page, ∃ touched : List Nat,
        (∀ other ∈ touched, other ∈ skb.frags.filterMap Frag.page) ∧
        (outcome.skb = skb ∧ outcome.events =
            (.alloc order page :: touchHead skb ++ [.touch page]) ++ touched.map .touch ++
              [.put page] ∨
          outcome.skb.headPage = some page ∧ outcome.skb.frags = [] ∧ outcome.events =
            (.alloc order page :: touchHead skb ++ [.touch page]) ++ touched.map .touch ++
              (skbReleaseFrags skb).2 ++ putHead skb) := by
  unfold skbLinearize at ran
  split at ran
  · obtain rfl := Option.some.inj ran
    exact .inl ⟨rfl, rfl⟩
  split at ran
  · obtain rfl := Option.some.inj ran
    exact .inl ⟨rfl, rfl⟩
  dsimp only at ran
  split at ran
  · obtain rfl := Option.some.inj ran
    exact .inl ⟨rfl, rfl⟩
  split at ran
  · obtain rfl := Option.some.inj ran
    exact .inl ⟨rfl, rfl⟩
  · next page newHead found =>
    obtain ⟨copied, -, rest⟩ := Option.bind_eq_some_iff.mp ran
    obtain ⟨state, loop, done⟩ := Option.map_eq_some_iff.mp rest
    obtain ⟨touched, events, inside⟩ := copyFrags_events loop
    split at done
    · obtain rfl := done
      exact .inr ⟨_, page, touched, inside, .inl ⟨rfl, congrArg (· ++ _) events⟩⟩
    · obtain rfl := done
      exact .inr ⟨_, page, touched, inside,
        .inr ⟨rfl, rfl, congrArg (· ++ _ ++ _) events⟩⟩

/-- `skb_linearize` drops the new page, or the old pages. -/
theorem replays_linearize {alloc : PageAlloc} {address : Nat → Nat} {outcome : Outcome}
    (ran : skbLinearize alloc address skb memory = some outcome) :
    pageLedger.Replays (refs skb.pages) outcome.events (refs outcome.skb.pages) := by
  rcases skbLinearize_pages ran with ⟨same, nothing⟩ | ⟨order, page, touched, inside, ends⟩
  · rw [nothing, same]
    rfl
  · have copied : pageLedger.Replays (refs skb.pages)
        ((.alloc order page :: touchHead skb ++ [.touch page]) ++ touched.map .touch)
        (refs (page :: skb.pages)) :=
      (replays_newHead skb order page).append (replays_touches fun other member =>
        List.count_pos_iff.mpr
          (List.mem_cons_of_mem page (List.mem_append_right _ (inside other member))))
    rcases ends with ⟨same, events⟩ | ⟨head, none, events⟩
    · rw [events, same]
      exact copied.append (replays_puts [page] skb.pages)
    · have after : outcome.skb.pages = [page] := by
        rw [Buffer.pages, head, none]
        rfl
      have turned : (page :: skb.pages).Perm
          (skb.frags.filterMap Frag.page ++ (skb.headPage.toList ++ [page])) := by
        rw [Buffer.pages]
        refine (List.perm_append_singleton page _).symm.trans ?_
        rw [← List.append_assoc]
        exact List.perm_append_comm.append_right [page]
      rw [refs_perm turned] at copied
      rw [events, after]
      exact (copied.append (replays_release skb _)).append (replays_putHead skb [page])

/-- The references of a buffer are replayed over any call, and it has no more than eight
fragments. -/
theorem replays_run (few : skb.frags.length ≤ 8) {op : BufferOp} {outcome : Outcome}
    (ran : op.run skb memory = some outcome) :
    pageLedger.Replays (refs skb.pages) outcome.events (refs outcome.skb.pages) ∧
      outcome.skb.frags.length ≤ 8 := by
  cases op with
  | addRxFrag page off size =>
    rcases added : skbAddRxFrag (Int32.ofNat skb.frags.length) page off size skb with
      ⟨skb', events⟩
    simp only [BufferOp.run, added, Option.some.injEq] at ran
    obtain rfl := ran
    refine ⟨replays_addRxFrag few added, ?_⟩
    obtain ⟨-, ⟨same, -⟩ | ⟨less, given, -, more, -⟩⟩ := skbAddRxFrag_frags few added
    · rw [same]
      exact few
    · rw [more, List.length_append, List.length_singleton]
      omega
  | trim len =>
    have replays := replays_trim skb len
    have pages := skbTrim_pages skb len
    rcases trimmed : skbTrim skb len with ⟨skb', events⟩
    simp only [BufferOp.run, trimmed, Option.some.injEq] at ran replays pages
    obtain rfl := ran
    refine ⟨replays, ?_⟩
    obtain ⟨-, ⟨same, -⟩ | ⟨none, -⟩⟩ := pages
    · rw [same]
      exact few
    · rw [none]
      exact Nat.zero_le 8
  | pull len =>
    obtain rfl := Option.some.inj ran
    obtain ⟨head, frags⟩ := skbPull_pages skb len
    have same : ((skbPull skb len).getD skb).pages = skb.pages := by
      rw [Buffer.pages, Buffer.pages, head, frags]
    refine ⟨?_, ?_⟩
    · show refs ((skbPull skb len).getD skb).pages = refs skb.pages
      rw [same]
    · rw [frags]
      exact few
  | cowHead alloc headroom =>
    refine ⟨replays_cowHead ran, ?_⟩
    rw [(skbCowHead_pages ran).1]
    exact few
  | linearize alloc address =>
    refine ⟨replays_linearize ran, ?_⟩
    rcases skbLinearize_pages ran with ⟨same, -⟩ | ⟨-, -, -, -, ⟨same, -⟩ | ⟨-, none, -⟩⟩
    · rw [same]
      exact few
    · rw [same]
      exact few
    · rw [none]
      exact Nat.zero_le 8

/-- Calls do not fault when the allocator returns no page at `NULL`. -/
theorem run_of_sound {op : BufferOp} (sound : op.Sound) (skb : Buffer) (memory : Memory) :
    ∃ outcome, op.run skb memory = some outcome := by
  have copies : ∀ {base} offset source count (memory : Memory), base ≠ 0 →
      ∃ memory', memcpy base offset source count memory = some memory' := by
    intro base offset source count memory placed
    exact ⟨_, if_neg fun null => placed null.1⟩
  cases op with
  | addRxFrag page off size => exact ⟨_, rfl⟩
  | trim len => exact ⟨_, rfl⟩
  | pull len => exact ⟨_, rfl⟩
  | cowHead alloc headroom =>
    simp only [BufferOp.run, skbCowHead]
    split
    · exact ⟨_, rfl⟩
    split
    · exact ⟨_, rfl⟩
    split
    · exact ⟨_, rfl⟩
    split
    · exact ⟨_, rfl⟩
    · next page address found =>
      obtain ⟨memory', copied⟩ := copies headroom.toNat skb.data skb.linearLen.toNat memory
        (sound _ page address found)
      rw [copied]
      exact ⟨_, rfl⟩
  | linearize alloc address =>
    have loops : ∀ {base} dataOff len frags state, base ≠ 0 →
        ∃ state', copyFrags address base dataOff len frags state = some state' := by
      intro base dataOff len frags state placed
      induction frags generalizing state with
      | nil => exact ⟨_, rfl⟩
      | cons frag frags ih =>
        simp only [copyFrags]
        split
        · split
          · exact ⟨_, rfl⟩
          split
          · exact ⟨_, rfl⟩
          · obtain ⟨memory', copied⟩ := copies _ _ _ state.memory placed
            rw [copied, Option.bind_some]
            exact ih _
        · exact ⟨_, rfl⟩
    simp only [BufferOp.run, skbLinearize]
    split
    · exact ⟨_, rfl⟩
    split
    · exact ⟨_, rfl⟩
    split
    · exact ⟨_, rfl⟩
    split
    · exact ⟨_, rfl⟩
    · next page newHead found =>
      have placed := sound _ page newHead found
      obtain ⟨memory', copied⟩ := copies skb.dataOff.toNat skb.data skb.linearLen.toNat memory
        placed
      rw [copied, Option.bind_some]
      obtain ⟨state, loop⟩ := loops skb.dataOff skb.len skb.frags _ placed
      rw [loop]
      exact ⟨_, rfl⟩

end Operations

section Runs

/-- The references of a buffer are replayed over any calls. -/
theorem replays_runOps {ops : List BufferOp} {skb skb' : Buffer} {memory memory' : Memory}
    {events : List PageEvent} (few : skb.frags.length ≤ 8)
    (ran : runOps ops skb memory = some (skb', memory', events)) :
    pageLedger.Replays (refs skb.pages) events (refs skb'.pages) := by
  induction ops generalizing skb memory events with
  | nil =>
    obtain ⟨rfl, rest⟩ := Prod.mk.inj (Option.some.inj ran)
    obtain ⟨-, rfl⟩ := Prod.mk.inj rest
    rfl
  | cons op ops ih =>
    obtain ⟨outcome, first, others⟩ := Option.bind_eq_some_iff.mp ran
    obtain ⟨⟨skb'', memory'', events'⟩, went, same⟩ := Option.map_eq_some_iff.mp others
    simp only [Prod.mk.injEq] at same
    obtain ⟨rfl, rfl, rfl⟩ := same
    obtain ⟨replays, few'⟩ := replays_run few first
    exact replays.append (ih few' went)

/-- Calls do not fault when the allocator returns no page at `NULL`. -/
theorem runOps_of_sound {ops : List BufferOp} (sound : ∀ op ∈ ops, op.Sound) (skb : Buffer)
    (memory : Memory) : ∃ result, runOps ops skb memory = some result := by
  induction ops generalizing skb memory with
  | nil => exact ⟨_, rfl⟩
  | cons op ops ih =>
    obtain ⟨outcome, first⟩ := run_of_sound (sound op List.mem_cons_self) skb memory
    obtain ⟨⟨skb', memory', events⟩, rest⟩ := ih
      (fun other member => sound other (List.mem_cons_of_mem op member)) outcome.skb outcome.memory
    refine ⟨(skb', memory', outcome.events ++ events), ?_⟩
    rw [runOps, first, Option.bind_some, rest, Option.map_some]

/-- `kfree_skb` drops all references of a buffer. -/
theorem replays_kfreeSkb (skb : Buffer) :
    pageLedger.Replays (refs skb.pages) (kfreeSkb skb) (refs []) := by
  have turned : skb.pages.Perm (skb.frags.filterMap Frag.page ++ (skb.headPage.toList ++ [])) := by
    rw [Buffer.pages, List.append_nil]
    exact List.perm_append_comm
  rw [refs_perm turned]
  refine ((replays_release skb _).append (replays_putHead skb [])).append ?_
  refine replays_neutral _ (fun _ => rfl) (fun _ => rfl) fun page uses => ?_
  rcases uses with same | same <;> cases same

/-- Calls with a buffer, up to `kfree_skb`, drop each reference once and use no page afterwards.
Until then the buffer refers to what has not been dropped. Only a page at `NULL` makes them
fault. -/
theorem references_dropped_once (skb : Buffer) (few : skb.frags.length ≤ 8) (ops : List BufferOp)
    (memory : Memory) :
    ((∀ op ∈ ops, op.Sound) → ∃ result, runOps ops skb memory = some result) ∧
      ∀ skb' memory' events, runOps ops skb memory = some (skb', memory', events) →
        DroppedOnce skb (events ++ kfreeSkb skb') ∧
          ∀ page, refs skb.pages page + pageLedger.allGained events page =
            pageLedger.allDropped events page + refs skb'.pages page := by
  refine ⟨fun sound => runOps_of_sound sound skb memory, fun skb' memory' events ran => ?_⟩
  have replays := replays_runOps few ran
  have whole := replays.append (replays_kfreeSkb skb')
  refine ⟨⟨fun page => (whole.balance page).symm, ?_⟩, replays.balance⟩
  intro before event after page split uses
  rw [split] at whole
  exact whole.unspent uses

/-- A fragment is added and copied to a new head. -/
theorem references_dropped_once_oneByte : ∃ skb' memory' events,
    runOps [.addRxFrag (some 2) 0 1, .linearize pageOne fun _ => 4096] oneByte oneByteMemory =
        some (skb', memory', events) ∧
      DroppedOnce oneByte (events ++ kfreeSkb skb') := by
  obtain ⟨runs, dropped⟩ := references_dropped_once oneByte (by decide)
    [.addRxFrag (some 2) 0 1, .linearize pageOne fun _ => 4096] oneByteMemory
  have sound : ∀ op ∈ [.addRxFrag (some 2) 0 1, BufferOp.linearize pageOne fun _ => 4096],
      op.Sound := by
    intro op member
    rcases List.mem_cons.mp member with rfl | member
    · trivial
    · obtain rfl := List.mem_singleton.mp member
      intro order page address found
      simp only [pageOne, Option.some.injEq, Prod.mk.injEq] at found
      omega
  obtain ⟨⟨skb', memory', events⟩, ran⟩ := runs sound
  exact ⟨skb', memory', events, ran, (dropped skb' memory' events ran).1⟩

end Runs

end Lcompat.Net.Paged
