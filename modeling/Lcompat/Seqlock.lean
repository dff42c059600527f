import Lcompat.Logic.System

/-!
# Sequence counters

A write section adds one to the counter at its begin and at its end, so the counter is odd while a
section is open. `read_seqcount_begin` returns the counter as it is, and does not wait until it is
even: a read that begins and ends in one section is not told to try again. One writer and any
number of readers run; each access is one step.
-/

namespace Lcompat.Seqlock

open Lcompat.Logic

/-- A read that has begun. -/
structure Read where
  /-- What `read_seqcount_begin` has returned. -/
  start : UInt32
  deriving DecidableEq

/-- The counter, the data, and where the writer and the readers are. -/
structure State (Loc Val Reader : Type) where
  /-- `seq`. -/
  seq : UInt32
  /-- The data. -/
  data : Loc → Val
  /-- The writer is in a write section. -/
  writing : Bool
  /-- The reads that have begun. -/
  readers : Reader → Option Read

/-- The next step. -/
inductive Label (Loc Val Reader : Type) where
  /-- The writer calls `write_seqcount_begin`. -/
  | writeBegin
  /-- The writer writes data. -/
  | write (loc : Loc) (val : Val)
  /-- The writer calls `write_seqcount_end`. -/
  | writeEnd
  /-- A reader calls `read_seqcount_begin`. -/
  | readBegin (reader : Reader)
  /-- A reader reads data. -/
  | read (reader : Reader) (loc : Loc)
  /-- A reader calls `read_seqcount_retry`. -/
  | readRetry (reader : Reader)

variable {Loc Val Reader : Type} [DecidableEq Loc] [DecidableEq Reader]

/-- `write_seqcount_begin`. -/
def writeSeqcountBegin (s : State Loc Val Reader) : State Loc Val Reader :=
  { s with seq := s.seq + 1 }

/-- `write_seqcount_end`. -/
def writeSeqcountEnd (s : State Loc Val Reader) : State Loc Val Reader :=
  { s with seq := s.seq + 1 }

/-- `read_seqcount_begin`. -/
def readSeqcountBegin (s : State Loc Val Reader) : UInt32 :=
  s.seq

/-- `read_seqcount_retry`. -/
def readSeqcountRetry (s : State Loc Val Reader) (start : UInt32) : Bool :=
  s.seq != start

/-- One step. Write sections do not overlap, data is written in them, and data is read between the
begin and the end of a read. -/
def step (s : State Loc Val Reader) : Label Loc Val Reader → Option (State Loc Val Reader)
  | .writeBegin =>
    if s.writing then none else some { writeSeqcountBegin s with writing := true }
  | .write loc val =>
    if s.writing then some { s with data := Function.update s.data loc val } else none
  | .writeEnd =>
    if s.writing then some { writeSeqcountEnd s with writing := false } else none
  | .readBegin reader =>
    some { s with readers := Function.update s.readers reader (some ⟨readSeqcountBegin s⟩) }
  | .read reader _ => if (s.readers reader).isSome then some s else none
  | .readRetry reader =>
    if (s.readers reader).isSome then
      some { s with readers := Function.update s.readers reader none }
    else none

/-- Every interleaving, from `seqcount_init` on. -/
def seqcounts (Loc Val Reader : Type) [DecidableEq Loc] [DecidableEq Reader] :
    System (State Loc Val Reader) (Label Loc Val Reader) where
  init s := s.seq = 0 ∧ s.writing = false ∧ ∀ reader, s.readers reader = none
  step := step

/-- A step and the state in which it was made. -/
abbrev Note (Loc Val Reader : Type) := State Loc Val Reader × Label Loc Val Reader

/-- Every step is noted. -/
def observe (s : State Loc Val Reader) (label : Label Loc Val Reader) :
    List (Note Loc Val Reader) :=
  [(s, label)]

/-- A step begins a read of a reader. -/
def Label.begins (reader : Reader) : Label Loc Val Reader → Bool
  | .readBegin other => other == reader
  | _ => false

/-- The steps since a reader has last called `read_seqcount_begin`, and the state in which it was
called. The newest step comes first. -/
def sinceBegin (reader : Reader) :
    List (Note Loc Val Reader) → Option (List (Note Loc Val Reader) × State Loc Val Reader)
  | [] => none
  | (s, label) :: older =>
    if label.begins reader then some ([], s)
    else (sinceBegin reader older).map fun since => ((s, label) :: since.1, since.2)

/-- A step adds one to the counter. -/
def Label.counts : Label Loc Val Reader → Bool
  | .writeBegin | .writeEnd => true
  | _ => false

/-- How many steps add one to the counter. -/
def increments (notes : List (Note Loc Val Reader)) : Nat :=
  notes.countP (·.2.counts)

/-- A reader is about to end a read that it is not told to try again, during which the counter has
not wrapped all the way round. -/
def Accepts (s : State Loc Val Reader × List (Note Loc Val Reader)) (reader : Reader)
    (read : Read) (since : List (Note Loc Val Reader)) (first : State Loc Val Reader) : Prop :=
  s.1.readers reader = some read ∧ readSeqcountRetry s.1 read.start = false ∧
    sinceBegin reader s.2 = some (since, first) ∧ increments since < 2 ^ 32

/-- When a reader is not told to try again, no write section was open at the begin of the read or
during it, and all data that it has read is that of its begin. -/
def ReadsOneState (s : State Loc Val Reader × List (Note Loc Val Reader)) :
    Label Loc Val Reader → Prop
  | .readRetry reader => ∀ read since first, Accepts s reader read since first →
    first.writing = false ∧ s.1.writing = false ∧ (∀ note ∈ since, note.1.writing = false) ∧
      ∀ note ∈ since, ∀ loc, note.2 = .read reader loc → note.1.data loc = first.data loc
  | _ => True

/-- When a reader is not told to try again, what `read_seqcount_begin` returned to it is even. -/
def StartsEven (s : State Loc Val Reader × List (Note Loc Val Reader)) :
    Label Loc Val Reader → Prop
  | .readRetry reader => ∀ read since first, Accepts s reader read since first →
    read.start.toNat % 2 = 0
  | _ => True

/-- The counter is odd while a write section is open. -/
def Parity (s : State Loc Val Reader) : Prop :=
  s.seq.toNat % 2 = s.writing.toNat

/-- What has happened since a read began: the counter counts the begins and ends of write sections,
and while there was none, nothing has changed, unless a section was open. -/
structure Follows (s : State Loc Val Reader) (since : List (Note Loc Val Reader))
    (first : State Loc Val Reader) : Prop where
  /-- The counter was odd at the begin if a section was open. -/
  parity : Parity first
  /-- The counter counts. -/
  counted : s.seq.toNat = (first.seq.toNat + increments since) % 2 ^ 32
  /-- Without a begin or an end, the writer was and is where it was. -/
  still : increments since = 0 → s.writing = first.writing ∧
    ∀ note ∈ since, note.1.writing = first.writing
  /-- Outside a write section, the data was and is what it was. -/
  kept : increments since = 0 → first.writing = false → s.data = first.data ∧
    ∀ note ∈ since, note.1.data = first.data

/-- The invariant. -/
structure Inv (s : State Loc Val Reader × List (Note Loc Val Reader)) : Prop where
  /-- The counter is odd while a write section is open. -/
  parity : Parity s.1
  /-- Reads that have begun follow their begin. -/
  follows : ∀ reader read, s.1.readers reader = some read → ∃ since first,
    sinceBegin reader s.2 = some (since, first) ∧ read.start = first.seq ∧
      Follows s.1 since first

section Steps

variable {s s' : State Loc Val Reader} {label : Label Loc Val Reader}

/-- A step adds one to the counter, or it leaves the counter and the writer where they are, and the
data too outside a write section. -/
theorem step_cases (stepped : step s label = some s') :
    label.counts = true ∧ s'.seq = s.seq + 1 ∧ s'.writing = !s.writing ∨
      label.counts = false ∧ s'.seq = s.seq ∧ s'.writing = s.writing ∧
        (s.writing = false → s'.data = s.data) := by
  cases label with
  | writeBegin | writeEnd =>
    simp only [step, writeSeqcountBegin, writeSeqcountEnd] at stepped
    left
    grind -ring -linarith [Label.counts]
  | write loc val =>
    obtain ⟨writing, next⟩ := Option.ite_none_right_eq_some.mp stepped
    obtain rfl := Option.some.inj next
    exact .inr ⟨rfl, rfl, rfl, fun outside => by simp [writing] at outside⟩
  | readBegin reader =>
    obtain rfl := Option.some.inj stepped
    exact .inr ⟨rfl, rfl, rfl, fun _ => rfl⟩
  | read reader loc | readRetry reader =>
    obtain ⟨_, next⟩ := Option.ite_none_right_eq_some.mp stepped
    obtain rfl := Option.some.inj next
    exact .inr ⟨rfl, rfl, rfl, fun _ => rfl⟩

/-- One more for the counter changes its parity. -/
theorem toNat_add_one_mod (seq : UInt32) : (seq + 1).toNat % 2 = 1 - seq.toNat % 2 := by
  have one : (1 : UInt32).toNat = 1 := rfl
  rw [UInt32.toNat_add, one]
  omega

/-- A step keeps the parity. -/
theorem Parity.step (parity : Parity s) (stepped : Seqlock.step s label = some s') :
    Parity s' := by
  unfold Parity at parity ⊢
  rcases step_cases stepped with ⟨-, seq, writing⟩ | ⟨-, seq, writing, -⟩
  · rw [seq, writing, toNat_add_one_mod, parity]
    cases s.writing <;> rfl
  · rw [seq, writing, parity]

/-- A step follows the begin of a read. -/
theorem Follows.step {since : List (Note Loc Val Reader)} {first : State Loc Val Reader}
    (follows : Follows s since first) (stepped : Seqlock.step s label = some s') :
    Follows s' ((s, label) :: since) first := by
  rcases step_cases stepped with ⟨counts, seq, -⟩ | ⟨quiet, seq, writing, data⟩
  · have more : increments ((s, label) :: since) = increments since + 1 := by
      simp [increments, counts]
    refine ⟨follows.parity, ?_, fun none => ?_, fun none => ?_⟩
    · have one : (1 : UInt32).toNat = 1 := rfl
      rw [seq, more, UInt32.toNat_add, follows.counted, one]
      omega
    · omega
    · omega
  · have same : increments ((s, label) :: since) = increments since := by
      simp [increments, quiet]
    refine ⟨follows.parity, ?_, fun none => ?_, fun none outside => ?_⟩
    · rw [seq, same]
      exact follows.counted
    · obtain ⟨here, before⟩ := follows.still (same ▸ none)
      exact ⟨writing.trans here, List.forall_mem_cons.mpr ⟨here, before⟩⟩
    · obtain ⟨here, before⟩ := follows.kept (same ▸ none) outside
      have closed : s.writing = false := (follows.still (same ▸ none)).1.trans outside
      exact ⟨(data closed).trans here, List.forall_mem_cons.mpr ⟨here, before⟩⟩

omit [DecidableEq Loc] [DecidableEq Reader] in
/-- The begin of a read follows itself. -/
theorem follows_begin (parity : Parity s) (seq : s'.seq = s.seq) (writing : s'.writing = s.writing)
    (data : s'.data = s.data) : Follows s' [] s := by
  refine ⟨parity, ?_, fun _ => ⟨writing, by simp⟩, fun _ _ => ⟨data, by simp⟩⟩
  rw [seq]
  exact (Nat.mod_eq_of_lt s.seq.toNat_lt).symm

/-- A step that is no begin of a read leaves the read as it is, or ends it. -/
theorem readers_step {reader : Reader} {read : Read} (stepped : step s label = some s')
    (other : label.begins reader = false) (reads : s'.readers reader = some read) :
    s.readers reader = some read := by
  cases label with
  | writeBegin | write | writeEnd | read =>
    have same : s'.readers = s.readers := by
      simp only [step, writeSeqcountBegin, writeSeqcountEnd] at stepped
      grind -ring -linarith
    rw [← same]
    exact reads
  | readBegin begun =>
    obtain rfl := Option.some.inj stepped
    have apart : reader ≠ begun := by
      rintro rfl
      simp [Label.begins] at other
    simpa [apart] using reads
  | readRetry ended =>
    obtain ⟨_, next⟩ := Option.ite_none_right_eq_some.mp stepped
    obtain rfl := Option.some.inj next
    have apart : reader ≠ ended := by
      rintro rfl
      simp at reads
    simpa [apart] using reads

end Steps

section Runs

variable {s s' : State Loc Val Reader × List (Note Loc Val Reader)} {label : Label Loc Val Reader}

/-- A step keeps the invariant. -/
theorem Inv.step (inv : Inv s)
    (stepped : ((seqcounts Loc Val Reader).record observe).step s label = some s') : Inv s' := by
  obtain ⟨moved, noted⟩ := System.record_step_eq_some.mp stepped
  refine ⟨inv.parity.step moved, fun reader read reads => ?_⟩
  have trace : s'.2 = (s.1, label) :: s.2 := noted
  rw [trace, sinceBegin]
  cases begins : label.begins reader with
  | true =>
    cases label with
    | readBegin begun =>
      obtain rfl : begun = reader := by simpa [Label.begins] using begins
      have next : ⟨s.1.seq, s.1.data, s.1.writing, Function.update s.1.readers begun
          (some ⟨readSeqcountBegin s.1⟩)⟩ = s'.1 := Option.some.inj moved
      rw [← next] at reads ⊢
      obtain rfl : (⟨readSeqcountBegin s.1⟩ : Read) = read := by simpa using reads
      exact ⟨[], s.1, rfl, rfl, follows_begin inv.parity rfl rfl rfl⟩
    | writeBegin | write | writeEnd | read | readRetry => cases begins
  | false =>
    obtain ⟨since, first, found, start, follows⟩ :=
      inv.follows reader read (readers_step moved begins reads)
    refine ⟨(s.1, label) :: since, first, ?_, start, follows.step moved⟩
    rw [found]
    rfl

omit [DecidableEq Loc] in
/-- A read that is accepted is of one state exactly if it has started with an even counter. -/
theorem readsOneState_iff (inv : Inv s) : ReadsOneState s label ↔ StartsEven s label := by
  cases label with
  | readRetry reader =>
    refine forall_congr' fun read => forall_congr' fun since => forall_congr' fun first =>
      imp_congr_right fun accepts => ?_
    obtain ⟨reads, same, begun, few⟩ := accepts
    obtain ⟨since', first', found, start, follows⟩ := inv.follows reader read reads
    obtain ⟨rfl, rfl⟩ := Prod.mk.inj (Option.some.inj (begun.symm.trans found))
    have seq : s.1.seq = first.seq := by
      rw [← start]
      simpa [readSeqcountRetry] using same
    -- the counter is what it was, and has not wrapped
    have none : increments since = 0 := by
      have counted := follows.counted
      have small := first.seq.toNat_lt
      rw [seq] at counted
      omega
    have closed : read.start.toNat % 2 = 0 ↔ first.writing = false := by
      rw [start, follows.parity]
      cases first.writing <;> simp
    rw [closed]
    constructor
    · exact fun one => one.1
    · intro outside
      obtain ⟨here, before⟩ := follows.still none
      have data := (follows.kept none outside).2
      exact ⟨outside, here.trans outside, fun note member => (before note member).trans outside,
        fun note member loc _ => congrFun (data note member) loc⟩
  | writeBegin | write | writeEnd | readBegin | read => exact Iff.rfl

/-- In every interleaving, reads that are accepted are of one state of the data between two write
sections if and only if each of them has started with an even counter. -/
theorem reads_one_state_iff {start : State Loc Val Reader}
    (initial : (seqcounts Loc Val Reader).init start) (labels : List (Label Loc Val Reader)) :
    ((seqcounts Loc Val Reader).record observe).Along ReadsOneState (start, []) labels ↔
      ((seqcounts Loc Val Reader).record observe).Along StartsEven (start, []) labels := by
  obtain ⟨seq, writing, nobody⟩ := initial
  have inv : Inv (start, []) := by
    refine ⟨?_, fun reader read reads => ?_⟩
    · rw [Parity, seq, writing]
      rfl
    · rw [nobody reader] at reads
      cases reads
  exact System.along_iff_along (fun _ _ (inv : Inv _) => readsOneState_iff inv)
    (fun _ _ _ inv stepped => inv.step stepped) inv

end Runs

/-- No reader has begun, and the data is 0. -/
def zeros : State Unit Nat Unit :=
  ⟨0, fun _ => 0, false, fun _ => none⟩

/-- A read between two write sections. -/
def readBetween : List (Label Unit Nat Unit) :=
  [.writeBegin, .write () 1, .writeEnd, .readBegin (), .read () (), .readRetry (), .writeBegin]

/-- A read in a write section. -/
def readInside : List (Label Unit Nat Unit) :=
  [.writeBegin, .readBegin (), .read () (), .write () 1, .read () ()]

/-- A read between two write sections is of one state. -/
theorem readBetween_one_state :
    ((seqcounts Unit Nat Unit).record observe).Along ReadsOneState (zeros, []) readBetween := by
  refine (reads_one_state_iff ⟨rfl, rfl, fun _ => rfl⟩ readBetween).mpr ?_
  refine System.along_cons trivial rfl (System.along_cons trivial rfl (System.along_cons trivial rfl
    (System.along_cons trivial rfl (System.along_cons trivial rfl (System.along_cons ?_ rfl
      (System.along_cons trivial rfl trivial))))))
  rintro read since first ⟨reads, -⟩
  obtain rfl := Option.some.inj reads
  rfl

/-- A read in a write section is accepted, and is of two states. -/
theorem readInside_not_one_state :
    ¬∀ s, ((seqcounts Unit Nat Unit).record observe).Reachable s →
      ∀ label, ReadsOneState s label := by
  intro always
  have ran : ∃ s, ((seqcounts Unit Nat Unit).record observe).run (zeros, []) readInside = some s ∧
      s.1.readers () = some ⟨1⟩ ∧ readSeqcountRetry s.1 1 = false ∧
      ∃ since first, sinceBegin () s.2 = some (since, first) ∧ increments since = 0 ∧
        first.writing = true := ⟨_, rfl, rfl, rfl, _, _, rfl, rfl, rfl⟩
  obtain ⟨s, executed, reads, same, since, first, begun, none, inside⟩ := ran
  have fresh : ((seqcounts Unit Nat Unit).record observe).init (zeros, []) :=
    ⟨⟨rfl, rfl, fun _ => rfl⟩, rfl⟩
  have accepts : Accepts s () ⟨1⟩ since first := ⟨reads, same, begun, by omega⟩
  have outside := (always s (System.reachable_of_run fresh executed)
    (.readRetry ()) _ _ _ accepts).1
  rw [inside] at outside
  cases outside

end Lcompat.Seqlock
