import Mathlib

/-!
# Intrusive singly linked queues

A first-in first-out queue kept as a head pointer, a tail pointer and one link in every
node, where nodes are any type and a pointer is an optional node. `Repr` relates such a
queue to the list of its nodes; each operation is stated against that list, and the frame
lemmas say which links an operation leaves alone, so that several queues can share one
link field. The unlinking walk takes a bound on its steps, and a represented queue is
shown to need no more steps than it has nodes.
-/

namespace Lcompat.Logic

universe u

/-- Head pointer, tail pointer and the link of every node. -/
structure LinkedQueue (Node : Type u) where
  /-- First node. -/
  head : Option Node
  /-- Last node. -/
  tail : Option Node
  /-- Link of each node, in the queue or not. -/
  next : Node → Option Node

namespace LinkedQueue

variable {Node : Type u}

/-- Following links from a pointer visits exactly the nodes of a list and then ends. -/
def Chain (next : Node → Option Node) : Option Node → List Node → Prop
  | pos, [] => pos = none
  | pos, a :: rest => pos = some a ∧ Chain next (next a) rest

/-- The queue holds the nodes of a list in order, each once, and its tail is the last. -/
structure Repr (q : LinkedQueue Node) (nodes : List Node) : Prop where
  /-- Links lead from the head through the nodes. -/
  chain : Chain q.next q.head nodes
  /-- The tail pointer is the last node, or null for an empty queue. -/
  tail_last : q.tail = nodes.getLast?
  /-- No node occurs twice, so the chain has no cycle. -/
  nodup : nodes.Nodup

/-- A chain depends only on the links of its own nodes. -/
theorem Chain.congr {next next' : Node → Option Node} {pos : Option Node} {nodes : List Node}
    (chain : Chain next pos nodes) (same : ∀ a ∈ nodes, next' a = next a) :
    Chain next' pos nodes := by
  induction nodes generalizing pos with
  | nil => exact chain
  | cons a rest ih =>
    refine ⟨chain.1, ?_⟩
    rw [same a List.mem_cons_self]
    exact ih chain.2 fun b member => same b (List.mem_cons_of_mem a member)

/-- A pointer starts at most one chain. -/
theorem Chain.unique {next : Node → Option Node} {pos : Option Node} {nodes nodes' : List Node}
    (left : Chain next pos nodes) (right : Chain next pos nodes') : nodes = nodes' := by
  induction nodes generalizing pos nodes' with
  | nil =>
    cases nodes' with
    | nil => rfl
    | cons b rest => exact absurd (left.symm.trans right.1) (by simp)
  | cons a rest ih =>
    cases nodes' with
    | nil => exact absurd (right.symm.trans left.1) (by simp)
    | cons b rest' =>
      obtain rfl := Option.some.inj (left.1.symm.trans right.1)
      rw [ih left.2 right.2]

/-- A queue represents at most one list. -/
theorem Repr.unique {q : LinkedQueue Node} {nodes nodes' : List Node} (left : q.Repr nodes)
    (right : q.Repr nodes') : nodes = nodes' :=
  left.chain.unique right.chain

/-- The head is null exactly for the empty queue. -/
theorem Repr.head_eq_none_iff {q : LinkedQueue Node} {nodes : List Node} (repr : q.Repr nodes) :
    q.head = none ↔ nodes = [] := by
  cases nodes with
  | nil => exact ⟨fun _ => rfl, fun _ => repr.chain⟩
  | cons a rest =>
    have first := repr.chain.1
    simp [first]

/-- The empty queue. -/
theorem repr_empty (next : Node → Option Node) :
    (⟨none, none, next⟩ : LinkedQueue Node).Repr [] :=
  ⟨rfl, rfl, List.nodup_nil⟩

/-- A queue keeps its nodes when only links of other nodes change. -/
theorem Repr.frame {q : LinkedQueue Node} {nodes : List Node} (repr : q.Repr nodes)
    {next' : Node → Option Node} (same : ∀ a ∈ nodes, next' a = q.next a) :
    (⟨q.head, q.tail, next'⟩ : LinkedQueue Node).Repr nodes :=
  ⟨repr.chain.congr same, repr.tail_last, repr.nodup⟩

variable [DecidableEq Node]

/-- Link a node behind the tail. -/
def append (q : LinkedQueue Node) (a : Node) : LinkedQueue Node :=
  let next := Function.update q.next a none
  match q.tail with
  | some last => ⟨q.head, some a, Function.update next last (some a)⟩
  | none => ⟨some a, some a, next⟩

/-- Link a node before the head. -/
def prepend (q : LinkedQueue Node) (a : Node) : LinkedQueue Node :=
  ⟨some a, if q.tail = none then some a else q.tail, Function.update q.next a q.head⟩

/-- Unlink the first node. -/
def pop (q : LinkedQueue Node) : LinkedQueue Node × Option Node :=
  match q.head with
  | none => (q, none)
  | some a =>
    let head := q.next a
    (⟨head, if head = none then none else q.tail, Function.update q.next a none⟩, some a)

/-- Take a node out behind its predecessor, or from the head when it has none. -/
def unlink (q : LinkedQueue Node) (prev : Option Node) (a : Node) : LinkedQueue Node :=
  let after := q.next a
  let q := match prev with
    | some p => { q with next := Function.update q.next p after }
    | none => { q with head := after }
  let q := if q.tail = some a then { q with tail := prev } else q
  { q with next := Function.update q.next a none }

/-- Walk the links from a pointer, carrying the predecessor, and take the searched node out
where it is met. `none` when the bound on the steps is used up. -/
def removeFrom (q : LinkedQueue Node) (a : Node) :
    Nat → Option Node → Option Node → Option (LinkedQueue Node × Bool)
  | _, _, none => some (q, false)
  | 0, _, some _ => none
  | steps + 1, prev, some pos =>
    if pos = a then some (q.unlink prev a, true)
    else removeFrom q a steps (some pos) (q.next pos)

/-- Linking a node behind the last node of a chain extends the chain by it. -/
theorem Chain.snoc {next : Node → Option Node} {pos : Option Node} {nodes : List Node}
    {last a : Node} (chain : Chain next pos nodes) (ends : nodes.getLast? = some last)
    (nodup : nodes.Nodup) (fresh : a ∉ nodes) :
    Chain (Function.update (Function.update next a none) last (some a)) pos (nodes ++ [a]) := by
  induction nodes generalizing pos with
  | nil => simp at ends
  | cons b rest ih =>
    have apart : b ≠ a := fun same => fresh (same ▸ List.mem_cons_self)
    refine ⟨chain.1, ?_⟩
    cases rest with
    | nil =>
      obtain rfl : b = last := by simpa using ends
      have ended : (Function.update (Function.update next a none) b (some a)) a = none := by
        rw [Function.update_of_ne apart.symm, Function.update_self]
      exact ⟨Function.update_self .., ended⟩
    | cons c more =>
      have tailEnds : (c :: more).getLast? = some last := by
        rwa [List.getLast?_cons_cons] at ends
      have early : b ≠ last := fun same => by
        have inTail := List.mem_of_getLast? tailEnds
        exact (List.nodup_cons.mp nodup).1 (same ▸ inTail)
      rw [Function.update_of_ne early, Function.update_of_ne apart]
      exact ih chain.2 tailEnds (List.nodup_cons.mp nodup).2
        fun member => fresh (List.mem_cons_of_mem b member)

/-- Appending a node that is not queued puts it last. -/
theorem Repr.append {q : LinkedQueue Node} {nodes : List Node} (repr : q.Repr nodes) {a : Node}
    (fresh : a ∉ nodes) : (q.append a).Repr (nodes ++ [a]) := by
  have nodup : (nodes ++ [a]).Nodup := by
    rw [List.nodup_append]
    refine ⟨repr.nodup, List.nodup_singleton a, fun b member c single => ?_⟩
    obtain rfl := List.mem_singleton.mp single
    exact fun same => fresh (same ▸ member)
  have last := repr.tail_last
  cases ends : nodes.getLast? with
  | none =>
    obtain rfl := List.getLast?_eq_none_iff.mp ends
    rw [ends] at last
    refine ⟨?_, ?_, nodup⟩ <;> simp [LinkedQueue.append, last, Chain]
  | some t =>
    rw [ends] at last
    refine ⟨?_, ?_, nodup⟩
    · simp only [LinkedQueue.append, last]
      exact repr.chain.snoc ends repr.nodup fresh
    · simp [LinkedQueue.append, last]

/-- A queue is not empty after an append. -/
theorem Repr.append_head {q : LinkedQueue Node} {nodes : List Node} (repr : q.Repr nodes)
    (a : Node) : (q.append a).head ≠ none := by
  unfold LinkedQueue.append
  split
  · rename_i last found
    intro ended
    obtain rfl := repr.head_eq_none_iff.mp ended
    simp [repr.tail_last] at found
  · simp

/-- Appending touches only the link of the new node and of the former tail. -/
theorem append_next_of_ne {q : LinkedQueue Node} {a b : Node} (notNew : b ≠ a)
    (notTail : q.tail ≠ some b) : (q.append a).next b = q.next b := by
  unfold append
  split
  · rename_i last found
    have apart : b ≠ last := fun same => notTail (same ▸ found)
    simp [Function.update_of_ne apart, Function.update_of_ne notNew]
  · simp [Function.update_of_ne notNew]

/-- Prepending a node that is not queued puts it first. -/
theorem Repr.prepend {q : LinkedQueue Node} {nodes : List Node} (repr : q.Repr nodes) {a : Node}
    (fresh : a ∉ nodes) : (q.prepend a).Repr (a :: nodes) := by
  have links : Chain (Function.update q.next a q.head) q.head nodes := by
    refine repr.chain.congr fun b member => Function.update_of_ne ?_ ..
    exact fun same => fresh (same ▸ member)
  refine ⟨⟨rfl, ?_⟩, ?_, List.nodup_cons.mpr ⟨fresh, repr.nodup⟩⟩
  · simpa [LinkedQueue.prepend] using links
  · have last := repr.tail_last
    cases nodes with
    | nil => simp [LinkedQueue.prepend, last]
    | cons b rest =>
      have ends : q.tail ≠ none := by simp [last]
      rw [List.getLast?_cons_cons, ← last]
      exact if_neg ends

/-- Prepending touches only the link of the new node. -/
theorem prepend_next_of_ne {q : LinkedQueue Node} {a b : Node} (notNew : b ≠ a) :
    (q.prepend a).next b = q.next b :=
  Function.update_of_ne notNew ..

/-- Popping an empty queue finds nothing and changes nothing. -/
theorem Repr.pop_nil {q : LinkedQueue Node} (repr : q.Repr []) : q.pop = (q, none) := by
  have ended : q.head = none := repr.chain
  simp [pop, ended]

/-- Popping returns the first node and leaves the rest queued. -/
theorem Repr.pop_cons {q : LinkedQueue Node} {a : Node} {rest : List Node}
    (repr : q.Repr (a :: rest)) : q.pop.2 = some a ∧ q.pop.1.Repr rest := by
  have first : q.head = some a := repr.chain.1
  have apart := List.nodup_cons.mp repr.nodup
  have links : Chain (Function.update q.next a none) (q.next a) rest := by
    refine repr.chain.2.congr fun b member => Function.update_of_ne ?_ ..
    exact fun same => apart.1 (same ▸ member)
  refine ⟨by simp [pop, first], ?_, ?_, apart.2⟩
  · simpa [pop, first] using links
  · cases rest with
    | nil =>
      have ended : q.next a = none := repr.chain.2
      simp [pop, first, ended]
    | cons b more =>
      have second : q.next a = some b := repr.chain.2.1
      simp [pop, first, second, repr.tail_last]

/-- Popping touches only the link of the popped node. -/
theorem pop_next_of_ne {q : LinkedQueue Node} {b : Node} (notHead : q.head ≠ some b) :
    q.pop.1.next b = q.next b := by
  unfold pop
  split
  · rfl
  · rename_i a found
    exact Function.update_of_ne (fun same => notHead (by rw [found, same])) ..

/-- Bypassing a node in the middle of a chain removes exactly it. -/
theorem Chain.bypass {next : Node → Option Node} {pos : Option Node} {before after : List Node}
    {p a : Node} (chain : Chain next pos (before ++ a :: after)) (prev : before.getLast? = some p)
    (nodup : (before ++ a :: after).Nodup) :
    Chain (Function.update (Function.update next p (next a)) a none) pos (before ++ after) := by
  induction before generalizing pos with
  | nil => simp at prev
  | cons b rest ih =>
    have nodups := List.nodup_cons.mp nodup
    have apart : b ≠ a := fun same => nodups.1 (by simp [same])
    refine ⟨chain.1, ?_⟩
    rw [Function.update_of_ne apart]
    cases rest with
    | nil =>
      obtain rfl : b = p := by simpa using prev
      have onward : Chain next (next a) after := chain.2.2
      rw [Function.update_self]
      refine onward.congr fun c member => ?_
      have notA : c ≠ a := fun same => by
        have inner := (List.nodup_cons.mp nodups.2).1
        exact inner (same ▸ member)
      have notB : c ≠ b := fun same => nodups.1 (by simp [← same, member])
      rw [Function.update_of_ne notA, Function.update_of_ne notB]
    | cons c more =>
      have tailPrev : (c :: more).getLast? = some p := by
        rwa [List.getLast?_cons_cons] at prev
      have early : b ≠ p := fun same => nodups.1 (by
        have inTail := List.mem_of_getLast? tailPrev
        exact List.mem_append_left _ (same ▸ inTail))
      rw [Function.update_of_ne early]
      exact ih chain.2 tailPrev nodups.2

/-- Unlinking a node behind its predecessor leaves the other nodes in order. -/
theorem Repr.unlink {q : LinkedQueue Node} {before after : List Node} {a : Node}
    (repr : q.Repr (before ++ a :: after)) :
    (q.unlink before.getLast? a).Repr (before ++ after) := by
  have nodup : (before ++ after).Nodup :=
    repr.nodup.sublist (List.Sublist.append_left (List.sublist_cons_self a after) before)
  have last := repr.tail_last
  -- the tail moves back exactly when the unlinked node was the last one
  have tailIs : q.tail = some a ↔ after = [] := by
    rw [last]
    cases after with
    | nil => simp
    | cons b more =>
      have apart : a ∉ b :: more := fun member => by
        have inner := (List.nodup_append.mp repr.nodup).2.1
        exact (List.nodup_cons.mp inner).1 member
      simp only [List.getLast?_append_cons, List.getLast?_cons_cons, reduceCtorEq, iff_false]
      exact fun ends => apart (List.mem_of_getLast? ends)
  have tails : (if q.tail = some a then before.getLast? else q.tail) =
      (before ++ after).getLast? := by
    by_cases ended : after = []
    · subst ended
      simp [tailIs]
    · rw [if_neg (fun found => ended (tailIs.mp found)), last]
      obtain ⟨b, more, rfl⟩ := List.exists_cons_of_ne_nil ended
      simp [List.getLast?_cons_cons]
  cases prev : before.getLast? with
  | none =>
    obtain rfl := List.getLast?_eq_none_iff.mp prev
    have links : Chain (Function.update q.next a none) (q.next a) after := by
      refine repr.chain.2.congr fun b member => Function.update_of_ne ?_ ..
      exact fun same => (List.nodup_cons.mp repr.nodup).1 (same ▸ member)
    refine ⟨?_, ?_, nodup⟩
    · unfold LinkedQueue.unlink
      dsimp only
      split <;> exact links
    · rw [prev] at tails
      rw [← tails]
      unfold LinkedQueue.unlink
      dsimp only
      split <;> rfl
  | some p =>
    have links := repr.chain.bypass prev repr.nodup
    refine ⟨?_, ?_, nodup⟩
    · unfold LinkedQueue.unlink
      dsimp only
      split <;> exact links
    · rw [prev] at tails
      rw [← tails]
      unfold LinkedQueue.unlink
      dsimp only
      split <;> rfl

/-- The walk from inside a represented queue finds a node of the remaining part and takes it
out, and otherwise changes nothing; it needs no more steps than nodes remain. -/
theorem Repr.removeFrom {q : LinkedQueue Node} {a : Node} {before rest : List Node}
    (repr : q.Repr (before ++ rest)) (passed : a ∉ before) {steps : Nat}
    (enough : rest.length ≤ steps) {pos : Option Node} (here : Chain q.next pos rest) :
    (a ∉ rest ∧ q.removeFrom a steps before.getLast? pos = some (q, false)) ∨
      (a ∈ rest ∧ ∃ q', q.removeFrom a steps before.getLast? pos = some (q', true) ∧
        q'.Repr ((before ++ rest).erase a)) := by
  induction rest generalizing before steps pos with
  | nil =>
    obtain rfl : pos = none := here
    exact .inl ⟨List.not_mem_nil, by cases steps <;> rfl⟩
  | cons b rest ih =>
    obtain rfl := here.1
    cases steps with
    | zero => simp at enough
    | succ steps =>
      by_cases found : b = a
      · subst found
        refine .inr ⟨List.mem_cons_self, q.unlink before.getLast? b, ?_, ?_⟩
        · simp [LinkedQueue.removeFrom]
        · rw [List.erase_append_right _ passed, List.erase_cons_head]
          exact repr.unlink
      · have shift : before ++ b :: rest = (before ++ [b]) ++ rest := by simp
        have moved : q.Repr ((before ++ [b]) ++ rest) := shift ▸ repr
        have onward := ih moved (by simp [passed, Ne.symm found])
          (by simpa using enough) here.2
        have stepped : q.removeFrom a (steps + 1) before.getLast? (some b) =
            q.removeFrom a steps (before ++ [b]).getLast? (q.next b) := by
          simp [LinkedQueue.removeFrom, found]
        rw [stepped, shift]
        simpa [Ne.symm found] using onward

/-- Unlinking touches only the links of the node and of its predecessor. -/
theorem unlink_next_of_ne {q : LinkedQueue Node} {prev : Option Node} {a b : Node}
    (notNode : b ≠ a) (notPrev : prev ≠ some b) : (q.unlink prev a).next b = q.next b := by
  cases prev with
  | none =>
    unfold unlink
    dsimp only
    split <;> exact Function.update_of_ne notNode ..
  | some p =>
    have apart : b ≠ p := fun same => notPrev (same ▸ rfl)
    unfold unlink
    dsimp only
    split <;> simp [Function.update_of_ne notNode, Function.update_of_ne apart]

/-- The walk touches no link of a node that is not queued. -/
theorem removeFrom_next_of_not_mem {q q' : LinkedQueue Node} {a b : Node} {found : Bool}
    {rest : List Node} {steps : Nat} {prev pos : Option Node} (here : Chain q.next pos rest)
    (notQueued : b ∉ rest) (notPrev : prev ≠ some b)
    (walked : q.removeFrom a steps prev pos = some (q', found)) : q'.next b = q.next b := by
  induction rest generalizing steps prev pos with
  | nil =>
    obtain rfl : pos = none := here
    have same : q = q' := by
      cases steps <;> exact (Prod.mk.inj (Option.some.inj walked)).1
    rw [same]
  | cons c rest ih =>
    obtain rfl := here.1
    have apart : b ≠ c := fun same => notQueued (same ▸ List.mem_cons_self)
    cases steps with
    | zero => cases walked
    | succ steps =>
      rw [LinkedQueue.removeFrom] at walked
      split at walked
      · rename_i same
        obtain ⟨rfl, -⟩ := Prod.mk.inj (Option.some.inj walked)
        exact unlink_next_of_ne (same ▸ apart) notPrev
      · refine ih here.2 (fun member => notQueued (List.mem_cons_of_mem c member)) ?_ walked
        exact fun same => apart (Option.some.inj same).symm

/-- Removing a queued node by walking from the head takes exactly it out; the walk ends
within as many steps as there are nodes. -/
theorem Repr.remove_mem {q : LinkedQueue Node} {nodes : List Node} (repr : q.Repr nodes)
    {a : Node} (member : a ∈ nodes) {steps : Nat} (enough : nodes.length ≤ steps) :
    ∃ q', q.removeFrom a steps none q.head = some (q', true) ∧ q'.Repr (nodes.erase a) := by
  have walked := Repr.removeFrom (show q.Repr ([] ++ nodes) from repr)
    (List.not_mem_nil : a ∉ []) enough repr.chain
  rcases walked with ⟨absent, _⟩ | ⟨_, found⟩
  · exact absurd member absent
  · exact found

/-- Removing a node that is not queued changes nothing. -/
theorem Repr.remove_not_mem {q : LinkedQueue Node} {nodes : List Node} (repr : q.Repr nodes)
    {a : Node} (absent : a ∉ nodes) {steps : Nat} (enough : nodes.length ≤ steps) :
    q.removeFrom a steps none q.head = some (q, false) := by
  have walked := Repr.removeFrom (show q.Repr ([] ++ nodes) from repr)
    (List.not_mem_nil : a ∉ []) enough repr.chain
  rcases walked with ⟨_, same⟩ | ⟨member, _⟩
  · exact same
  · exact absurd member absent

end LinkedQueue

end Lcompat.Logic
