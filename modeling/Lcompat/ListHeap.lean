import Lcompat.List

/-!
# Lists in one heap

The rest of `list.h`, and what its operations do in a heap of several circular lists. A heap shows
some sequences when the pointers from each head go through one of them, and no node is in two. Each
operation is one on sequences: it pushes, removes, substitutes or prepends in the lists that it is
given, and leaves the pointers of every other list alone.
-/

namespace Lcompat

namespace Links

variable {Node : Type} [DecidableEq Node]

/-- Store `next` of a node. -/
def setNext (links : Links Node) (node target : Node) : Links Node :=
  { links with next := Function.update links.next node (some target) }

/-- Store `prev` of a node. -/
def setPrev (links : Links Node) (node target : Node) : Links Node :=
  { links with prev := Function.update links.prev node (some target) }

/-- `list_empty`. -/
def listEmpty (links : Links Node) (head : Node) : Option Bool :=
  (links.next head).map fun next => next = head

/-- `list_add`. -/
def listAdd (links : Links Node) (node head : Node) : Option (Links Node) :=
  (links.next head).map fun next => links.rawListAdd node head next

/-- `list_replace`. -/
def listReplace (links : Links Node) (old node : Node) : Option (Links Node) := do
  let links := links.setNext node (← links.next old)
  let links := links.setPrev node (← links.prev old)
  let links := links.setPrev (← links.next node) node
  some (links.setNext (← links.prev node) node)

/-- `list_splice_init`. -/
def listSpliceInit (links : Links Node) (list head : Node) : Option (Links Node) := do
  if ← links.listEmpty list then
    some links
  else
    let links := links.setPrev (← links.next list) head
    let links := links.setNext (← links.prev list) (← links.next head)
    let links := links.setPrev (← links.next head) (← links.prev list)
    let links := links.setNext head (← links.next list)
    some (links.initListHead list)

/-- What the body of a loop does with its current node. -/
inductive Fate where
  /-- Leave it where it is. -/
  | keep
  /-- Call `list_del`. -/
  | del
  /-- Call `list_del_init`. -/
  | delInit
  deriving DecidableEq

/-- The body of a loop. -/
def loopBody (fate : Node → Fate) (links : Links Node) (pos : Node) : Option (Links Node) :=
  match fate pos with
  | .keep => some links
  | .del => links.listDel pos
  | .delInit => links.listDelInit pos

/-- The turns of `list_for_each_entry_safe`: the nodes that the body has been run for, and the
pointers behind the loop. -/
def safeTurns (fate : Node → Fate) (head : Node) :
    Nat → Links Node → Node → Node → Option (List Node × Links Node)
  | 0, _, _, _ => none
  | turns + 1, links, pos, n => do
    if pos = head then
      some ([], links)
    else
      let links ← loopBody fate links pos
      let rest ← safeTurns fate head turns links n (← links.next n)
      some (pos :: rest.1, rest.2)

/-- `list_for_each_entry_safe`, for at most some turns. -/
def listForEachEntrySafe (fate : Node → Fate) (turns : Nat) (links : Links Node) (head : Node) :
    Option (List Node × Links Node) := do
  let pos ← links.next head
  safeTurns fate head turns links pos (← links.next pos)

variable {links links' : Links Node} {head : Node} {nodes : List Node}

/-! ## Pointers -/

/-- The pointers of the nodes outside of some are the same. -/
def SameOutside (links links' : Links Node) (written : List Node) : Prop :=
  ∀ a, a ∉ written → links'.next a = links.next a ∧ links'.prev a = links.prev a

omit [DecidableEq Node] in
/-- Every node of a chain but the last has a next one, which points back. -/
theorem Linked.next_of_mem (linked : links.Linked nodes) {a : Node} (member : a ∈ nodes.dropLast) :
    ∃ b ∈ nodes.tail, links.next a = some b ∧ links.prev b = some a := by
  induction nodes with
  | nil => simp at member
  | cons first rest ih =>
    cases rest with
    | nil => simp at member
    | cons second rest =>
      obtain ⟨pair, linked⟩ := List.isChain_cons_cons.mp linked
      rcases List.mem_cons.mp member with rfl | later
      · exact ⟨second, List.mem_cons_self, pair⟩
      · obtain ⟨b, found, points⟩ := ih linked later
        exact ⟨b, List.mem_cons_of_mem second found, points⟩

omit [DecidableEq Node] in
/-- Every node of a chain but the first has a previous one, which points at it. -/
theorem Linked.prev_of_mem (linked : links.Linked nodes) {b : Node} (member : b ∈ nodes.tail) :
    ∃ a ∈ nodes.dropLast, links.prev b = some a ∧ links.next a = some b := by
  induction nodes with
  | nil => cases member
  | cons first rest ih =>
    cases rest with
    | nil => cases member
    | cons second rest =>
      obtain ⟨pair, linked⟩ := List.isChain_cons_cons.mp linked
      rcases List.mem_cons.mp member with rfl | later
      · exact ⟨first, List.mem_cons_self, pair.2, pair.1⟩
      · obtain ⟨a, found, points⟩ := ih linked later
        exact ⟨a, List.mem_cons_of_mem first found, points⟩

omit [DecidableEq Node] in
/-- `next` and `prev` are inverse to each other on a list. -/
theorem Circle.next_of_mem (circle : links.Circle head nodes) {a : Node}
    (member : a ∈ head :: nodes) :
    ∃ b ∈ head :: nodes, links.next a = some b ∧ links.prev b = some a := by
  have member : a ∈ (head :: nodes ++ [head]).dropLast := by
    rw [List.dropLast_concat]
    exact member
  obtain ⟨b, found, points⟩ := circle.linked.next_of_mem member
  exact ⟨b, by simpa [or_comm] using found, points⟩

omit [DecidableEq Node] in
/-- The other way round. -/
theorem Circle.prev_of_mem (circle : links.Circle head nodes) {b : Node}
    (member : b ∈ head :: nodes) :
    ∃ a ∈ head :: nodes, links.prev b = some a ∧ links.next a = some b := by
  have member : b ∈ (head :: nodes ++ [head]).tail := by simpa [or_comm] using member
  obtain ⟨a, found, points⟩ := circle.linked.prev_of_mem member
  rw [List.dropLast_concat] at found
  exact ⟨a, found, points⟩

omit [DecidableEq Node] in
/-- A list stays the same when its pointers do. -/
theorem Circle.congr (circle : links.Circle head nodes)
    (same : ∀ a ∈ head :: nodes, links'.next a = links.next a ∧ links'.prev a = links.prev a) :
    links'.Circle head nodes := by
  refine ⟨circle.linked.congr (fun a member => (same a ?_).1) fun b member => (same b ?_).2,
    circle.nodup⟩
  · rw [List.dropLast_concat] at member
    exact member
  · simpa [or_comm] using member

omit [DecidableEq Node] in
/-- More pointers may have been written. -/
theorem SameOutside.mono {written written' : List Node} (same : links.SameOutside links' written)
    (more : written ⊆ written') : links.SameOutside links' written' :=
  fun a outside => same a fun member => outside (more member)

/-- Adding a node writes its pointers and those of its neighbours. -/
theorem sameOutside_rawListAdd (links : Links Node) (node prev next : Node) :
    links.SameOutside (links.rawListAdd node prev next) [node, prev, next] := by
  intro a outside
  simp only [List.mem_cons, List.not_mem_nil, or_false, not_or] at outside
  simp [rawListAdd, outside]

/-- So does removing one. -/
theorem sameOutside_listDel {entry prev next : Node} (before : links.prev entry = some prev)
    (after : links.next entry = some next) (removed : links.listDel entry = some links') :
    links.SameOutside links' [entry, prev, next] := by
  rw [Links.listDel, before, Option.bind_some, after, Option.map_some] at removed
  obtain rfl := Option.some.inj removed
  intro a outside
  simp only [List.mem_cons, List.not_mem_nil, or_false, not_or] at outside
  simp [Links.initListHead, rawListDel, outside]

/-- `list_del_init` does what `list_del` does. -/
theorem listDelInit_eq (links : Links Node) (entry : Node) :
    links.listDelInit entry = links.listDel entry := by
  have twice (links : Links Node) :
      (links.initListHead entry).initListHead entry = links.initListHead entry := by
    simp [Links.initListHead]
  rw [Links.listDelInit, Links.listDel]
  cases links.prev entry with
  | none => rfl
  | some prev =>
    cases links.next entry with
    | none => rfl
    | some next => exact congrArg some (twice _)

/-! ## One list -/

/-- `list_add` pushes a node in front. -/
theorem Circle.listAdd {node : Node} (circle : links.Circle head nodes)
    (fresh : node ∉ head :: nodes) :
    ∃ links', links.listAdd node head = some links' ∧ links'.Circle head (node :: nodes) ∧
      links.SameOutside links' (node :: head :: nodes) := by
  obtain ⟨first, found, after, -⟩ := circle.next_of_mem List.mem_cons_self
  refine ⟨links.rawListAdd node head first, by rw [Links.listAdd, after, Option.map_some], ?_, ?_⟩
  · obtain ⟨first', rest, split⟩ : ∃ first rest, nodes ++ [head] = first :: rest :=
      List.exists_cons_of_ne_nil (by simp)
    have linked := circle.linked
    rw [List.cons_append, split] at linked
    obtain ⟨⟨forth, -⟩, behind⟩ := List.isChain_cons_cons.mp linked
    obtain rfl : first' = first := Option.some.inj (forth.symm.trans after)
    have headNew : head ≠ node := fun same => fresh (same ▸ List.mem_cons_self)
    have firstNew : first' ≠ node := fun same => fresh (same ▸ found)
    have distinct : (first' :: rest).Nodup := by
      rw [← split]
      exact (List.perm_append_singleton head nodes).nodup_iff.mpr circle.nodup
    refine ⟨?_, ?_⟩
    · rw [List.cons_append, List.cons_append, split]
      refine List.isChain_cons_cons.mpr ⟨⟨?_, ?_⟩, List.isChain_cons_cons.mpr ⟨⟨?_, ?_⟩,
        Linked.congr behind ?_ ?_⟩⟩
      · simp [rawListAdd]
      · simp [rawListAdd]
      · simp [rawListAdd, headNew.symm]
      · simp [rawListAdd, firstNew]
      · intro a member
        rw [← split, List.dropLast_concat] at member
        have notNew : a ≠ node := fun same => fresh (same ▸ List.mem_cons_of_mem head member)
        have notHead : a ≠ head := fun same =>
          (List.nodup_cons.mp circle.nodup).1 (same ▸ member)
        simp [rawListAdd, notNew, notHead]
      · intro b member
        rw [List.tail_cons] at member
        have notFirst : b ≠ first' := fun same => (List.nodup_cons.mp distinct).1 (same ▸ member)
        have there : b ∈ nodes ++ [head] := by
          rw [split]
          exact List.mem_cons_of_mem first' member
        have notNew : b ≠ node := by
          rintro rfl
          exact fresh (by simpa [or_comm] using there)
        simp [rawListAdd, notNew, notFirst]
    · rw [List.nodup_cons, List.nodup_cons]
      obtain ⟨apart, nodup⟩ := List.nodup_cons.mp circle.nodup
      refine ⟨fun member => ?_, fun member => fresh (List.mem_cons_of_mem head member), nodup⟩
      exact (List.mem_cons.mp member).elim headNew apart
  · refine (sameOutside_rawListAdd links node head first).mono ?_
    intro a member
    simp only [List.mem_cons, List.not_mem_nil, or_false] at member ⊢ found
    rcases member with rfl | rfl | rfl
    · exact .inl rfl
    · exact .inr (.inl rfl)
    · exact .inr found

/-- What `list_add_tail` writes. -/
theorem Circle.sameOutside_listAddTail {node : Node} (circle : links.Circle head nodes)
    (added : links.listAddTail node head = some links') :
    links.SameOutside links' (node :: head :: nodes) := by
  obtain ⟨prev, before, rfl⟩ := Option.map_eq_some_iff.mp added
  obtain ⟨last, found, back, -⟩ := circle.prev_of_mem List.mem_cons_self
  obtain rfl : prev = last := Option.some.inj (before.symm.trans back)
  refine (sameOutside_rawListAdd links node prev head).mono ?_
  intro a member
  simp only [List.mem_cons, List.not_mem_nil, or_false] at member ⊢ found
  rcases member with rfl | rfl | rfl
  · exact .inl rfl
  · exact .inr found
  · exact .inr (.inl rfl)

/-- `list_del` takes a node out. -/
theorem Circle.listDel {node : Node} (circle : links.Circle head nodes) (member : node ∈ nodes) :
    ∃ links', links.listDel node = some links' ∧ links'.Circle head (nodes.erase node) ∧
      links.SameOutside links' (head :: nodes) := by
  obtain ⟨links', removed, circle'⟩ := circle.listDelInit member
  rw [listDelInit_eq] at removed
  have here : node ∈ head :: nodes := List.mem_cons_of_mem head member
  obtain ⟨prev, left, before, -⟩ := circle.prev_of_mem here
  obtain ⟨next, right, after, -⟩ := circle.next_of_mem here
  refine ⟨links', removed, circle', (sameOutside_listDel before after removed).mono ?_⟩
  intro a member
  simp only [List.mem_cons, List.not_mem_nil, or_false] at member
  rcases member with rfl | rfl | rfl
  · exact here
  · exact left
  · exact right

/-- `list_replace` adds a node between the neighbours of another one. -/
theorem listReplace_eq {old node prev next : Node} (before : links.prev old = some prev)
    (after : links.next old = some next) (apart : next ≠ node) :
    links.listReplace old node = some (links.rawListAdd node prev next) := by
  have swapped : Function.update (Function.update links.prev node (some prev)) next (some node) =
      Function.update (Function.update links.prev next (some node)) node (some prev) :=
    Function.update_comm apart.symm _ _ _
  simp [Links.listReplace, setNext, setPrev, rawListAdd, before, after, apart.symm, swapped]

/-- `list_replace` puts a node in the place of another one. -/
theorem Circle.listReplace {old node : Node} (circle : links.Circle head nodes)
    (member : old ∈ nodes) (fresh : node ∉ head :: nodes) :
    ∃ links', links.listReplace old node = some links' ∧
      links'.Circle head (nodes.replace old node) ∧
      links.SameOutside links' (node :: head :: nodes) := by
  have here : old ∈ head :: nodes := List.mem_cons_of_mem head member
  obtain ⟨p, left, back, -⟩ := circle.prev_of_mem here
  obtain ⟨n, right, forth, -⟩ := circle.next_of_mem here
  have pNew : p ≠ node := fun same => fresh (same ▸ left)
  have nNew : n ≠ node := fun same => fresh (same ▸ right)
  refine ⟨_, listReplace_eq back forth nNew, ?_,
    (sameOutside_rawListAdd links node p n).mono ?_⟩
  · obtain ⟨before, after, rfl⟩ := List.append_of_mem member
    obtain ⟨init, p', split⟩ : ∃ init p, head :: before = init ++ [p] :=
      ⟨_, _, (List.dropLast_append_getLast (List.cons_ne_nil head before)).symm⟩
    obtain ⟨n', rest, split'⟩ : ∃ n rest, after ++ [head] = n :: rest :=
      List.exists_cons_of_ne_nil (by simp)
    have linked := circle.linked
    have list : head :: (before ++ old :: after) ++ [head] =
        init ++ p' :: old :: n' :: rest := by
      rw [← List.cons_append, split, List.append_assoc, List.cons_append, split']
      simp
    rw [list, Linked, List.isChain_append_cons_cons, List.isChain_cons_cons] at linked
    obtain ⟨front, ⟨-, back'⟩, ⟨forth', -⟩, behind⟩ := linked
    obtain rfl : p' = p := Option.some.inj (back'.symm.trans back)
    obtain rfl : n' = n := Option.some.inj (forth'.symm.trans forth)
    have nodup := circle.nodup
    rw [← List.cons_append, List.nodup_append] at nodup
    obtain ⟨leftNodup, rightNodup, apart⟩ := nodup
    have notBefore : old ∉ before := fun there =>
      apart old (List.mem_cons_of_mem head there) old List.mem_cons_self rfl
    rw [List.replace_append_right notBefore, List.replace_cons_self]
    have whole : ∀ a, a ∈ head :: before ∨ a ∈ after ++ [head] → a ≠ node := by
      rintro a inside rfl
      apply fresh
      rcases inside with inside | inside
      · rw [← List.cons_append]
        exact List.mem_append_left _ inside
      · rcases List.mem_append.mp inside with inside | inside
        · simp [inside]
        · rw [List.mem_singleton.mp inside]
          exact List.mem_cons_self
    have headAfter : head ∉ after := fun there =>
      apart head List.mem_cons_self head (List.mem_cons_of_mem old there) rfl
    have distinct : (n' :: rest).Nodup := by
      rw [← split', (List.perm_append_singleton head after).nodup_iff]
      exact List.nodup_cons.mpr ⟨headAfter, (List.nodup_cons.mp rightNodup).2⟩
    have inBefore : ∀ {a}, a ∈ init → a ∈ head :: before := fun there => by
      rw [split]
      exact List.mem_append_left _ there
    have atP : p' ∈ head :: before := by
      rw [split]
      exact List.mem_append_right _ (List.mem_singleton_self p')
    have inAfter : ∀ {a}, a ∈ n' :: rest → a ∈ after ++ [head] := fun there => split' ▸ there
    refine ⟨?_, ?_⟩
    · have list : head :: (before ++ node :: after) ++ [head] =
          init ++ p' :: node :: n' :: rest := by
        rw [← List.cons_append, split, List.append_assoc, List.cons_append, split']
        simp
      rw [list, Linked, List.isChain_append_cons_cons, List.isChain_cons_cons]
      refine ⟨Linked.congr front ?_ ?_, ⟨?_, ?_⟩, ⟨?_, ?_⟩, Linked.congr behind ?_ ?_⟩
      · intro a there
        rw [List.dropLast_concat] at there
        have notP : a ≠ p' := by
          rw [split, List.nodup_append] at leftNodup
          exact leftNodup.2.2 a there p' (List.mem_singleton_self p')
        have notNew : a ≠ node := whole a (.inl (inBefore there))
        simp [rawListAdd, notP, notNew]
      · intro b there
        rw [← split, List.tail_cons] at there
        have notNew : b ≠ node := whole b (.inl (List.mem_cons_of_mem head there))
        have notN : b ≠ n' := by
          rintro rfl
          rcases List.mem_append.mp (inAfter List.mem_cons_self) with later | first
          · exact apart b (List.mem_cons_of_mem head there) b (List.mem_cons_of_mem old later) rfl
          · rw [List.mem_singleton.mp first] at there
            exact (List.nodup_cons.mp leftNodup).1 there
        simp [rawListAdd, notNew, notN]
      · simp [rawListAdd]
      · simp [rawListAdd]
      · simp [rawListAdd, pNew.symm]
      · simp [rawListAdd, nNew]
      · intro a there
        rw [← split', List.dropLast_concat] at there
        have notP : a ≠ p' := fun same =>
          apart p' atP a (List.mem_cons_of_mem old there) same.symm
        have notNew : a ≠ node := whole a (.inr (List.mem_append_left _ there))
        simp [rawListAdd, notP, notNew]
      · intro b there
        rw [List.tail_cons] at there
        have notN : b ≠ n' := fun same => (List.nodup_cons.mp distinct).1 (same ▸ there)
        have notNew : b ≠ node := whole b (.inr (inAfter (List.mem_cons_of_mem n' there)))
        simp [rawListAdd, notN, notNew]
    · rw [← List.cons_append, List.nodup_append]
      refine ⟨leftNodup, List.nodup_cons.mpr ⟨fun there => ?_, (List.nodup_cons.mp rightNodup).2⟩,
        fun a there b here => ?_⟩
      · exact whole node (.inr (List.mem_append_left _ there)) rfl
      · rcases List.mem_cons.mp here with rfl | later
        · exact whole a (.inl there)
        · exact apart a there b (List.mem_cons_of_mem old later)
  · intro a there
    simp only [List.mem_cons, List.not_mem_nil, or_false] at there left right ⊢
    rcases there with rfl | rfl | rfl
    · exact .inl rfl
    · exact .inr left
    · exact .inr right

/-! ## Two lists -/

/-- `list_splice_init` leaves an empty list as it is. -/
theorem listSpliceInit_of_empty {list : Node} (empty : links.next list = some list)
    (head : Node) : links.listSpliceInit list head = some links := by
  simp [Links.listSpliceInit, listEmpty, empty]

/-- `list_splice_init` puts what is in one list between the head of another one and the first node
there. -/
theorem listSpliceInit_eq {list head first last next : Node} (after : links.next list = some first)
    (before : links.prev list = some last) (onto : links.next head = some next)
    (filled : first ≠ list) (lastList : last ≠ list) (lastHead : last ≠ head) :
    links.listSpliceInit list head = some
      (Links.initListHead ⟨Function.update (Function.update links.next last (some next)) head
        (some first), Function.update (Function.update links.prev first (some head)) next
          (some last)⟩ list) := by
  simp [Links.listSpliceInit, listEmpty, setNext, setPrev, after, before, onto, filled,
    filled.symm, lastList.symm, lastHead.symm]

/-- `list_splice_init` prepends one list to another one and leaves the first one empty. -/
theorem Circle.listSpliceInit {list : Node} {source : List Node} (from_ : links.Circle list source)
    (onto : links.Circle head nodes) (apart : ∀ a ∈ list :: source, a ∉ head :: nodes) :
    ∃ links', links.listSpliceInit list head = some links' ∧ links'.Circle list [] ∧
      links'.Circle head (source ++ nodes) ∧
      links.SameOutside links' (list :: source ++ head :: nodes) := by
  cases source with
  | nil =>
    have empty : links.next list = some list := (List.isChain_pair.mp from_.linked).1
    exact ⟨links, listSpliceInit_of_empty empty head, from_, onto, fun _ _ => ⟨rfl, rfl⟩⟩
  | cons first source =>
    obtain ⟨next, rest, split⟩ : ∃ next rest, nodes ++ [head] = next :: rest :=
      List.exists_cons_of_ne_nil (by simp)
    obtain ⟨init, last, split'⟩ : ∃ init last, first :: source = init ++ [last] :=
      ⟨_, _, (List.dropLast_append_getLast (List.cons_ne_nil first source)).symm⟩
    -- the pointers between the two lists and around them
    have linked := onto.linked
    rw [List.cons_append, split] at linked
    obtain ⟨⟨forth, -⟩, behind⟩ := List.isChain_cons_cons.mp linked
    have inner : links.Linked (list :: (first :: source ++ [list])) := from_.linked
    rw [split', List.append_assoc, List.singleton_append, ← List.cons_append] at inner
    obtain ⟨inner, ⟨-, back⟩, -⟩ := List.isChain_append_cons_cons.mp inner
    rw [List.cons_append, ← split'] at inner
    obtain ⟨⟨forth', -⟩, inner⟩ := List.isChain_cons_cons.mp inner
    -- the nodes are all different
    obtain ⟨notSource, sourceNodup⟩ := List.nodup_cons.mp from_.nodup
    have turned : (nodes ++ [head]).Perm (head :: nodes) := List.perm_append_singleton head nodes
    have distinct : (next :: rest).Nodup := by
      rw [← split]
      exact turned.nodup_iff.mpr onto.nodup
    have inOnto : ∀ {a}, a ∈ next :: rest → a ∈ head :: nodes := fun there =>
      turned.mem_iff.mp (split ▸ there)
    have atHead : head ∈ head :: nodes := List.mem_cons_self
    have atNext : next ∈ head :: nodes := inOnto List.mem_cons_self
    have atLast : last ∈ first :: source := by
      rw [split']
      exact List.mem_append_right _ (List.mem_singleton_self last)
    have differs : ∀ {a b}, a ∈ list :: first :: source → b ∈ head :: nodes → a ≠ b := by
      rintro a b here there rfl
      exact apart a here there
    have notList : ∀ {a}, a ∈ first :: source → a ≠ list := by
      rintro a there rfl
      exact notSource there
    have inFrom : ∀ {a}, a ∈ first :: source → a ∈ list :: first :: source := fun there =>
      List.mem_cons_of_mem list there
    have result := listSpliceInit_eq forth' back forth (notList List.mem_cons_self)
      (notList atLast) (differs (inFrom atLast) List.mem_cons_self)
    refine ⟨_, result, circle_initListHead _ list, ⟨?_, ?_⟩, ?_⟩
    · have list : head :: (first :: source ++ nodes) ++ [head] =
          (head :: init) ++ last :: next :: rest := by
        rw [split', ← split]
        simp
      rw [list, Linked, List.isChain_append_cons_cons, List.cons_append, ← split',
        List.isChain_cons_cons]
      refine ⟨⟨⟨?_, ?_⟩, Linked.congr inner ?_ ?_⟩, ⟨?_, ?_⟩, Linked.congr behind ?_ ?_⟩
      · have notHere := differs List.mem_cons_self atHead
        simp [Links.initListHead, notHere.symm]
      · have notNext := differs (inFrom List.mem_cons_self) atNext
        simp [Links.initListHead, notNext, notList List.mem_cons_self]
      · intro a there
        have inSource : a ∈ first :: source := List.mem_of_mem_dropLast there
        have notLast : a ≠ last := by
          rw [split', List.dropLast_concat] at there
          rw [split', List.nodup_append] at sourceNodup
          exact sourceNodup.2.2 a there last (List.mem_singleton_self last)
        have notHead := differs (inFrom inSource) atHead
        simp [Links.initListHead, notLast, notHead, notList inSource]
      · intro b there
        have inSource : b ∈ first :: source := List.mem_cons_of_mem first there
        have notFirst : b ≠ first := fun same =>
          (List.nodup_cons.mp sourceNodup).1 (same ▸ there)
        have notNext := differs (inFrom inSource) atNext
        simp [Links.initListHead, notFirst, notNext, notList inSource]
      · have notHead := differs (inFrom atLast) atHead
        simp [Links.initListHead, notHead, notList atLast]
      · have notHere := differs List.mem_cons_self atNext
        simp [Links.initListHead, notHere.symm]
      · intro a there
        rw [← split, List.dropLast_concat] at there
        have inNodes : a ∈ head :: nodes := List.mem_cons_of_mem head there
        have notHead : a ≠ head := fun same => (List.nodup_cons.mp onto.nodup).1 (same ▸ there)
        have notLast := differs (inFrom atLast) inNodes
        have notHere := differs List.mem_cons_self inNodes
        simp [Links.initListHead, notHead, notLast.symm, notHere.symm]
      · intro b there
        rw [List.tail_cons] at there
        have inNodes : b ∈ head :: nodes := inOnto (List.mem_cons_of_mem next there)
        have notNext : b ≠ next := fun same => (List.nodup_cons.mp distinct).1 (same ▸ there)
        have notFirst := differs (inFrom List.mem_cons_self) inNodes
        have notHere := differs List.mem_cons_self inNodes
        simp [Links.initListHead, notNext, notFirst.symm, notHere.symm]
    · rw [List.nodup_cons, List.nodup_append]
      obtain ⟨notNodes, nodup⟩ := List.nodup_cons.mp onto.nodup
      refine ⟨fun there => ?_, sourceNodup, nodup, fun a here b there => ?_⟩
      · rcases List.mem_append.mp there with there | there
        · exact differs (inFrom there) List.mem_cons_self rfl
        · exact notNodes there
      · exact differs (inFrom here) (List.mem_cons_of_mem head there)
    · intro a outside
      have notIn : ∀ {b}, b ∈ list :: first :: source ∨ b ∈ head :: nodes → a ≠ b := by
        rintro b inside rfl
        exact outside (List.mem_append.mpr inside)
      have atList := notIn (.inl List.mem_cons_self)
      have atFirst := notIn (.inl (inFrom List.mem_cons_self))
      have atLast := notIn (.inl (inFrom atLast))
      have atHead := notIn (.inr List.mem_cons_self)
      have atNext := notIn (.inr atNext)
      simp [Links.initListHead, atList, atFirst, atLast, atHead, atNext]

/-! ## A heap -/

/-- The sequences of a heap, under their heads. -/
abbrev Lists (Node : Type) := Node → Option (List Node)

/-- No node is in two lists, as their head or a member. -/
def Apart (lists : Lists Node) : Prop :=
  ∀ head nodes head' nodes' a, lists head = some nodes → lists head' = some nodes' →
    a ∈ head :: nodes → a ∈ head' :: nodes' → head = head'

/-- A node is in no list. -/
def Fresh (lists : Lists Node) (node : Node) : Prop :=
  ∀ head nodes, lists head = some nodes → node ∉ head :: nodes

/-- A heap shows some sequences: they are its circular lists, and disjoint. -/
structure Shows (links : Links Node) (lists : Lists Node) : Prop where
  /-- The pointers go through each sequence. -/
  circles : ∀ head nodes, lists head = some nodes → links.Circle head nodes
  /-- The sequences are disjoint. -/
  apart : Apart lists

/-- An operation on the lists of a heap. -/
inductive ListOp (Node : Type) where
  /-- `list_add`. -/
  | add (node head : Node)
  /-- `list_add_tail`. -/
  | addTail (node head : Node)
  /-- `list_del`. -/
  | del (entry : Node)
  /-- `list_del_init`. -/
  | delInit (entry : Node)
  /-- `list_replace`. -/
  | replace (old node : Node)
  /-- `list_splice_init`. -/
  | spliceInit (list head : Node)
  deriving DecidableEq

/-- What an operation does to the pointers. -/
def ListOp.exec (links : Links Node) : ListOp Node → Option (Links Node)
  | .add node head => links.listAdd node head
  | .addTail node head => links.listAddTail node head
  | .del entry => links.listDel entry
  | .delInit entry => links.listDelInit entry
  | .replace old node => links.listReplace old node
  | .spliceInit list head => links.listSpliceInit list head

/-- What an operation does to the sequences, and what it is called for: a fresh node is added or
put in the place of a member, a member is removed, and one list is prepended to another one. -/
inductive ListOp.Moves (lists : Lists Node) : ListOp Node → Lists Node → Prop where
  /-- Push in front. -/
  | add {node head : Node} {nodes : List Node} (found : lists head = some nodes)
    (fresh : Fresh lists node) :
    Moves lists (.add node head) (Function.update lists head (some (node :: nodes)))
  /-- Push behind. -/
  | addTail {node head : Node} {nodes : List Node} (found : lists head = some nodes)
    (fresh : Fresh lists node) :
    Moves lists (.addTail node head) (Function.update lists head (some (nodes ++ [node])))
  /-- Remove. -/
  | del {entry head : Node} {nodes : List Node} (found : lists head = some nodes)
    (member : entry ∈ nodes) :
    Moves lists (.del entry) (Function.update lists head (some (nodes.erase entry)))
  /-- Remove. -/
  | delInit {entry head : Node} {nodes : List Node} (found : lists head = some nodes)
    (member : entry ∈ nodes) :
    Moves lists (.delInit entry) (Function.update lists head (some (nodes.erase entry)))
  /-- Substitute. -/
  | replace {old node head : Node} {nodes : List Node} (found : lists head = some nodes)
    (member : old ∈ nodes) (fresh : Fresh lists node) :
    Moves lists (.replace old node) (Function.update lists head (some (nodes.replace old node)))
  /-- Prepend one list to another, and empty it. -/
  | spliceInit {list head : Node} {source nodes : List Node} (given : lists list = some source)
    (found : lists head = some nodes) (different : list ≠ head) :
    Moves lists (.spliceInit list head)
      (Function.update (Function.update lists list (some [])) head (some (source ++ nodes)))

/-- The pointers of the lists that an operation leaves as they are have not changed. -/
def Unchanged (links links' : Links Node) (lists lists' : Lists Node) : Prop :=
  ∀ head nodes, lists head = some nodes → lists' head = some nodes →
    ∀ a ∈ head :: nodes, links'.next a = links.next a ∧ links'.prev a = links.prev a

variable {lists lists' : Lists Node}

/-- Lists stay disjoint when one of them takes up fresh nodes only. -/
theorem Apart.update (apart : Apart lists) (found : lists head = some nodes)
    {nodes' : List Node} (members : ∀ a ∈ nodes', a ∈ nodes ∨ Fresh lists a) :
    Apart (Function.update lists head (some nodes')) := by
  have before : ∀ {head' nodes'' a}, Function.update lists head (some nodes') head' = some nodes'' →
      a ∈ head' :: nodes'' → (∃ nodes, lists head' = some nodes ∧ a ∈ head' :: nodes) ∨
        (head' = head ∧ Fresh lists a) := by
    intro head' nodes'' a found' member
    by_cases same : head' = head
    · subst same
      rw [Function.update_self] at found'
      obtain rfl := Option.some.inj found'
      rcases List.mem_cons.mp member with rfl | member
      · exact .inl ⟨nodes, found, List.mem_cons_self⟩
      · rcases members a member with old | fresh
        · exact .inl ⟨nodes, found, List.mem_cons_of_mem _ old⟩
        · exact .inr ⟨rfl, fresh⟩
    · rw [Function.update_of_ne same] at found'
      exact .inl ⟨nodes'', found', member⟩
  intro head₁ nodes₁ head₂ nodes₂ a found₁ found₂ member₁ member₂
  rcases before found₁ member₁ with ⟨old₁, here₁, there₁⟩ | ⟨rfl, fresh₁⟩
  · rcases before found₂ member₂ with ⟨old₂, here₂, there₂⟩ | ⟨rfl, fresh₂⟩
    · exact apart head₁ old₁ head₂ old₂ a here₁ here₂ there₁ there₂
    · exact absurd there₁ (fresh₂ head₁ old₁ here₁)
  · rcases before found₂ member₂ with ⟨old₂, here₂, there₂⟩ | ⟨rfl, fresh₂⟩
    · exact absurd there₂ (fresh₁ head₂ old₂ here₂)
    · rfl

/-- An operation on one list shows what it does to its sequence, and leaves the others alone. -/
theorem Shows.update (shows_ : links.Shows lists) (found : lists head = some nodes)
    {nodes' written : List Node} (circle : links'.Circle head nodes')
    (same : links.SameOutside links' written)
    (inside : ∀ a ∈ written, a ∈ head :: nodes ∨ Fresh lists a)
    (members : ∀ a ∈ nodes', a ∈ nodes ∨ Fresh lists a) (moved : nodes' ≠ nodes) :
    links'.Shows (Function.update lists head (some nodes')) ∧
      Unchanged links links' lists (Function.update lists head (some nodes')) := by
  have others : ∀ head' nodes'', head' ≠ head → lists head' = some nodes'' →
      ∀ a ∈ head' :: nodes'', links'.next a = links.next a ∧ links'.prev a = links.prev a := by
    intro head' nodes'' different found' a member
    apply same
    intro wrote
    rcases inside a wrote with here | fresh
    · exact different (shows_.apart head' nodes'' head nodes a found' found member here)
    · exact fresh head' nodes'' found' member
  refine ⟨⟨fun head' nodes'' found' => ?_, shows_.apart.update found members⟩, ?_⟩
  · by_cases here : head' = head
    · subst here
      rw [Function.update_self] at found'
      obtain rfl := Option.some.inj found'
      exact circle
    · rw [Function.update_of_ne here] at found'
      exact (shows_.circles head' nodes'' found').congr (others head' nodes'' here found')
  · intro head' nodes'' found' found''
    by_cases here : head' = head
    · subst here
      rw [Function.update_self] at found''
      have kept := (Option.some.inj found'').trans (Option.some.inj (found'.symm.trans found))
      exact absurd kept moved
    · exact others head' nodes'' here found'

/-- `list_splice_init` between two lists of a heap. -/
theorem Shows.listSpliceInit {list : Node} {source : List Node} (shows_ : links.Shows lists)
    (given : lists list = some source) (found : lists head = some nodes)
    (different : list ≠ head) :
    ∃ links', links.listSpliceInit list head = some links' ∧
      links'.Shows
        (Function.update (Function.update lists list (some [])) head (some (source ++ nodes))) ∧
      Unchanged links links' lists
        (Function.update (Function.update lists list (some [])) head
          (some (source ++ nodes))) := by
  have apart : ∀ a ∈ list :: source, a ∉ head :: nodes := fun a here there =>
    different (shows_.apart list source head nodes a given found here there)
  obtain ⟨links', spliced, emptied, circle, same⟩ :=
    (shows_.circles list source given).listSpliceInit (shows_.circles head nodes found) apart
  have others : ∀ head' nodes', head' ≠ head → head' ≠ list → lists head' = some nodes' →
      ∀ a ∈ head' :: nodes', links'.next a = links.next a ∧ links'.prev a = links.prev a := by
    intro head' nodes' notHead notList found' a member
    apply same
    intro wrote
    rcases List.mem_append.mp wrote with here | here
    · exact notList (shows_.apart head' nodes' list source a found' given member here)
    · exact notHead (shows_.apart head' nodes' head nodes a found' found member here)
  have found' : Function.update lists list (some []) head = some nodes := by
    rw [Function.update_of_ne different.symm]
    exact found
  have fresh : ∀ a ∈ source, Fresh (Function.update lists list (some [])) a := by
    intro a member head' nodes' there inside
    by_cases same : head' = list
    · subst same
      rw [Function.update_self] at there
      obtain rfl := Option.some.inj there
      rw [List.mem_singleton] at inside
      exact (List.nodup_cons.mp (shows_.circles head' source given).nodup).1 (inside ▸ member)
    · rw [Function.update_of_ne same] at there
      exact same (shows_.apart head' nodes' list source a there given inside
        (List.mem_cons_of_mem list member))
  refine ⟨links', spliced, ⟨fun head' nodes' there => ?_, ?_⟩, ?_⟩
  · by_cases notHead : head' = head
    · subst notHead
      rw [Function.update_self] at there
      obtain rfl := Option.some.inj there
      exact circle
    · rw [Function.update_of_ne notHead] at there
      by_cases notList : head' = list
      · subst notList
        rw [Function.update_self] at there
        obtain rfl := Option.some.inj there
        exact emptied
      · rw [Function.update_of_ne notList] at there
        exact (shows_.circles head' nodes' there).congr (others head' nodes' notHead notList there)
  · refine Apart.update (shows_.apart.update given fun a member => by cases member) found' ?_
    intro a member
    rcases List.mem_append.mp member with here | here
    · exact .inr (fresh a here)
    · exact .inl here
  · intro head' nodes' there there' a member
    by_cases nothing : source = []
    · subst nothing
      have empty := (List.isChain_pair.mp (shows_.circles list [] given).linked).1
      obtain rfl := Option.some.inj (spliced.symm.trans (listSpliceInit_of_empty empty head))
      exact ⟨rfl, rfl⟩
    · refine others head' nodes' ?_ ?_ there a member
      · rintro rfl
        rw [Function.update_self] at there'
        have longer := Option.some.inj (there'.trans (there.symm.trans found))
        exact nothing (List.append_left_eq_self.mp longer)
      · rintro rfl
        rw [Function.update_of_ne different, Function.update_self] at there'
        exact nothing (Option.some.inj (given.symm.trans (there.trans there'.symm)))

/-- `list_del` of a member of a list of a heap. -/
theorem Shows.listDel {entry : Node} (shows_ : links.Shows lists) (found : lists head = some nodes)
    (member : entry ∈ nodes) :
    ∃ links', links.listDel entry = some links' ∧
      links'.Shows (Function.update lists head (some (nodes.erase entry))) ∧
      Unchanged links links' lists (Function.update lists head (some (nodes.erase entry))) := by
  obtain ⟨links', removed, circle, same⟩ := (shows_.circles head nodes found).listDel member
  refine ⟨links', removed, shows_.update found circle same (fun a here => .inl here)
    (fun a here => .inl (List.mem_of_mem_erase here)) fun kept => ?_⟩
  have shorter := List.length_erase_of_mem member
  have filled := List.length_pos_of_mem member
  rw [kept] at shorter
  omega

/-- `list_replace` of a member of a list of a heap. -/
theorem Shows.listReplace {old node : Node} (shows_ : links.Shows lists)
    (found : lists head = some nodes) (member : old ∈ nodes) (fresh : Fresh lists node) :
    ∃ links', links.listReplace old node = some links' ∧
      links'.Shows (Function.update lists head (some (nodes.replace old node))) ∧
      Unchanged links links' lists
        (Function.update lists head (some (nodes.replace old node))) := by
  obtain ⟨links', replaced, circle, same⟩ :=
    (shows_.circles head nodes found).listReplace member (fresh head nodes found)
  have notHere : node ∉ nodes := fun here =>
    fresh head nodes found (List.mem_cons_of_mem head here)
  obtain ⟨before, after, split, notBefore⟩ := List.eq_append_cons_of_mem member
  have result : nodes.replace old node = before ++ node :: after := by
    rw [split, List.replace_append_right notBefore, List.replace_cons_self]
  refine ⟨links', replaced, shows_.update found circle same ?_ ?_ ?_⟩
  · intro a here
    exact (List.mem_cons.mp here).elim (fun new => .inr (new ▸ fresh)) .inl
  · intro a here
    rw [result, List.mem_append, List.mem_cons] at here
    rcases here with here | rfl | here
    · exact .inl (split ▸ List.mem_append_left _ here)
    · exact .inr fresh
    · exact .inl (split ▸ List.mem_append_right _ (List.mem_cons_of_mem old here))
  · intro kept
    rw [result] at kept
    exact notHere (kept ▸ List.mem_append_right _ List.mem_cons_self)

/-- Every operation does to the pointers what it does to the sequences. -/
theorem Shows.exec {op : ListOp Node} (shows_ : links.Shows lists) (moved : op.Moves lists lists') :
    ∃ links', op.exec links = some links' ∧ links'.Shows lists' ∧
      Unchanged links links' lists lists' := by
  cases moved with
  | @add node head nodes found fresh =>
    obtain ⟨links', added, circle, same⟩ :=
      (shows_.circles head nodes found).listAdd (fresh head nodes found)
    refine ⟨links', added, shows_.update found circle same ?_ ?_ (List.cons_ne_self node nodes)⟩
    · intro a member
      exact (List.mem_cons.mp member).elim (fun new => .inr (new ▸ fresh)) .inl
    · intro a member
      exact (List.mem_cons.mp member).elim (fun new => .inr (new ▸ fresh)) .inl
  | @addTail node head nodes found fresh =>
    have circle := shows_.circles head nodes found
    obtain ⟨links', added, circle'⟩ := circle.listAddTail (fresh head nodes found)
    refine ⟨links', added, shows_.update found circle' (circle.sameOutside_listAddTail added)
      ?_ ?_ (by simp)⟩
    · intro a member
      exact (List.mem_cons.mp member).elim (fun new => .inr (new ▸ fresh)) .inl
    · intro a member
      rcases List.mem_append.mp member with old | new
      · exact .inl old
      · exact .inr (List.mem_singleton.mp new ▸ fresh)
  | del found member => exact shows_.listDel found member
  | @delInit entry head nodes found member =>
    rw [ListOp.exec, listDelInit_eq]
    exact shows_.listDel found member
  | replace found member fresh => exact shows_.listReplace found member fresh
  | spliceInit given found different => exact shows_.listSpliceInit given found different

/-! ## Going through a list -/

/-- What the body of a loop leaves of a list. -/
def left (fate : Node → Fate) (nodes : List Node) : List Node :=
  nodes.filter fun node => fate node = .keep

omit [DecidableEq Node] in
/-- A node is followed by the first of those behind it. -/
theorem Circle.next_of_append {node next : Node} {kept rest behind : List Node}
    (circle : links.Circle head (kept ++ node :: rest))
    (split : rest ++ [head] = next :: behind) : links.next node = some next := by
  have linked := circle.linked
  have list : head :: (kept ++ node :: rest) ++ [head] =
      (head :: kept) ++ node :: next :: behind := by
    rw [← split]
    simp
  rw [list, Linked, List.isChain_append_cons_cons] at linked
  exact linked.2.1.1

/-- The body of the loop takes its node out of the list or leaves it in. -/
theorem Shows.loopBody {kept rest : List Node} {pos : Node} (shows_ : links.Shows lists)
    (found : lists head = some (kept ++ pos :: rest)) (fate : Node → Fate) :
    ∃ links', links.loopBody fate pos = some links' ∧
      links'.Shows (Function.update lists head (some (kept ++ left fate [pos] ++ rest))) := by
  have member : pos ∈ kept ++ pos :: rest := List.mem_append_right _ List.mem_cons_self
  have nodup := (List.nodup_cons.mp (shows_.circles head _ found).nodup).2
  have notKept : pos ∉ kept := fun here =>
    (List.nodup_append.mp nodup).2.2 pos here pos List.mem_cons_self rfl
  have erased : (kept ++ pos :: rest).erase pos = kept ++ rest := by
    rw [List.erase_append_right _ notKept, List.erase_cons_head]
  obtain ⟨links', removed, shows', -⟩ := shows_.listDel found member
  rw [erased] at shows'
  cases chosen : fate pos with
  | keep =>
    have same : Function.update lists head (some (kept ++ left fate [pos] ++ rest)) = lists := by
      rw [Function.update_eq_self_iff, found]
      simp [left, chosen]
    rw [same]
    exact ⟨links, by rw [Links.loopBody, chosen], shows_⟩
  | del =>
    refine ⟨links', by rw [Links.loopBody, chosen]; exact removed, ?_⟩
    simpa [left, chosen] using shows'
  | delInit =>
    refine ⟨links', by rw [Links.loopBody, chosen]; exact (listDelInit_eq links pos).trans removed,
      ?_⟩
    simpa [left, chosen] using shows'

/-- The turns of the loop go through what is left of the list. -/
theorem safeTurns_visits (fate : Node → Fate) (kept : List Node) {pos next : Node}
    {rest behind : List Node} {turns : Nat} (shows_ : links.Shows lists)
    (found : lists head = some (kept ++ rest)) (at_ : rest ++ [head] = pos :: behind)
    (after : links.next pos = some next) (enough : rest.length < turns) :
    ∃ links', safeTurns fate head turns links pos next = some (rest, links') ∧
      links'.Shows (Function.update lists head (some (kept ++ left fate rest))) := by
  induction rest generalizing turns links lists kept pos next behind with
  | nil =>
    obtain ⟨turns, rfl⟩ : ∃ more, turns = more + 1 := ⟨turns - 1, by omega⟩
    obtain rfl : head = pos := (List.cons.inj at_).1
    refine ⟨links, by rw [safeTurns, if_pos rfl], ?_⟩
    have same : Function.update lists head (some (kept ++ left fate [])) = lists := by
      rw [Function.update_eq_self_iff, found]
      rfl
    rw [same]
    exact shows_
  | cons node rest ih =>
    obtain ⟨turns, rfl⟩ : ∃ more, turns = more + 1 := ⟨turns - 1, by omega⟩
    obtain ⟨rfl, behind'⟩ := List.cons.inj at_
    obtain ⟨next', behind'', split⟩ : ∃ next behind, rest ++ [head] = next :: behind :=
      List.exists_cons_of_ne_nil (by simp)
    have circle := shows_.circles head _ found
    obtain rfl : next = next' :=
      Option.some.inj (after.symm.trans (circle.next_of_append split))
    have notHead : node ≠ head := by
      rintro rfl
      exact (List.nodup_cons.mp circle.nodup).1 (List.mem_append_right _ List.mem_cons_self)
    obtain ⟨links₁, ran, shows₁⟩ := shows_.loopBody found fate
    have found₁ : Function.update lists head (some (kept ++ left fate [node] ++ rest)) head =
        some ((kept ++ left fate [node]) ++ rest) := Function.update_self ..
    have circle₁ := shows₁.circles head _ found₁
    have there : next ∈ head :: (kept ++ left fate [node] ++ rest) := by
      have first : next ∈ rest ++ [head] := by
        rw [split]
        exact List.mem_cons_self
      rcases List.mem_append.mp first with here | here
      · exact List.mem_cons_of_mem head (List.mem_append_right _ here)
      · rw [List.mem_singleton.mp here]
        exact List.mem_cons_self
    obtain ⟨next₁, -, after₁, -⟩ := circle₁.next_of_mem there
    have fewer : rest.length < turns := Nat.lt_of_succ_lt_succ enough
    obtain ⟨links', visited, shows'⟩ := ih _ shows₁ found₁ split after₁ fewer
    refine ⟨links', ?_, ?_⟩
    · rw [safeTurns, if_neg notHead, ran]
      simp [after₁, visited]
    · rw [Function.update_idem] at shows'
      have filtered : left fate (node :: rest) = left fate [node] ++ left fate rest := by
        rw [left, left, left, ← List.filter_append, List.singleton_append]
      rw [filtered, ← List.append_assoc]
      exact shows'

/-- `list_for_each_entry_safe` runs its body for each node of a list once, in order. -/
theorem Shows.listForEachEntrySafe (shows_ : links.Shows lists) (found : lists head = some nodes)
    (fate : Node → Fate) {turns : Nat} (enough : nodes.length < turns) :
    ∃ links', links.listForEachEntrySafe fate turns head = some (nodes, links') ∧
      links'.Shows (Function.update lists head (some (left fate nodes))) := by
  have circle := shows_.circles head nodes found
  obtain ⟨pos, behind, split⟩ : ∃ pos behind, nodes ++ [head] = pos :: behind :=
    List.exists_cons_of_ne_nil (by simp)
  have linked := circle.linked
  rw [List.cons_append, split] at linked
  have first : links.next head = some pos := (List.isChain_cons_cons.mp linked).1.1
  have there : pos ∈ head :: nodes := by
    have here : pos ∈ nodes ++ [head] := by
      rw [split]
      exact List.mem_cons_self
    simpa [or_comm] using here
  obtain ⟨next, -, after, -⟩ := circle.next_of_mem there
  obtain ⟨links', visited, shows'⟩ :=
    safeTurns_visits fate [] shows_ found split after enough
  refine ⟨links', ?_, shows'⟩
  rw [Links.listForEachEntrySafe, first]
  simp [after, visited]

/-! ## Sequences of operations -/

/-- Operations one behind the other. -/
def execAll (links : Links Node) : List (ListOp Node) → Option (Links Node)
  | [] => some links
  | op :: ops => (op.exec links).bind fun links => execAll links ops

/-- What they do to the sequences. -/
inductive Runs : Lists Node → List (ListOp Node) → Lists Node → Prop where
  /-- No operation. -/
  | nil (lists : Lists Node) : Runs lists [] lists
  /-- One more in front. -/
  | cons {lists lists' lists'' : Lists Node} {op : ListOp Node} {ops : List (ListOp Node)}
    (moved : op.Moves lists lists') (rest : Runs lists' ops lists'') :
    Runs lists (op :: ops) lists''

/-- What a heap promises for the sequences that it shows. -/
structure Faithful (links : Links Node) (lists : Lists Node) : Prop where
  /-- It shows them. -/
  shows_ : links.Shows lists
  /-- Each pointer of a node in a list is undone by the other pointer of the node it leads to. -/
  inverse : ∀ head nodes, lists head = some nodes → ∀ a ∈ head :: nodes,
    (∃ b ∈ head :: nodes, links.next a = some b ∧ links.prev b = some a) ∧
      ∃ b ∈ head :: nodes, links.prev a = some b ∧ links.next b = some a
  /-- Each operation does to it what it does to the sequences, and leaves other lists alone. -/
  refines : ∀ op lists', ListOp.Moves lists op lists' →
    ∃ links', op.exec links = some links' ∧ links'.Shows lists' ∧
      Unchanged links links' lists lists'
  /-- A loop goes through each list, although its body takes nodes out. -/
  visits : ∀ head nodes, lists head = some nodes → ∀ fate turns, nodes.length < turns →
    ∃ links', links.listForEachEntrySafe fate turns head = some (nodes, links') ∧
      links'.Shows (Function.update lists head (some (left fate nodes)))

/-- Every heap keeps its promises. -/
theorem Shows.faithful (shows_ : links.Shows lists) : links.Faithful lists where
  shows_ := shows_
  inverse head nodes found _ member :=
    ⟨(shows_.circles head nodes found).next_of_mem member,
      (shows_.circles head nodes found).prev_of_mem member⟩
  refines _ _ moved := shows_.exec moved
  visits _ _ found fate _ enough := shows_.listForEachEntrySafe found fate enough

/-- After every sequence of operations the heap shows what they do to the sequences, and keeps its
promises. -/
theorem lists_refine {links : Links Node} {lists lists' : Lists Node} {ops : List (ListOp Node)}
    (shows_ : links.Shows lists) (ran : Runs lists ops lists') :
    ∃ links', links.execAll ops = some links' ∧ links'.Faithful lists' := by
  induction ran generalizing links with
  | nil lists => exact ⟨links, rfl, shows_.faithful⟩
  | cons moved rest ih =>
    obtain ⟨links₁, executed, shows₁, -⟩ := shows_.exec moved
    obtain ⟨links', executed', faithful⟩ := ih shows₁
    exact ⟨links', by rw [execAll, executed]; exact executed', faithful⟩

/-- Two heads, 0 and 1, that have been initialised. -/
def twoHeads : Links Nat where
  next a := if a < 2 then some a else none
  prev a := if a < 2 then some a else none

/-- Two empty lists. -/
def twoLists : Lists Nat := fun head => if head < 2 then some [] else none

/-- A node is added to one of two empty lists, and that list is prepended to the other one. -/
theorem twoLists_refine : ∃ links', twoHeads.execAll [.add 2 0, .spliceInit 0 1] = some links' ∧
    links'.Faithful (Function.update (Function.update (Function.update twoLists 0 (some [2])) 0
      (some [])) 1 (some [2])) := by
  have shows_ : twoHeads.Shows twoLists := by
    constructor
    · intro head nodes found
      obtain ⟨small, rfl⟩ : head < 2 ∧ nodes = [] := by simpa [twoLists, eq_comm] using found
      exact ⟨List.isChain_pair.mpr ⟨if_pos small, if_pos small⟩, List.nodup_singleton head⟩
    · intro head nodes head' nodes' a found found' here here'
      obtain ⟨-, rfl⟩ : head < 2 ∧ nodes = [] := by simpa [twoLists, eq_comm] using found
      obtain ⟨-, rfl⟩ : head' < 2 ∧ nodes' = [] := by simpa [twoLists, eq_comm] using found'
      exact (List.mem_singleton.mp here).symm.trans (List.mem_singleton.mp here')
  have fresh : Fresh twoLists 2 := by
    intro head nodes found here
    obtain ⟨small, rfl⟩ : head < 2 ∧ nodes = [] := by simpa [twoLists, eq_comm] using found
    rw [List.mem_singleton] at here
    omega
  exact lists_refine shows_ (.cons (.add rfl fresh) (.cons (.spliceInit rfl rfl (by decide))
    (.nil _)))

end Links

end Lcompat
