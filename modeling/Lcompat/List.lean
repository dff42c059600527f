import Mathlib

/-!
# Circular doubly linked lists

A `struct list_head` is a pair of pointers to nodes, and a list is a node that serves as its
head. What a node that has never been written holds is not known, so an operation that reads it
has no outcome. The operations write the pointers of the nodes they are given and of those they
read, and take back no write.
-/

namespace Lcompat

/-- The pointers of every `struct list_head`, as far as they have been written. -/
structure Links (Node : Type) where
  /-- `next`. -/
  next : Node → Option Node
  /-- `prev`. -/
  prev : Node → Option Node

namespace Links

variable {Node : Type} [DecidableEq Node]

/-- `INIT_LIST_HEAD`. -/
def initListHead (links : Links Node) (list : Node) : Links Node :=
  ⟨Function.update links.next list (some list), Function.update links.prev list (some list)⟩

/-- `__list_add`. -/
def rawListAdd (links : Links Node) (node prev next : Node) : Links Node :=
  ⟨Function.update (Function.update links.next node (some next)) prev (some node),
    Function.update (Function.update links.prev next (some node)) node (some prev)⟩

/-- `list_add_tail`. -/
def listAddTail (links : Links Node) (node head : Node) : Option (Links Node) :=
  (links.prev head).map fun prev => links.rawListAdd node prev head

/-- `__list_del`. -/
def rawListDel (links : Links Node) (prev next : Node) : Links Node :=
  ⟨Function.update links.next prev (some next), Function.update links.prev next (some prev)⟩

/-- `list_del`: the entry is left pointing at itself. -/
def listDel (links : Links Node) (entry : Node) : Option (Links Node) :=
  (links.prev entry).bind fun prev => (links.next entry).map fun next =>
    (links.rawListDel prev next).initListHead entry

/-- `list_del_init`. -/
def listDelInit (links : Links Node) (entry : Node) : Option (Links Node) :=
  (links.listDel entry).map fun links => links.initListHead entry

/-- Both pointers of a node have been written. -/
def Written (links : Links Node) (node : Node) : Prop :=
  (links.next node).isSome ∧ (links.prev node).isSome

/-- A pointer that has been written stays written when one is written. -/
theorem isSome_update {pointers : Node → Option Node} {a : Node} (some_ : (pointers a).isSome)
    (b c : Node) : (Function.update pointers b (some c) a).isSome := by
  by_cases same : a = b
  · rw [same, Function.update_self]
    rfl
  · rw [Function.update_of_ne same]
    exact some_

variable {links links' : Links Node} {node : Node}

/-- What has been written stays written when a node is initialised. -/
theorem Written.initListHead (written : links.Written node) (list : Node) :
    (links.initListHead list).Written node :=
  ⟨isSome_update written.1 list list, isSome_update written.2 list list⟩

/-- A node that is initialised has been written. -/
theorem written_initListHead (links : Links Node) (list : Node) :
    (links.initListHead list).Written list := by
  constructor <;> simp [Links.initListHead]

/-- What has been written stays written when a node is added. -/
theorem Written.listAddTail (written : links.Written node) {entry head : Node}
    (added : links.listAddTail entry head = some links') : links'.Written node := by
  obtain ⟨prev, -, rfl⟩ := Option.map_eq_some_iff.mp added
  exact ⟨isSome_update (isSome_update written.1 entry head) prev entry,
    isSome_update (isSome_update written.2 head entry) entry prev⟩

/-- What has been written stays written when a node is removed. -/
theorem Written.listDelInit (written : links.Written node) {entry : Node}
    (removed : links.listDelInit entry = some links') : links'.Written node := by
  obtain ⟨links₁, deleted, rfl⟩ := Option.map_eq_some_iff.mp removed
  obtain ⟨prev, -, deleted⟩ := Option.bind_eq_some_iff.mp deleted
  obtain ⟨next, -, rfl⟩ := Option.map_eq_some_iff.mp deleted
  have unlinked : (links.rawListDel prev next).Written node :=
    ⟨isSome_update written.1 prev next, isSome_update written.2 next prev⟩
  exact (unlinked.initListHead entry).initListHead entry

/-- A node is added to a list whose head has been written. -/
theorem exists_listAddTail {head : Node} (written : links.Written head) (entry : Node) :
    ∃ links', links.listAddTail entry head = some links' := by
  obtain ⟨prev, found⟩ := Option.isSome_iff_exists.mp written.2
  exact ⟨_, by rw [Links.listAddTail, found, Option.map_some]⟩

/-- A node that has been written is removed from the list it is in, if any. -/
theorem exists_listDelInit (written : links.Written node) :
    ∃ links', links.listDelInit node = some links' := by
  obtain ⟨next, after⟩ := Option.isSome_iff_exists.mp written.1
  obtain ⟨prev, before⟩ := Option.isSome_iff_exists.mp written.2
  exact ⟨_, by rw [Links.listDelInit, Links.listDel, before, Option.bind_some, after,
    Option.map_some, Option.map_some]⟩

/-- A node that can be removed has been written. -/
theorem written_of_listDelInit (removed : links.listDelInit node = some links') :
    links.Written node := by
  obtain ⟨links₁, deleted, -⟩ := Option.map_eq_some_iff.mp removed
  obtain ⟨prev, before, deleted⟩ := Option.bind_eq_some_iff.mp deleted
  obtain ⟨next, after, -⟩ := Option.map_eq_some_iff.mp deleted
  exact ⟨by rw [after]; rfl, by rw [before]; rfl⟩

section Circles

/-- Nodes that follow one another point at one another. -/
def Linked (links : Links Node) (nodes : List Node) : Prop :=
  nodes.IsChain fun a b => links.next a = some b ∧ links.prev b = some a

/-- From the head, the pointers go through some nodes in order, each once, and back to the head. -/
structure Circle (links : Links Node) (head : Node) (nodes : List Node) : Prop where
  /-- The nodes point at one another. -/
  linked : links.Linked (head :: nodes ++ [head])
  /-- No node occurs twice. -/
  nodup : (head :: nodes).Nodup

variable {head : Node} {nodes : List Node}

omit [DecidableEq Node] in
/-- Nodes stay linked when other pointers change. -/
theorem Linked.congr (linked : links.Linked nodes)
    (next : ∀ a ∈ nodes.dropLast, links'.next a = links.next a)
    (prev : ∀ b ∈ nodes.tail, links'.prev b = links.prev b) : links'.Linked nodes := by
  induction nodes with
  | nil => exact List.isChain_nil
  | cons a rest ih =>
    cases rest with
    | nil => exact List.isChain_singleton a
    | cons b rest =>
      have pair := List.isChain_cons_cons.mp linked
      refine List.isChain_cons_cons.mpr ⟨⟨?_, ?_⟩, ih pair.2 ?_ ?_⟩
      · rw [next a (by simp)]
        exact pair.1.1
      · rw [prev b (by simp)]
        exact pair.1.2
      · exact fun c member => next c (by simp [member])
      · exact fun c member => prev c (List.mem_cons_of_mem b member)

/-- A head that was initialised is an empty list. -/
theorem circle_initListHead (links : Links Node) (head : Node) :
    (links.initListHead head).Circle head [] := by
  refine ⟨?_, List.nodup_singleton head⟩
  exact List.isChain_pair.mpr ⟨Function.update_self .., Function.update_self ..⟩

/-- A list stays the same when a node outside of it is initialised. -/
theorem Circle.initListHead (circle : links.Circle head nodes) (outside : node ∉ head :: nodes) :
    (links.initListHead node).Circle head nodes := by
  refine ⟨circle.linked.congr ?_ ?_, circle.nodup⟩
  · intro a member
    rw [List.dropLast_concat] at member
    have different : a ≠ node := fun same => outside (same ▸ member)
    simp [Links.initListHead, different]
  · intro b member
    have member : b ∈ head :: nodes := by simpa [or_comm] using member
    have different : b ≠ node := fun same => outside (same ▸ member)
    simp [Links.initListHead, different]

/-- `list_add_tail` appends. -/
theorem Circle.listAddTail (circle : links.Circle head nodes) (fresh : node ∉ head :: nodes) :
    ∃ links', links.listAddTail node head = some links' ∧ links'.Circle head (nodes ++ [node]) := by
  obtain ⟨init, last, split⟩ : ∃ init last, head :: nodes = init ++ [last] :=
    ⟨_, _, (List.dropLast_append_getLast (List.cons_ne_nil head nodes)).symm⟩
  have linked := circle.linked
  rw [split, List.append_assoc, List.singleton_append, Linked, List.isChain_append_cons_cons]
    at linked
  obtain ⟨before, ⟨-, back⟩, -⟩ := linked
  refine ⟨links.rawListAdd node last head, by rw [Links.listAddTail, back, Option.map_some], ?_⟩
  have nodup := circle.nodup
  have lastNew : last ≠ node := fun same => fresh (by rw [split, ← same]; simp)
  have headNew : head ≠ node := fun same => fresh (by rw [← same]; simp)
  refine ⟨?_, ?_⟩
  · have list : head :: (nodes ++ [node]) ++ [head] = init ++ last :: node :: [head] := by
      rw [← List.cons_append, split]
      simp
    rw [list, Linked, List.isChain_append_cons_cons, List.isChain_pair]
    refine ⟨Linked.congr before ?_ ?_, ?_, ?_⟩
    · intro a member
      rw [List.dropLast_concat] at member
      have notLast : a ≠ last := by
        rw [split, List.nodup_append] at nodup
        exact nodup.2.2 a member last (List.mem_singleton_self last)
      have notNew : a ≠ node := fun same => fresh (by rw [split, ← same]; simp [member])
      simp [rawListAdd, notLast, notNew]
    · intro b member
      rw [← split, List.tail_cons] at member
      have notHead : b ≠ head := fun same => (List.nodup_cons.mp nodup).1 (same ▸ member)
      have notNew : b ≠ node := fun same => fresh (same ▸ List.mem_cons_of_mem head member)
      simp [rawListAdd, notHead, notNew]
    · simp [rawListAdd]
    · simp [rawListAdd, headNew, lastNew.symm]
  · rw [← List.cons_append, List.nodup_append]
    refine ⟨nodup, List.nodup_singleton node, ?_⟩
    intro a member b single same
    rw [List.mem_singleton] at single
    exact fresh (single ▸ same ▸ member)

/-- `list_del_init` takes a node out. -/
theorem Circle.listDelInit (circle : links.Circle head nodes) (member : node ∈ nodes) :
    ∃ links', links.listDelInit node = some links' ∧ links'.Circle head (nodes.erase node) := by
  obtain ⟨before, after, rfl⟩ := List.append_of_mem member
  obtain ⟨init, p, left⟩ : ∃ init p, head :: before = init ++ [p] :=
    ⟨_, _, (List.dropLast_append_getLast (List.cons_ne_nil head before)).symm⟩
  obtain ⟨n, rest, right⟩ : ∃ n rest, after ++ [head] = n :: rest :=
    List.exists_cons_of_ne_nil (by simp)
  have nodup := circle.nodup
  rw [← List.cons_append, List.nodup_append] at nodup
  obtain ⟨leftNodup, rightNodup, apart⟩ := nodup
  have notAfter : node ∉ after := (List.nodup_cons.mp rightNodup).1
  have notInBefore : head ∉ before := (List.nodup_cons.mp leftNodup).1
  have notBefore : node ∉ head :: before := fun here =>
    apart node here node List.mem_cons_self rfl
  have headAfter : head ∉ after := fun here =>
    apart head List.mem_cons_self head (List.mem_cons_of_mem node here) rfl
  have pMember : p ∈ head :: before := by rw [left]; simp
  have nMember : n ∈ after ++ [head] := by rw [right]; simp
  have pNode : p ≠ node := fun same => notBefore (same ▸ pMember)
  have nNode : n ≠ node := by
    intro same
    rw [same, List.mem_append, List.mem_singleton] at nMember
    exact nMember.elim notAfter fun here => notBefore (here ▸ List.mem_cons_self)
  have linked := circle.linked
  have list : head :: (before ++ node :: after) ++ [head] = init ++ p :: node :: n :: rest := by
    rw [← List.cons_append, left, List.append_assoc, List.cons_append, right]
    simp
  rw [list, Linked, List.isChain_append_cons_cons, List.isChain_cons_cons] at linked
  obtain ⟨front, ⟨-, back⟩, ⟨forth, -⟩, behind⟩ := linked
  refine ⟨((links.rawListDel p n).initListHead node).initListHead node, ?_, ?_⟩
  · rw [Links.listDelInit, Links.listDel, back, Option.bind_some, forth, Option.map_some,
      Option.map_some]
  have erased : (before ++ node :: after).erase node = before ++ after := by
    rw [List.erase_append_right _ fun here => notBefore (List.mem_cons_of_mem head here),
      List.erase_cons_head]
  rw [erased]
  refine ⟨?_, ?_⟩
  · have list : head :: (before ++ after) ++ [head] = init ++ p :: n :: rest := by
      rw [← List.cons_append, left, List.append_assoc, right]
      simp
    rw [list, Linked, List.isChain_append_cons_cons]
    refine ⟨Linked.congr front ?_ ?_, ⟨?_, ?_⟩, Linked.congr behind ?_ ?_⟩
    · intro a here
      rw [List.dropLast_concat] at here
      have notP : a ≠ p := by
        rw [left, List.nodup_append] at leftNodup
        exact leftNodup.2.2 a here p (List.mem_singleton_self p)
      have notNode : a ≠ node := fun same => notBefore (by rw [left, ← same]; simp [here])
      simp [Links.initListHead, rawListDel, notP, notNode]
    · intro b here
      rw [← left, List.tail_cons] at here
      have notN : b ≠ n := by
        intro same
        rw [← same, List.mem_append, List.mem_singleton] at nMember
        refine nMember.elim (fun there => ?_) fun there => notInBefore (there ▸ here)
        exact apart b (List.mem_cons_of_mem head here) b (List.mem_cons_of_mem node there) rfl
      have notNode : b ≠ node := fun same =>
        notBefore (same ▸ List.mem_cons_of_mem head here)
      simp [Links.initListHead, rawListDel, notN, notNode]
    · simp [Links.initListHead, rawListDel, pNode]
    · simp [Links.initListHead, rawListDel, nNode]
    · intro a here
      rw [← right, List.dropLast_concat] at here
      have notP : a ≠ p := fun same =>
        apart p pMember a (List.mem_cons_of_mem node here) same.symm
      have notNode : a ≠ node := fun same => notAfter (same ▸ here)
      simp [Links.initListHead, rawListDel, notP, notNode]
    · intro b here
      rw [List.tail_cons] at here
      have distinct : (n :: rest).Nodup := by
        rw [← right, List.nodup_append]
        refine ⟨(List.nodup_cons.mp rightNodup).2, List.nodup_singleton head, ?_⟩
        intro a there c single same
        rw [List.mem_singleton] at single
        exact headAfter (single ▸ same ▸ there)
      have notN : b ≠ n := fun same => (List.nodup_cons.mp distinct).1 (same ▸ here)
      have notNode : b ≠ node := by
        intro same
        have there : node ∈ after ++ [head] := by
          rw [right, ← same]
          exact List.mem_cons_of_mem n here
        rw [List.mem_append, List.mem_singleton] at there
        exact there.elim notAfter fun here => notBefore (here ▸ List.mem_cons_self)
      simp [Links.initListHead, rawListDel, notN, notNode]
  · rw [← List.cons_append, List.nodup_append]
    exact ⟨leftNodup, (List.nodup_cons.mp rightNodup).2, fun a here b there =>
      apart a here b (List.mem_cons_of_mem node there)⟩

end Circles

end Links

end Lcompat
