import Mathlib

/-!
# Numbering keys

Keys are numbered in the order of their first use, as long as there is room. The numbers of some
keys are their places among the keys that have been seen, which are only ever added to: equal keys
have equal numbers and different keys different ones, and no key is without a number exactly when
there is room for all the keys that are different.
-/

namespace Lcompat.Logic

universe u

variable {Key : Type u} [DecidableEq Key]

/-- The number of a key among those that have been seen, which it joins while there is room. -/
def number (room : Nat) (key : Key) (seen : List Key) : Option (List Key × Nat) :=
  if key ∈ seen then some (seen, seen.idxOf key)
  else if seen.length < room then some (seen ++ [key], seen.length) else none

/-- The numbers of some keys one after the other. A key without a number is not seen. -/
def numberAll (room : Nat) : List Key → List Key → List Key × List (Option Nat)
  | [], seen => (seen, [])
  | key :: keys, seen =>
    match number room key seen with
    | some (seen, n) =>
      let rest := numberAll room keys seen
      (rest.1, some n :: rest.2)
    | none =>
      let rest := numberAll room keys seen
      (rest.1, none :: rest.2)

/-- No key is seen twice, and there is room for all that are seen. -/
structure Numbered (room : Nat) (seen : List Key) : Prop where
  /-- The keys that are seen are different. -/
  nodup : seen.Nodup
  /-- There is room for them. -/
  fits : seen.length ≤ room

/-- A number is the place of its key. -/
def Places (seen : List Key) (n : Option Nat) (key : Key) : Prop :=
  ∃ i, n = some i ∧ seen[i]? = some key

section Numbers

variable {room n : Nat} {key : Key} {seen seen' : List Key}

omit [DecidableEq Key] in
/-- Nothing is seen at first. -/
theorem Numbered.nil : Numbered room ([] : List Key) :=
  ⟨List.nodup_nil, Nat.zero_le _⟩

/-- A key that is numbered is seen at its number, behind those that were seen. -/
theorem number_spec (numbered : Numbered room seen)
    (given : number room key seen = some (seen', n)) :
    Numbered room seen' ∧ seen <+: seen' ∧ seen'[n]? = some key ∧
      ∀ other, other ∈ seen' ↔ other ∈ seen ∨ other = key := by
  unfold number at given
  split at given
  · next known =>
    obtain ⟨rfl, rfl⟩ := Prod.mk.inj (Option.some.inj given)
    refine ⟨numbered, List.prefix_refl _, ?_, fun other => ?_⟩
    · exact List.getElem?_idxOf known
    · constructor
      · exact .inl
      · rintro (old | rfl)
        · exact old
        · exact known
  · next fresh =>
    obtain ⟨space, same⟩ := Option.ite_none_right_eq_some.mp given
    obtain ⟨rfl, rfl⟩ := Prod.mk.inj (Option.some.inj same)
    refine ⟨⟨?_, ?_⟩, List.prefix_append _ _, List.getElem?_concat_length, fun other => ?_⟩
    · exact numbered.nodup.append (List.nodup_singleton key) (List.disjoint_singleton.mpr fresh)
    · rw [List.length_append, List.length_singleton]
      omega
    · rw [List.mem_append, List.mem_singleton]

/-- A key has no number exactly when it is not seen and there is no room. -/
theorem number_eq_none_iff :
    number room key seen = none ↔ key ∉ seen ∧ room ≤ seen.length := by
  unfold number
  split
  · next known => simp [known]
  · next fresh => simp [fresh]

omit [DecidableEq Key] in
/-- The place of a key stays its place when keys are added. -/
theorem Places.mono {i : Option Nat} (places : Places seen i key) (later : seen <+: seen') :
    Places seen' i key := by
  obtain ⟨i, rfl, here⟩ := places
  obtain ⟨added, rfl⟩ := later
  have bound : i < seen.length := (List.getElem?_eq_some_iff.mp here).1
  exact ⟨i, rfl, (List.getElem?_append_left bound).trans here⟩

omit [DecidableEq Key] in
/-- Equal keys have equal places, and different keys different ones. -/
theorem Places.eq_iff {i j : Option Nat} {other : Key} (distinct : seen.Nodup)
    (here : Places seen i key) (there : Places seen j other) : i = j ↔ key = other := by
  obtain ⟨i, rfl, here⟩ := here
  obtain ⟨j, rfl, there⟩ := there
  constructor
  · intro same
    obtain rfl := Option.some.inj same
    exact Option.some.inj (here.symm.trans there)
  · rintro rfl
    have bound : i < seen.length := (List.getElem?_eq_some_iff.mp here).1
    exact congrArg some ((List.getElem?_inj bound distinct).mp (here.trans there.symm))

/-- Some keys are numbered behind those that were seen, and a number is the place of its key. -/
theorem numberAll_spec (numbered : Numbered room seen) (keys : List Key) :
    Numbered room (numberAll room keys seen).1 ∧ seen <+: (numberAll room keys seen).1 ∧
      List.Forall₂ (fun n key => n = none ∨ Places (numberAll room keys seen).1 n key)
        (numberAll room keys seen).2 keys := by
  induction keys generalizing seen with
  | nil => exact ⟨numbered, List.prefix_refl seen, .nil⟩
  | cons key keys ih =>
    rw [numberAll]
    cases given : number room key seen with
    | none =>
      obtain ⟨final, grown, placed⟩ := ih numbered
      exact ⟨final, grown, .cons (.inl rfl) placed⟩
    | some pair =>
      obtain ⟨seen', n⟩ := pair
      obtain ⟨numbered', grew, here, -⟩ := number_spec numbered given
      obtain ⟨final, grown, placed⟩ := ih numbered'
      have places : Places seen' (some n) key := ⟨n, rfl, here⟩
      exact ⟨final, grew.trans grown, .cons (.inr (places.mono grown)) placed⟩

/-- Every key has a number if and only if there is room for the keys that are different, those that
were seen included. -/
theorem numberAll_total_iff (numbered : Numbered room seen) (keys : List Key) :
    none ∉ (numberAll room keys seen).2 ↔ (seen ++ keys).toFinset.card ≤ room := by
  induction keys generalizing seen with
  | nil =>
    rw [List.append_nil, List.toFinset_card_of_nodup numbered.nodup]
    simp [numberAll, numbered.fits]
  | cons key keys ih =>
    rw [numberAll]
    cases given : number room key seen with
    | none =>
      obtain ⟨fresh, full⟩ := number_eq_none_iff.mp given
      have more : (insert key seen.toFinset).card = seen.length + 1 := by
        rw [Finset.card_insert_of_notMem (by simpa using fresh),
          List.toFinset_card_of_nodup numbered.nodup]
      have within : insert key seen.toFinset ⊆ (seen ++ key :: keys).toFinset := by
        intro other
        simp only [Finset.mem_insert, List.mem_toFinset, List.mem_append, List.mem_cons]
        tauto
      have card := Finset.card_le_card within
      constructor
      · exact fun total => absurd List.mem_cons_self total
      · intro fits
        omega
    | some pair =>
      obtain ⟨seen', n⟩ := pair
      obtain ⟨numbered', -, -, members⟩ := number_spec numbered given
      have same : (seen' ++ keys).toFinset = (seen ++ key :: keys).toFinset := by
        ext other
        simp only [List.mem_toFinset, List.mem_append, List.mem_cons, members]
        tauto
      rw [← same, ← ih numbered', List.mem_cons]
      simp

/-- Numbering some keys and then others is numbering them all. -/
theorem numberAll_append (keys others : List Key) :
    numberAll room (keys ++ others) seen =
      ((numberAll room others (numberAll room keys seen).1).1,
        (numberAll room keys seen).2 ++
          (numberAll room others (numberAll room keys seen).1).2) := by
  induction keys generalizing seen with
  | nil => rfl
  | cons key keys ih =>
    rw [List.cons_append, numberAll, numberAll]
    cases number room key seen with
    | none => rw [ih]; rfl
    | some pair => simp only [ih, List.cons_append]

omit [DecidableEq Key] in
/-- Keys that all have a number have their numbers in a list. -/
theorem exists_map_some {numbers : List (Option Nat)} (total : none ∉ numbers) :
    ∃ slots : List Nat, numbers = slots.map some := by
  induction numbers with
  | nil => exact ⟨[], rfl⟩
  | cons number numbers ih =>
    cases number with
    | none => exact absurd List.mem_cons_self total
    | some n =>
      obtain ⟨slots, rfl⟩ := ih fun later => total (List.mem_cons_of_mem _ later)
      exact ⟨n :: slots, rfl⟩

/-- With room for all the keys that are different, every number is the place of its key. -/
theorem numberAll_places {keys : List Key} (numbered : Numbered room seen)
    (fits : (seen ++ keys).toFinset.card ≤ room) :
    List.Forall₂ (Places (numberAll room keys seen).1) (numberAll room keys seen).2 keys := by
  have total := (numberAll_total_iff numbered keys).mpr fits
  have spec := (numberAll_spec numbered keys).2.2
  generalize (numberAll room keys seen).1 = final at spec ⊢
  generalize (numberAll room keys seen).2 = numbers at total spec ⊢
  clear fits
  induction spec with
  | nil => exact .nil
  | cons here _ ih =>
    refine .cons (here.resolve_left ?_) (ih ?_)
    · rintro rfl
      exact total List.mem_cons_self
    · exact fun later => total (List.mem_cons_of_mem _ later)

end Numbers

end Lcompat.Logic
