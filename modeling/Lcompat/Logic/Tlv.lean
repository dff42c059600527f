import Lcompat.Logic.Memory

/-!
# Elements with a type and a length

An element is a byte that says what it is, a byte that counts its payload, and the payload. Any
string of bytes has elements: those of the longest sequence of whole elements that it begins
with. A loop over a string in memory goes from one element to the next until it has passed them
all, and reads no byte behind the string.
-/

namespace Lcompat.Logic

/-- What an element is, and its payload. -/
abbrev Element := UInt8 × List UInt8

namespace Element

/-- The bytes of elements. -/
def encode (es : List Element) : List UInt8 :=
  es.flatMap fun e => e.1 :: UInt8.ofNat e.2.length :: e.2

/-- A string begins with some elements, the payload of each of which can be counted. -/
structure Begin (es : List Element) (bytes : List UInt8) : Prop where
  /-- The payloads can be counted in a byte. -/
  sized : ∀ e ∈ es, e.2.length < 256
  /-- The elements are at the start. -/
  isPrefix : encode es <+: bytes

/-- The longest sequence of elements that a string begins with. -/
structure Longest (es : List Element) (bytes : List UInt8) : Prop where
  /-- The string begins with them. -/
  begins : Begin es bytes
  /-- It begins with no others. -/
  longest : ∀ es', Begin es' bytes → es' <+: es

variable {e : Element} {es es' : List Element} {id count : UInt8} {bytes rest payload : List UInt8}

/-- No elements have no bytes. -/
@[simp]
theorem encode_nil : encode [] = [] := rfl

/-- The bytes of an element come before those of the others. -/
@[simp]
theorem encode_cons (id : UInt8) (payload : List UInt8) (es : List Element) :
    encode ((id, payload) :: es) = id :: UInt8.ofNat payload.length :: (payload ++ encode es) := by
  simp [encode]

/-- The bytes of elements one behind the other. -/
theorem encode_append (front back : List Element) :
    encode (front ++ back) = encode front ++ encode back := List.flatMap_append

/-- Every string begins with no elements. -/
theorem begin_nil (bytes : List UInt8) : Begin [] bytes :=
  ⟨by simp, List.nil_prefix⟩

/-- A count that fits a byte is read back. -/
theorem toNat_ofNat_length (small : payload.length < 256) :
    (UInt8.ofNat payload.length).toNat = payload.length := by
  rw [UInt8.toNat_ofNat']
  exact Nat.mod_eq_of_lt small

/-- A string begins with an element and others when its payload is whole and they come behind it. -/
theorem begin_cons : Begin ((id, payload) :: es) (id :: count :: rest) ↔
    payload.length = count.toNat ∧ payload = rest.take count.toNat ∧
      Begin es (rest.drop count.toNat) := by
  constructor
  · rintro ⟨sized, front⟩
    have small := sized (id, payload) List.mem_cons_self
    rw [encode_cons, List.cons_prefix_cons, List.cons_prefix_cons] at front
    obtain ⟨-, same, behind⟩ := front
    have counted : payload.length = count.toNat := by rw [← same, toNat_ofNat_length small]
    have here : payload = rest.take count.toNat := by
      rw [← counted]
      exact List.prefix_iff_eq_take.mp ((List.prefix_append _ _).trans behind)
    refine ⟨counted, here, fun e member => sized e (List.mem_cons_of_mem _ member), ?_⟩
    rw [← List.take_append_drop count.toNat rest, ← here] at behind
    exact (List.prefix_append_right_inj payload).mp behind
  · rintro ⟨counted, here, sized, behind⟩
    refine ⟨?_, ?_⟩
    · intro e member
      obtain rfl | member := List.mem_cons.mp member
      · rw [counted]
        exact count.toNat_lt
      · exact sized e member
    · rw [encode_cons, counted, UInt8.ofNat_toNat, List.cons_prefix_cons, List.cons_prefix_cons]
      refine ⟨rfl, rfl, ?_⟩
      rw [← List.take_append_drop count.toNat rest, ← here]
      exact (List.prefix_append_right_inj payload).mpr behind

/-- The first element of a string is the one that its first byte says. -/
theorem Begin.id_eq {first : UInt8} (begins : Begin (e :: es) (first :: count :: rest)) :
    e.1 = first := by
  have front := begins.isPrefix
  rw [← e.eta, encode_cons, List.cons_prefix_cons] at front
  exact front.1

/-- A string without room for a header begins with no element. -/
theorem longest_of_short (short : bytes.length < 2) : Longest [] bytes := by
  refine ⟨begin_nil bytes, fun es' begins => ?_⟩
  cases es' with
  | nil => exact List.prefix_rfl
  | cons e es' =>
    have long := begins.isPrefix.length_le
    rw [← e.eta, encode_cons] at long
    simp only [List.length_cons] at long
    omega

/-- A string whose first payload is cut begins with no element. -/
theorem longest_of_cut (cut : rest.length < count.toNat) : Longest [] (id :: count :: rest) := by
  refine ⟨begin_nil _, fun es' begins => ?_⟩
  cases es' with
  | nil => exact List.prefix_rfl
  | cons e es' =>
    have same := begins.id_eq
    rw [← e.eta, same] at begins
    obtain ⟨counted, here, -⟩ := begin_cons.mp begins
    have short := congrArg List.length here
    rw [List.length_take] at short
    omega

/-- A whole element, and the elements behind it. -/
theorem Longest.cons (whole : count.toNat ≤ rest.length)
    (longest : Longest es (rest.drop count.toNat)) :
    Longest ((id, rest.take count.toNat) :: es) (id :: count :: rest) := by
  have counted : (rest.take count.toNat).length = count.toNat := by
    rw [List.length_take]
    omega
  refine ⟨begin_cons.mpr ⟨counted, rfl, longest.begins⟩, fun es' begins => ?_⟩
  cases es' with
  | nil => exact List.nil_prefix
  | cons e es' =>
    have same := begins.id_eq
    rw [← e.eta, same] at begins ⊢
    obtain ⟨-, here, behind⟩ := begin_cons.mp begins
    rw [here, List.cons_prefix_cons]
    exact ⟨rfl, longest.longest es' behind⟩

/-- The bytes of elements have no others. -/
theorem longest_encode (sized : ∀ e ∈ es, e.2.length < 256) : Longest es (encode es) := by
  induction es with
  | nil => exact longest_of_short (by simp)
  | cons e es ih =>
    have small := sized e List.mem_cons_self
    have behind := ih fun e' member => sized e' (List.mem_cons_of_mem _ member)
    have counted := toNat_ofNat_length small
    have whole : (UInt8.ofNat e.2.length).toNat ≤ (e.2 ++ encode es).length := by
      rw [counted, List.length_append]
      omega
    have rest : (e.2 ++ encode es).drop (UInt8.ofNat e.2.length).toNat = encode es := by
      rw [counted, List.drop_left]
    have first : (e.2 ++ encode es).take (UInt8.ofNat e.2.length).toNat = e.2 := by
      rw [counted, List.take_left]
    have both : Longest ((e.1, (e.2 ++ encode es).take (UInt8.ofNat e.2.length).toNat) :: es)
        (e.1 :: UInt8.ofNat e.2.length :: (e.2 ++ encode es)) :=
      .cons whole (by rwa [rest])
    rw [first] at both
    exact both

/-- A string has one longest sequence of elements. -/
theorem Longest.unique (one : Longest es bytes) (other : Longest es' bytes) : es = es' :=
  (other.longest es one.begins).eq_of_length_le
    (one.longest es' other.begins).length_le

/-- A string has no room for a header, or has a header and something behind it. -/
theorem short_or_header (bytes : List UInt8) :
    bytes.length < 2 ∨ ∃ id count rest, bytes = id :: count :: rest := by
  rcases bytes with _ | ⟨id, _ | ⟨count, rest⟩⟩
  · exact .inl (by simp)
  · exact .inl (by simp)
  · exact .inr ⟨id, count, rest, rfl⟩

/-- The longest sequence of a string that begins with an element goes on behind it. -/
theorem Longest.behind (longest : Longest ((id, payload) :: es) (id :: count :: rest)) :
    Longest es (rest.drop count.toNat) := by
  obtain ⟨counted, here, behind⟩ := begin_cons.mp longest.begins
  refine ⟨behind, fun es' begins => ?_⟩
  have more := longest.longest _ (begin_cons.mpr ⟨counted, here, begins⟩)
  exact (List.cons_prefix_cons.mp more).2

/-- The elements that a loop passes, from a place in a string in memory to the end of the string:
it stops where there is no room for a header or the payload is cut, and reads a header and a payload
where they are whole. -/
inductive Walks (memory : Memory) (len : Nat) : Nat → List Element → Prop
  /-- There is no room for a header. -/
  | short {pos : Nat} (short : ¬pos + 2 ≤ len) : Walks memory len pos []
  /-- The payload is cut. -/
  | cut {pos : Nat} {id count : UInt8} (room : pos + 2 ≤ len) (id_at : memory pos = some id)
      (count_at : memory (pos + 1) = some count) (cut : pos + 2 + count.toNat > len) :
      Walks memory len pos []
  /-- A whole element. -/
  | whole {pos : Nat} {id count : UInt8} {payload : List UInt8} {es : List Element}
      (room : pos + 2 ≤ len) (id_at : memory pos = some id)
      (count_at : memory (pos + 1) = some count) (fits : ¬pos + 2 + count.toNat > len)
      (length_eq : payload.length = count.toNat) (holds : memory.Holds (pos + 2) payload)
      (behind : Walks memory len (pos + 2 + count.toNat) es) :
      Walks memory len pos ((id, payload) :: es)

/-- A loop over a string passes its elements. -/
theorem Longest.walks {memory : Memory} {pos : Nat} (longest : Longest es bytes)
    (holds : memory.Holds pos bytes) : Walks memory (pos + bytes.length) pos es := by
  induction es generalizing pos bytes with
  | nil =>
    obtain short | ⟨id, count, rest, rfl⟩ := short_or_header bytes
    · exact .short (by omega)
    obtain ⟨id_at, holds⟩ := Memory.holds_cons.mp holds
    obtain ⟨count_at, -⟩ := Memory.holds_cons.mp holds
    refine .cut (by simp) id_at count_at ?_
    by_contra whole
    simp only [List.length_cons] at whole
    have first : Begin [(id, rest.take count.toNat)] (id :: count :: rest) := by
      refine begin_cons.mpr ⟨?_, rfl, begin_nil _⟩
      rw [List.length_take]
      omega
    exact absurd (longest.longest _ first).length_le (by simp)
  | cons e es ih =>
    obtain short | ⟨id, count, rest, rfl⟩ := short_or_header bytes
    · have nothing := (longest_of_short short).longest _ longest.begins
      exact absurd nothing.length_le (by simp)
    have same := longest.begins.id_eq
    rw [← e.eta, same] at longest ⊢
    obtain ⟨counted, here, -⟩ := begin_cons.mp longest.begins
    have whole : count.toNat ≤ rest.length := by
      have short := congrArg List.length here
      rw [List.length_take] at short
      omega
    obtain ⟨id_at, holds⟩ := Memory.holds_cons.mp holds
    obtain ⟨count_at, holds⟩ := Memory.holds_cons.mp holds
    rw [← List.take_append_drop count.toNat rest, ← here] at holds
    obtain ⟨payload_at, holds⟩ := Memory.holds_append.mp holds
    rw [counted] at holds
    have later := ih longest.behind holds
    have total : pos + 1 + 1 + count.toNat + (rest.drop count.toNat).length =
        pos + (id :: count :: rest).length := by
      simp only [List.length_drop, List.length_cons]
      omega
    rw [total] at later
    refine .whole (by simp) id_at count_at ?_ counted payload_at later
    simp only [List.length_cons]
    omega

/-- Where the payload of the first element of a kind is, and how long it is. -/
def locate (id : UInt8) : Nat → List Element → Option (Nat × UInt8)
  | _, [] => none
  | pos, e :: es =>
    if e.1 = id then some (pos + 2, UInt8.ofNat e.2.length)
    else locate id (pos + 2 + e.2.length) es

/-- There is nothing to be located exactly when there is no element of the kind. -/
theorem locate_eq_none_iff {pos : Nat} : locate id pos es = none ↔ ∀ e ∈ es, e.1 ≠ id := by
  induction es generalizing pos with
  | nil => simp [locate]
  | cons e es ih =>
    by_cases here : e.1 = id
    · simp [locate, here]
    · simp [locate, here, ih]

/-- The first element of a kind is behind the bytes of those before it. -/
theorem locate_append {pos : Nat} {front : List Element} (others : ∀ e ∈ front, e.1 ≠ id)
    (payload : List UInt8) (back : List Element) :
    locate id pos (front ++ (id, payload) :: back) =
      some (pos + (encode front).length + 2, UInt8.ofNat payload.length) := by
  induction front generalizing pos with
  | nil => simp [locate]
  | cons e front ih =>
    have apart := others e List.mem_cons_self
    rw [List.cons_append, locate, if_neg apart, ih fun e member => others e (by simp [member])]
    rw [← e.eta, encode_cons]
    simp only [List.length_cons, List.length_append]
    congr 2
    omega

end Element

end Lcompat.Logic
