import Lcompat.Logic.Tlv
import Lcompat.Mac80211.Bss

/-!
# Information elements

The three loops that walk over the information elements of a frame or of a scan result, as they run
over memory. A read outside the elements is a fault. All three pass the same elements, which are
those of the longest sequence of whole elements at the start of the string.
-/

namespace Lcompat.Mac80211

open Lcompat.Logic
open Lcompat.Net

/-- `WLAN_EID_DS_PARAMS`. -/
def wlanEidDsParams : UInt8 := 3

/-- `WLAN_EID_HT_OPERATION`. -/
def wlanEidHtOperation : UInt8 := 61

/-- `WLAN_EID_VHT_OPERATION`. -/
def wlanEidVhtOperation : UInt8 := 192

/-- The loop of `lcompat_ieee80211_find_ie`: where the payload is and how long, or null. -/
def findIeFrom (ies : Memory) (len : Nat) (eid : UInt8) (pos : Nat) :
    Option (Option (Nat × UInt8)) :=
  if pos + 2 ≤ len then do
    let id ← ies pos
    let ieLen ← ies (pos + 1)
    if pos + 2 + ieLen.toNat > len then return none
    else if id = eid then return some (pos + 2, ieLen)
    else findIeFrom ies len eid (pos + 2 + ieLen.toNat)
  else return none
termination_by len - pos

/-- Compare bytes from a place on, up to the first that differs. -/
def startsAt (ies : Memory) (ie : Nat) : List UInt8 → Option Bool
  | [] => return true
  | byte :: more => do
    if (← ies ie) = byte then startsAt ies (ie + 1) more else return false

/-- The condition in the loop of `lcompat_ieee80211_bss_has_wmm`. -/
def isWmmAt (ies : Memory) (id ieLen : UInt8) (ie : Nat) : Option Bool :=
  if id = wlanEidVendorSpecific ∧ ieLen ≥ 6 then do
    if ← startsAt ies ie [0x00, 0x50, 0xf2, 0x02] then
      let subtype ← ies (ie + 4)
      if subtype = 0x00 ∨ subtype = 0x01 then return (← ies (ie + 5)) = 0x01
      else return false
    else return false
  else return false

/-- The loop of `lcompat_ieee80211_bss_has_wmm`. -/
def bssHasWmmFrom (ies : Memory) (len pos : Nat) : Option Bool :=
  if pos + 2 ≤ len then do
    let id ← ies pos
    let ieLen ← ies (pos + 1)
    if pos + 2 + ieLen.toNat > len then return false
    else if ← isWmmAt ies id ieLen (pos + 2) then return true
    else bssHasWmmFrom ies len (pos + 2 + ieLen.toNat)
  else return false
termination_by len - pos

/-- The end of `cfg80211_get_ies_channel_number`. -/
def primaryOf (htPrimary vhtPrimary : Int) : Int :=
  if htPrimary > 0 then htPrimary else if vhtPrimary > 0 then vhtPrimary else -1

/-- What an element leaves in `ht_primary` or `vht_primary`: its byte at some place, when it is of
the kind and long enough. -/
def latestAt (ies : Memory) (id elen eid least : UInt8) (byte : Nat) (old : Int) : Option Int :=
  if id = eid ∧ elen ≥ least then return (← ies byte).toNat else return old

/-- The loop of `cfg80211_get_ies_channel_number`. -/
def channelNumberFrom (ies : Memory) (len pos : Nat) (htPrimary vhtPrimary : Int) : Option Int :=
  if pos + 2 ≤ len then do
    let id ← ies pos
    let elen ← ies (pos + 1)
    if elen.toNat > len - (pos + 2) then return primaryOf htPrimary vhtPrimary
    else if id = wlanEidDsParams ∧ elen ≥ 1 then return (← ies (pos + 2)).toNat
    else
      let htPrimary ← latestAt ies id elen wlanEidHtOperation 1 (pos + 2) htPrimary
      let vhtPrimary ← latestAt ies id elen wlanEidVhtOperation 2 (pos + 3) vhtPrimary
      channelNumberFrom ies len (pos + 2 + elen.toNat) htPrimary vhtPrimary
  else return primaryOf htPrimary vhtPrimary
termination_by len - pos

/-- `cfg80211_get_ies_channel_number`. -/
def cfg80211GetIesChannelNumber (ies : Memory) (len : Nat) : Option Int :=
  channelNumberFrom ies len 0 (-1) (-1)

/-- Whether a payload is that of a WMM element, told by its bytes. -/
def IsWmm (payload : List UInt8) : Prop :=
  ∃ subtype rest, payload = 0x00 :: 0x50 :: 0xf2 :: 0x02 :: subtype :: 0x01 :: rest ∧
    (subtype = 0 ∨ subtype = 1)

/-- The byte at some place of each element of a kind that has one. -/
def bytesAt (eid : UInt8) (place : Nat) (es : List Element) : List UInt8 :=
  es.filterMap fun e => if e.1 = eid then e.2[place]? else none

/-- The last of some bytes, if there is one. -/
def latestOf (old : Int) (bytes : List UInt8) : Int :=
  (bytes.getLast?.map fun byte => (byte.toNat : Int)).getD old

/-- The channel that elements name: that of the first set of DS parameters, else the last primary
channel of an HT operation, else that of a VHT operation. -/
def channelOf (htPrimary vhtPrimary : Int) (es : List Element) : Int :=
  match (bytesAt wlanEidDsParams 0 es).head? with
  | some byte => byte.toNat
  | none => primaryOf (latestOf htPrimary (bytesAt wlanEidHtOperation 0 es))
      (latestOf vhtPrimary (bytesAt wlanEidVhtOperation 1 es))

section Walkers

variable {ies : Memory} {len pos : Nat} {es : List Element}

/-- `lcompat_ieee80211_find_ie` finds the first element of its kind. -/
theorem findIeFrom_of_walks (walks : Element.Walks ies len pos es) (eid : UInt8) :
    findIeFrom ies len eid pos = some (Element.locate eid pos es) := by
  induction walks with
  | short short =>
    rw [findIeFrom, if_neg short]
    rfl
  | cut room id_at count_at cut =>
    rw [findIeFrom, if_pos room]
    simp [id_at, count_at, cut, Element.locate]
  | @whole pos id count payload es room id_at count_at fits length_eq holds behind ih =>
    rw [findIeFrom, if_pos room]
    by_cases here : id = eid
    · simp [id_at, count_at, fits, here, Element.locate, length_eq]
    · simp [id_at, count_at, fits, here, Element.locate, length_eq, ih]

/-- Comparing bytes stays inside a string that is held. -/
theorem startsAt_of_holds {bytes wanted : List UInt8} {ie : Nat} (holds : ies.Holds ie bytes)
    (long : wanted.length ≤ bytes.length) :
    startsAt ies ie wanted = some (decide (wanted <+: bytes)) := by
  induction wanted generalizing bytes ie with
  | nil => simp [startsAt]
  | cons byte wanted ih =>
    cases bytes with
    | nil => simp at long
    | cons first bytes =>
      obtain ⟨first_at, holds⟩ := Memory.holds_cons.mp holds
      by_cases same : first = byte
      · simp [startsAt, first_at, same, ih holds (by simpa using long)]
      · simp [startsAt, first_at, same, Ne.symm same]

/-- The payload of a WMM element has six bytes. -/
theorem IsWmm.six_le {payload : List UInt8} (wmm : IsWmm payload) : 6 ≤ payload.length := by
  obtain ⟨subtype, rest, rfl, -⟩ := wmm
  simp only [List.length_cons]
  omega

/-- The payload of a WMM element begins as that of one of Microsoft. -/
theorem IsWmm.front {payload : List UInt8} (wmm : IsWmm payload) :
    [0x00, 0x50, 0xf2, 0x02] <+: payload := by
  obtain ⟨subtype, rest, rfl, -⟩ := wmm
  exact ⟨subtype :: 0x01 :: rest, rfl⟩

/-- Behind that front a WMM element has its subtype and its version. -/
theorem isWmm_front_iff {subtype version : UInt8} {rest : List UInt8} :
    IsWmm ([0x00, 0x50, 0xf2, 0x02] ++ subtype :: version :: rest) ↔
      (subtype = 0 ∨ subtype = 1) ∧ version = 1 := by
  constructor
  · rintro ⟨subtype, rest, same, which⟩
    simp only [List.cons_append, List.nil_append, List.cons.injEq, true_and] at same
    rw [same.1, same.2.1]
    exact ⟨which, rfl⟩
  · rintro ⟨which, rfl⟩
    exact ⟨subtype, rest, rfl, which⟩

/-- The condition of `lcompat_ieee80211_bss_has_wmm` is about one payload, and reads no more. -/
theorem isWmmAt_of_holds {id count : UInt8} {payload : List UInt8} {ie : Nat}
    (holds : ies.Holds ie payload) (length_eq : payload.length = count.toNat) :
    ∃ found, isWmmAt ies id count ie = some found ∧
      (found = true ↔ id = wlanEidVendorSpecific ∧ IsWmm payload) := by
  by_cases asked : id = wlanEidVendorSpecific ∧ count ≥ 6
  · have long : 6 ≤ payload.length := by
      rw [length_eq]
      exact UInt8.le_iff_toNat_le.mp asked.2
    have compared : startsAt ies ie [0x00, 0x50, 0xf2, 0x02] =
        some (decide ([0x00, 0x50, 0xf2, 0x02] <+: payload)) := by
      refine startsAt_of_holds holds ?_
      simp only [List.length_cons, List.length_nil]
      omega
    by_cases front : [0x00, 0x50, 0xf2, 0x02] <+: payload
    · have subtype_at : ies (ie + 4) = some payload[4] := holds.get (by omega)
      have version_at : ies (ie + 5) = some payload[5] := holds.get (by omega)
      obtain ⟨behind, rfl⟩ := front
      rcases behind with _ | ⟨subtype, _ | ⟨version, rest⟩⟩
      · simp at long
      · simp at long
      rw [isWmm_front_iff]
      by_cases which : subtype = 0 ∨ subtype = 1
      · exact ⟨decide (version = 1), by simp_all [isWmmAt], by simp [asked.1, which]⟩
      · exact ⟨false, by simp_all [isWmmAt], by simp [which]⟩
    · refine ⟨false, by simp_all [isWmmAt], ?_⟩
      simp only [Bool.false_eq_true, false_iff]
      exact fun wmm => front wmm.2.front
  · refine ⟨false, by simp only [isWmmAt, if_neg asked]; rfl, ?_⟩
    simp only [Bool.false_eq_true, false_iff]
    rintro ⟨vendor, wmm⟩
    refine asked ⟨vendor, UInt8.le_iff_toNat_le.mpr ?_⟩
    rw [← length_eq]
    exact wmm.six_le

/-- `lcompat_ieee80211_bss_has_wmm` finds out whether an element is a WMM element. -/
theorem bssHasWmmFrom_of_walks (walks : Element.Walks ies len pos es) :
    ∃ found, bssHasWmmFrom ies len pos = some found ∧
      (found = true ↔ ∃ payload, (wlanEidVendorSpecific, payload) ∈ es ∧ IsWmm payload) := by
  induction walks with
  | short short =>
    rw [bssHasWmmFrom, if_neg short]
    exact ⟨false, rfl, by simp⟩
  | cut room id_at count_at cut =>
    rw [bssHasWmmFrom, if_pos room]
    exact ⟨false, by simp [id_at, count_at, cut], by simp⟩
  | @whole pos id count payload es room id_at count_at fits length_eq holds behind ih =>
    obtain ⟨later, ran, later_iff⟩ := ih
    have tested : ∃ found, isWmmAt ies id count (pos + 2) = some found ∧
        (found = true ↔ id = wlanEidVendorSpecific ∧ IsWmm payload) :=
      isWmmAt_of_holds holds length_eq
    obtain ⟨here, tested, here_iff⟩ := tested
    rw [bssHasWmmFrom, if_pos room]
    refine ⟨here || later, ?_, ?_⟩
    · cases here <;> simp [id_at, count_at, fits, tested, ran]
    · rw [Bool.or_eq_true, here_iff, later_iff]
      constructor
      · rintro (⟨rfl, wmm⟩ | ⟨other, member, wmm⟩)
        · exact ⟨payload, List.mem_cons_self, wmm⟩
        · exact ⟨other, List.mem_cons_of_mem _ member, wmm⟩
      · rintro ⟨other, member, wmm⟩
        obtain same | member := List.mem_cons.mp member
        · obtain ⟨rfl, rfl⟩ := Prod.mk.inj same
          exact .inl ⟨rfl, wmm⟩
        · exact .inr ⟨other, member, wmm⟩

/-- A byte that the count promises is there and in memory, and another is not there. -/
theorem byte_of_holds {count least : UInt8} {payload : List UInt8} {place ie : Nat}
    (holds : ies.Holds ie payload) (length_eq : payload.length = count.toNat)
    (least_eq : least.toNat = place + 1) :
    (count ≥ least ∧ ∃ byte, payload[place]? = some byte ∧ ies (ie + place) = some byte) ∨
      (¬count ≥ least ∧ payload[place]? = none) := by
  by_cases promised : count ≥ least
  · have inside : place < payload.length := by
      have promised : least.toNat ≤ count.toNat := UInt8.le_iff_toNat_le.mp promised
      omega
    exact .inl ⟨promised, payload[place], List.getElem?_eq_getElem inside, holds.get inside⟩
  · refine .inr ⟨promised, List.getElem?_eq_none ?_⟩
    have promised : ¬least.toNat ≤ count.toNat := fun le => promised (UInt8.le_iff_toNat_le.mpr le)
    omega

/-- The byte of one element, and those of the others. -/
theorem bytesAt_cons (eid id : UInt8) (place : Nat) (payload : List UInt8) :
    bytesAt eid place ((id, payload) :: es) =
      (if id = eid then payload[place]?.toList else []) ++ bytesAt eid place es := by
  by_cases here : id = eid
  · cases found : payload[place]? <;> simp [bytesAt, here, found]
  · simp [bytesAt, here]

/-- What an element leaves is the last byte of its kind so far. -/
theorem latestAt_of_holds {id count least : UInt8} {payload : List UInt8} {place ie : Nat}
    (holds : ies.Holds ie payload) (length_eq : payload.length = count.toNat)
    (least_eq : least.toNat = place + 1) (eid : UInt8) (old : Int) :
    ∃ latest, latestAt ies id count eid least (ie + place) old = some latest ∧
      latestOf latest (bytesAt eid place es) =
        latestOf old (bytesAt eid place ((id, payload) :: es)) := by
  rw [bytesAt_cons]
  by_cases here : id = eid
  · obtain ⟨promised, byte, found, byte_at⟩ | ⟨missing, found⟩ :=
      byte_of_holds holds length_eq least_eq
    · refine ⟨byte.toNat, by rw [latestAt, if_pos ⟨here, promised⟩, byte_at]; rfl, ?_⟩
      rw [if_pos here, found, latestOf, latestOf, Option.toList_some, List.getLast?_append]
      cases (bytesAt eid place es).getLast? <;> rfl
    · refine ⟨old, by rw [latestAt, if_neg fun both => missing both.2]; rfl, ?_⟩
      simp [found]
  · refine ⟨old, by rw [latestAt, if_neg fun both => here both.1]; rfl, ?_⟩
    simp [here]

/-- `cfg80211_get_ies_channel_number` finds the channel that the elements name. -/
theorem channelNumberFrom_of_walks (walks : Element.Walks ies len pos es)
    (htPrimary vhtPrimary : Int) : channelNumberFrom ies len pos htPrimary vhtPrimary =
      some (channelOf htPrimary vhtPrimary es) := by
  induction walks generalizing htPrimary vhtPrimary with
  | short short =>
    rw [channelNumberFrom, if_neg short]
    rfl
  | @cut pos id count room id_at count_at cut =>
    rw [channelNumberFrom, if_pos room]
    have short : len - (pos + 2) < count.toNat := by omega
    simp [id_at, count_at, short, channelOf, bytesAt, latestOf]
  | @whole pos id count payload es room id_at count_at fits length_eq holds behind ih =>
    rw [channelNumberFrom, if_pos room]
    have whole : ¬count.toNat > len - (pos + 2) := by omega
    have first : (count ≥ 1 ∧ ∃ byte, payload[0]? = some byte ∧ ies (pos + 2 + 0) = some byte) ∨
        (¬count ≥ 1 ∧ payload[0]? = none) := byte_of_holds holds length_eq rfl
    have ht_left : ∃ latest, latestAt ies id count wlanEidHtOperation 1 (pos + 2 + 0) htPrimary =
        some latest ∧ latestOf latest (bytesAt wlanEidHtOperation 0 es) =
          latestOf htPrimary (bytesAt wlanEidHtOperation 0 ((id, payload) :: es)) :=
      latestAt_of_holds holds length_eq rfl _ _
    have vht_left : ∃ latest, latestAt ies id count wlanEidVhtOperation 2 (pos + 2 + 1) vhtPrimary =
        some latest ∧ latestOf latest (bytesAt wlanEidVhtOperation 1 es) =
          latestOf vhtPrimary (bytesAt wlanEidVhtOperation 1 ((id, payload) :: es)) :=
      latestAt_of_holds holds length_eq rfl _ _
    obtain ⟨ht, ht_eq, ht_latest⟩ := ht_left
    obtain ⟨vht, vht_eq, vht_latest⟩ := vht_left
    rw [Nat.add_zero] at ht_eq first
    simp only [id_at, count_at, ht_eq, vht_eq, ih, Option.bind_eq_bind, Option.bind_some]
    rw [if_neg whole]
    have skip : bytesAt wlanEidDsParams 0 ((id, payload) :: es) = bytesAt wlanEidDsParams 0 es →
        some (channelOf ht vht es) =
          some (channelOf htPrimary vhtPrimary ((id, payload) :: es)) := by
      intro other
      rw [channelOf, channelOf, other, ht_latest, vht_latest]
    by_cases here : id = wlanEidDsParams
    · obtain ⟨promised, byte, found, byte_at⟩ | ⟨missing, found⟩ := first
      · rw [if_pos ⟨here, promised⟩, channelOf, bytesAt_cons, if_pos here, found]
        rw [byte_at]
        rfl
      · rw [if_neg fun both => missing both.2]
        exact skip (by rw [bytesAt_cons, if_pos here, found]; rfl)
    · rw [if_neg fun both => here both.1]
      exact skip (by rw [bytesAt_cons, if_neg here]; rfl)

end Walkers

/-- `elements` are the elements of a string. -/
theorem longest_elements (ies : List UInt8) : Element.Longest (elements ies) ies := by
  induction ies using elements.induct with
  | case1 id len rest cut =>
    rw [elements, if_pos cut]
    exact Element.longest_of_cut cut
  | case2 id len rest whole ih =>
    rw [elements, if_neg whole]
    exact .cons (Nat.le_of_not_lt whole) ih
  | case3 ies short =>
    obtain few | ⟨id, len, rest, rfl⟩ := Element.short_or_header ies
    · rw [elements.eq_2 ies short]
      exact Element.longest_of_short few
    · exact absurd rfl (short id len rest)

/-- The loops pass the elements of a string that is in memory. -/
theorem walks_elements (ies : List UInt8) :
    Element.Walks (.ofBytes ies) ies.length 0 (elements ies) := by
  have walks := (longest_elements ies).walks (Memory.holds_ofBytes ies)
  rwa [Nat.zero_add] at walks

/-- Where an element of a string is. -/
theorem eq_of_elements {ies payload : List UInt8} {front back : List Element} {eid : UInt8}
    (split : elements ies = front ++ (eid, payload) :: back) :
    ∃ count : UInt8, count = UInt8.ofNat payload.length ∧ count.toNat = payload.length ∧
      ∃ rest, ies = Element.encode front ++ eid :: count :: (payload ++ rest) := by
  have begins := (longest_elements ies).begins
  rw [split] at begins
  have small := begins.sized (eid, payload) (by simp)
  obtain ⟨rest, whole⟩ := begins.isPrefix
  refine ⟨_, rfl, Element.toNat_ofNat_length small, Element.encode back ++ rest, ?_⟩
  rw [← whole, Element.encode_append, Element.encode_cons]
  simp

/-- The three loops over information elements pass the same elements, those of the longest sequence
of whole ones that the string begins with, and read nothing behind the string: what
`lcompat_ieee80211_find_ie`, `lcompat_ieee80211_bss_has_wmm` and `cfg80211_get_ies_channel_number`
return is told by these elements. -/
theorem walkers_agree (ies : List UInt8) :
    Element.Longest (elements ies) ies ∧
    (∀ eid, findIeFrom (.ofBytes ies) ies.length eid 0 = some none ↔
      ∀ e ∈ elements ies, e.1 ≠ eid) ∧
    (∀ eid front payload back, elements ies = front ++ (eid, payload) :: back →
      (∀ e ∈ front, e.1 ≠ eid) →
      ∃ count : UInt8, count.toNat = payload.length ∧
        (∃ rest, ies = Element.encode front ++ eid :: count :: (payload ++ rest)) ∧
        findIeFrom (.ofBytes ies) ies.length eid 0 =
          some (some ((Element.encode front).length + 2, count))) ∧
    (∃ found, bssHasWmmFrom (.ofBytes ies) ies.length 0 = some found ∧
      (found = true ↔
        ∃ payload, (wlanEidVendorSpecific, payload) ∈ elements ies ∧ IsWmm payload)) ∧
    cfg80211GetIesChannelNumber (.ofBytes ies) ies.length =
      some (channelOf (-1) (-1) (elements ies)) := by
  have walks := walks_elements ies
  refine ⟨longest_elements ies, fun eid => ?_, fun eid front payload back split others => ?_,
    bssHasWmmFrom_of_walks walks, channelNumberFrom_of_walks walks (-1) (-1)⟩
  · rw [findIeFrom_of_walks walks, Option.some_inj, Element.locate_eq_none_iff]
  · obtain ⟨count, count_eq, counted, whole⟩ := eq_of_elements split
    refine ⟨count, counted, whole, ?_⟩
    rw [findIeFrom_of_walks walks, split, Element.locate_append others, count_eq, Nat.zero_add]

/-- `findIe` is the payload that `lcompat_ieee80211_find_ie` points to. -/
theorem findIeFrom_eq_findIe (ies : List UInt8) (eid : UInt8) :
    (findIeFrom (.ofBytes ies) ies.length eid 0).map
      (Option.map fun found => (ies.drop found.1).take found.2.toNat) = some (findIe ies eid) := by
  rw [findIeFrom_of_walks (walks_elements ies), Option.map_some, Option.some_inj]
  cases found : (elements ies).find? fun element => element.1 = eid with
  | none =>
    have others : ∀ e ∈ elements ies, e.1 ≠ eid := by simpa using List.find?_eq_none.mp found
    rw [Element.locate_eq_none_iff.mpr others, findIe, found]
    rfl
  | some e =>
    obtain ⟨same, front, back, split, others⟩ := List.find?_eq_some_iff_append.mp found
    have same : e.1 = eid := of_decide_eq_true same
    have others : ∀ e ∈ front, e.1 ≠ eid := by simpa using others
    rw [← e.eta, same] at split
    obtain ⟨count, count_eq, counted, rest, whole⟩ := eq_of_elements split
    rw [split, Element.locate_append others, findIe, found]
    rw [Option.map_some, Option.map_some, Option.some_inj, ← count_eq, counted, Nat.zero_add]
    rw [whole, ← List.drop_drop, List.drop_left']
    · simp
    · rfl

/-- `isWmmIe` tells WMM elements. -/
theorem isWmmIe_iff (ie : List UInt8) : isWmmIe ie = true ↔ IsWmm ie := by
  unfold isWmmIe
  split
  · rename_i subtype version rest
    have front : IsWmm ([0x00, 0x50, 0xf2, 0x02] ++ subtype :: version :: rest) ↔
        (subtype = 0 ∨ subtype = 1) ∧ version = 1 := isWmm_front_iff
    simp only [List.cons_append, List.nil_append] at front
    rw [front]
    simp
  · rename_i other
    simp only [Bool.false_eq_true, false_iff]
    rintro ⟨subtype, rest, rfl, -⟩
    exact other _ _ _ rfl

/-- `bssHasWmm` tells whether an element is a WMM element. -/
theorem bssHasWmm_iff (bss : ScanResult) : bssHasWmm bss = true ↔
    ∃ payload, (wlanEidVendorSpecific, payload) ∈ elements bss.ies ∧ IsWmm payload := by
  simp only [bssHasWmm, List.any_eq_true, Bool.and_eq_true, decide_eq_true_eq, isWmmIe_iff]
  constructor
  · rintro ⟨e, member, vendor, wmm⟩
    rw [← vendor]
    exact ⟨e.2, member, wmm⟩
  · rintro ⟨payload, member, wmm⟩
    exact ⟨_, member, rfl, wmm⟩

/-- `bssHasWmm` is what `lcompat_ieee80211_bss_has_wmm` returns. -/
theorem bssHasWmmFrom_eq_bssHasWmm (bss : ScanResult) :
    bssHasWmmFrom (.ofBytes bss.ies) bss.ies.length 0 = some (bssHasWmm bss) := by
  obtain ⟨found, ran, found_iff⟩ := bssHasWmmFrom_of_walks (walks_elements bss.ies)
  rw [ran, Option.some_inj, Bool.eq_iff_iff, found_iff, bssHasWmm_iff]

end Lcompat.Mac80211
