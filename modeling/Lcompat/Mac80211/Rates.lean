import Lcompat.Mac80211.Filling

/-!
# Rates

The rates that a station and its access point share are worked out three times from the same two
elements: for the association request, for the station entry, and for the basic rates of the
interface. The request takes the first mention of a rate and the masks take any, and where no rate
is shared the request names none while the station entry falls back to all.
-/

namespace Lcompat.Mac80211

open Lcompat.Logic
open Lcompat.Net

/-- A mask has a bit. -/
def HasBit (mask : UInt32) (i : Nat) : Prop := mask.toNat.testBit i = true

/-- A rate of a certain kind is among the rates of some elements. -/
def NamesRate (es : List Element) (kind : UInt8 → Prop) : Prop :=
  ∃ e ∈ es, (e.1 = wlanEidSuppRates ∨ e.1 = wlanEidExtSuppRates) ∧ ∃ byte ∈ e.2, kind byte

/-- A byte names a rate. -/
def IsRate (rate byte : UInt8) : Prop := byte &&& 0x7f = rate

/-- A byte names a rate and flags it as basic. -/
def IsBasicRate (rate byte : UInt8) : Prop := byte &&& 0x7f = rate ∧ byte &&& 0x80 ≠ 0

/-- A scan result has an element of rates. -/
def HasRates (bss : ScanResult) : Prop :=
  (findIe bss.ies wlanEidSuppRates).isSome = true ∨
    (findIe bss.ies wlanEidExtSuppRates).isSome = true

/-- A scan result names a rate of a band. -/
def SharesRate (sband : SupportedBand) (bss : ScanResult) : Prop :=
  ∃ bitrate ∈ sband.bitrates, ∃ byte ∈ scanRatesOf bss, IsRate (rateOf bitrate) byte

section Masks

variable {mask : UInt32} {i : Nat}

/-- A mask without bits is zero. -/
theorem eq_zero_of_hasBit (none : ∀ i, ¬HasBit mask i) : mask = 0 := by
  apply UInt32.toNat_inj.mp
  apply Nat.eq_of_testBit_eq
  intro i
  rw [UInt32.toNat_zero, Nat.zero_testBit]
  exact Bool.eq_false_iff.mpr (none i)

/-- Zero has no bits. -/
theorem not_hasBit_zero (i : Nat) : ¬HasBit 0 i := by
  simp [HasBit]

/-- A bit that is set. -/
theorem toNat_bit {k : Nat} (small : k < 32) : ((1 : UInt32) <<< UInt32.ofNat k).toNat = 2 ^ k := by
  have count : (UInt32.ofNat k).toNat = k := by
    rw [UInt32.toNat_ofNat']
    exact Nat.mod_eq_of_lt (by omega)
  have fits : 2 ^ k < 2 ^ 32 := Nat.pow_lt_pow_right (by decide) small
  rw [UInt32.toNat_shiftLeft, count, Nat.mod_eq_of_lt small, UInt32.toNat_one, Nat.one_shiftLeft,
    Nat.mod_eq_of_lt fits]

/-- Setting a bit. -/
theorem hasBit_or_bit {k : Nat} (small : k < 32) :
    HasBit (mask ||| ((1 : UInt32) <<< UInt32.ofNat k)) i ↔ HasBit mask i ∨ i = k := by
  rw [HasBit, UInt32.toNat_or, Nat.testBit_or, toNat_bit small, Nat.testBit_two_pow,
    Bool.or_eq_true, decide_eq_true_eq, HasBit, @eq_comm _ k i]

/-- The bits that a loop over bit rates sets. -/
theorem hasBit_foldl {passes : UInt8 → Bool} (bitrates : List Int) (k : Nat)
    (few : k + bitrates.length ≤ 32) :
    HasBit ((bitrates.zipIdx k).foldl (fun mask entry => if passes (rateOf entry.1) then
      mask ||| ((1 : UInt32) <<< UInt32.ofNat entry.2) else mask) mask) i ↔
      HasBit mask i ∨ ∃ j bitrate, i = k + j ∧ bitrates[j]? = some bitrate ∧
        passes (rateOf bitrate) = true := by
  induction bitrates generalizing k mask with
  | nil => simp
  | cons first bitrates ih =>
    have small : k < 32 := by
      simp only [List.length_cons] at few
      omega
    rw [List.zipIdx_cons, List.foldl_cons,
      ih (k + 1) (by simp only [List.length_cons] at few; omega)]
    constructor
    · rintro (here | ⟨j, bitrate, rfl, found, passed⟩)
      · by_cases passed : passes (rateOf first) = true
        · rw [if_pos passed, hasBit_or_bit small] at here
          obtain here | rfl := here
          · exact .inl here
          · exact .inr ⟨0, first, by omega, rfl, passed⟩
        · rw [if_neg passed] at here
          exact .inl here
      · exact .inr ⟨j + 1, bitrate, by omega, found, passed⟩
    · rintro (here | ⟨j, bitrate, rfl, found, passed⟩)
      · refine .inl ?_
        split
        · exact (hasBit_or_bit small).mpr (.inl here)
        · exact here
      · cases j with
        | zero =>
          obtain rfl := Option.some.inj found
          rw [if_pos passed]
          exact .inl ((hasBit_or_bit small).mpr (.inr rfl))
        | succ j => exact .inr ⟨j, bitrate, by omega, found, passed⟩

/-- The bits of a mask are those of the first 32 bit rates that pass its test. -/
theorem hasBit_ratesMask {bitrates : List Int} {passes : UInt8 → Bool}
    (few : bitrates.length ≤ 32) : HasBit (ratesMask bitrates passes) i ↔
      ∃ bitrate, bitrates[i]? = some bitrate ∧ passes (rateOf bitrate) = true := by
  rw [ratesMask, List.take_of_length_le few, hasBit_foldl bitrates 0 (by omega)]
  simp [not_hasBit_zero]

/-- The bits of the mask of all rates. -/
theorem hasBit_allRates {sband : SupportedBand} (few : sband.bitrates.length ≤ 24) :
    HasBit (allRates sband) i ↔ i < sband.bitrates.length := by
  have power := toNat_bit (show sband.bitrates.length < 32 by omega)
  have positive : 0 < 2 ^ sband.bitrates.length := Nat.two_pow_pos _
  have bounded : (1 : UInt32) ≤ (1 : UInt32) <<< UInt32.ofNat sband.bitrates.length := by
    rw [UInt32.le_iff_toNat_le, power, UInt32.toNat_one]
    exact positive
  rw [allRates, if_neg (by omega), HasBit, UInt32.toNat_sub_of_le _ _ bounded, power,
    UInt32.toNat_one, Nat.testBit_two_pow_sub_one, decide_eq_true_eq]

end Masks

section Request

variable {hw : Hw} {sband : SupportedBand} {bss : ScanResult}

/-- What the request says of a rate of the band: nothing, or whether it is basic. -/
def requestRate (bss : ScanResult) (rate : UInt8) : Option Bool :=
  sharedRate (findIe bss.ies wlanEidSuppRates) (findIe bss.ies wlanEidExtSuppRates) rate

/-- A rate that the request names, with its flag. -/
def flagged (rate : UInt8) (basic : Bool) : UInt8 := rate ||| (if basic then 0x80 else 0)

/-- A rate byte and its flag are told apart. -/
theorem flagged_parts {rate : UInt8} (positive : 1 ≤ rate.toNat) (small : rate.toNat ≤ 127)
    (basic : Bool) : flagged rate basic ≠ 0 ∧ flagged rate basic &&& 0x7f = rate ∧
      (flagged rate basic &&& 0x80 ≠ 0 ↔ basic = true) := by
  have all : ∀ n < 128, 1 ≤ n → ∀ basic : Bool, flagged (UInt8.ofNat n) basic ≠ 0 ∧
      flagged (UInt8.ofNat n) basic &&& 0x7f = UInt8.ofNat n ∧
      (flagged (UInt8.ofNat n) basic &&& 0x80 ≠ 0 ↔ basic = true) := by decide +kernel
  have here := all rate.toNat (by omega) positive basic
  rwa [UInt8.ofNat_toNat] at here

/-- A bit rate that is small enough is a rate byte. -/
theorem rateOf_bounds {bitrate : Int} (positive : 1 ≤ bitrate.tdiv 5)
    (small : bitrate.tdiv 5 ≤ 127) :
    1 ≤ (rateOf bitrate).toNat ∧ (rateOf bitrate).toNat ≤ 127 := by
  obtain ⟨n, same⟩ := Int.eq_ofNat_of_zero_le (show 0 ≤ bitrate.tdiv 5 by omega)
  have byte : (rateOf bitrate).toNat = n := by
    rw [rateOf, same]
    have whole : ((n : Int) % 2 ^ 8).toNat = n := by omega
    rw [UInt8.ofInt, whole, UInt8.toNat_ofNat']
    exact Nat.mod_eq_of_lt (by omega)
  rw [byte]
  omega

/-- The rates of an association request are those of the band that it names, all of them. -/
theorem assocReqRates_eq (band : hw.currentBand = some sband) (few : sband.bitrates.length ≤ 24)
    (bytes : ∀ bitrate ∈ sband.bitrates, 1 ≤ bitrate.tdiv 5 ∧ bitrate.tdiv 5 ≤ 127) :
    (assocReqRates hw bss).1 ++ (assocReqRates hw bss).2 = sband.bitrates.filterMap fun bitrate =>
      (requestRate bss (rateOf bitrate)).map (flagged (rateOf bitrate)) := by
  generalize rates_eq : (sband.bitrates.filterMap fun bitrate =>
    (requestRate bss (rateOf bitrate)).map (flagged (rateOf bitrate))) = rates
  have length_le : rates.length ≤ 24 := by
    rw [← rates_eq]
    exact (List.length_filterMap_le _ _).trans few
  have nonzero : ∀ rate ∈ rates, rate ≠ 0 := by
    intro rate member
    rw [← rates_eq, List.mem_filterMap] at member
    obtain ⟨bitrate, member, found⟩ := member
    obtain ⟨basic, -, rfl⟩ := Option.map_eq_some_iff.mp found
    obtain ⟨positive, small⟩ := bytes bitrate member
    obtain ⟨positive, small⟩ := rateOf_bounds positive small
    exact (flagged_parts positive small basic).1
  have built : buildSupportedRatesIe hw bss 8 16 = (rates.take 8, (rates.drop 8).take 16) := by
    rw [buildSupportedRatesIe, band, ← rates_eq]
    rfl
  have rest : (rates.drop 8).take 16 = rates.drop 8 :=
    List.take_of_length_le (by rw [List.length_drop]; omega)
  have first : (rates.take 8).takeWhile (· ≠ 0) = rates.take 8 := by
    rw [List.takeWhile_eq_self_iff]
    intro rate member
    exact decide_eq_true (nonzero rate (List.mem_of_mem_take member))
  have second : (rates.drop 8).takeWhile (· ≠ 0) = rates.drop 8 := by
    rw [List.takeWhile_eq_self_iff]
    intro rate member
    exact decide_eq_true (nonzero rate (List.mem_of_mem_drop member))
  simp only [assocReqRates, built, rest, first, second]
  exact List.take_append_drop 8 rates

/-- The rates of one element and of others. -/
theorem namesRate_cons {e : Element} {es : List Element} {kind : UInt8 → Prop} :
    NamesRate (e :: es) kind ↔
      ((e.1 = wlanEidSuppRates ∨ e.1 = wlanEidExtSuppRates) ∧ ∃ byte ∈ e.2, kind byte) ∨
        NamesRate es kind := by
  simp only [NamesRate, List.mem_cons, or_and_right, exists_or, exists_eq_left]

/-- The rates of elements one behind the other. -/
theorem namesRate_append {front back : List Element} {kind : UInt8 → Prop} :
    NamesRate (front ++ back) kind ↔ NamesRate front kind ∨ NamesRate back kind := by
  simp only [NamesRate, List.mem_append, or_and_right, exists_or]

/-- The rates among the elements of a request. -/
theorem namesRate_requestElements {ssid suppRates extRates : List UInt8} {wmm : Bool}
    {kind : UInt8 → Prop} : NamesRate (requestElements ssid suppRates extRates wmm) kind ↔
      ∃ byte ∈ suppRates ++ extRates, kind byte := by
  have rates : ∀ eid rates, (eid = wlanEidSuppRates ∨ eid = wlanEidExtSuppRates) →
      (NamesRate (ratesElement eid rates) kind ↔ ∃ byte ∈ rates, kind byte) := by
    intro eid rates which
    unfold ratesElement NamesRate
    split
    · rename_i empty
      simp [empty]
    · simp [which]
  have parts : NamesRate (requestElements ssid suppRates extRates wmm) kind ↔
      NamesRate (ratesElement wlanEidSuppRates suppRates) kind ∨
        NamesRate (ratesElement wlanEidExtSuppRates extRates) kind := by
    have ssid_apart : ¬(wlanEidSsid = wlanEidSuppRates ∨ wlanEidSsid = wlanEidExtSuppRates) := by
      decide
    have wmm_apart : ¬(wmmElement.1 = wlanEidSuppRates ∨ wmmElement.1 = wlanEidExtSuppRates) := by
      decide
    have info : ¬NamesRate (if wmm then [wmmElement] else []) kind := by
      cases wmm
      · simp [NamesRate]
      · simp only [NamesRate, ↓reduceIte, List.mem_singleton, exists_eq_left]
        exact fun named => wmm_apart named.1
    rw [requestElements, namesRate_cons, namesRate_append, namesRate_append, or_iff_left info]
    simp only [ssid_apart, false_and, false_or]
  rw [parts, rates _ _ (.inl rfl), rates _ _ (.inr rfl)]
  simp only [List.mem_append, or_and_right, exists_or]

/-- What the rates of a request say of a rate of the band. -/
theorem namesRate_iff (band : hw.currentBand = some sband) (few : sband.bitrates.length ≤ 24)
    (bytes : ∀ bitrate ∈ sband.bitrates, 1 ≤ bitrate.tdiv 5 ∧ bitrate.tdiv 5 ≤ 127)
    {ssid : List UInt8} {wmm : Bool} {bitrate : Int} (member : bitrate ∈ sband.bitrates) :
    (NamesRate (requestElements ssid (assocReqRates hw bss).1 (assocReqRates hw bss).2 wmm)
      (IsRate (rateOf bitrate)) ↔ (requestRate bss (rateOf bitrate)).isSome = true) ∧
    (NamesRate (requestElements ssid (assocReqRates hw bss).1 (assocReqRates hw bss).2 wmm)
      (IsBasicRate (rateOf bitrate)) ↔ requestRate bss (rateOf bitrate) = some true) := by
  have parts : ∀ other ∈ sband.bitrates, ∀ basic,
      flagged (rateOf other) basic &&& 0x7f = rateOf other ∧
      (flagged (rateOf other) basic &&& 0x80 ≠ 0 ↔ basic = true) := by
    intro other member basic
    obtain ⟨positive, small⟩ := bytes other member
    obtain ⟨positive, small⟩ := rateOf_bounds positive small
    exact (flagged_parts positive small basic).2
  rw [namesRate_requestElements, namesRate_requestElements, assocReqRates_eq band few bytes]
  constructor
  · constructor
    · rintro ⟨byte, named, same⟩
      obtain ⟨other, other_member, found⟩ := List.mem_filterMap.mp named
      obtain ⟨basic, mentioned, rfl⟩ := Option.map_eq_some_iff.mp found
      have equal : rateOf other = rateOf bitrate :=
        (parts other other_member basic).1.symm.trans same
      rw [← equal, mentioned]
      rfl
    · intro found
      obtain ⟨basic, found⟩ := Option.isSome_iff_exists.mp found
      refine ⟨flagged (rateOf bitrate) basic, List.mem_filterMap.mpr ⟨bitrate, member, ?_⟩,
        (parts bitrate member basic).1⟩
      rw [found]
      rfl
  · constructor
    · rintro ⟨byte, named, same, basic_flag⟩
      obtain ⟨other, other_member, found⟩ := List.mem_filterMap.mp named
      obtain ⟨basic, mentioned, rfl⟩ := Option.map_eq_some_iff.mp found
      have equal : rateOf other = rateOf bitrate :=
        (parts other other_member basic).1.symm.trans same
      rw [← equal, mentioned, (parts other other_member basic).2.mp basic_flag]
    · intro found
      refine ⟨flagged (rateOf bitrate) true, List.mem_filterMap.mpr ⟨bitrate, member, ?_⟩,
        (parts bitrate member true).1, (parts bitrate member true).2.mpr rfl⟩
      rw [found]
      rfl

end Request

/-- The three loops agree about a scan result: the station entry falls back to all rates only where
the request names all, and the first mention of a rate is flagged as basic if any is. -/
structure RatesAgree (chan : Channel) (sband : SupportedBand) (bss : ScanResult) : Prop where
  /-- A rate is shared, or the fallback is what the request says. -/
  shared : sband.bitrates = [] ∨ SharesRate sband bss ∨
    (¬HasRates bss ∧ (bss.ies = [] ∨ sband.band = chan.band)) ∨
    (HasRates bss ∧ sband.band ≠ chan.band)
  /-- The first mention of a rate is flagged if any is. -/
  first : ∀ bitrate ∈ sband.bitrates, ∀ byte ∈ scanRatesOf bss, IsBasicRate (rateOf bitrate) byte →
    ∃ first, (scanRatesOf bss).find? (fun other => other &&& 0x7f = rateOf bitrate) = some first ∧
      first &&& 0x80 ≠ 0

section Masks

variable {hw : Hw} {chan : Channel} {sband : SupportedBand} {bss : ScanResult}

/-- A scan result that names a rate has an element of rates. -/
theorem hasRates_of_mem {byte : UInt8} (member : byte ∈ scanRatesOf bss) : HasRates bss := by
  rcases List.mem_append.mp member with member | member
  · cases found : findIe bss.ies wlanEidSuppRates with
    | none => simp [found] at member
    | some rates => exact .inl (by rw [found]; rfl)
  · cases found : findIe bss.ies wlanEidExtSuppRates with
    | none => simp [found] at member
    | some rates => exact .inr (by rw [found]; rfl)

/-- A scan result with an element of rates has elements. -/
theorem ies_ne_nil_of_hasRates (rates : HasRates bss) : bss.ies ≠ [] := by
  intro empty
  simp [HasRates, findIe, empty, elements] at rates

/-- What the request says of a rate when the scan result has elements of rates. -/
theorem requestRate_of_hasRates (rates : HasRates bss) (rate : UInt8) : requestRate bss rate =
    ((scanRatesOf bss).find? fun other => other &&& 0x7f = rate).map
      fun other => decide (other &&& 0x80 ≠ 0) := by
  have given : ((findIe bss.ies wlanEidSuppRates).isNone &&
      (findIe bss.ies wlanEidExtSuppRates).isNone) ≠ true := by
    intro none
    rw [Bool.and_eq_true, Option.isNone_iff_eq_none, Option.isNone_iff_eq_none] at none
    simp [HasRates, none.1, none.2] at rates
  rw [requestRate, sharedRate, if_neg given, scanRatesOf]
  split
  · rename_i other found
    rw [found]
    rfl
  · rename_i found
    rw [found]
    rfl

/-- What the request says of a rate when the scan result has no element of rates. -/
theorem requestRate_of_not_hasRates (rates : ¬HasRates bss) (rate : UInt8) :
    requestRate bss rate = some false := by
  simp only [HasRates, not_or, Bool.not_eq_true, Option.isSome_eq_false_iff] at rates
  rw [requestRate, sharedRate, if_pos (by rw [rates.1, rates.2]; rfl)]

/-- The request names a rate that the scan result names. -/
theorem isSome_requestRate_iff (rates : HasRates bss) (rate : UInt8) :
    (requestRate bss rate).isSome = true ↔ ∃ byte ∈ scanRatesOf bss, IsRate rate byte := by
  rw [requestRate_of_hasRates rates, Option.isSome_map, List.find?_isSome]
  simp only [IsRate, decide_eq_true_eq]

/-- The rates of a station entry on the band of its channel. -/
theorem staRates_band (known : hw.bands chan.band = some sband) :
    staRates hw chan bss chan.band =
      if supportedRatesMask hw bss ≠ 0 then supportedRatesMask hw bss
      else if chan.band = sband.band then allRates sband else 0 := by
  simp only [staRates, known]
  split
  · rw [Function.update_self]
  · rfl

/-- The mask of a scan result with elements has the rates that it names. -/
theorem hasBit_supportedRatesMask (band : hw.currentBand = some sband)
    (few : sband.bitrates.length ≤ 24) (filled : bss.ies ≠ []) (i : Nat) :
    HasBit (supportedRatesMask hw bss) i ↔ ∃ bitrate, sband.bitrates[i]? = some bitrate ∧
      ∃ byte ∈ scanRatesOf bss, IsRate (rateOf bitrate) byte := by
  rw [supportedRatesMask, band]
  simp only
  rw [if_neg filled, hasBit_ratesMask (by omega)]
  simp only [List.any_eq_true, decide_eq_true_eq, IsRate]

/-- The station entry has the rates of the request exactly when a rate is shared or the fallback is
what the request says. -/
theorem staRates_agree_iff (known : hw.bands chan.band = some sband)
    (band : hw.currentBand = some sband) (few : sband.bitrates.length ≤ 24) :
    (∀ i bitrate, sband.bitrates[i]? = some bitrate →
      (HasBit (staRates hw chan bss chan.band) i ↔
        (requestRate bss (rateOf bitrate)).isSome = true)) ↔
      sband.bitrates = [] ∨ SharesRate sband bss ∨
        (¬HasRates bss ∧ (bss.ies = [] ∨ sband.band = chan.band)) ∨
        (HasRates bss ∧ sband.band ≠ chan.band) := by
  rw [staRates_band known]
  by_cases table : sband.bitrates = []
  · simp [table]
  by_cases share : SharesRate sband bss
  · obtain ⟨bitrate, member, byte, named, same⟩ := share
    have rates : HasRates bss := hasRates_of_mem named
    have bits := hasBit_supportedRatesMask band few (ies_ne_nil_of_hasRates rates)
    have nonzero : supportedRatesMask hw bss ≠ 0 := by
      intro zero
      obtain ⟨i, found⟩ := List.mem_iff_getElem?.mp member
      rw [zero] at bits
      exact not_hasBit_zero i ((bits i).mpr ⟨bitrate, found, byte, named, same⟩)
    refine iff_of_true (fun i bitrate found => ?_)
      (.inr (.inl ⟨bitrate, member, byte, named, same⟩))
    rw [if_pos nonzero, bits, found, isSome_requestRate_iff rates]
    simp
  · have positive : 0 < sband.bitrates.length := List.length_pos_of_ne_nil table
    have all : ∀ (i : Nat) (bitrate : Int), sband.bitrates[i]? = some bitrate →
        HasBit (allRates sband) i := by
      intro i bitrate found
      exact (hasBit_allRates few).mpr (List.getElem?_eq_some_iff.mp found).1
    have first : sband.bitrates[0]? = some sband.bitrates[0] := List.getElem?_eq_getElem positive
    by_cases empty : bss.ies = []
    · have silent : ¬HasRates bss := fun rates => ies_ne_nil_of_hasRates rates empty
      have whole : supportedRatesMask hw bss = allRates sband := by
        rw [supportedRatesMask, band]
        simp only
        rw [if_pos empty]
      have nonzero : allRates sband ≠ 0 := by
        intro zero
        have bit := all 0 _ first
        rw [zero] at bit
        exact not_hasBit_zero 0 bit
      refine iff_of_true (fun i bitrate found => ?_) (.inr (.inr (.inl ⟨silent, .inl empty⟩)))
      rw [whole, if_pos nonzero, requestRate_of_not_hasRates silent]
      exact iff_of_true (all i bitrate found) rfl
    · have zero : supportedRatesMask hw bss = 0 := by
        refine eq_zero_of_hasBit fun i bit => share ?_
        obtain ⟨bitrate, found, named⟩ := (hasBit_supportedRatesMask band few empty i).mp bit
        exact ⟨bitrate, List.mem_of_getElem? found, named⟩
      rw [zero, if_neg (by simp)]
      by_cases rates : HasRates bss
      · have unnamed : ∀ (i : Nat) (bitrate : Int), sband.bitrates[i]? = some bitrate →
            ¬(requestRate bss (rateOf bitrate)).isSome = true := by
          intro i bitrate found named
          exact share ⟨bitrate, List.mem_of_getElem? found,
            (isSome_requestRate_iff rates _).mp named⟩
        by_cases placed : chan.band = sband.band
        · rw [if_pos placed]
          refine iff_of_false (fun agree => ?_) ?_
          · exact unnamed 0 _ first ((agree 0 _ first).mp (all 0 _ first))
          · simp [table, share, rates, placed]
        · rw [if_neg placed]
          refine iff_of_true (fun i bitrate found => ?_) ?_
          · exact iff_of_false (not_hasBit_zero i) (unnamed i bitrate found)
          · exact .inr (.inr (.inr ⟨rates, Ne.symm placed⟩))
      · by_cases placed : chan.band = sband.band
        · rw [if_pos placed]
          refine iff_of_true (fun i bitrate found => ?_) ?_
          · rw [requestRate_of_not_hasRates rates]
            exact iff_of_true (all i bitrate found) rfl
          · exact .inr (.inr (.inl ⟨rates, .inr placed.symm⟩))
        · rw [if_neg placed]
          refine iff_of_false (fun agree => ?_) ?_
          · have named := agree 0 _ first
            rw [requestRate_of_not_hasRates rates] at named
            exact not_hasBit_zero 0 (named.mpr rfl)
          · simp [table, share, rates, empty, Ne.symm placed]

/-- The basic rates of the interface are those of the request exactly when the first mention of a
rate is flagged if any is. -/
theorem basicRates_agree_iff (band : hw.currentBand = some sband)
    (few : sband.bitrates.length ≤ 24) :
    (∀ i bitrate, sband.bitrates[i]? = some bitrate →
      (HasBit (basicRatesMask hw bss) i ↔ requestRate bss (rateOf bitrate) = some true)) ↔
      ∀ bitrate ∈ sband.bitrates, ∀ byte ∈ scanRatesOf bss, IsBasicRate (rateOf bitrate) byte →
        ∃ first, (scanRatesOf bss).find? (fun other => other &&& 0x7f = rateOf bitrate) =
          some first ∧ first &&& 0x80 ≠ 0 := by
  have bits : ∀ (i : Nat) (bitrate : Int), sband.bitrates[i]? = some bitrate →
      (HasBit (basicRatesMask hw bss) i ↔
        ∃ byte ∈ scanRatesOf bss, IsBasicRate (rateOf bitrate) byte) := by
    intro i bitrate found
    rw [basicRatesMask, band]
    simp only
    rw [hasBit_ratesMask (by omega), found]
    simp [IsBasicRate]
  have asked : ∀ rate, requestRate bss rate = some true ↔ ∃ first,
      (scanRatesOf bss).find? (fun other => other &&& 0x7f = rate) = some first ∧
        first &&& 0x80 ≠ 0 := by
    intro rate
    by_cases rates : HasRates bss
    · rw [requestRate_of_hasRates rates, Option.map_eq_some_iff]
      simp only [decide_eq_true_eq]
    · rw [requestRate_of_not_hasRates rates]
      refine iff_of_false (by simp) ?_
      rintro ⟨first, found, -⟩
      exact rates (hasRates_of_mem (List.mem_of_find?_eq_some found))
  constructor
  · intro agree bitrate member byte named basic
    obtain ⟨i, found⟩ := List.mem_iff_getElem?.mp member
    exact (asked _).mp ((agree i bitrate found).mp
      ((bits i bitrate found).mpr ⟨byte, named, basic⟩))
  · intro firsts i bitrate found
    rw [bits i bitrate found, asked]
    constructor
    · rintro ⟨byte, named, basic⟩
      exact firsts bitrate (List.mem_of_getElem? found) byte named basic
    · rintro ⟨first, here, flag⟩
      have same : first &&& 0x7f = rateOf bitrate := by
        simpa using List.find?_some here
      exact ⟨first, List.mem_of_find?_eq_some here, same, flag⟩

end Masks

/-- Allocating leaves the runtime as it is. -/
theorem after_kzallocAll (env : Env) (count : Nat) (m : Machine) :
    (kzallocAll env count).after (fun _ m' => m'.rt = m.rt) m := by
  induction count generalizing m with
  | zero => rw [kzallocAll, Program.after_pure]
  | succ count ih =>
    simp only [kzallocAll, Program.after_bind, after_ask, Program.after_ite, Program.after_pure]
    split
    · exact ih _
    · trivial

/-- A station entry that is allocated has the rates that the access point calls for. -/
theorem after_allocSta_rates (env : Env) (bss : ScanResult) (m : Machine) :
    (allocSta env bss).after (fun ret m' => ret = 0 → m'.rt.hw = m.rt.hw ∧ ∃ chan sta,
      m.rt.hw.chandef.chan = some chan ∧ m'.rt.sta = some sta ∧
        sta.suppRates = staRates m.rt.hw chan bss) m := by
  simp only [allocSta, Program.after_bind, after_runtime, Program.after_ite, Program.after_pure]
  split
  · simp [EINVAL]
  split
  · simp [EINVAL]
  refine (after_kzallocAll env 17 m).mono fun given m₁ same => ?_
  split
  · simp [ENOMEM]
  simp only [Program.after_require, after_change]
  intro chan tuned _
  exact ⟨congrArg Runtime.hw same, chan, _, tuned, rfl, by rw [same]⟩

/-- A station that is connected has the rates that its access point calls for. -/
theorem after_connectComplete_rates (env : Env) (bss : ScanResult) (aid : UInt16) (m : Machine) :
    (connectComplete env bss aid).after (fun ret m' => ret = 0 → ∃ chan sta vif,
      m.rt.hw.chandef.chan = some chan ∧ m'.rt.sta = some sta ∧ m'.rt.vif = some vif ∧
      sta.suppRates = staRates m.rt.hw chan bss ∧
      vif.bssConf.basicRates = basicRatesMask m.rt.hw bss) m := by
  simp only [connectComplete, freeSta, Program.after_bind, after_runtime, Program.after_ite,
    Program.after_pure, after_change]
  split
  · simp [EINVAL]
  refine (after_allocSta_rates env bss _).mono fun ret m₁ allocated => ?_
  split
  · exact fun zero => absurd zero ‹_›
  rename_i zero
  obtain ⟨hw_eq, chan, sta, tuned, entry, rates⟩ := allocated (not_not.mp zero)
  have added : (callStaAdd env).after (fun _ m₂ => m₂.rt = m₁.rt) m₁ := by
    simp [callStaAdd]
  refine added.mono fun ret' m₂ kept => ?_
  split
  · exact fun zero => absurd zero ‹_›
  simp only [enterConnected, Program.after_bind, after_runtime, Program.after_require, after_change]
  intro vif here
  simp only [callBssInfoChanged, setLinkState, updateWirelessInfo, Program.after_bind,
    after_runtime, Program.after_ite, Program.after_pure, after_note, ite_self]
  intro _
  refine ⟨chan, sta, _, tuned, ?_, rfl, rates, ?_⟩
  · rw [kept, entry]
  · rw [Vif.joined, kept, hw_eq]

/-- The claim about one association: the station entry and the basic rates of the interface say what
the elements of the request say. -/
def SameRates (chan : Channel) (sband : SupportedBand) (es : List Element) (sta : Sta)
    (vif : Vif) : Prop :=
  ∀ (i : Nat) (bitrate : Int), sband.bitrates[i]? = some bitrate →
    (HasBit (sta.suppRates chan.band) i ↔ NamesRate es (IsRate (rateOf bitrate))) ∧
    (HasBit vif.bssConf.basicRates i ↔ NamesRate es (IsBasicRate (rateOf bitrate)))

/-- After an association the station entry and the basic rates agree with the request that was sent
exactly when the three loops agree about the scan result. -/
theorem same_rates_iff {env env' : Env} {m₁ m₁' m₂ m₂' : Machine} {bss : ScanResult} {aid : UInt16}
    {chan : Channel} {sband : SupportedBand} (sent : sendAssocReq env bss m₁ = some (0, m₁'))
    (completed : connectComplete env' bss aid m₂ = some (0, m₂'))
    (tuned₁ : m₁.rt.hw.chandef.chan = some chan) (known₁ : m₁.rt.hw.bands chan.band = some sband)
    (tuned₂ : m₂.rt.hw.chandef.chan = some chan) (known₂ : m₂.rt.hw.bands chan.band = some sband)
    (few : sband.bitrates.length ≤ 24)
    (bytes : ∀ bitrate ∈ sband.bitrates, 1 ≤ bitrate.tdiv 5 ∧ bitrate.tdiv 5 ≤ 127) :
    ∃ id front es rest sta vif,
      m₁'.trace = .tx id (some (front ++ Element.encode es)) :: rest ∧
      front.length = assocReqFrameLen.toNat ∧ Element.Longest es (Element.encode es) ∧
      m₂'.rt.sta = some sta ∧ m₂'.rt.vif = some vif ∧
      (SameRates chan sband es sta vif ↔ RatesAgree chan sband bss) := by
  obtain ⟨ssid_le, id, front, rest, handed, -, fixed⟩ :=
    (after_sendAssocReq env bss m₁ _ _ sent).2 rfl
  obtain ⟨chan', sta, vif, tuned', entry, here, rates, basic⟩ :=
    after_connectComplete_rates env' bss aid m₂ _ _ completed rfl
  obtain rfl := Option.some.inj (tuned'.symm.trans tuned₂)
  have band₁ : m₁.rt.hw.currentBand = some sband := by
    rw [Hw.currentBand, tuned₁, Option.bind_some, known₁]
  have band₂ : m₂.rt.hw.currentBand = some sband := by
    rw [Hw.currentBand, tuned₂, Option.bind_some, known₂]
  obtain ⟨supp_le, ext_le⟩ := length_assocReqRates_le m₁.rt.hw bss
  refine ⟨id, front, _, rest, sta, vif, handed, fixed,
    Element.longest_encode (sized_requestElements _ ssid_le supp_le ext_le), entry, here, ?_⟩
  have supported : _ ↔ _ := @staRates_agree_iff m₂.rt.hw chan' sband bss known₂ band₂ few
  have basics : _ ↔ _ := @basicRates_agree_iff m₂.rt.hw sband bss band₂ few
  rw [SameRates, rates, basic]
  constructor
  · intro same
    refine ⟨supported.mp fun i bitrate found => ?_, basics.mp fun i bitrate found => ?_⟩
    · rw [← (namesRate_iff band₁ few bytes (List.mem_of_getElem? found)).1]
      exact (same i bitrate found).1
    · rw [← (namesRate_iff band₁ few bytes (List.mem_of_getElem? found)).2]
      exact (same i bitrate found).2
  · intro agree i bitrate found
    obtain ⟨named, flagged⟩ :=
      @namesRate_iff m₁.rt.hw sband bss band₁ few bytes m₁.rt.connectParams.ssid (bssHasWmm bss)
        bitrate (List.mem_of_getElem? found)
    rw [named, flagged]
    exact ⟨supported.mpr agree.shared i bitrate found, basics.mpr agree.first i bitrate found⟩

/-- A scan result that names one rate, as it is flagged. -/
def rateResult (rate : UInt8) : ScanResult :=
  { ScanResult.zero with ies := [wlanEidSuppRates, 1, rate] }

/-- An association with an access point whose one rate is that of the station. -/
theorem same_rates_one_rate : ∃ m₁' m₂' id front es rest sta vif,
    sendAssocReq .kind (rateResult 0x82) tunedMachine = some (0, m₁') ∧
    connectComplete .kind (rateResult 0x82) 1 tunedMachine = some (0, m₂') ∧
    m₁'.trace = .tx id (some (front ++ Element.encode es)) :: rest ∧ m₂'.rt.sta = some sta ∧
    m₂'.rt.vif = some vif ∧ SameRates ⟨0, 0, 2412⟩ ⟨0, [⟨0, 0, 2412⟩], [10]⟩ es sta vif := by
  have sent : (sendAssocReq .kind (rateResult 0x82) tunedMachine).map Prod.fst = some 0 := by
    decide +kernel
  have completed : (connectComplete .kind (rateResult 0x82) 1 tunedMachine).map Prod.fst =
      some 0 := by
    decide +kernel
  obtain ⟨⟨_, m₁'⟩, sent, rfl⟩ := Option.map_eq_some_iff.mp sent
  obtain ⟨⟨_, m₂'⟩, completed, rfl⟩ := Option.map_eq_some_iff.mp completed
  have shared : SharesRate ⟨0, [⟨0, 0, 2412⟩], [10]⟩ (rateResult 0x82) :=
    ⟨10, by simp, 0x82, by decide +kernel, show (0x82 : UInt8) &&& 0x7f = rateOf 10 by decide⟩
  have agree : RatesAgree ⟨0, 0, 2412⟩ ⟨0, [⟨0, 0, 2412⟩], [10]⟩ (rateResult 0x82) := by
    refine ⟨.inr (.inl shared), fun bitrate member byte named basic => ?_⟩
    obtain rfl := List.mem_singleton.mp member
    exact ⟨0x82, by decide +kernel, by decide⟩
  have same := same_rates_iff sent completed rfl rfl rfl rfl (by decide) (by decide)
  obtain ⟨id, front, es, rest, sta, vif, handed, -, -, entry, here, same⟩ := same
  exact ⟨m₁', m₂', id, front, es, rest, sta, vif, sent, completed, handed, entry, here,
    same.mpr agree⟩

/-- An association with an access point that names a rate that the station does not have: the
request names no rate, and the station entry has the rate of the station. -/
theorem foreign_rate_not_same : ∃ m₁' m₂' id front es rest sta vif,
    sendAssocReq .kind (rateResult 0x96) tunedMachine = some (0, m₁') ∧
    connectComplete .kind (rateResult 0x96) 1 tunedMachine = some (0, m₂') ∧
    m₁'.trace = .tx id (some (front ++ Element.encode es)) :: rest ∧
    front.length = assocReqFrameLen.toNat ∧ Element.Longest es (Element.encode es) ∧
    m₂'.rt.sta = some sta ∧ m₂'.rt.vif = some vif ∧
    ¬SameRates ⟨0, 0, 2412⟩ ⟨0, [⟨0, 0, 2412⟩], [10]⟩ es sta vif := by
  have sent : (sendAssocReq .kind (rateResult 0x96) tunedMachine).map Prod.fst = some 0 := by
    decide +kernel
  have completed : (connectComplete .kind (rateResult 0x96) 1 tunedMachine).map Prod.fst =
      some 0 := by
    decide +kernel
  obtain ⟨⟨_, m₁'⟩, sent, rfl⟩ := Option.map_eq_some_iff.mp sent
  obtain ⟨⟨_, m₂'⟩, completed, rfl⟩ := Option.map_eq_some_iff.mp completed
  obtain ⟨ssid_le, id, front, rest, handed, -, fixed⟩ := (after_sendAssocReq _ _ _ _ _ sent).2 rfl
  obtain ⟨chan, sta, vif, tuned, entry, here, rates, -⟩ :=
    after_connectComplete_rates _ _ _ _ _ _ completed rfl
  obtain ⟨supp_le, ext_le⟩ := length_assocReqRates_le tunedMachine.rt.hw (rateResult 0x96)
  refine ⟨m₁', m₂', id, front, _, rest, sta, vif, sent, completed, handed, fixed,
    Element.longest_encode (sized_requestElements _ ssid_le supp_le ext_le), entry, here, ?_⟩
  intro same
  have bit : HasBit (sta.suppRates 0) 0 := by
    have own : (staRates tunedMachine.rt.hw ⟨0, 0, 2412⟩ (rateResult 0x96) 0).toNat.testBit 0 =
        true := by
      decide +kernel
    rw [rates, ← Option.some.inj tuned]
    exact own
  obtain ⟨byte, named, -⟩ := namesRate_requestElements.mp ((same 0 10 rfl).1.mp bit)
  have none : (assocReqRates tunedMachine.rt.hw (rateResult 0x96)).1 ++
      (assocReqRates tunedMachine.rt.hw (rateResult 0x96)).2 = [] := by
    decide +kernel
  rw [none] at named
  cases named

end Lcompat.Mac80211
