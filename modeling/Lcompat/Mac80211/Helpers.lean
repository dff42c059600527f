import Lcompat.Mac80211.Delivery
import Lcompat.Mac80211.Elements

/-!
# Helper frames

The functions of `mac80211.h` that hand a driver a frame of its own: a probe request, a probe
response, a beacon, a PS-Poll and a null function frame. Each one allocates a buffer with the
headroom of the device, puts a header of three addresses into it and returns it, or frees it again
where there is no room. What a buffer holds behind its header is what the page held, unless it is
written.
-/

namespace Lcompat.Mac80211

open Lcompat.Logic
open Lcompat.Net

/-- What happens to the buffer of a helper frame. -/
inductive SkbEvent where
  /-- It is allocated. -/
  | alloc
  /-- It is freed. -/
  | free
  deriving DecidableEq

/-- A buffer that may have been allocated, with what has happened to it. -/
abbrev MaybeSkb := Option SkBuff × List SkbEvent

/-- `lcompat_ieee80211_extra_tx_headroom`. -/
def extraTxHeadroom (hw : Option Hw) : Nat :=
  match hw with
  | none => 0
  | some hw => if hw.extraTxHeadroom ≤ 0 then 0 else hw.extraTxHeadroom.toNat

/-- `lcompat_ieee80211_alloc_helper_skb`, given what the allocation comes to. -/
def allocHelperSkb (page : Page) (id : Nat) (hw : Option Hw) (payloadLen tailroom : Nat) :
    MaybeSkb :=
  let headroom := extraTxHeadroom hw
  match (sizeAdd headroom payloadLen).bind fun skbLen => sizeAdd skbLen tailroom with
  | none => (none, [])
  | some skbLen =>
    if skbLen > uintMax ∨ headroom > uintMax then (none, [])
    else
      match Net.allocSkb page id skbLen with
      | none => (none, [])
      | some skb =>
        (some (if headroom ≠ 0 then skbReserve skb (UInt32.ofNat headroom) else skb), [.alloc])

/-- `lcompat_ieee80211_vif_bssid`. -/
def vifBssid (vif : Option Vif) : Option EtherAddr :=
  vif.map fun vif =>
    if !isZeroEtherAddr vif.bssConf.bssid then vif.bssConf.bssid else vif.addr

/-- `lcompat_ieee80211_copy_addr`, as the address that is copied. -/
def copyAddr (src : Option EtherAddr) (broadcastIfNull : Bool) : EtherAddr :=
  match src with
  | some src => src
  | none => if broadcastIfNull then .broadcast else .zero

/-- `lcompat_ieee80211_fill_3addr`, at an offset. -/
def fill3addr (skb : SkBuff) (hdr : Nat) (fc : UInt16) (addr1 addr2 addr3 : Option EtherAddr) :
    SkBuff :=
  let skb := skb.write hdr (cpuToLe16 fc)
  let skb := skb.write (hdr + 4) (copyAddr addr1 true).bytes
  let skb := skb.write (hdr + 10) (copyAddr addr2 false).bytes
  skb.write (hdr + 16) (copyAddr addr3 true).bytes

/-- A header of zeros is put into a buffer and filled, if there is room. -/
def putHeader (skb : SkBuff) (fc : UInt16) (addr1 addr2 addr3 : Option EtherAddr) :
    Option SkBuff :=
  (skbPutZero skb hdr3addrLen).map fun (hdr, skb) => fill3addr skb hdr fc addr1 addr2 addr3

/-- A buffer that has been allocated is filled, or freed where that fails. -/
def fillOrFree (given : MaybeSkb) (fill : SkBuff → Option SkBuff) : MaybeSkb :=
  match given with
  | (none, events) => (none, events)
  | (some skb, events) =>
    match fill skb with
    | none => (none, events ++ [.free])
    | some skb => (some skb, events)

/-- The SSID element is put behind the header, with the SSID in it unless that is null. -/
def putSsid (skb : SkBuff) (ssid : Option (List UInt8)) (ssidLen : Nat) : Option SkBuff :=
  (skbPut skb (UInt32.ofNat (2 + ssidLen))).map fun (ie, skb) =>
    let skb := skb.write ie [0, UInt8.ofNat ssidLen]
    match ssid with
    | some ssid => if ssidLen ≠ 0 then skb.write (ie + 2) (ssid.take ssidLen) else skb
    | none => skb

/-- `ieee80211_probereq_get`. -/
def probereqGet (page : Page) (id : Nat) (hw : Option Hw) (srcAddr : Option EtherAddr)
    (ssid : Option (List UInt8)) (ssidLen tailroom : Nat) : MaybeSkb :=
  if ssidLen > 255 then (none, [])
  else
    match sizeAdd 24 (2 + ssidLen) with
    | none => (none, [])
    | some frameLen =>
      fillOrFree (allocHelperSkb page id hw frameLen tailroom) fun skb =>
        (putHeader skb 0x0040 none srcAddr none).bind fun skb => putSsid skb ssid ssidLen

/-- `ieee80211_proberesp_get`, without the `vif` in `cb`. -/
def proberespGet (page : Page) (id : Nat) (hw : Option Hw) (vif : Option Vif) : MaybeSkb :=
  fillOrFree (allocHelperSkb page id hw 24 0) fun skb =>
    putHeader skb 0x0050 none (vif.map Vif.addr) (vifBssid vif)

/-- `ieee80211_beacon_get_tim`, without the `vif` in `cb` and the offset of zero. -/
def beaconGetTim (page : Page) (id : Nat) (hw : Option Hw) (vif : Option Vif) : MaybeSkb :=
  fillOrFree (allocHelperSkb page id hw 24 0) fun skb =>
    putHeader skb 0x0080 none (vif.map Vif.addr) (vifBssid vif)

/-- `ieee80211_pspoll_get`, without the `vif` in `cb`. -/
def pspollGet (page : Page) (id : Nat) (hw : Option Hw) (vif : Option Vif) : MaybeSkb :=
  fillOrFree (allocHelperSkb page id hw 24 0) fun skb =>
    putHeader skb (0x0004 ||| 0x00a0) (vifBssid vif) (vif.map Vif.addr) (vifBssid vif)

/-- The frame control field of a null function frame. -/
def nullfuncControl (qos : Bool) : UInt16 := (0x0008 ||| 0x0100) ||| if qos then 0x00c0 else 0x0040

/-- `lcompat_ieee80211_nullfunc_get`, without the `vif` in `cb`. -/
def nullfuncGet (page : Page) (id : Nat) (hw : Option Hw) (vif : Option Vif) (qos : Bool) :
    MaybeSkb :=
  fillOrFree (allocHelperSkb page id hw (24 + if qos then 2 else 0) 0) fun skb =>
    (putHeader skb (nullfuncControl qos) (vifBssid vif) (vif.map Vif.addr) (vifBssid vif)).bind
      fun skb => if qos then (skbPutZero skb 2).map Prod.snd else some skb

/-- A call of a helper. -/
inductive HelperCall where
  /-- `ieee80211_probereq_get`. -/
  | probereq (srcAddr : Option EtherAddr) (ssid : Option (List UInt8)) (ssidLen tailroom : Nat)
  /-- `ieee80211_proberesp_get`. -/
  | proberesp (vif : Option Vif)
  /-- `ieee80211_beacon_get_tim`. -/
  | beacon (vif : Option Vif)
  /-- `ieee80211_pspoll_get`. -/
  | pspoll (vif : Option Vif)
  /-- `lcompat_ieee80211_nullfunc_get`. -/
  | nullfunc (vif : Option Vif) (qos : Bool)

namespace HelperCall

/-- What a call returns. -/
def get (page : Page) (id : Nat) (hw : Option Hw) : HelperCall → MaybeSkb
  | .probereq srcAddr ssid ssidLen tailroom =>
    probereqGet page id hw srcAddr ssid ssidLen tailroom
  | .proberesp vif => proberespGet page id hw vif
  | .beacon vif => beaconGetTim page id hw vif
  | .pspoll vif => pspollGet page id hw vif
  | .nullfunc vif qos => nullfuncGet page id hw vif qos

/-- An SSID is as long as its caller says. -/
def Given : HelperCall → Prop
  | .probereq _ ssid ssidLen _ => ∀ bytes, ssid = some bytes → bytes.length = ssidLen
  | .proberesp _ | .beacon _ | .pspoll _ | .nullfunc _ _ => True

/-- The length of the SSID. -/
def ssidLen : HelperCall → Nat
  | .probereq _ _ ssidLen _ => ssidLen
  | .proberesp _ | .beacon _ | .pspoll _ | .nullfunc _ _ => 0

/-- The room that is asked for behind the frame. -/
def tailroom : HelperCall → Nat
  | .probereq _ _ _ tailroom => tailroom
  | .proberesp _ | .beacon _ | .pspoll _ | .nullfunc _ _ => 0

/-- How much is behind the header. -/
def restLen : HelperCall → Nat
  | .probereq _ _ ssidLen _ => 2 + ssidLen
  | .nullfunc _ qos => if qos then 2 else 0
  | .proberesp _ | .beacon _ | .pspoll _ => 0

/-- The bytes of the page that are sent in place of an SSID that is null. -/
def staleLen : HelperCall → Nat
  | .probereq _ none ssidLen _ => ssidLen
  | .probereq _ (some _) _ _ | .proberesp _ | .beacon _ | .pspoll _ | .nullfunc _ _ => 0

/-- The frame that a call is for, given what the page holds where nothing is written. -/
def frame (stale : List UInt8) : HelperCall → Received
  | .probereq srcAddr ssid ssidLen _ =>
    { fc := 0x0040, duration := 0, addr1 := .broadcast, addr2 := srcAddr.getD .zero
      addr3 := .broadcast, seqCtrl := 0, rest := 0 :: UInt8.ofNat ssidLen :: ssid.getD stale }
  | .proberesp vif =>
    { fc := 0x0050, duration := 0, addr1 := .broadcast, addr2 := (vif.map Vif.addr).getD .zero
      addr3 := (vifBssid vif).getD .broadcast, seqCtrl := 0, rest := [] }
  | .beacon vif =>
    { fc := 0x0080, duration := 0, addr1 := .broadcast, addr2 := (vif.map Vif.addr).getD .zero
      addr3 := (vifBssid vif).getD .broadcast, seqCtrl := 0, rest := [] }
  | .pspoll vif =>
    { fc := 0x00a4, duration := 0, addr1 := (vifBssid vif).getD .broadcast
      addr2 := (vif.map Vif.addr).getD .zero, addr3 := (vifBssid vif).getD .broadcast
      seqCtrl := 0, rest := [] }
  | .nullfunc vif qos =>
    { fc := nullfuncControl qos, duration := 0, addr1 := (vifBssid vif).getD .broadcast
      addr2 := (vif.map Vif.addr).getD .zero, addr3 := (vifBssid vif).getD .broadcast
      seqCtrl := 0, rest := List.replicate (if qos then 2 else 0) 0 }

/-- A frame is what the name of its helper says, for who receives it. -/
def Recognized (frame : Received) (stale : List UInt8) : HelperCall → Prop
  | .probereq _ ssid _ _ =>
    isProbeReq frame.fc = true ∧ elements frame.rest = [(0, ssid.getD stale)]
  | .proberesp _ => isProbeResp frame.fc = true
  | .beacon _ => isBeacon frame.fc = true
  | .pspoll _ => isCtl frame.fc = true
  | .nullfunc _ qos => isAnyNullfunc frame.fc = true ∧ isDataPresent frame.fc = false ∧
      isDataQos frame.fc = qos ∧ frame.hdrLen = frame.bytes.length ∧
        hasTods frame.fc = true ∧ hasFromds frame.fc = false

/-- A buffer of this size is counted in 32 bits. -/
def Fits (hw : Option Hw) (call : HelperCall) : Prop :=
  call.ssidLen ≤ 255 ∧ extraTxHeadroom hw + (24 + call.restLen + call.tailroom) ≤ uintMax

end HelperCall

/-- Whether a buffer is counted in 32 bits can be computed. -/
instance (hw : Option Hw) (call : HelperCall) : Decidable (call.Fits hw) :=
  inferInstanceAs (Decidable (_ ∧ _))

/-- A buffer behind some headroom that holds some bytes and has room for some more, and behind that
what its page held. -/
structure Framed (page : Memory) (headroom : Nat) (bytes : List UInt8) (rest : Nat) (skb : SkBuff) :
    Prop where
  /-- It is linear. -/
  linear : skb.Linear bytes
  /-- The headroom is in front. -/
  headroom : skb.data = headroom
  /-- The room ends with the buffer. -/
  room : skb.tail.toNat + rest = skb.limit.toNat
  /-- Behind the bytes nothing has been written. -/
  behind : ∃ memory, skb.head = some memory ∧ ∀ place stale, skb.tail.toNat ≤ place →
    page.Holds place stale → memory.Holds place stale

/-- What a call returns, given what the allocation comes to: nothing where there is no memory, or
the frame, in which the page shows where an SSID is null. -/
def HelperCall.Returns (hw : Option Hw) (call : HelperCall) (result : MaybeSkb) : Page → Prop
  | .failed => result = (none, [])
  | .unmapped => result = (none, [.alloc, .free])
  | .mapped memory => ∃ skb, result = (some skb, [.alloc]) ∧ ∀ stale, stale.length = call.staleLen →
      memory.Holds (extraTxHeadroom hw + 26) stale →
        Framed memory (extraTxHeadroom hw) (call.frame stale).bytes call.tailroom skb

/-- A buffer of which more is shown, with something written to the beginning of that. -/
def grownBy (skb : SkBuff) (data : List UInt8) (len : Nat) : SkBuff :=
  { skb.write skb.tail.toNat data with
    tail := skb.tail + UInt32.ofNat len, len := skb.len + UInt32.ofNat len }

section Buffers

variable {page : Memory} {headroom rest : Nat} {bytes : List UInt8} {skb : SkBuff}

/-- More of a buffer is shown: what is written, and what the page held behind that. -/
theorem Framed.grown {data stale : List UInt8}
    (framed : Framed page headroom bytes (data.length + stale.length + rest) skb)
    (held : page.Holds (headroom + bytes.length + data.length) stale) :
    Framed page headroom (bytes ++ (data ++ stale)) rest
      (grownBy skb data (data.length + stale.length)) := by
  obtain ⟨linear, front, room, memory, head, behind⟩ := framed
  obtain ⟨⟨memory', head', holds⟩, len, tail, limit, none⟩ := linear
  obtain rfl := Option.some.inj (head'.symm.trans head)
  have small := skb.limit.toNat_lt
  have count : (UInt32.ofNat (data.length + stale.length)).toNat = data.length + stale.length := by
    rw [UInt32.toNat_ofNat']
    exact Nat.mod_eq_of_lt (by omega)
  have newTail : (skb.tail + UInt32.ofNat (data.length + stale.length)).toNat =
      skb.tail.toNat + (data.length + stale.length) := by
    rw [UInt32.toNat_add, count]
    exact Nat.mod_eq_of_lt (by omega)
  have newLen : (skb.len + UInt32.ofNat (data.length + stale.length)).toNat =
      skb.len.toNat + (data.length + stale.length) := by
    rw [UInt32.toNat_add, count]
    exact Nat.mod_eq_of_lt (by omega)
  have head'' : (grownBy skb data (data.length + stale.length)).head =
      some (memory'.write skb.tail.toNat data) := by
    simp only [grownBy, SkBuff.write, head', Option.map_some]
  refine ⟨⟨⟨_, head'', ?_⟩, ?_, ?_, ?_, none⟩, front, ?_, _, head'', ?_⟩
  · have kept := behind _ stale (by omega) held
    show (memory'.write skb.tail.toNat data).Holds skb.data (bytes ++ (data ++ stale))
    rw [Memory.holds_append, Memory.holds_append, ← tail]
    refine ⟨holds.write_of_disjoint (.inl (Nat.le_of_eq tail.symm)), Memory.holds_write_self data,
      ?_⟩
    rw [← front, ← tail] at kept
    exact kept.write_of_disjoint (.inr (Nat.le_refl _))
  · simp only [grownBy, newLen, List.length_append, len]
  · simp only [grownBy, SkBuff.write, newTail, List.length_append, tail]
    omega
  · show (skb.tail + UInt32.ofNat (data.length + stale.length)).toNat ≤ skb.limit.toNat
    omega
  · show (skb.tail + UInt32.ofNat (data.length + stale.length)).toNat + rest = skb.limit.toNat
    omega
  · intro place other past there
    have past' : skb.tail.toNat + (data.length + stale.length) ≤ place := by
      rw [← newTail]
      exact past
    exact (behind place other (by omega) there).write_of_disjoint (.inr (by omega))

/-- What is written before the end changes nothing behind it. -/
theorem behind_write {place : Nat} {written : List UInt8}
    (behind : ∃ memory, skb.head = some memory ∧ ∀ place stale, skb.tail.toNat ≤ place →
      page.Holds place stale → memory.Holds place stale)
    (inside : place + written.length ≤ skb.tail.toNat) :
    ∃ memory, (skb.write place written).head = some memory ∧ ∀ place stale,
      (skb.write place written).tail.toNat ≤ place → page.Holds place stale →
        memory.Holds place stale := by
  obtain ⟨memory, head, kept⟩ := behind
  refine ⟨memory.write place written, by simp only [SkBuff.write, head, Option.map_some], ?_⟩
  intro other stale past there
  have past' : skb.tail.toNat ≤ other := past
  exact (kept other stale past' there).write_of_disjoint (.inr (by omega))

/-- The header of a helper frame. -/
def headerBytes (fc : UInt16) (addr1 addr2 addr3 : Option EtherAddr) : List UInt8 :=
  cpuToLe16 fc ++ (cpuToLe16 0 ++ ((copyAddr addr1 true).bytes ++ ((copyAddr addr2 false).bytes ++
    ((copyAddr addr3 true).bytes ++ cpuToLe16 0))))

/-- A header has 24 bytes. -/
theorem length_headerBytes (fc : UInt16) (addr1 addr2 addr3 : Option EtherAddr) :
    (headerBytes fc addr1 addr2 addr3).length = 24 := by
  simp only [headerBytes, List.length_append, length_cpuToLe16, EtherAddr.length_eq]

/-- A header of zeros is filled. -/
theorem Framed.fill3addr (framed : Framed page headroom (List.replicate 24 0) rest skb)
    (fc : UInt16) (addr1 addr2 addr3 : Option EtherAddr) :
    Framed page headroom (headerBytes fc addr1 addr2 addr3) rest
      (fill3addr skb skb.data fc addr1 addr2 addr3) := by
  obtain ⟨linear, front, room, behind⟩ := framed
  have tail : skb.tail.toNat = skb.data + 24 := linear.tail
  have one := (copyAddr addr1 true).length_eq
  have two := (copyAddr addr2 false).length_eq
  have three := (copyAddr addr3 true).length_eq
  -- the fields are written over the zeros, one behind the other
  have zeros : skb.Linear ([] ++ [0, 0] ++ List.replicate 22 0) := linear
  have first : (skb.write skb.data (cpuToLe16 fc)).Linear
      ((cpuToLe16 fc ++ cpuToLe16 0) ++ List.replicate 6 0 ++ List.replicate 14 0) :=
    zeros.write_inside (length_cpuToLe16 fc)
  have second := first.write_inside (one.trans List.length_replicate.symm)
  have second : ((skb.write skb.data (cpuToLe16 fc)).write (skb.data + 4)
      (copyAddr addr1 true).bytes).Linear ((cpuToLe16 fc ++ cpuToLe16 0 ++
        (copyAddr addr1 true).bytes) ++ List.replicate 6 0 ++ List.replicate 8 0) := by
    simpa using second
  have third := second.write_inside (two.trans List.length_replicate.symm)
  have third : (((skb.write skb.data (cpuToLe16 fc)).write (skb.data + 4)
      (copyAddr addr1 true).bytes).write (skb.data + 10) (copyAddr addr2 false).bytes).Linear
        ((cpuToLe16 fc ++ cpuToLe16 0 ++ (copyAddr addr1 true).bytes ++
          (copyAddr addr2 false).bytes) ++ List.replicate 6 0 ++ List.replicate 2 0) := by
    simpa [one] using third
  have fourth := third.write_inside (three.trans List.length_replicate.symm)
  have fourth : (Mac80211.fill3addr skb skb.data fc addr1 addr2 addr3).Linear
      (headerBytes fc addr1 addr2 addr3) := by
    have last : cpuToLe16 0 = [0, 0] := rfl
    simpa [Mac80211.fill3addr, headerBytes, one, two, last] using fourth
  refine ⟨fourth, front, room, ?_⟩
  refine behind_write (behind_write (behind_write (behind_write behind ?_) ?_) ?_) ?_
  · rw [length_cpuToLe16]
    omega
  · show skb.data + 4 + _ ≤ skb.tail.toNat
    omega
  · show skb.data + 10 + _ ≤ skb.tail.toNat
    omega
  · show skb.data + 16 + _ ≤ skb.tail.toNat
    omega

/-- Zeros are put behind the bytes of a buffer that has room for them. -/
theorem Framed.skbPutZero {len : UInt32}
    (framed : Framed page headroom bytes (len.toNat + rest) skb) :
    skbPutZero skb len = some (skb.tail.toNat, skb.appended (List.replicate len.toNat 0)) ∧
      Framed page headroom (bytes ++ List.replicate len.toNat 0) rest
        (skb.appended (List.replicate len.toNat 0)) := by
  have room := framed.room
  refine ⟨framed.linear.skbPutZero_eq (by omega), ?_⟩
  have grown := @Framed.grown page headroom rest bytes skb (List.replicate len.toNat 0) []
    (by simpa using framed) Memory.holds_nil
  rw [List.append_nil] at grown
  exact grown

/-- A header is put into an empty buffer that has room for it. -/
theorem Framed.putHeader (framed : Framed page headroom [] (24 + rest) skb) (fc : UInt16)
    (addr1 addr2 addr3 : Option EtherAddr) : ∃ skb',
      putHeader skb fc addr1 addr2 addr3 = some skb' ∧
        Framed page headroom (headerBytes fc addr1 addr2 addr3) rest skb' := by
  have place : skb.tail.toNat = skb.data := framed.linear.tail
  obtain ⟨put, zeros⟩ := @Framed.skbPutZero page headroom rest [] skb hdr3addrLen framed
  have header := Framed.fill3addr (show Framed page headroom (List.replicate 24 0) rest
    (skb.appended (List.replicate 24 0)) from zeros) fc addr1 addr2 addr3
  refine ⟨_, ?_, header⟩
  rw [Mac80211.putHeader, put, Option.map_some, place]
  rfl

/-- The SSID element is put behind a header, with what the page held in place of an SSID that is
null. -/
theorem Framed.putSsid {ssid : Option (List UInt8)} {ssidLen : Nat}
    (framed : Framed page headroom bytes (2 + ssidLen + rest) skb)
    (given : ∀ name, ssid = some name → name.length = ssidLen) : ∃ skb',
      putSsid skb ssid ssidLen = some skb' ∧
        ∀ stale, stale.length = (if ssid.isSome then 0 else ssidLen) →
          page.Holds (headroom + bytes.length + 2) stale → Framed page headroom
            (bytes ++ (0 :: UInt8.ofNat ssidLen :: ssid.getD stale)) rest skb' := by
  have room := framed.room
  have small := skb.limit.toNat_lt
  have len : (UInt32.ofNat (2 + ssidLen)).toNat = 2 + ssidLen := by
    rw [UInt32.toNat_ofNat']
    exact Nat.mod_eq_of_lt (by omega)
  have put := framed.linear.skbPut_eq
    (show skb.tail.toNat + (UInt32.ofNat (2 + ssidLen)).toNat ≤ skb.limit.toNat by omega)
  rw [Mac80211.putSsid, put, Option.map_some]
  refine ⟨_, rfl, fun stale count held => ?_⟩
  cases ssid with
  | none =>
    have size : stale.length = ssidLen := count
    have grown := @Framed.grown page headroom rest bytes skb [0, UInt8.ofNat ssidLen] stale
      (by rw [size]; exact framed) held
    rw [size] at grown
    exact grown
  | some name =>
    have size : name.length = ssidLen := given name rfl
    have more : (0 :: UInt8.ofNat ssidLen :: name).length = 2 + ssidLen := by
      simp only [List.length_cons, size]
      omega
    have grown := @Framed.grown page headroom rest bytes skb (0 :: UInt8.ofNat ssidLen :: name) []
      (by rw [more]; exact framed) Memory.holds_nil
    rw [List.append_nil, more, List.length_nil, Nat.add_zero] at grown
    by_cases none : ssidLen = 0
    · obtain rfl : name = [] := List.length_eq_zero_iff.mp (size.trans none)
      simp only [none, ne_eq, not_true_eq_false, if_false] at grown ⊢
      exact grown
    · have taken : name.take ssidLen = name := List.take_of_length_le (Nat.le_of_eq size)
      obtain ⟨memory, head, -⟩ := framed.linear.held
      have once := @Memory.write_write memory skb.tail.toNat [0, UInt8.ofNat ssidLen] name
      simp only [ne_eq, none, not_false_eq_true, if_true, taken]
      simp only [grownBy, SkBuff.write, head, Option.map_some] at grown ⊢
      rw [show skb.tail.toNat + 2 = skb.tail.toNat + [0, UInt8.ofNat ssidLen].length from rfl, once]
      exact grown

end Buffers

section Calls

variable {memory : Memory} {id payloadLen tailroom : Nat} {hw : Option Hw}

/-- A sum of sizes that is counted in 32 bits is allocated, if there is memory. -/
theorem allocHelperSkb_eq (page : Page) (id : Nat)
    (fits : extraTxHeadroom hw + (payloadLen + tailroom) ≤ uintMax) :
    allocHelperSkb page id hw payloadLen tailroom =
      match Net.allocSkb page id (extraTxHeadroom hw + payloadLen + tailroom) with
      | none => (none, [])
      | some skb => (some (if extraTxHeadroom hw ≠ 0 then
          skbReserve skb (UInt32.ofNat (extraTxHeadroom hw)) else skb), [.alloc]) := by
  have small : uintMax ≤ sizeMax := by decide
  have first :
      sizeAdd (extraTxHeadroom hw) payloadLen = some (extraTxHeadroom hw + payloadLen) := by
    rw [sizeAdd, if_neg (by omega)]
  have second : sizeAdd (extraTxHeadroom hw + payloadLen) tailroom =
      some (extraTxHeadroom hw + payloadLen + tailroom) := by
    rw [sizeAdd, if_neg (by omega)]
  rw [allocHelperSkb, first, Option.bind_some, second]
  exact if_neg (by omega)

/-- A buffer of another size is not allocated. -/
theorem allocHelperSkb_of_large (page : Page) (id : Nat)
    (large : uintMax < extraTxHeadroom hw + (payloadLen + tailroom)) :
    allocHelperSkb page id hw payloadLen tailroom = (none, []) := by
  unfold allocHelperSkb
  dsimp only
  split
  · rfl
  · next skbLen sum =>
    obtain ⟨first, added, sum⟩ := Option.bind_eq_some_iff.mp sum
    have one : extraTxHeadroom hw + payloadLen = first := by
      unfold sizeAdd at added
      split at added
      · cases added
      · exact Option.some.inj added
    have two : first + tailroom = skbLen := by
      unfold sizeAdd at sum
      split at sum
      · cases sum
      · exact Option.some.inj sum
    exact if_pos (.inl (by omega))

/-- A buffer with memory is empty behind its headroom. -/
theorem framed_allocHelperSkb (id : Nat)
    (fits : extraTxHeadroom hw + (payloadLen + tailroom) ≤ uintMax) : ∃ skb,
      allocHelperSkb (.mapped memory) id hw payloadLen tailroom = (some skb, [.alloc]) ∧
        Framed memory (extraTxHeadroom hw) [] (payloadLen + tailroom) skb := by
  obtain ⟨skb, given⟩ := exists_allocSkb
    (show extraTxHeadroom hw + payloadLen + tailroom ≤ uintMax by omega) memory id
  obtain ⟨empty, limit, data⟩ := linear_of_allocSkb given
  have head : skb.head = some memory := by
    obtain ⟨-, rfl⟩ : _ ∧ _ = skb := by simpa [Net.allocSkb] using given
    rfl
  have tail : skb.tail.toNat = 0 := by
    rw [empty.tail, data]
    rfl
  rw [allocHelperSkb_eq _ _ fits, given]
  refine ⟨_, rfl, ?_⟩
  by_cases none : extraTxHeadroom hw = 0
  · rw [if_neg (not_not.mpr none)]
    exact ⟨empty, by rw [data, none], by omega, memory, head, fun _ _ _ there => there⟩
  · have count : (UInt32.ofNat (extraTxHeadroom hw)).toNat = extraTxHeadroom hw := by
      rw [UInt32.toNat_ofNat']
      exact Nat.mod_eq_of_lt (by simp only [uintMax] at fits; omega)
    obtain ⟨linear, limit', data'⟩ := empty.skbReserve
      (show skb.tail.toNat + (UInt32.ofNat (extraTxHeadroom hw)).toNat ≤ _ by omega)
    have front : (skbReserve skb (UInt32.ofNat (extraTxHeadroom hw))).data =
        extraTxHeadroom hw := by
      rw [data', count, data, Nat.zero_add]
    rw [if_pos none]
    refine ⟨linear, front, ?_, memory, (head_skbReserve _ _).trans head, fun _ _ _ there => there⟩
    rw [linear.tail, limit', front, limit, List.length_nil]
    omega

/-- Without memory nothing can be filled, and a buffer without memory is freed. -/
theorem fillOrFree_of_unmapped {page : Page} (id : Nat)
    (fits : extraTxHeadroom hw + (payloadLen + tailroom) ≤ uintMax)
    (fill : SkBuff → Option SkBuff)
    (refuses : ∀ skb : SkBuff, skb.head.isSome = false → fill skb = none) :
    (page = .failed → fillOrFree (allocHelperSkb page id hw payloadLen tailroom) fill =
      (none, [])) ∧
    (page = .unmapped → fillOrFree (allocHelperSkb page id hw payloadLen tailroom) fill =
      (none, [.alloc, .free])) := by
  have small : ¬extraTxHeadroom hw + payloadLen + tailroom > uintMax := by omega
  constructor
  · rintro rfl
    rw [allocHelperSkb_eq _ _ fits, Net.allocSkb, if_neg small]
    rfl
  · rintro rfl
    rw [allocHelperSkb_eq _ _ fits, Net.allocSkb, if_neg small]
    simp only [fillOrFree]
    rw [refuses]
    · rfl
    · split
      · rw [head_skbReserve]
        rfl
      · rfl

/-- There is no room for a header without memory. -/
theorem putHeader_of_unmapped {skb : SkBuff} (unmapped : skb.head.isSome = false) (fc : UInt16)
    (addr1 addr2 addr3 : Option EtherAddr) : putHeader skb fc addr1 addr2 addr3 = none := by
  rw [putHeader, skbPutZero, skbPut_of_unmapped unmapped]
  rfl

/-- What is allocated is filled. -/
theorem fillOrFree_of_mapped (id : Nat)
    (fits : extraTxHeadroom hw + (payloadLen + tailroom) ≤ uintMax)
    (fill : SkBuff → Option SkBuff) {holds : SkBuff → Prop}
    (fills : ∀ skb, Framed memory (extraTxHeadroom hw) [] (payloadLen + tailroom) skb →
      ∃ skb', fill skb = some skb' ∧ holds skb') : ∃ skb',
      fillOrFree (allocHelperSkb (.mapped memory) id hw payloadLen tailroom) fill =
        (some skb', [.alloc]) ∧ holds skb' := by
  obtain ⟨skb, given, framed⟩ := @framed_allocHelperSkb memory payloadLen tailroom hw id fits
  obtain ⟨skb', filled, done⟩ := fills skb framed
  refine ⟨skb', ?_, done⟩
  rw [given]
  simp only [fillOrFree, filled]

/-- A helper returns what it should when the buffer that is allocated is filled with its frame. -/
theorem HelperCall.returns_of_fill {call : HelperCall} {page : Page} (fits : call.Fits hw)
    (fill : SkBuff → Option SkBuff)
    (refuses : ∀ skb : SkBuff, skb.head.isSome = false → fill skb = none)
    (fills : ∀ memory skb,
      Framed memory (extraTxHeadroom hw) [] (24 + call.restLen + call.tailroom) skb →
        ∃ skb', fill skb = some skb' ∧ ∀ stale, stale.length = call.staleLen →
          memory.Holds (extraTxHeadroom hw + 26) stale →
            Framed memory (extraTxHeadroom hw) (call.frame stale).bytes call.tailroom skb') :
    call.Returns hw (fillOrFree (allocHelperSkb page id hw (24 + call.restLen) call.tailroom) fill)
      page := by
  cases page with
  | failed => exact (fillOrFree_of_unmapped id fits.2 fill refuses).1 rfl
  | unmapped => exact (fillOrFree_of_unmapped id fits.2 fill refuses).2 rfl
  | mapped memory => exact fillOrFree_of_mapped id fits.2 fill (fills memory)

/-- A frame that is a header. -/
theorem headerBytes_eq (fc : UInt16) (addr1 addr2 addr3 : Option EtherAddr) (rest : List UInt8) :
    headerBytes fc addr1 addr2 addr3 ++ rest =
      (Received.mk fc 0 (addr1.getD .broadcast) (addr2.getD .zero) (addr3.getD .broadcast) 0
        rest).bytes := by
  have named (addr : Option EtherAddr) : copyAddr addr true = addr.getD .broadcast := by
    cases addr <;> rfl
  have zeroed (addr : Option EtherAddr) : copyAddr addr false = addr.getD .zero := by
    cases addr <;> rfl
  simp only [headerBytes, named, zeroed, Received.bytes, List.append_assoc]

/-- A header of its own is a frame. -/
theorem fills_header {call : HelperCall} {fc : UInt16} {addr1 addr2 addr3 : Option EtherAddr}
    {memory : Memory} {skb : SkBuff}
    (framed : Framed memory (extraTxHeadroom hw) [] (24 + call.restLen + call.tailroom) skb)
    (alone : call.restLen = 0) (same : ∀ stale, call.frame stale =
      ⟨fc, 0, addr1.getD .broadcast, addr2.getD .zero, addr3.getD .broadcast, 0, []⟩) :
    ∃ skb', putHeader skb fc addr1 addr2 addr3 = some skb' ∧
      ∀ stale, stale.length = call.staleLen → memory.Holds (extraTxHeadroom hw + 26) stale →
        Framed memory (extraTxHeadroom hw) (call.frame stale).bytes call.tailroom skb' := by
  rw [alone] at framed
  obtain ⟨skb', put, header⟩ := framed.putHeader fc addr1 addr2 addr3
  refine ⟨skb', put, fun stale _ _ => ?_⟩
  rw [same, ← headerBytes_eq, List.append_nil]
  exact header

/-- Each helper returns what it should where its buffer is counted in 32 bits. -/
theorem HelperCall.returns {call : HelperCall} (given : call.Given) (fits : call.Fits hw)
    (page : Page) (id : Nat) : call.Returns hw (call.get page id hw) page := by
  cases call with
  | probereq srcAddr ssid ssidLen tailroom =>
    have short : ¬ssidLen > 255 := Nat.not_lt.mpr fits.1
    have len : sizeAdd 24 (2 + ssidLen) = some (24 + (2 + ssidLen)) := by
      rw [sizeAdd, if_neg (by simp only [sizeMax]; omega)]
    rw [HelperCall.get, probereqGet, if_neg short, len]
    refine returns_of_fill fits _ (fun skb unmapped => ?_) fun memory skb framed => ?_
    · rw [putHeader_of_unmapped unmapped]
      rfl
    · simp only [HelperCall.restLen, HelperCall.tailroom, Nat.add_assoc] at framed
      obtain ⟨skb', put, header⟩ := framed.putHeader 0x0040 none srcAddr none
      rw [← Nat.add_assoc] at header
      obtain ⟨skb'', named, filled⟩ := header.putSsid given
      refine ⟨skb'', by rw [put, Option.bind_some, named], fun stale count held => ?_⟩
      rw [length_headerBytes] at filled
      have size : stale.length = if ssid.isSome then 0 else ssidLen := by
        rw [count]
        cases ssid <;> rfl
      have done := filled stale size held
      rw [headerBytes_eq] at done
      exact done
  | proberesp vif =>
    refine returns_of_fill fits _ (fun skb unmapped => putHeader_of_unmapped unmapped _ _ _ _)
      fun memory skb framed => fills_header framed rfl fun _ => rfl
  | beacon vif =>
    refine returns_of_fill fits _ (fun skb unmapped => putHeader_of_unmapped unmapped _ _ _ _)
      fun memory skb framed => fills_header framed rfl fun _ => rfl
  | pspoll vif =>
    refine returns_of_fill fits _ (fun skb unmapped => putHeader_of_unmapped unmapped _ _ _ _)
      fun memory skb framed => fills_header framed rfl fun _ => rfl
  | nullfunc vif qos =>
    refine returns_of_fill fits _ (fun skb unmapped => ?_) fun memory skb framed => ?_
    · rw [putHeader_of_unmapped unmapped]
      rfl
    · cases qos with
      | false =>
        obtain ⟨skb', put, filled⟩ : ∃ skb', putHeader skb (nullfuncControl false) (vifBssid vif)
            (vif.map Vif.addr) (vifBssid vif) = some skb' ∧ _ :=
          fills_header framed rfl fun _ => rfl
        exact ⟨skb', by rw [put]; rfl, filled⟩
      | true =>
        obtain ⟨skb', put, header⟩ := Framed.putHeader framed (nullfuncControl true) (vifBssid vif)
          (vif.map Vif.addr) (vifBssid vif)
        obtain ⟨zeros, control⟩ := @Framed.skbPutZero memory (extraTxHeadroom hw) 0 _ skb' 2 header
        refine ⟨_, by rw [put, Option.bind_some, if_pos rfl, zeros, Option.map_some], ?_⟩
        intro stale _ _
        rw [headerBytes_eq] at control
        exact control

/-- A helper whose buffer is not counted in 32 bits returns nothing. -/
theorem HelperCall.get_of_not_fits {call : HelperCall} (large : ¬call.Fits hw) (page : Page)
    (id : Nat) : call.get page id hw = (none, []) := by
  have refused : ∀ {payloadLen fill}, uintMax < extraTxHeadroom hw +
      (payloadLen + call.tailroom) →
        fillOrFree (allocHelperSkb page id hw payloadLen call.tailroom) fill = (none, []) := by
    intro payloadLen fill more
    rw [allocHelperSkb_of_large page id more]
    rfl
  cases call with
  | probereq srcAddr ssid ssidLen tailroom =>
    rw [HelperCall.get, probereqGet]
    split
    · rfl
    · next short =>
      have len : sizeAdd 24 (2 + ssidLen) = some (24 + (2 + ssidLen)) := by
        rw [sizeAdd, if_neg (by simp only [sizeMax]; omega)]
      rw [len]
      exact refused (Nat.not_le.mp fun fits => large ⟨Nat.not_lt.mp short, fits⟩)
  | proberesp vif | beacon vif | pspoll vif | nullfunc vif qos =>
    exact refused (Nat.not_le.mp fun fits => large ⟨Nat.zero_le 255, fits⟩)

/-- Words are told by their bytes. -/
theorem cpuToLe16_inj {a b : UInt16} (same : cpuToLe16 a = cpuToLe16 b) : a = b := by
  simp only [cpuToLe16, List.cons.injEq, and_true] at same
  rw [← word_toUInt8 a, ← word_toUInt8 b, same.1, same.2]

/-- Frames are told by their bytes. -/
theorem Received.bytes_inj {frame frame' : Received} (same : frame.bytes = frame'.bytes) :
    frame = frame' := by
  obtain ⟨fc, same⟩ := List.append_inj same rfl
  obtain ⟨duration, same⟩ := List.append_inj same rfl
  obtain ⟨one, same⟩ := List.append_inj same
    (frame.addr1.length_eq.trans frame'.addr1.length_eq.symm)
  obtain ⟨two, same⟩ := List.append_inj same
    (frame.addr2.length_eq.trans frame'.addr2.length_eq.symm)
  obtain ⟨three, same⟩ :=
    List.append_inj same (frame.addr3.length_eq.trans frame'.addr3.length_eq.symm)
  obtain ⟨seqCtrl, rest⟩ := List.append_inj same rfl
  cases frame
  cases frame'
  simp only [Received.mk.injEq]
  exact ⟨cpuToLe16_inj fc, cpuToLe16_inj duration, EtherAddr.ext one, EtherAddr.ext two,
    EtherAddr.ext three, cpuToLe16_inj seqCtrl, rest⟩

/-- A frame is parsed from its bytes. -/
theorem Received.parse_bytes (frame : Received) : Received.parse frame.bytes = some frame := by
  cases parsed : Received.parse frame.bytes with
  | none =>
    have short := Received.parse_eq_none_iff.mp parsed
    rw [frame.length_bytes] at short
    omega
  | some found => rw [Received.bytes_inj (Received.bytes_of_parse parsed)]

/-- A null function frame goes to the access point and carries no data, and its header has a QoS
control field if one is asked for. -/
theorem recognized_nullfuncControl (qos : Bool) : isAnyNullfunc (nullfuncControl qos) = true ∧
    isDataPresent (nullfuncControl qos) = false ∧ isDataQos (nullfuncControl qos) = qos ∧
      (dataHdrLen (nullfuncControl qos)).toNat = 24 + (if qos then 2 else 0) ∧
        hasTods (nullfuncControl qos) = true ∧ hasFromds (nullfuncControl qos) = false := by
  cases qos <;> decide

/-- The frame of a helper is recognized by who receives it. -/
theorem HelperCall.recognized {call : HelperCall} (given : call.Given) (short : call.ssidLen ≤ 255)
    {stale : List UInt8} (count : stale.length = call.staleLen) :
    call.Recognized (call.frame stale) stale := by
  cases call with
  | probereq srcAddr ssid ssidLen tailroom =>
    refine ⟨show isProbeReq 0x0040 = true by decide, ?_⟩
    have size : (ssid.getD stale).length = ssidLen := by
      cases ssid with
      | none => exact count
      | some name => exact given name rfl
    have few : ssidLen ≤ 255 := short
    have sized : ∀ e ∈ [((0 : UInt8), ssid.getD stale)], e.2.length < 256 := by
      intro e mem
      obtain rfl := List.mem_singleton.mp mem
      rw [size]
      omega
    refine (longest_elements _).unique ?_
    have whole := Element.longest_encode sized
    rw [Element.encode_cons, Element.encode_nil, List.append_nil, size] at whole
    exact whole
  | proberesp vif => exact show isProbeResp 0x0050 = true by decide
  | beacon vif => exact show isBeacon 0x0080 = true by decide
  | pspoll vif => exact show isCtl 0x00a4 = true by decide
  | nullfunc vif qos =>
    obtain ⟨any, present, isQos, len, tods, fromds⟩ := recognized_nullfuncControl qos
    refine ⟨any, present, isQos, ?_, tods, fromds⟩
    rw [Received.length_bytes]
    simp only [HelperCall.frame, List.length_replicate]
    exact len

/-- A helper returns nothing where its buffer is not counted in 32 bits or there is no memory, and
frees what it does not return. Else it returns the frame behind the headroom of the device, with
just the room that is asked for behind it, and who receives it parses and recognizes it. -/
theorem helper_frames {call : HelperCall} (given : call.Given) (page : Page) (id : Nat)
    (hw : Option Hw) :
    (¬call.Fits hw → call.get page id hw = (none, [])) ∧
      (call.Fits hw → call.Returns hw (call.get page id hw) page ∧
        ∀ stale, stale.length = call.staleLen →
          Received.parse (call.frame stale).bytes = some (call.frame stale) ∧
            call.Recognized (call.frame stale) stale) :=
  ⟨fun large => HelperCall.get_of_not_fits large page id, fun fits =>
    ⟨HelperCall.returns given fits page id, fun _ count =>
      ⟨Received.parse_bytes _, HelperCall.recognized given fits.1 count⟩⟩⟩

/-- A probe request for a network of two letters. -/
def probeForTwo : HelperCall := .probereq none (some [97, 98]) 2 8

/-- A probe request is handed out and recognized, and not where its buffer would be too large. -/
theorem helper_frames_probeForTwo :
    probeForTwo.Returns none (probeForTwo.get (.mapped fun _ => some 0) 7 none)
      (.mapped fun _ => some 0) ∧ probeForTwo.Recognized (probeForTwo.frame []) [] ∧
    (HelperCall.probereq none none 256 0).get .unmapped 7 none = (none, []) := by
  have given : probeForTwo.Given := fun bytes same => by
    obtain rfl := Option.some.inj same
    rfl
  have absent : (HelperCall.probereq none none 256 0).Given := fun bytes same => by cases same
  have fits : probeForTwo.Fits none := by decide
  obtain ⟨returns, recognized⟩ := (helper_frames given (.mapped fun _ => some 0) 7 none).2 fits
  exact ⟨returns, (recognized [] rfl).2, (helper_frames absent .unmapped 7 none).1 (by decide)⟩

end Calls

end Lcompat.Mac80211
