import Lcompat.Logic.Loop
import Lcompat.Logic.Memory
import Lcompat.Usb.Model

/-!
# Endpoints of an interface

`lcompat_usb_collect_endpoints` copies the endpoint descriptors of an interface to its wrapper when
the interface is bound, and `lcompat_usb_find_ep_in_iface` looks for one of them when a native pipe
is to be allocated. Both go from one descriptor to the next one by the length that the first byte
says, whatever the bytes are, and stop at the end of the string, at a length that leads nowhere, or
at the next interface. The string is all the memory that they may read.
-/

namespace Lcompat.Usb

open Lcompat.Logic

/-- `LCOMPAT_MAX_USB_ENDPOINTS`. -/
def LCOMPAT_MAX_USB_ENDPOINTS : Nat := 16

/-- The size of an endpoint descriptor, for the native and for the other one. -/
def endpointSize : Nat := 7

/-- What the native headers say about descriptors. -/
structure DescriptorTypes where
  /-- `USB_DT_INTERFACE`. -/
  interface : UInt8
  /-- `USB_DT_ENDPOINT`. -/
  endpoint : UInt8
  /-- `USB_DT_ENDPOINT_COMPANION`. -/
  companion : UInt8
  /-- The size of `usb_super_speed_endpoint_descriptor_t`. -/
  companionSize : Nat

/-- `usb_device_interface_t`: the bytes between `iface` and `end`. -/
structure UsbDeviceInterface where
  /-- The bytes. -/
  bytes : List UInt8
  /-- The first one is the length of the descriptor of the interface. -/
  described : bytes ≠ []

/-- The memory between `iface` and `end`, and nothing else. -/
def UsbDeviceInterface.memory (iface : UsbDeviceInterface) : Logic.Memory := .ofBytes iface.bytes

/-- Where `end` is. -/
def UsbDeviceInterface.finish (iface : UsbDeviceInterface) : Nat := iface.bytes.length

/-- The descriptor that some bytes are copied to. -/
def EndpointDescriptor.ofBytes (bytes : List UInt8) : EndpointDescriptor where
  bEndpointAddress := (bytes.getD 2 0).toBitVec
  bmAttributes := (bytes.getD 3 0).toBitVec

/-- A turn of the loop of `lcompat_usb_collect_endpoints`, at `ptr` with the descriptors it has
copied. -/
def collectTurn (types : DescriptorTypes) (memory : Logic.Memory) (finish : Nat) :
    Turn (Nat × List EndpointDescriptor) (List EndpointDescriptor)
  | (ptr, endpoints) =>
    if ptr + 2 ≤ finish ∧ endpoints.length < LCOMPAT_MAX_USB_ENDPOINTS then do
      let len ← memory ptr
      let type ← memory (ptr + 1)
      if len < 2 then return .inr endpoints
      if type = types.interface then return .inr endpoints
      if type = types.endpoint ∧ ptr + endpointSize ≤ finish then
        let desc ← memory.read ptr endpointSize
        return .inl (ptr + len.toNat, endpoints ++ [.ofBytes desc])
      return .inl (ptr + len.toNat, endpoints)
    else return .inr endpoints

/-- `lcompat_usb_collect_endpoints`: what it leaves in a wrapper, with at most some turns of its
loop. -/
def collectEndpoints (types : DescriptorTypes) (iface : UsbDeviceInterface) (turns : Nat)
    (wrapper : Wrapper) : Option Wrapper := do
  let bLength ← iface.memory 0
  let endpoints ← (collectTurn types iface.memory iface.finish).run turns (bLength.toNat, [])
  return { wrapper with endpoints }

/-- A turn of the loop of `lcompat_usb_find_ep_in_iface`, at `ptr` with the descriptor that has
matched; `ssOut` says whether `ss_out` is given. -/
def findTurn (types : DescriptorTypes) (memory : Logic.Memory) (finish : Nat) (pipe : BitVec 32)
    (ssOut : Bool) : Turn (Nat × Option Nat) (Option Nat × Option Nat)
  | (ptr, matched) =>
    if ptr + 2 ≤ finish then do
      let len ← memory ptr
      let descType ← memory (ptr + 1)
      if len < 2 then return .inr (matched, none)
      if descType = types.interface then return .inr (matched, none)
      if matched.isSome then
        if descType = types.companion ∧ ssOut ∧ ptr + types.companionSize ≤ finish then
          return .inr (matched, some ptr)
        return .inr (matched, none)
      if descType = types.endpoint ∧ ptr + endpointSize ≤ finish then
        let bEndpointAddress ← memory (ptr + 2)
        if bEndpointAddress.toBitVec = pipeAddress pipe then
          let bmAttributes ← memory (ptr + 3)
          if bmAttributes.toBitVec &&& 3 = pipeXferType pipe then
            return .inl (ptr + len.toNat, some ptr)
      return .inl (ptr + len.toNat, none)
    else return .inr (matched, none)

/-- `lcompat_usb_find_ep_in_iface`: the endpoint descriptor it returns and what it stores to
`ss_out`, by their offsets, with at most some turns of its loop. -/
def findEpInIface (types : DescriptorTypes) (iface : UsbDeviceInterface) (pipe : BitVec 32)
    (ssOut : Bool) (turns : Nat) : Option (Option Nat × Option Nat) := do
  let bLength ← iface.memory 0
  (findTurn types iface.memory iface.finish pipe ssOut).run turns (bLength.toNat, none)

section Descriptors

variable (types : DescriptorTypes) (bytes : List UInt8)

/-- A descriptor begins at an offset: there is a length that leads on, and it is not that of the
next interface. -/
def Begins (pos : Nat) : Prop :=
  pos + 2 ≤ bytes.length ∧ 2 ≤ bytes.getD pos 0 ∧ bytes.getD (pos + 1) 0 ≠ types.interface

instance (pos : Nat) : Decidable (Begins types bytes pos) :=
  inferInstanceAs (Decidable (pos + 2 ≤ bytes.length ∧ 2 ≤ bytes.getD pos 0 ∧
    bytes.getD (pos + 1) 0 ≠ types.interface))

/-- The offset behind the descriptor at an offset. -/
def behind (pos : Nat) : Nat := pos + (bytes.getD pos 0).toNat

/-- Where the descriptors of an interface begin, from an offset on. -/
def descriptorsFrom (pos : Nat) : List Nat :=
  if Begins types bytes pos then pos :: descriptorsFrom (behind bytes pos) else []
termination_by bytes.length - pos
decreasing_by
  rename_i begins
  obtain ⟨room, leads, -⟩ := begins
  have far : 2 ≤ (bytes.getD pos 0).toNat := leads
  unfold behind
  omega

/-- A whole endpoint descriptor begins at an offset. -/
def IsEndpoint (pos : Nat) : Prop :=
  bytes.getD (pos + 1) 0 = types.endpoint ∧ pos + endpointSize ≤ bytes.length

instance (pos : Nat) : Decidable (IsEndpoint types bytes pos) :=
  inferInstanceAs (Decidable (bytes.getD (pos + 1) 0 = types.endpoint ∧
    pos + endpointSize ≤ bytes.length))

/-- Where the endpoint descriptors of an interface begin, from an offset on. -/
def endpointsFrom (pos : Nat) : List Nat :=
  (descriptorsFrom types bytes pos).filter (IsEndpoint types bytes ·)

/-- The endpoint descriptors of an interface: those behind its own descriptor. -/
def endpointsOf : List Nat := endpointsFrom types bytes (bytes.getD 0 0).toNat

/-- The endpoint descriptor at an offset. -/
def endpointAt (pos : Nat) : EndpointDescriptor := .ofBytes (bytes.drop pos)

end Descriptors

/-- A descriptor has the address and the type that a pipe value denotes. -/
def EndpointDescriptor.Matches (epd : EndpointDescriptor) (pipe : BitVec 32) : Bool :=
  epd.bEndpointAddress == pipeAddress pipe && epd.bmAttributes &&& 3 == pipeXferType pipe

/-- The first of some endpoint descriptors with the address and the type of a pipe value. -/
def firstMatch (bytes : List UInt8) (pipe : BitVec 32) (endpoints : List Nat) : Option Nat :=
  endpoints.find? fun pos => (endpointAt bytes pos).Matches pipe

/-- The companion descriptor at an offset, if there is one and it is asked for. -/
def companionAt (types : DescriptorTypes) (bytes : List UInt8) (ssOut : Bool) (pos : Nat) :
    Option Nat :=
  if Begins types bytes pos ∧ bytes.getD (pos + 1) 0 = types.companion ∧ ssOut ∧
      pos + types.companionSize ≤ bytes.length then some pos
  else none

section Walks

variable {types : DescriptorTypes} {bytes : List UInt8} {pos : Nat}

/-- A byte of a string. -/
theorem ofBytes_eq_some (inside : pos < bytes.length) :
    Logic.Memory.ofBytes bytes pos = some (bytes.getD pos 0) := by
  rw [Logic.Memory.ofBytes, List.getD_eq_getElem?_getD, List.getElem?_eq_getElem inside,
    Option.getD_some]

/-- Some bytes of a string. -/
theorem read_ofBytes {count : Nat} (inside : pos + count ≤ bytes.length) :
    (Logic.Memory.ofBytes bytes).read pos count = some ((bytes.drop pos).take count) := by
  have held := (Logic.Memory.holds_ofBytes bytes).slice pos count (by omega)
  have length : ((bytes.drop pos).take count).length = count := by
    rw [List.length_take, List.length_drop]
    omega
  rw [Logic.Memory.Holds, length, Nat.zero_add] at held
  exact held

/-- What is copied of an endpoint descriptor is what is looked at there. -/
theorem ofBytes_take : EndpointDescriptor.ofBytes ((bytes.drop pos).take endpointSize) =
    endpointAt bytes pos := by
  simp [EndpointDescriptor.ofBytes, endpointAt, endpointSize, List.getD_eq_getElem?_getD]

/-- The address and the type of an endpoint descriptor. -/
theorem endpointAt_matches (bytes : List UInt8) (pos : Nat) (pipe : BitVec 32) :
    (endpointAt bytes pos).Matches pipe = true ↔
      (bytes.getD (pos + 2) 0).toBitVec = pipeAddress pipe ∧
        (bytes.getD (pos + 3) 0).toBitVec &&& 3 = pipeXferType pipe := by
  simp [EndpointDescriptor.Matches, EndpointDescriptor.ofBytes, endpointAt,
    List.getD_eq_getElem?_getD]

/-- No descriptors where none begins. -/
theorem endpointsFrom_of_not (stops : ¬Begins types bytes pos) :
    endpointsFrom types bytes pos = [] := by
  rw [endpointsFrom, descriptorsFrom, if_neg stops, List.filter_nil]

/-- The descriptor at an offset, and those behind it. -/
theorem endpointsFrom_of_begins (begins : Begins types bytes pos) :
    endpointsFrom types bytes pos =
      if IsEndpoint types bytes pos then pos :: endpointsFrom types bytes (behind bytes pos)
      else endpointsFrom types bytes (behind bytes pos) := by
  rw [endpointsFrom, descriptorsFrom, if_pos begins, List.filter_cons]
  simp only [decide_eq_true_eq]
  rfl

/-- A descriptor that begins leads closer to the end. -/
theorem Begins.closer (begins : Begins types bytes pos) :
    bytes.length - behind bytes pos < bytes.length - pos := by
  obtain ⟨room, leads, -⟩ := begins
  have far : 2 ≤ (bytes.getD pos 0).toNat := leads
  unfold behind
  omega

/-- Where no descriptor begins there is nothing to read, or a header that leads nowhere. -/
theorem not_begins (room : pos + 2 ≤ bytes.length) (stops : ¬Begins types bytes pos) :
    bytes.getD pos 0 < 2 ∨ bytes.getD (pos + 1) 0 = types.interface := by
  by_contra leads
  rw [not_or] at leads
  exact stops ⟨room, UInt8.not_lt.mp leads.1, leads.2⟩

/-- A turn of `lcompat_usb_collect_endpoints` where there is no room, or no descriptor. -/
theorem collectTurn_ends {endpoints : List EndpointDescriptor}
    (stops : LCOMPAT_MAX_USB_ENDPOINTS ≤ endpoints.length ∨ ¬Begins types bytes pos) :
    collectTurn types (.ofBytes bytes) bytes.length (pos, endpoints) = some (.inr endpoints) := by
  unfold collectTurn
  dsimp only
  by_cases room : pos + 2 ≤ bytes.length ∧ endpoints.length < LCOMPAT_MAX_USB_ENDPOINTS
  · have len := @ofBytes_eq_some bytes pos (by omega)
    have type := @ofBytes_eq_some bytes (pos + 1) (by omega)
    rw [if_pos room, len, type]
    have stops := stops.resolve_left (Nat.not_le.mpr room.2)
    obtain short | next := not_begins room.1 stops
    · exact if_pos short
    · by_cases short : bytes.getD pos 0 < 2
      · exact if_pos short
      · exact (if_neg short).trans (if_pos next)
  · exact if_neg room

/-- A turn of `lcompat_usb_collect_endpoints` at a descriptor. -/
theorem collectTurn_goesOn {endpoints : List EndpointDescriptor}
    (room : endpoints.length < LCOMPAT_MAX_USB_ENDPOINTS) (begins : Begins types bytes pos) :
    collectTurn types (.ofBytes bytes) bytes.length (pos, endpoints) =
      some (.inl (behind bytes pos,
        if IsEndpoint types bytes pos then endpoints ++ [endpointAt bytes pos]
        else endpoints)) := by
  have inside := begins.1
  have len := @ofBytes_eq_some bytes pos (by omega)
  have type := @ofBytes_eq_some bytes (pos + 1) (by omega)
  have leads : ¬bytes.getD pos 0 < 2 := UInt8.not_lt.mpr begins.2.1
  unfold collectTurn
  dsimp only
  rw [if_pos ⟨inside, room⟩, len, type]
  refine (if_neg leads).trans ((if_neg begins.2.2).trans ?_)
  by_cases endpoint : IsEndpoint types bytes pos
  · have desc := @read_ofBytes bytes pos endpointSize endpoint.2
    rw [if_pos endpoint]
    refine (if_pos endpoint).trans ?_
    rw [desc, ← ofBytes_take]
    rfl
  · rw [if_neg endpoint]
    exact if_neg endpoint

/-- The loop of `lcompat_usb_collect_endpoints` copies the next endpoint descriptors, as many as
there is room for. -/
theorem collectTurn_run (pos : Nat) (endpoints : List EndpointDescriptor) {turns : Nat}
    (enough : bytes.length - pos < turns) :
    (collectTurn types (.ofBytes bytes) bytes.length).run turns (pos, endpoints) =
      some (endpoints ++ ((endpointsFrom types bytes pos).map (endpointAt bytes)).take
        (LCOMPAT_MAX_USB_ENDPOINTS - endpoints.length)) := by
  let result := fun s : Nat × List EndpointDescriptor =>
    s.2 ++ ((endpointsFrom types bytes s.1).map (endpointAt bytes)).take
      (LCOMPAT_MAX_USB_ENDPOINTS - s.2.length)
  refine @Turn.run_eq_some _ _ (collectTurn types (.ofBytes bytes) bytes.length)
    (fun s => bytes.length - s.1) result (fun _ => True) ?_ (pos, endpoints) trivial turns enough
  rintro ⟨ptr, endpoints⟩ -
  by_cases stops : LCOMPAT_MAX_USB_ENDPOINTS ≤ endpoints.length ∨ ¬Begins types bytes ptr
  · have same : result (ptr, endpoints) = endpoints := by
      obtain full | stops := stops
      · simp only [result, Nat.sub_eq_zero_of_le full, List.take_zero, List.append_nil]
      · simp only [result, endpointsFrom_of_not stops, List.map_nil, List.take_nil,
          List.append_nil]
    refine .ends ?_
    rw [same]
    exact collectTurn_ends stops
  · rw [not_or, Nat.not_le, Classical.not_not] at stops
    obtain ⟨room, begins⟩ := stops
    refine .goesOn _ (collectTurn_goesOn room begins) begins.closer ?_ trivial
    simp only [result, endpointsFrom_of_begins begins]
    by_cases endpoint : IsEndpoint types bytes ptr
    · have more : LCOMPAT_MAX_USB_ENDPOINTS - endpoints.length =
          LCOMPAT_MAX_USB_ENDPOINTS - (endpoints.length + 1) + 1 := by omega
      rw [if_pos endpoint, if_pos endpoint, List.map_cons, more, List.take_succ_cons,
        List.append_assoc, List.length_append]
      rfl
    · rw [if_neg endpoint, if_neg endpoint]

/-- What is found of a descriptor that has matched, or of the descriptors from an offset on. -/
def foundFrom (types : DescriptorTypes) (bytes : List UInt8) (pipe : BitVec 32) (ssOut : Bool) :
    Nat × Option Nat → Option Nat × Option Nat
  | (pos, some matched) => (some matched, companionAt types bytes ssOut pos)
  | (pos, none) =>
    let first := firstMatch bytes pipe (endpointsFrom types bytes pos)
    (first, first.bind fun epdesc => companionAt types bytes ssOut (behind bytes epdesc))

/-- A turn of `lcompat_usb_find_ep_in_iface` where no descriptor begins. -/
theorem findTurn_ends {pipe : BitVec 32} {ssOut : Bool} {matched : Option Nat}
    (stops : ¬Begins types bytes pos) :
    findTurn types (.ofBytes bytes) bytes.length pipe ssOut (pos, matched) =
      some (.inr (matched, none)) := by
  unfold findTurn
  dsimp only
  by_cases room : pos + 2 ≤ bytes.length
  · have len := @ofBytes_eq_some bytes pos (by omega)
    have type := @ofBytes_eq_some bytes (pos + 1) (by omega)
    rw [if_pos room, len, type]
    obtain short | next := not_begins room stops
    · exact if_pos short
    · by_cases short : bytes.getD pos 0 < 2
      · exact if_pos short
      · exact (if_neg short).trans (if_pos next)
  · exact if_neg room

/-- A turn of `lcompat_usb_find_ep_in_iface` at the descriptor behind the one that has matched. -/
theorem findTurn_matched {pipe : BitVec 32} {ssOut : Bool} {matched : Nat}
    (begins : Begins types bytes pos) :
    findTurn types (.ofBytes bytes) bytes.length pipe ssOut (pos, some matched) =
      some (.inr (some matched, companionAt types bytes ssOut pos)) := by
  have inside := begins.1
  have len := @ofBytes_eq_some bytes pos (by omega)
  have type := @ofBytes_eq_some bytes (pos + 1) (by omega)
  have leads : ¬bytes.getD pos 0 < 2 := UInt8.not_lt.mpr begins.2.1
  unfold findTurn
  dsimp only
  rw [if_pos inside, len, type]
  refine (if_neg leads).trans ((if_neg begins.2.2).trans ((if_pos rfl).trans ?_))
  by_cases companion : bytes.getD (pos + 1) 0 = types.companion ∧ ssOut = true ∧
      pos + types.companionSize ≤ bytes.length
  · have there : companionAt types bytes ssOut pos = some pos := if_pos ⟨begins, companion⟩
    rw [there]
    exact if_pos companion
  · have missing : companionAt types bytes ssOut pos = none :=
      if_neg fun both => companion both.2
    rw [missing]
    exact if_neg companion

/-- A turn of `lcompat_usb_find_ep_in_iface` at a descriptor while none has matched. -/
theorem findTurn_goesOn {pipe : BitVec 32} {ssOut : Bool} (begins : Begins types bytes pos) :
    findTurn types (.ofBytes bytes) bytes.length pipe ssOut (pos, none) =
      some (.inl (behind bytes pos,
        if IsEndpoint types bytes pos ∧ (endpointAt bytes pos).Matches pipe then some pos
        else none)) := by
  have inside := begins.1
  have len := @ofBytes_eq_some bytes pos (by omega)
  have type := @ofBytes_eq_some bytes (pos + 1) (by omega)
  have leads : ¬bytes.getD pos 0 < 2 := UInt8.not_lt.mpr begins.2.1
  unfold findTurn
  dsimp only
  rw [if_pos inside, len, type]
  refine (if_neg leads).trans ((if_neg begins.2.2).trans ((if_neg Bool.false_ne_true).trans ?_))
  by_cases endpoint : IsEndpoint types bytes pos
  · have size : endpointSize = 7 := rfl
    have whole := endpoint.2
    have address := @ofBytes_eq_some bytes (pos + 2) (by omega)
    have attributes := @ofBytes_eq_some bytes (pos + 3) (by omega)
    refine (if_pos endpoint).trans ?_
    rw [address]
    simp only [endpointAt_matches, endpoint, true_and]
    by_cases same : (bytes.getD (pos + 2) 0).toBitVec = pipeAddress pipe
    · refine (if_pos same).trans ?_
      rw [attributes]
      by_cases kind : (bytes.getD (pos + 3) 0).toBitVec &&& 3 = pipeXferType pipe
      · rw [if_pos ⟨same, kind⟩]
        exact if_pos kind
      · rw [if_neg fun both => kind both.2]
        exact if_neg kind
    · rw [if_neg fun both => same both.1]
      exact if_neg same
  · have other : ¬(IsEndpoint types bytes pos ∧ (endpointAt bytes pos).Matches pipe = true) :=
      fun both => endpoint both.1
    rw [if_neg other]
    exact if_neg endpoint

/-- The loop of `lcompat_usb_find_ep_in_iface` finds the next endpoint descriptor that matches. -/
theorem findTurn_run (pipe : BitVec 32) (ssOut : Bool) (pos : Nat) {turns : Nat}
    (enough : bytes.length - pos < turns) :
    (findTurn types (.ofBytes bytes) bytes.length pipe ssOut).run turns (pos, none) =
      some (foundFrom types bytes pipe ssOut (pos, none)) := by
  refine @Turn.run_eq_some _ _ (findTurn types (.ofBytes bytes) bytes.length pipe ssOut)
    (fun s => bytes.length - s.1) (foundFrom types bytes pipe ssOut) (fun _ => True) ?_ (pos, none)
    trivial turns enough
  rintro ⟨ptr, matched⟩ -
  by_cases begins : Begins types bytes ptr
  · cases matched with
    | some matched => exact .ends (findTurn_matched begins)
    | none =>
      refine .goesOn _ (findTurn_goesOn begins) begins.closer ?_ trivial
      by_cases endpoint : IsEndpoint types bytes ptr
      · by_cases fits : (endpointAt bytes ptr).Matches pipe
        · rw [if_pos ⟨endpoint, fits⟩]
          simp [foundFrom, firstMatch, endpointsFrom_of_begins begins, endpoint, fits]
        · rw [if_neg fun both => fits both.2]
          simp [foundFrom, firstMatch, endpointsFrom_of_begins begins, endpoint, fits]
      · rw [if_neg fun both => endpoint both.1]
        simp [foundFrom, endpointsFrom_of_begins begins, endpoint]
  · refine .ends ?_
    rw [findTurn_ends begins]
    cases matched with
    | some matched => simp [foundFrom, companionAt, begins]
    | none => simp [foundFrom, firstMatch, endpointsFrom_of_not begins]

end Walks

section Agreement

variable {types : DescriptorTypes} {iface : UsbDeviceInterface} {pipe : BitVec 32}

/-- The first byte of an interface is there. -/
theorem memory_zero (iface : UsbDeviceInterface) :
    iface.memory 0 = some (iface.bytes.getD 0 0) :=
  ofBytes_eq_some (List.length_pos_of_ne_nil iface.described)

/-- `lcompat_usb_collect_endpoints` returns, whatever the bytes are: it copies the first endpoint
descriptors. -/
theorem collectEndpoints_eq {turns : Nat} (enough : iface.bytes.length < turns)
    (wrapper : Wrapper) :
    collectEndpoints types iface turns wrapper = some { wrapper with
      endpoints := ((endpointsOf types iface.bytes).map (endpointAt iface.bytes)).take
        LCOMPAT_MAX_USB_ENDPOINTS } := by
  have ran := @collectTurn_run types iface.bytes (iface.bytes.getD 0 0).toNat [] turns
    (Nat.lt_of_le_of_lt (Nat.sub_le ..) enough)
  unfold collectEndpoints
  rw [memory_zero]
  show ((collectTurn types (.ofBytes iface.bytes) iface.bytes.length).run turns
    ((iface.bytes.getD 0 0).toNat, [])).bind
      (fun endpoints => some { wrapper with endpoints }) = _
  rw [ran]
  rfl

/-- `lcompat_usb_find_ep_in_iface` returns, whatever the bytes are: it finds the first endpoint
descriptor that matches. -/
theorem findEpInIface_eq {turns : Nat} (enough : iface.bytes.length < turns) (ssOut : Bool) :
    findEpInIface types iface pipe ssOut turns = some
      (foundFrom types iface.bytes pipe ssOut ((iface.bytes.getD 0 0).toNat, none)) := by
  unfold findEpInIface
  rw [memory_zero]
  exact findTurn_run pipe ssOut _ (Nat.lt_of_le_of_lt (Nat.sub_le ..) enough)

/-- What a search for a number and a search for an element find is the same. -/
theorem findIdx?_bind_getElem? {α : Type} (test : α → Bool) (elements : List α) :
    (elements.findIdx? test).bind (elements[·]?) = elements.find? test := by
  induction elements with
  | nil => rfl
  | cons first rest ih =>
    rw [List.findIdx?_cons, List.find?_cons]
    cases test first with
    | true => rfl
    | false =>
      rw [← ih]
      cases rest.findIdx? test with
      | none => rfl
      | some i => exact List.getElem?_cons_succ

/-- The number of an endpoint in a wrapper and the descriptor that is found agree. -/
structure EndpointsAgree (types : DescriptorTypes) (bytes : List UInt8) (pipe : BitVec 32)
    (filled : Wrapper) (found : Option Nat) : Prop where
  /-- Both searches find an endpoint, or neither does. -/
  both : (findWrapperEpIndex filled pipe).isSome = found.isSome
  /-- It is the first endpoint descriptor of the interface with the address and the type. -/
  first : found = firstMatch bytes pipe (endpointsOf types bytes)
  /-- The number is that of this descriptor, of which the wrapper has a copy. -/
  same : ∀ epIndex pos, findWrapperEpIndex filled pipe = some epIndex → found = some pos →
    (endpointsOf types bytes)[epIndex]? = some pos ∧
      filled.endpoints[epIndex]? = some (endpointAt bytes pos)

/-- Whatever the bytes of an interface are, if there are no more endpoint descriptors than a wrapper
has room for, the wrapper that is filled from them and the search in them agree. Both loops return
after no more turns than there are bytes, and read no byte that is not there. -/
theorem endpoints_agree (types : DescriptorTypes) (iface : UsbDeviceInterface) (pipe : BitVec 32)
    (ssOut : Bool) (wrapper : Wrapper)
    (few : (endpointsOf types iface.bytes).length ≤ LCOMPAT_MAX_USB_ENDPOINTS) {turns : Nat}
    (enough : iface.bytes.length < turns) :
    ∃ filled found companion, collectEndpoints types iface turns wrapper = some filled ∧
      findEpInIface types iface pipe ssOut turns = some (found, companion) ∧
      EndpointsAgree types iface.bytes pipe filled found := by
  have whole : ((endpointsOf types iface.bytes).map (endpointAt iface.bytes)).take
      LCOMPAT_MAX_USB_ENDPOINTS = (endpointsOf types iface.bytes).map (endpointAt iface.bytes) :=
    List.take_of_length_le (by rw [List.length_map]; exact few)
  have filled := @collectEndpoints_eq types iface turns enough wrapper
  rw [whole] at filled
  refine ⟨_, _, _, filled, findEpInIface_eq enough ssOut, ?_⟩
  have index : findWrapperEpIndex { wrapper with
      endpoints := (endpointsOf types iface.bytes).map (endpointAt iface.bytes) } pipe =
        (endpointsOf types iface.bytes).findIdx? fun pos =>
          (endpointAt iface.bytes pos).Matches pipe := List.findIdx?_map
  have found := findIdx?_bind_getElem? (fun pos => (endpointAt iface.bytes pos).Matches pipe)
    (endpointsOf types iface.bytes)
  rw [← index] at found
  refine ⟨?_, rfl, fun epIndex pos at_ here => ?_⟩
  · rw [index, List.findIdx?_isSome, Bool.eq_iff_iff, List.any_eq_true]
    exact List.find?_isSome.symm
  · rw [at_, Option.bind_some] at found
    have there := found.trans here
    refine ⟨there, ?_⟩
    rw [List.getElem?_map, there, Option.map_some]

/-- An interface with two endpoints, the first of which has a companion. -/
def twoEndpoints : UsbDeviceInterface where
  bytes := [2, 4, 7, 5, 0x81, 3, 8, 0, 1, 2, 0x30, 7, 5, 0x02, 2, 0, 2, 0]
  described := by decide

/-- The types that the USB specification has. -/
def usbTypes : DescriptorTypes := ⟨4, 5, 0x30, 6⟩

/-- Its endpoints are found. -/
theorem endpoints_agree_two : ∃ filled found companion,
    collectEndpoints usbTypes twoEndpoints 20 ⟨false, 0, []⟩ = some filled ∧
      findEpInIface usbTypes twoEndpoints 0x30002 true 20 = some (found, companion) ∧
      EndpointsAgree usbTypes twoEndpoints.bytes 0x30002 filled found := by
  have passed : descriptorsFrom usbTypes twoEndpoints.bytes 2 = [2, 9, 11] := by
    simp [descriptorsFrom, Begins, behind, twoEndpoints, usbTypes]
  refine endpoints_agree usbTypes twoEndpoints 0x30002 true ⟨false, 0, []⟩ ?_ (by decide)
  show ((descriptorsFrom usbTypes twoEndpoints.bytes 2).filter _).length ≤ _
  rw [passed]
  decide

end Agreement

end Lcompat.Usb
