import Lcompat.Errno
import Lcompat.Logic.References

/-!
# Firmware images

`request_firmware` opens a file, takes one block from `kzalloc` for the image and one from
`alloc_frames_bytes` for its data, and reads the file; what it has taken is given back by labels
that fall through to one another. Each block has to go back to the allocator that it is from, and
frames with their number of bytes. What the file system and the allocators do is part of a call.
-/

namespace Lcompat.Firmware

open Lcompat.Logic

/-- `struct firmware`, with its address. -/
structure Image where
  /-- Its address. -/
  address : Nat
  /-- `size`. -/
  size : UInt64
  /-- `data`. -/
  data : Nat
  deriving DecidableEq

/-- What is done to the file system and the allocators. -/
inductive FirmwareEvent where
  /-- `vfs_openat` has opened a file. -/
  | openFile (path : List UInt8)
  /-- `vfs_close_file`. -/
  | closeFile
  /-- `kzalloc` has returned a block. -/
  | kzalloc (address : Nat)
  /-- `kfree`. -/
  | kfree (address : Nat)
  /-- `alloc_frames_bytes` has returned a block. -/
  | allocFrames (address : Nat) (bytes : UInt64)
  /-- `free_frames_bytes`. -/
  | freeFrames (address : Nat) (bytes : UInt64)
  deriving DecidableEq

/-- What the file system and the allocators do during a call of `request_firmware`. -/
structure Outcome where
  /-- What `snprintf` returns. -/
  printed : Int
  /-- What `vfs_openat` returns. -/
  openat : Int
  /-- The file it stores, if any, and the size of its inode, if it has one. -/
  file : Option (Option UInt64)
  /-- What `kzalloc` returns. -/
  image : Option Nat
  /-- What `alloc_frames_bytes` returns. -/
  data : Option Nat
  /-- What `vfs_read_file` returns. -/
  nread : Int64

/-- The path of a name: `/lib/firmware/` comes before one that is not absolute. -/
def firmwarePath (name : List UInt8) : List UInt8 :=
  if name[0]? = some 0x2f then name
  else [0x2f, 0x6c, 0x69, 0x62, 0x2f, 0x66, 0x69, 0x72, 0x6d, 0x77, 0x61, 0x72, 0x65, 0x2f] ++ name

/-- From `out_close` on. -/
def outClose : List FirmwareEvent := [.closeFile]

/-- From `out_free_image` on. -/
def outFreeImage (image : Nat) : List FirmwareEvent := .kfree image :: outClose

/-- From `out_free_data` on. -/
def outFreeData (data image : Nat) : List FirmwareEvent := .kfree data :: outFreeImage image

/-- `request_firmware` of a name: its result, what it stores at `fw`, and what it has done. -/
def requestFirmware (name : List UInt8) (o : Outcome) :
    Int × Option Image × List FirmwareEvent :=
  if o.printed < 0 then (o.printed, none, [])
  else if 256 ≤ o.printed then (-ENAMETOOLONG, none, [])
  else if o.openat < 0 then (o.openat, none, [])
  else
    match o.file with
    | none => (-ENOENT, none, [])
    | some inode =>
      let opened := [FirmwareEvent.openFile (firmwarePath name)]
      match inode with
      | none => (-ENOENT, none, opened ++ outClose)
      | some size =>
        match o.image with
        | none => (-ENOMEM, none, opened ++ outClose)
        | some image =>
          let opened := opened ++ [.kzalloc image]
          match o.data with
          | none => (-ENOMEM, none, opened ++ outFreeImage image)
          | some data =>
            let opened := opened ++ [.allocFrames data (if size ≠ 0 then size else 1)]
            if o.nread < 0 then
              (o.nread.toInt32.toInt, none, opened ++ outFreeData data image)
            else if o.nread.toUInt64 ≠ size then (- EIO, none, opened ++ outFreeData data image)
            else (0, some ⟨image, size, data⟩, opened ++ outClose)

/-- `release_firmware`. -/
def releaseFirmware : Option Image → List FirmwareEvent
  | none => []
  | some fw => [.freeFrames fw.data fw.size, .kfree fw.address]

/-- What has to be given back. -/
inductive Resource where
  /-- The file. -/
  | file
  /-- A block of `kzalloc`. -/
  | object (address : Nat)
  /-- A block of `alloc_frames_bytes`. -/
  | frames (address : Nat) (bytes : UInt64)
  deriving DecidableEq

/-- What an event obtains. -/
def FirmwareEvent.obtains : FirmwareEvent → Option Resource
  | .openFile _ => some .file
  | .kzalloc address => some (.object address)
  | .allocFrames address bytes => some (.frames address bytes)
  | .closeFile | .kfree _ | .freeFrames _ _ => none

/-- What an event gives back: `kfree` a block of `kzalloc`, and `free_frames_bytes` one of
`alloc_frames_bytes` with as many bytes. -/
def FirmwareEvent.releases : FirmwareEvent → Option Resource
  | .closeFile => some .file
  | .kfree address => some (.object address)
  | .freeFrames address bytes => some (.frames address bytes)
  | .openFile _ | .kzalloc _ | .allocFrames _ _ => none

/-- What is obtained and given back. -/
def firmwareLedger : RefLedger FirmwareEvent Resource where
  gained event resource := if event.obtains = some resource then 1 else 0
  dropped event resource := if event.releases = some resource then 1 else 0
  Uses _ _ := False

/-- Everything that is obtained is given back once, where it is from, and nothing else is. -/
def Balanced (events : List FirmwareEvent) : Prop :=
  firmwareLedger.Replays (fun _ => 0) events fun _ => 0

/-- What `request_firmware` leaves behind: nothing when it fails; when it succeeds the file is
closed once, and `release_firmware` gives back the rest. -/
structure Unwinds (name : List UInt8) (o : Outcome) : Prop where
  /-- A call that fails. -/
  failed : (requestFirmware name o).1 ≠ 0 →
    (requestFirmware name o).2.1 = none ∧ Balanced (requestFirmware name o).2.2
  /-- A call that succeeds. -/
  succeeded : (requestFirmware name o).1 = 0 → ∃ fw, (requestFirmware name o).2.1 = some fw ∧
    (requestFirmware name o).2.2.count .closeFile = 1 ∧
    Balanced ((requestFirmware name o).2.2 ++ releaseFirmware (some fw))

/-- If the file is read, it is not empty, and all of it is read. -/
def Outcome.ReadsAll (o : Outcome) : Prop :=
  ∀ size, 0 ≤ o.printed → o.printed < 256 → 0 ≤ o.openat → o.file = some (some size) →
    o.image ≠ none → o.data ≠ none → size ≠ 0 ∧ 0 ≤ o.nread ∧ o.nread.toUInt64 = size

section Balance

variable {events : List FirmwareEvent} {resources : List Resource} {event : FirmwareEvent}
  {resource : Resource} {held : Resource → Nat}

/-- What is held when some things have been obtained. -/
def holding (resources : List Resource) : Resource → Nat := fun resource => resources.count resource

/-- The order does not matter. -/
theorem holding_perm {resources' : List Resource} (perm : resources.Perm resources') :
    holding resources = holding resources' :=
  funext fun resource => perm.count_eq resource

/-- One thing more is obtained. -/
theorem replays_obtain (obtains : event.obtains = some resource) (keeps : event.releases = none)
    (rest : firmwareLedger.Replays (holding (resource :: resources)) events held) :
    firmwareLedger.Replays (holding resources) (event :: events) held := by
  have next : firmwareLedger.next (holding resources) event = holding (resource :: resources) := by
    funext other
    simp [RefLedger.next, firmwareLedger, obtains, keeps, holding, List.count_cons]
  refine ⟨fun other => ⟨False.elim, ?_⟩, next ▸ rest⟩
  simp [firmwareLedger, keeps]

/-- Something that is held is given back. -/
theorem replays_release (releases : event.releases = some resource)
    (gains : event.obtains = none)
    (rest : firmwareLedger.Replays (holding resources) events held) :
    firmwareLedger.Replays (holding (resource :: resources)) (event :: events) held := by
  have next : firmwareLedger.next (holding (resource :: resources)) event = holding resources := by
    funext other
    simp [RefLedger.next, firmwareLedger, releases, gains, holding, List.count_cons]
  refine ⟨fun other => ⟨False.elim, ?_⟩, next ▸ rest⟩
  by_cases same : resource = other
  · simp [firmwareLedger, releases, holding, same]
  · simp [firmwareLedger, releases, same]

/-- From `out_close` on the file is given back. -/
theorem replays_outClose : firmwareLedger.Replays (holding [.file]) outClose (holding []) :=
  replays_release rfl rfl rfl

/-- From `out_free_image` on the image and the file are. -/
theorem replays_outFreeImage (image : Nat) :
    firmwareLedger.Replays (holding [.object image, .file]) (outFreeImage image) (holding []) :=
  replays_release rfl rfl replays_outClose

/-- What is obtained more often than it is given back is not balanced. -/
theorem not_balanced (resource : Resource)
    (lost : firmwareLedger.allDropped events resource < firmwareLedger.allGained events resource) :
    ¬Balanced events := by
  intro balanced
  have books := balanced.balance resource
  omega

/-- Data that `kfree` is called for is not given back where it is from. -/
theorem not_balanced_outFreeData (path : List UInt8) (image data : Nat) (bytes : UInt64) :
    ¬Balanced ([.openFile path, .kzalloc image, .allocFrames data bytes] ++
      outFreeData data image) := by
  apply not_balanced (.frames data bytes)
  simp [RefLedger.allDropped, RefLedger.allGained, firmwareLedger, outFreeData, outFreeImage,
    outClose, FirmwareEvent.obtains, FirmwareEvent.releases]

/-- Data that is released with its number of bytes is given back where it is from. -/
theorem balanced_release (path : List UInt8) (image data : Nat) (bytes : UInt64) :
    Balanced ([.openFile path, .kzalloc image, .allocFrames data bytes] ++ outClose ++
      releaseFirmware (some ⟨image, bytes, data⟩)) := by
  have turned : holding [.frames data bytes, .object image, .file] =
      holding [.file, .frames data bytes, .object image] :=
    holding_perm (@List.perm_append_comm Resource [.frames data bytes, .object image] [.file])
  have given : firmwareLedger.Replays (holding [.frames data bytes, .object image, .file])
      (outClose ++ releaseFirmware (some ⟨image, bytes, data⟩)) (holding []) := by
    rw [turned]
    exact replays_release rfl rfl (replays_release rfl rfl (replays_release rfl rfl rfl))
  have taken : firmwareLedger.Replays (holding [])
      ([.openFile path, .kzalloc image, .allocFrames data bytes] ++
        (outClose ++ releaseFirmware (some ⟨image, bytes, data⟩))) (holding []) :=
    replays_obtain rfl rfl (replays_obtain rfl rfl (replays_obtain rfl rfl given))
  exact taken

/-- Data of an empty file is released with another number of bytes than it was obtained with. -/
theorem not_balanced_release (path : List UInt8) (image data : Nat) :
    ¬Balanced ([.openFile path, .kzalloc image, .allocFrames data 1] ++ outClose ++
      releaseFirmware (some ⟨image, 0, data⟩)) := by
  apply not_balanced (.frames data 1)
  simp [RefLedger.allDropped, RefLedger.allGained, firmwareLedger, releaseFirmware, outClose,
    FirmwareEvent.obtains, FirmwareEvent.releases]

end Balance

/-- A call that fails before it reads the file leaves nothing behind. -/
theorem unwinds_of_failed {name : List UInt8} {o : Outcome} {ret : Int}
    {events : List FirmwareEvent} (result : requestFirmware name o = (ret, none, events))
    (bad : ret ≠ 0) (balanced : Balanced events) : Unwinds name o := by
  constructor
  · intro _
    rw [result]
    exact ⟨rfl, balanced⟩
  · intro good
    rw [result] at good
    exact absurd good bad

/-- A call that does not read the file to its end does not unwind. -/
theorem not_unwinds_of_failed {name : List UInt8} {o : Outcome} {ret : Int}
    {events : List FirmwareEvent} (result : requestFirmware name o = (ret, none, events))
    (lost : ¬Balanced events) : ¬Unwinds name o := by
  intro unwinds
  by_cases zero : ret = 0
  · obtain ⟨fw, stored, -⟩ := unwinds.succeeded (by rw [result]; exact zero)
    rw [result] at stored
    cases stored
  · have failed := unwinds.failed (by rw [result]; exact zero)
    rw [result] at failed
    exact lost failed.2

/-- `request_firmware` and `release_firmware` give back what they obtain if and only if a file that
is read is not empty and is read to its end. -/
theorem unwinds_iff (name : List UInt8) (o : Outcome) : Unwinds name o ↔ o.ReadsAll := by
  by_cases negative : o.printed < 0
  · have result : requestFirmware name o = (o.printed, none, []) := if_pos negative
    refine iff_of_true (unwinds_of_failed result (by omega) rfl) fun size least => ?_
    omega
  by_cases long : 256 ≤ o.printed
  · have result : requestFirmware name o = (-ENAMETOOLONG, none, []) := by
      rw [requestFirmware, if_neg negative, if_pos long]
    refine iff_of_true (unwinds_of_failed result (by decide) rfl) fun size _ short => ?_
    omega
  by_cases refused : o.openat < 0
  · have result : requestFirmware name o = (o.openat, none, []) := by
      rw [requestFirmware, if_neg negative, if_neg long, if_pos refused]
    refine iff_of_true (unwinds_of_failed result (by omega) rfl) fun size _ _ opened => ?_
    omega
  cases file : o.file with
  | none =>
    have result : requestFirmware name o = (-ENOENT, none, []) := by
      simp only [requestFirmware, negative, long, refused, file, if_false]
    refine iff_of_true (unwinds_of_failed result (by decide) rfl) fun size _ _ _ here => ?_
    rw [file] at here
    cases here
  | some inode =>
  cases inode with
  | none =>
    have result : requestFirmware name o =
        (-ENOENT, none, [.openFile (firmwarePath name)] ++ outClose) := by
      simp only [requestFirmware, negative, long, refused, file, if_false]
    refine iff_of_true (unwinds_of_failed result (by decide) ?_) fun size _ _ _ here => ?_
    · exact replays_obtain rfl rfl replays_outClose
    · rw [file] at here
      cases here
  | some size =>
  cases image : o.image with
  | none =>
    have result : requestFirmware name o =
        (-ENOMEM, none, [.openFile (firmwarePath name)] ++ outClose) := by
      simp only [requestFirmware, negative, long, refused, file, image, if_false]
    refine iff_of_true (unwinds_of_failed result (by decide) ?_) fun size _ _ _ _ given => ?_
    · exact replays_obtain rfl rfl replays_outClose
    · exact absurd image given
  | some block =>
  cases data : o.data with
  | none =>
    have result : requestFirmware name o = (-ENOMEM, none,
        [.openFile (firmwarePath name), .kzalloc block] ++ outFreeImage block) := by
      simp only [requestFirmware, negative, long, refused, file, image, data, if_false]
      rfl
    refine iff_of_true (unwinds_of_failed result (by decide) ?_) fun size _ _ _ _ _ given => ?_
    · exact replays_obtain rfl rfl (replays_obtain rfl rfl (replays_outFreeImage block))
    · exact absurd data given
  | some frames =>
  -- the file is read
  have reads : o.ReadsAll ↔ size ≠ 0 ∧ 0 ≤ o.nread ∧ o.nread.toUInt64 = size := by
    constructor
    · intro all
      exact all size (by omega) (by omega) (by omega) file (by simp [image]) (by simp [data])
    · intro here other _ _ _ same _ _
      obtain rfl := Option.some.inj (Option.some.inj (file.symm.trans same))
      exact here
  rw [reads]
  by_cases failed : o.nread < 0
  · have result : requestFirmware name o = (o.nread.toInt32.toInt, none,
        [.openFile (firmwarePath name), .kzalloc block,
          .allocFrames frames (if size ≠ 0 then size else 1)] ++ outFreeData frames block) := by
      simp only [requestFirmware, negative, long, refused, file, image, data, failed, if_false,
        if_true]
      rfl
    refine iff_of_false (not_unwinds_of_failed result (not_balanced_outFreeData _ _ _ _)) ?_
    rintro ⟨-, least, -⟩
    exact absurd failed (Int64.not_lt.mpr least)
  by_cases short : o.nread.toUInt64 = size
  · have result : requestFirmware name o = (0, some ⟨block, size, frames⟩,
        [.openFile (firmwarePath name), .kzalloc block,
          .allocFrames frames (if size ≠ 0 then size else 1)] ++ outClose) := by
      simp only [requestFirmware, negative, long, refused, file, image, data, failed, short,
        if_false, ne_eq, not_true]
      rfl
    by_cases empty : size = 0
    · rw [empty] at result ⊢
      refine iff_of_false (fun unwinds => ?_) fun whole => whole.1 rfl
      obtain ⟨fw, stored, -, balanced⟩ := unwinds.succeeded (by rw [result])
      rw [result] at stored balanced
      obtain rfl := Option.some.inj stored
      exact not_balanced_release _ _ _ balanced
    · rw [if_pos empty] at result
      refine iff_of_true ⟨fun bad => ?_, fun _ => ⟨⟨block, size, frames⟩, ?_, ?_, ?_⟩⟩
        ⟨empty, Int64.not_lt.mp failed, short⟩
      · rw [result] at bad
        exact absurd rfl bad
      · rw [result]
      · rw [result]
        rfl
      · rw [result]
        exact balanced_release _ _ _ _
  · have result : requestFirmware name o = (- EIO, none,
        [.openFile (firmwarePath name), .kzalloc block,
          .allocFrames frames (if size ≠ 0 then size else 1)] ++ outFreeData frames block) := by
      simp only [requestFirmware, negative, long, refused, file, image, data, failed, short,
        if_false, if_true, ne_eq, not_false_eq_true]
      rfl
    refine iff_of_false (not_unwinds_of_failed result (not_balanced_outFreeData _ _ _ _)) ?_
    exact fun whole => short whole.2.2

/-- A file of two bytes of which the file system returns one. -/
def shortRead : Outcome := ⟨15, 0, some (some 2), some 1, some 4096, 1⟩

/-- After a short read the data is given to `kfree`. -/
theorem shortRead_not_unwound : ¬∀ (name : List UInt8) (o : Outcome), Unwinds name o := by
  intro always
  have result : requestFirmware [0x66] shortRead = (- EIO, none,
      [.openFile (firmwarePath [0x66]), .kzalloc 1, .allocFrames 4096 2] ++
        outFreeData 4096 1) := by
    decide
  exact not_unwinds_of_failed result (not_balanced_outFreeData _ _ _ _) (always [0x66] shortRead)

end Lcompat.Firmware
