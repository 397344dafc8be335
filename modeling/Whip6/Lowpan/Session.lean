import Whip6.Lowpan.DefragmenterRuns
import Whip6.Lowpan.FragmentCopy
import Whip6.Lowpan.FragmentNormalForm

/-!
# Reassembly sessions

A run of the defragmenter as its user drives it: a packet state is locked for a received frame, and
that frame is passed to it or the packet state is unlocked.  A session keeps, next to the memory,
which frames each IPv6 packet was put together from, and every packet that was handed up.
-/

namespace Whip6

open Lib

/-! ## Received frames -/

/-- A frame whose headers were unpacked and, where it has no mesh header, completed by a virtual
one. -/
structure LowpanReceivedFrame where
  frame : Ieee154DframeInfo
  hdrs : LowpanUnpackedFrameHeaders
  holdsPayload : frame.HoldsPayload
  unpacked : ∃ old unpacked, lowpanFrameHeadersUnpack old frame = (.noError, unpacked) ∧
    hdrs = lowpanDefragmenterCreateVirtualMeshHeaderIfNecessary frame unpacked

namespace LowpanReceivedFrame

/-- Where the bytes of a frame belong in the datagram. -/
def offset (f : LowpanReceivedFrame) : ℕ := f.hdrs.frag.offset.toNat

/-- The bytes of the datagram that a fragment carries. -/
def bytes (f : LowpanReceivedFrame) : List UInt8 := lowpanFragmentBytes f.frame f.hdrs

/-- The datagram of a frame that is not a fragment. -/
def rawBytes (f : LowpanReceivedFrame) : List UInt8 := lowpanRawIpv6Bytes f.frame f.hdrs

/-- The size of the datagram, as the fragment says. -/
def size (f : LowpanReceivedFrame) : ℕ := f.hdrs.frag.size.toNat

/-- The part of the datagram that a frame carries. -/
def span (f : LowpanReceivedFrame) : Span := ⟨f.offset, f.offset + f.bytes.length⟩

/-- The key of the datagram of a frame. -/
def key (f : LowpanReceivedFrame) : LowpanDefragFragSetKey := lowpanFragSetKeyOfFrame f.frame f.hdrs

/-- A frame is a fragment of the datagram that is being reassembled. -/
def BelongsTo (f : LowpanReceivedFrame) (r : Reassembly) : Prop :=
  f.key = r.key ∧ f.hdrs.frag.size = r.totalSize

/-- A frame carries a byte at an offset of the datagram. -/
def Carries (f : LowpanReceivedFrame) (i : ℕ) (b : UInt8) : Prop :=
  f.offset ≤ i ∧ f.bytes[i - f.offset]? = some b

end LowpanReceivedFrame

/-! ## What unpacking bounds -/

/-- The fragmentation header, when it is present, is within eleven bits. -/
def FragWithinBits (hdrs : LowpanUnpackedFrameHeaders) : Prop :=
  hdrs.bitmap.frag = true → hdrs.frag.size.toNat < 0x800 ∧ hdrs.frag.offset.toNat < 0x800

theorem unpackFragxHdr_within {hdr : LowpanUnpackedHeaderFrag} {payload : List UInt8}
    {initialOffset payloadLen : ℕ}
    (h : (lowpanFrameHeadersUnpackFragxHdr hdr payload initialOffset payloadLen).2 ≠ 0) :
    let r := (lowpanFrameHeadersUnpackFragxHdr hdr payload initialOffset payloadLen).1
    r.size.toNat < 0x800 ∧ r.offset.toNat < 0x800 := by
  have hsize : ∀ hi lo : UInt8,
      (networkWord (hi &&& ~~~LOWPAN_DISPATCH_MASK_FRAGX_UNMASKED) lo).toNat < 0x800 := by
    intro hi lo
    have hlo := lo.toNat_lt
    have hmask : (~~~LOWPAN_DISPATCH_MASK_FRAGX_UNMASKED).toNat = 7 := by decide
    have hhi : (hi &&& ~~~LOWPAN_DISPATCH_MASK_FRAGX_UNMASKED).toNat ≤ 7 := by
      rw [UInt8.toNat_and, hmask]
      exact Nat.and_le_right
    rw [toNat_networkWord]
    omega
  have hoffset : ∀ b : UInt8, (b.toUInt16 <<< 3).toNat < 0x800 := by
    intro b
    have hb := b.toNat_lt
    rw [UInt16.toNat_shiftLeft, UInt8.toNat_toUInt16, show UInt16.toNat 3 % 16 = 3 from rfl,
      Nat.shiftLeft_eq]
    exact Nat.lt_of_le_of_lt (Nat.mod_le _ _) (by omega)
  have hzero : UInt16.toNat 0 < 0x800 := by decide
  revert h
  simp only [lowpanFrameHeadersUnpackFragxHdr]
  split_ifs
  · simp
  · simp
  · exact fun _ => ⟨hsize _ _, hoffset _⟩
  · exact fun _ => ⟨hsize _ _, hzero⟩

theorem unpackLoop_within (payload : List UInt8) (payloadLen : ℕ) {fuel currentOffset : ℕ}
    {hdrs hdrs' : LowpanUnpackedFrameHeaders} (hw : FragWithinBits hdrs)
    (h : lowpanFrameHeadersUnpackLoop payload payloadLen fuel hdrs currentOffset =
      (.noError, hdrs')) : FragWithinBits hdrs' := by
  have hfailed : ∀ d, lowpanFrameHeadersUnpackFailed d ≠ (.noError, hdrs') := by
    simp [lowpanFrameHeadersUnpackFailed]
  induction fuel generalizing hdrs currentOffset with
  | zero => exact absurd h (hfailed _)
  | succ fuel ih =>
    simp only [lowpanFrameHeadersUnpackLoop] at h
    split_ifs at h with _ _ _ _ _ hzero _ _ _ _ _ _ _
    all_goals first
      | exact absurd h (hfailed _)
      | skip
    · cases h
      exact hw
    · cases h
      exact hw
    · cases h
      exact fun _ => unpackFragxHdr_within hzero
    · exact ih (fun _ => unpackFragxHdr_within hzero) h
    · exact ih (by exact hw) h
    · exact ih (by exact hw) h

namespace LowpanReceivedFrame

variable (f : LowpanReceivedFrame)

theorem fragWithinBits : FragWithinBits f.hdrs := by
  obtain ⟨old, unpacked, hunpack, hhdrs⟩ := f.unpacked
  have hw : FragWithinBits unpacked :=
    unpackLoop_within _ _ (fun h => absurd h Bool.false_ne_true) hunpack
  rw [hhdrs, lowpanDefragmenterCreateVirtualMeshHeaderIfNecessary]
  split_ifs
  · exact hw
  · exact hw

theorem length_bytes_lt : f.bytes.length < 256 := by
  have hlen := (ieee154DFrameGetPayloadLen f.frame).toNat_lt
  rw [bytes, lowpanFragmentBytes, List.length_drop, List.length_take]
  omega

theorem toNat_length_bytes : (UInt16.ofNat f.bytes.length).toNat = f.bytes.length := by
  have hlen := f.length_bytes_lt
  rw [UInt16.toNat_ofNat', Nat.mod_eq_of_lt (by omega)]

end LowpanReceivedFrame

/-! ## The lists in memory -/

namespace LowpanDefragGlobalState

/-- The packet states that are being reassembled. -/
def currentList (state : LowpanDefragGlobalState) : List ℕ :=
  walk state.nextPacket state.numPackets state.currentPackets

/-- The packet states that are locked. -/
def lockedList (state : LowpanDefragGlobalState) : List ℕ :=
  walk state.nextPacket state.numPackets state.lockedPackets

/-- The fragment specifications of a packet state. -/
def fragEntries (state : LowpanDefragGlobalState) (p : ℕ) : List FragEntry :=
  (walk state.nextFragSpec (state.numFragSpecs + 1) (some (.first p))).map fun f =>
    ⟨f, (state.fragSpecs f).offset, (state.fragSpecs f).size⟩

namespace Represents

variable {state : LowpanDefragGlobalState} {t : DefragLists} {handed : List ℕ}
  {numPackets numFragSpecs : ℕ}

theorem currentList_eq (h : state.Represents t [] numPackets numFragSpecs)
    (hp : t.Partition [] handed numPackets numFragSpecs) :
    state.currentList = t.current.map Reassembly.id := by
  have hlen := hp.length_ids
  rw [currentList, h.numPackets]
  exact h.current.walk_eq (by rw [List.length_map]; omega)

theorem lockedList_eq (h : state.Represents t [] numPackets numFragSpecs)
    (hp : t.Partition [] handed numPackets numFragSpecs) :
    state.lockedList = t.locked.map Reassembly.id := by
  have hlen := hp.length_ids
  rw [lockedList, h.numPackets]
  exact h.locked.walk_eq (by rw [List.length_map]; omega)

theorem fragEntries_eq (h : state.Represents t [] numPackets numFragSpecs)
    (hp : t.Partition [] handed numPackets numFragSpecs) {r : Reassembly} (hr : r ∈ t.live []) :
    state.fragEntries r.id = r.frags := by
  obtain ⟨-, hchain, hfrags⟩ := h.live r hr
  have hlen : r.ptrs.length ≤ numFragSpecs + 1 := by
    have hspecs := hp.fragSpecs.length_eq
    have hle : r.additionalPtrs.length ≤ ((t.live []).flatMap Reassembly.additionalPtrs).length := by
      obtain ⟨l₁, l₂, hl⟩ := List.append_of_mem hr
      rw [hl, List.flatMap_append, List.flatMap_cons, List.length_append, List.length_append]
      omega
    rw [hp.ptrs_eq hr, List.length_cons]
    rw [List.length_append, List.length_map, List.length_range] at hspecs
    omega
  rw [fragEntries, h.numFragSpecs, hchain.walk_eq hlen, Reassembly.ptrs, List.map_map]
  refine (List.map_congr_left fun e he => ?_).trans (List.map_id r.frags)
  obtain ⟨hoff, hsize⟩ := hfrags e he
  simp only [Function.comp_apply, hoff, hsize, id_eq]

end Represents

end LowpanDefragGlobalState

/-! ## Sessions -/

/-- An IPv6 packet that was handed up, by its number, and the size of the datagram that it is. -/
structure LowpanHandedUp where
  number : ℕ
  size : ℕ
  packet : Ipv6Packet

/-- The memory of the defragmenter, with the frame each packet state was last locked for, the frames
accepted for each IPv6 packet, the packets handed up from fragments, the last one first, and the
packets handed up from single frames, with the frame. -/
structure LowpanDefragSession where
  state : LowpanDefragGlobalState
  lockedFor : ℕ → Option LowpanReceivedFrame
  accepted : ℕ → List LowpanReceivedFrame
  handed : List LowpanHandedUp
  entire : List (LowpanReceivedFrame × Ipv6Packet)

/-- What the user of the defragmenter does.  The allocators answer as they are documented to. -/
inductive LowpanDefragEvent
  | find (f : LowpanReceivedFrame) (time : UInt32) (answers : Ipv6AllocAnswers)
      (fits : IovChunksFit answers.chunks (f.size - 40))
  | pass (p : ℕ)
  | entire (f : LowpanReceivedFrame) (answers : Ipv6AllocAnswers)
      (fits : IovChunksFit answers.chunks (f.rawBytes.length - 40))
  | unlock (p : ℕ)
  | timeout (time limit : UInt32)
  | terminate

namespace LowpanDefragSession

/-- Pass a frame to a packet state.  It is accepted for the IPv6 packet of a packet state that is
locked, unless that IPv6 packet is given up. -/
def passFrame (s : LowpanDefragSession) (p : ℕ) (f : LowpanReceivedFrame) : LowpanDefragSession :=
  let r := lowpanDefragmenterPassFrameWithIpv6PacketFragment s.state f.frame f.hdrs (some p)
  let packet := if p ∈ s.state.lockedList then (s.state.packets p).packet else none
  { s with
    state := r.2
    accepted := fun k =>
      if packet = some k ∧ k ∉ r.2.ipv6.freed then f :: s.accepted k else s.accepted k
    handed := (r.1.map fun k => ⟨k, f.size, r.2.ipv6.packets k⟩).toList ++ s.handed }

def step (s : LowpanDefragSession) : LowpanDefragEvent → LowpanDefragSession
  | .find f time answers _ =>
    let r := lowpanDefragmenterFindExistingOrAllocateNewPacketAndLockIt s.state f.frame f.hdrs time
      answers
    { s with
      state := r.2
      lockedFor := fun p => if r.1 = some p then some f else s.lockedFor p }
  | .pass p =>
    match s.lockedFor p with
    | none => s
    | some f => s.passFrame p f
  | .entire f answers _ =>
    { s with
      entire := ((lowpanDefragmenterPassFrameWithEntireIpv6Packet f.frame f.hdrs answers).map
        fun packet => (f, packet)).toList ++ s.entire }
  | .unlock p => { s with state := (lowpanDefragmenterUnlockPacket s.state (some p)).2 }
  | .timeout time limit =>
    { s with state := (lowpanDefragmenterPeriodicTimeout s.state time limit).2 }
  | .terminate => { s with state := (lowpanDefragmenterTerminateAllReassemblies s.state).2 }

/-- The session right after the initialisation. -/
def start (memory : LowpanDefragGlobalState) (pktsArrLen fragSpecArrLen : ℕ) :
    LowpanDefragSession where
  state := lowpanDefragmenterStart memory pktsArrLen fragSpecArrLen
  lockedFor := fun _ => none
  accepted := fun _ => []
  handed := []
  entire := []

end LowpanDefragSession

/-! ## Concrete frames and memories -/

/-- The headers before anything is unpacked. -/
def lowpanNoHeaders : LowpanUnpackedFrameHeaders where
  bitmap := .empty
  nextOffset := 0
  frag := ⟨0, 0, 0⟩
  mesh := ⟨0, .none, .none⟩
  bc0 := ⟨0⟩

/-- An intra-PAN frame between two short addresses. -/
def shortAddrFrame (payload : List UInt8) : Ieee154DframeInfo where
  bufferPtr := [UInt8.ofNat (payload.length + 9), 0x41, 0x88, 0, 1, 0, 2, 0, 3, 0] ++ payload
  bufferLen := UInt8.ofNat (payload.length + 10)
  frameFlags := 0x0a
  payloadAndDstAddrOff := 0x32
  srcPanAndAddrOff := 0x04

/-- A memory full of zeros. -/
def zeroMemory : LowpanDefragGlobalState where
  currentPackets := none
  lockedPackets := none
  freePackets := none
  freeAdditionalFragSpecs := none
  packets := fun _ => ⟨none, none, ⟨0, .none, .none, Vector.replicate 2 0⟩, 0, 0⟩
  fragSpecs := fun _ => ⟨0, 0, none⟩
  numPackets := 0
  numFragSpecs := 0
  ipv6 := ⟨fun _ => ⟨.zero, []⟩, 0, []⟩

end Whip6
