import Whip6.Lowpan.RawIpv6Header
import Whip6.Lib.LinkedList

/-!
# The defragmenter

The state of the reassemblies of IPv6 packets, with all the memory it points to.  Packet states
and additional fragment specifications live in two pools and are pointed to by their indices; the
first specification of a packet is part of the packet state, so it has an address of its own.  IPv6
packets are numbered in the order in which they are allocated.

A loop over a list runs with the size of the pool of its nodes as fuel, which suffices for a list
without a cycle.
-/

namespace Whip6

open Lib

/-! ## State -/

/-- The address of a fragment specification: within a packet state, or in the pool. -/
inductive FragSpecPtr
  | first (packet : ℕ)
  | additional (index : ℕ)
  deriving DecidableEq, Repr

structure LowpanDefragFragSpec where
  offset : UInt16
  size : UInt16
  next : Option FragSpecPtr
  deriving DecidableEq, Repr

structure LowpanDefragFragSetKey where
  tag : UInt16
  srcLinkAddr : Ieee154Addr
  dstLinkAddr : Ieee154Addr
  commonPanId : Ieee154PanId
  deriving DecidableEq, Repr

/-- A packet state, without the first fragment specification. -/
structure LowpanDefragPacketState where
  next : Option ℕ
  packet : Option ℕ
  key : LowpanDefragFragSetKey
  totalSize : UInt16
  defragStartTime : UInt32
  deriving DecidableEq, Repr

/-- The IPv6 packets: their contents, how many were allocated so far, and which were freed. -/
structure Ipv6PacketHeap where
  packets : ℕ → Ipv6Packet
  numAllocated : ℕ
  freed : List ℕ

def Ipv6PacketHeap.allocate (heap : Ipv6PacketHeap) (packet : Ipv6Packet) : Ipv6PacketHeap :=
  { heap with
    packets := Function.update heap.packets heap.numAllocated packet
    numAllocated := heap.numAllocated + 1 }

def Ipv6PacketHeap.free (heap : Ipv6PacketHeap) (packet : ℕ) : Ipv6PacketHeap :=
  { heap with freed := packet :: heap.freed }

def Ipv6PacketHeap.write (heap : Ipv6PacketHeap) (packet : ℕ) (content : Ipv6Packet) :
    Ipv6PacketHeap :=
  { heap with packets := Function.update heap.packets packet content }

/-- The state of the defragmenter with the two pools and the IPv6 packets. -/
structure LowpanDefragGlobalState where
  currentPackets : Option ℕ
  lockedPackets : Option ℕ
  freePackets : Option ℕ
  freeAdditionalFragSpecs : Option FragSpecPtr
  packets : ℕ → LowpanDefragPacketState
  fragSpecs : FragSpecPtr → LowpanDefragFragSpec
  numPackets : ℕ
  numFragSpecs : ℕ
  ipv6 : Ipv6PacketHeap

namespace LowpanDefragGlobalState

/-- The links between packet states. -/
def nextPacket (state : LowpanDefragGlobalState) (p : ℕ) : Option ℕ := (state.packets p).next

/-- The links between fragment specifications. -/
def nextFragSpec (state : LowpanDefragGlobalState) (f : FragSpecPtr) : Option FragSpecPtr :=
  (state.fragSpecs f).next

def setPacket (state : LowpanDefragGlobalState) (p : ℕ) (packet : LowpanDefragPacketState) :
    LowpanDefragGlobalState :=
  { state with packets := Function.update state.packets p packet }

def setNextPacket (state : LowpanDefragGlobalState) (p : ℕ) (next : Option ℕ) :
    LowpanDefragGlobalState :=
  state.setPacket p { state.packets p with next := next }

def setFragSpec (state : LowpanDefragGlobalState) (f : FragSpecPtr) (spec : LowpanDefragFragSpec) :
    LowpanDefragGlobalState :=
  { state with fragSpecs := Function.update state.fragSpecs f spec }

def setNextFragSpec (state : LowpanDefragGlobalState) (f : FragSpecPtr)
    (next : Option FragSpecPtr) : LowpanDefragGlobalState :=
  state.setFragSpec f { state.fragSpecs f with next := next }

end LowpanDefragGlobalState

/-! ## Destroying and unlocking -/

/-- Put the additional specifications of a packet back on the free list. -/
def lowpanDefragmenterDestroyFragSpecsOfPacket (state : LowpanDefragGlobalState) (p : ℕ) :
    LowpanDefragGlobalState :=
  match state.nextFragSpec (.first p) with
  | none => state
  | some currFragSpec =>
    let prevFragSpec := lastFrom state.nextFragSpec state.numFragSpecs currFragSpec
    let state := state.setNextFragSpec prevFragSpec state.freeAdditionalFragSpecs
    let state := { state with freeAdditionalFragSpecs := state.nextFragSpec (.first p) }
    state.setNextFragSpec (.first p) none

/-- Destroy a packet state that is on no list and put it on the free list. -/
def lowpanDefragmenterDestroyDefragPacket (state : LowpanDefragGlobalState) (p : ℕ) :
    LowpanDefragGlobalState :=
  let state :=
    match (state.packets p).packet with
    | none => state
    | some packet =>
      { state with ipv6 := state.ipv6.free packet }.setPacket p
        { state.packets p with packet := none }
  let state := lowpanDefragmenterDestroyFragSpecsOfPacket state p
  let state := state.setNextPacket p state.freePackets
  { state with freePackets := some p }

/-- Take a packet state off the locked list; `none` if it is not there. -/
def lowpanDefragmenterUnlockDefragPacket (state : LowpanDefragGlobalState) (locked : Option ℕ) :
    Option (ℕ × LowpanDefragGlobalState) :=
  match findFrom state.nextPacket (fun p => some p == locked) state.numPackets none
      state.lockedPackets with
  | (_, none) => none
  | (none, some curr) =>
    let state := { state with lockedPackets := state.nextPacket curr }
    some (curr, state.setNextPacket curr none)
  | (some prev, some curr) =>
    let state := state.setNextPacket prev (state.nextPacket curr)
    some (curr, state.setNextPacket curr none)

/-! ## Merging fragments -/

/-- The loop over the specifications that stops at the first one with an offset not below the new
one; `prev` is the specification before `curr`. -/
def lowpanFindWhereLoop (state : LowpanDefragGlobalState) (newFragOff : UInt16) :
    ℕ → Option FragSpecPtr → FragSpecPtr → Option FragSpecPtr
  | 0, prev, _ => prev
  | fuel + 1, prev, curr =>
    if newFragOff ≤ (state.fragSpecs curr).offset then prev
    else
      match state.nextFragSpec curr with
      | none => some curr
      | some next => lowpanFindWhereLoop state newFragOff fuel (some curr) next

/-- The specification of a packet after which a new fragment belongs. -/
def lowpanDefragmenterFindWhereNewFragSpecShouldBeInserted (state : LowpanDefragGlobalState)
    (p : ℕ) (newFragOff : UInt16) : Option FragSpecPtr :=
  lowpanFindWhereLoop state newFragOff (state.numFragSpecs + 1) none (.first p)

/-- The answers of a concatenation: zero, negative and positive in the code. -/
inductive ConcatResult
  | merged
  | disjoint
  | overlapping
  deriving DecidableEq, Repr

/-- Concatenate a new fragment with an existing specification: the offset and the size that the
specification gets, and the answer. -/
def lowpanDefragmenterConcatenateNewFragSpecWithExistingOne (offset size : UInt16)
    (newFragOff newFragLen : UInt16) (identicalContent : Bool) :
    UInt16 × UInt16 × ConcatResult :=
  let fragEnd := offset + size
  let sumSize := size + newFragLen
  let before := offset > newFragOff
  let behind := fragEnd.toNat < newFragOff.toNat + newFragLen.toNat
  let newStart := if before then newFragOff else offset
  let newEnd := if behind then newFragOff + newFragLen else fragEnd
  let newSize := newEnd - newStart
  if newSize = sumSize then (newStart, newSize, .merged)
  else if newSize > sumSize then (offset, size, .disjoint)
  else if ¬ before ∧ ¬ behind ∧ identicalContent then (offset, size, .merged)
  else (offset, size, .overlapping)

namespace LowpanDefragGlobalState

/-- Concatenate a new fragment with the specification at an address. -/
def concatenate (state : LowpanDefragGlobalState) (f : FragSpecPtr) (newFragOff newFragLen : UInt16)
    (identicalContent : Bool) : LowpanDefragGlobalState × ConcatResult :=
  let r := lowpanDefragmenterConcatenateNewFragSpecWithExistingOne (state.fragSpecs f).offset
    (state.fragSpecs f).size newFragOff newFragLen identicalContent
  (state.setFragSpec f { state.fragSpecs f with offset := r.1, size := r.2.1 }, r.2.2)

/-- Put the specifications behind a given one back on the free list. -/
def dropFragSpecsAfter (state : LowpanDefragGlobalState) (f nextFragSpec : FragSpecPtr) :
    LowpanDefragGlobalState :=
  let last := lastFrom state.nextFragSpec state.numFragSpecs nextFragSpec
  let state := state.setNextFragSpec last state.freeAdditionalFragSpecs
  let state := { state with freeAdditionalFragSpecs := state.nextFragSpec f }
  state.setNextFragSpec f none

/-- Take a specification off the free list and put it, with a new fragment, behind `f`. -/
def insertFragSpecAfter (state : LowpanDefragGlobalState) (f : FragSpecPtr)
    (newFragOff newFragLen : UInt16) : Bool × LowpanDefragGlobalState :=
  match state.freeAdditionalFragSpecs with
  | none => (false, state)
  | some newFragSpec =>
    let state := { state with freeAdditionalFragSpecs := state.nextFragSpec newFragSpec }
    let state := state.setFragSpec newFragSpec ⟨newFragOff, newFragLen, state.nextFragSpec f⟩
    (true, state.setNextFragSpec f (some newFragSpec))

end LowpanDefragGlobalState

def lowpanDefragmenterTryToConcatenateFragSpecWithNextOnList (state : LowpanDefragGlobalState)
    (f : FragSpecPtr) (identicalContent : Bool) : LowpanDefragGlobalState :=
  match state.nextFragSpec f with
  | none => state
  | some nextFragSpec =>
    let r := state.concatenate f (state.fragSpecs nextFragSpec).offset
      (state.fragSpecs nextFragSpec).size identicalContent
    match r.2 with
    | .merged =>
      let state := r.1.setNextFragSpec f (r.1.nextFragSpec nextFragSpec)
      let state := state.setNextFragSpec nextFragSpec state.freeAdditionalFragSpecs
      { state with freeAdditionalFragSpecs := some nextFragSpec }
    | .overlapping => r.1.dropFragSpecsAfter f nextFragSpec
    | .disjoint => r.1

/-- Merge a new fragment into a packet, behind a given specification.  The answer is no when the
whole packet has to be dropped. -/
def lowpanDefragmenterMergeNewFragSpecIntoPacket (state : LowpanDefragGlobalState) (p : ℕ)
    (prevFragSpec : Option FragSpecPtr) (newFragOff newFragLen : UInt16) (identicalContent : Bool) :
    Bool × LowpanDefragGlobalState :=
  if newFragOff = 0 then
    let r := state.concatenate (.first p) newFragOff newFragLen identicalContent
    if r.2 = .merged then
      (true, lowpanDefragmenterTryToConcatenateFragSpecWithNextOnList r.1 (.first p) identicalContent)
    else
      let state := lowpanDefragmenterDestroyFragSpecsOfPacket r.1 p
      (true, state.setFragSpec (.first p)
        { state.fragSpecs (.first p) with offset := 0, size := newFragLen })
  else
    match prevFragSpec with
    | none => (false, state)
    | some prevFragSpec =>
      let r := state.concatenate prevFragSpec newFragOff newFragLen identicalContent
      match r.2 with
      | .merged =>
        (true,
          lowpanDefragmenterTryToConcatenateFragSpecWithNextOnList r.1 prevFragSpec identicalContent)
      | .overlapping =>
        let state := lowpanDefragmenterDestroyFragSpecsOfPacket r.1 p
        match state.freeAdditionalFragSpecs with
        | none => (false, state)
        | some nextFragSpec =>
          let state := { state with freeAdditionalFragSpecs := state.nextFragSpec nextFragSpec }
          let state := state.setFragSpec nextFragSpec ⟨newFragOff, newFragLen, none⟩
          (true, state.setFragSpec (.first p) ⟨0, 0, some nextFragSpec⟩)
      | .disjoint =>
        match r.1.nextFragSpec prevFragSpec with
        | none => r.1.insertFragSpecAfter prevFragSpec newFragOff newFragLen
        | some nextFragSpec =>
          let r := r.1.concatenate nextFragSpec newFragOff newFragLen identicalContent
          match r.2 with
          | .merged => (true, r.1)
          | .disjoint => r.1.insertFragSpecAfter prevFragSpec newFragOff newFragLen
          | .overlapping =>
            (r.1.dropFragSpecsAfter prevFragSpec nextFragSpec).insertFragSpecAfter prevFragSpec
              newFragOff newFragLen

/-! ## Initialisation -/

/-- Link the packet states from `ptr` on, the last of them to nothing. -/
def lowpanInitPacketsLoop : ℕ → ℕ → (ℕ → LowpanDefragPacketState) → ℕ → LowpanDefragPacketState
  | 0, ptr, packets => Function.update packets ptr { packets ptr with next := none }
  | left + 1, ptr, packets =>
    lowpanInitPacketsLoop left (ptr + 1)
      (Function.update packets ptr { packets ptr with next := some (ptr + 1) })

/-- Link the additional specifications from `ptr` on, the last of them to nothing. -/
def lowpanInitFragSpecsLoop :
    ℕ → ℕ → (FragSpecPtr → LowpanDefragFragSpec) → FragSpecPtr → LowpanDefragFragSpec
  | 0, ptr, fragSpecs =>
    Function.update fragSpecs (.additional ptr) { fragSpecs (.additional ptr) with next := none }
  | left + 1, ptr, fragSpecs =>
    lowpanInitFragSpecsLoop left (ptr + 1)
      (Function.update fragSpecs (.additional ptr)
        { fragSpecs (.additional ptr) with next := some (.additional (ptr + 1)) })

/-- Initialise the state over two pools, of which either may be empty. -/
def lowpanDefragmenterInit (state : LowpanDefragGlobalState) (pktsArrLen fragSpecArrLen : ℕ) :
    LowpanDefragGlobalState :=
  { state with
    currentPackets := none
    lockedPackets := none
    freePackets := if pktsArrLen > 0 then some 0 else none
    freeAdditionalFragSpecs := if fragSpecArrLen > 0 then some (.additional 0) else none
    packets :=
      if pktsArrLen > 0 then lowpanInitPacketsLoop (pktsArrLen - 1) 0 state.packets
      else state.packets
    fragSpecs :=
      if fragSpecArrLen > 0 then lowpanInitFragSpecsLoop (fragSpecArrLen - 1) 0 state.fragSpecs
      else state.fragSpecs
    numPackets := pktsArrLen
    numFragSpecs := fragSpecArrLen }

/-! ## Finding the packet of a frame -/

/-- Without a mesh header, the link addresses are the ones of the frame. -/
def lowpanDefragmenterCreateVirtualMeshHeaderIfNecessary (frame : Ieee154DframeInfo)
    (hdrs : LowpanUnpackedFrameHeaders) : LowpanUnpackedFrameHeaders :=
  if hdrs.bitmap.mesh then hdrs
  else { hdrs with mesh := ⟨1, ieee154DFrameGetSrcAddr frame, ieee154DFrameGetDstAddr frame⟩ }

/-- The key of the packet that a frame belongs to. -/
def lowpanFragSetKeyOfFrame (frame : Ieee154DframeInfo) (hdrs : LowpanUnpackedFrameHeaders) :
    LowpanDefragFragSetKey where
  tag := hdrs.frag.tag
  srcLinkAddr := hdrs.mesh.srcAddr
  dstLinkAddr := hdrs.mesh.dstAddr
  commonPanId := ieee154DFrameGetDstPanId frame

def lowpanFragSetKeyMatches (key : LowpanDefragFragSetKey) (frame : Ieee154DframeInfo)
    (hdrs : LowpanUnpackedFrameHeaders) : Bool :=
  key.tag == hdrs.frag.tag && ieee154AddrAnyCmp key.srcLinkAddr hdrs.mesh.srcAddr == 0 &&
    ieee154AddrAnyCmp key.dstLinkAddr hdrs.mesh.dstAddr == 0 &&
    ieee154PanIdCmp key.commonPanId (ieee154DFrameGetDstPanId frame) == 0

/-- Take a packet state off the free list for a new packet and lock it. -/
def lowpanDefragmenterAllocatePacketAndLockIt (state : LowpanDefragGlobalState)
    (frame : Ieee154DframeInfo) (hdrs : LowpanUnpackedFrameHeaders) (currTimeInMs : UInt32)
    (answers : Ipv6AllocAnswers) : Option ℕ × LowpanDefragGlobalState :=
  match state.freePackets with
  | none => (none, state)
  | some p =>
    let totalSize := hdrs.frag.size
    match ipv6AllocatePacket answers (totalSize.toNat - 40) with
    | none =>
      (none, state.setPacket p { state.packets p with totalSize := totalSize, packet := none })
    | some packet =>
      let state :=
        { state with ipv6 := state.ipv6.allocate packet, freePackets := state.nextPacket p }.setPacket p
          { next := state.lockedPackets
            packet := some state.ipv6.numAllocated
            key := lowpanFragSetKeyOfFrame frame hdrs
            totalSize := totalSize
            defragStartTime := currTimeInMs }
      let state := state.setFragSpec (.first p) ⟨0, 0, none⟩
      (some p, { state with lockedPackets := some p })

def lowpanDefragmenterFindExistingOrAllocateNewPacketAndLockIt (state : LowpanDefragGlobalState)
    (frame : Ieee154DframeInfo) (hdrs : LowpanUnpackedFrameHeaders) (currTimeInMs : UInt32)
    (answers : Ipv6AllocAnswers) : Option ℕ × LowpanDefragGlobalState :=
  if ieee154DFrameIsInterPan frame then (none, state)
  else if ¬ hdrs.bitmap.frag then (none, state)
  else if hdrs.frag.size.toNat < 40 then (none, state)
  else
    match findFrom state.nextPacket
        (fun p => lowpanFragSetKeyMatches (state.packets p).key frame hdrs) state.numPackets none
        state.currentPackets with
    | (_, none) =>
      lowpanDefragmenterAllocatePacketAndLockIt state frame hdrs currTimeInMs answers
    | (prev, some curr) =>
      let state :=
        match prev with
        | none => { state with currentPackets := state.nextPacket curr }
        | some prev => state.setNextPacket prev (state.nextPacket curr)
      if (state.packets curr).totalSize ≠ hdrs.frag.size then
        lowpanDefragmenterAllocatePacketAndLockIt
          (lowpanDefragmenterDestroyDefragPacket state curr) frame hdrs currTimeInMs answers
      else
        let state := state.setNextPacket curr state.lockedPackets
        (some curr, { state with lockedPackets := some curr })

/-! ## Passing a frame -/

/-- Copy a fragment that is not the first one into the packet: the length of the fragment and
whether its bytes were the same before, or `none` for an error; and the packet. -/
def lowpanDefragmenterCopySubsequentFragment (frame : Ieee154DframeInfo)
    (hdrs : LowpanUnpackedFrameHeaders) (packet : Ipv6Packet) :
    Option (ℕ × Bool) × Ipv6Packet :=
  let payloadPtr := (ieee154DFrameUnsafeGetPayloadPtr frame).drop hdrs.nextOffset
  let payloadLen := (ieee154DFrameGetPayloadLen frame).toNat - hdrs.nextOffset
  let newFragOffset := hdrs.frag.offset.toNat
  if payloadLen = 0 ∨ payloadLen % 8 ≠ 0 ∧ newFragOffset + payloadLen ≠ hdrs.frag.size.toNat then
    (none, packet)
  else
    -- The part of the fragment that belongs to the IPv6 header.
    let hdrLen := if newFragOffset < 40 then min (40 - newFragOffset) payloadLen else 0
    let identicalHdr := shortMemCmp payloadPtr (packet.header.bytes.drop newFragOffset) hdrLen == 0
    let header := packet.header.memCpy payloadPtr newFragOffset hdrLen
    let payloadPtr := payloadPtr.drop hdrLen
    let payloadLen := payloadLen - hdrLen
    if payloadLen > 0 then
      let iovOffset := newFragOffset + hdrLen - 40
      let identical := identicalHdr &&
        iovShortCompare packet.firstPayloadIov iovOffset (some payloadPtr) payloadLen == 0
      let r := iovShortWrite packet.firstPayloadIov iovOffset (some payloadPtr) payloadLen
      if r.1 ≠ payloadLen then (none, ⟨header, r.2⟩)
      else (some (hdrLen + payloadLen, identical), ⟨header, r.2⟩)
    else (some (hdrLen, identicalHdr), ⟨header, packet.firstPayloadIov⟩)

/-- Copy the fragment of a frame into a packet of which the first `firstFragSize` bytes are
already there. -/
def lowpanDefragmenterCopyFragment (frame : Ieee154DframeInfo) (hdrs : LowpanUnpackedFrameHeaders)
    (packet : Ipv6Packet) (firstFragSize : UInt16) : Option (ℕ × Bool) × Ipv6Packet :=
  let payloadLen := (ieee154DFrameGetPayloadLen frame).toNat
  if hdrs.nextOffset ≥ payloadLen then (none, packet)
  else if hdrs.frag.offset = 0 then
    let dispatch := (ieee154DFrameUnsafeGetPayloadPtr frame).getD hdrs.nextOffset 0
    if dispatch &&& LOWPAN_DISPATCH_MASK_IPV6 = LOWPAN_DISPATCH_PATTERN_IPV6 then
      let r := lowpanRawIpv6HeaderUnpack frame hdrs packet (firstFragSize > 0)
      if r.1 = 0 then (none, r.2.1) else (some (r.1, r.2.2), r.2.1)
    else (none, packet)
  else lowpanDefragmenterCopySubsequentFragment frame hdrs packet

/-- Merge the fragment of a frame into a packet into which its bytes were copied. -/
def lowpanDefragmenterMergeFragment (state : LowpanDefragGlobalState) (p : ℕ)
    (newFragOff newFragLen : UInt16) (identical : Bool) : Bool × LowpanDefragGlobalState :=
  let prevFragSpec :=
    if newFragOff = 0 then none
    else lowpanDefragmenterFindWhereNewFragSpecShouldBeInserted state p newFragOff
  lowpanDefragmenterMergeNewFragSpecIntoPacket state p prevFragSpec newFragOff newFragLen identical

/-- Pass a frame to the packet that was locked for it.  The result is the IPv6 packet when the
frame completes it. -/
def lowpanDefragmenterPassFrameWithIpv6PacketFragment (state : LowpanDefragGlobalState)
    (frame : Ieee154DframeInfo) (hdrs : LowpanUnpackedFrameHeaders) (locked : Option ℕ) :
    Option ℕ × LowpanDefragGlobalState :=
  match lowpanDefragmenterUnlockDefragPacket state locked with
  | none => (none, state)
  | some (p, state) =>
    -- A locked packet state always has its IPv6 packet.
    match (state.packets p).packet with
    | none => (none, lowpanDefragmenterDestroyDefragPacket state p)
    | some packet =>
      let copied := lowpanDefragmenterCopyFragment frame hdrs (state.ipv6.packets packet)
        (state.fragSpecs (.first p)).size
      let state := { state with ipv6 := state.ipv6.write packet copied.2 }
      match copied.1 with
      | none => (none, lowpanDefragmenterDestroyDefragPacket state p)
      | some (newFragLen, identical) =>
        match lowpanDefragmenterMergeFragment state p hdrs.frag.offset (UInt16.ofNat newFragLen)
            identical with
        | (false, state) => (none, lowpanDefragmenterDestroyDefragPacket state p)
        | (true, state) =>
          let first := state.fragSpecs (.first p)
          if first.offset = 0 ∧ first.size = hdrs.frag.size then
            let state := state.setPacket p { state.packets p with packet := none }
            (some packet, lowpanDefragmenterDestroyDefragPacket state p)
          else
            let state := state.setNextPacket p state.currentPackets
            (none, { state with currentPackets := some p })

/-- Extract the IPv6 packet of a frame that carries all of it.  The packet is handed up right away,
or freed. -/
def lowpanDefragmenterPassFrameWithEntireIpv6Packet (frame : Ieee154DframeInfo)
    (hdrs : LowpanUnpackedFrameHeaders) (answers : Ipv6AllocAnswers) : Option Ipv6Packet :=
  if ieee154DFrameIsInterPan frame then none
  else if hdrs.bitmap.frag then none
  else
    let payloadPtr := ieee154DFrameUnsafeGetPayloadPtr frame
    let payloadLen := (ieee154DFrameGetPayloadLen frame).toNat
    let tmp := hdrs.nextOffset
    if tmp ≥ payloadLen then none
    else
      let payloadPtr := payloadPtr.drop tmp
      let payloadLen := payloadLen - tmp
      if payloadPtr.getD 0 0 &&& LOWPAN_DISPATCH_MASK_IPV6 = LOWPAN_DISPATCH_PATTERN_IPV6 then
        let payloadLen := payloadLen - 1
        if payloadLen < 40 then none
        else
          match ipv6AllocatePacket answers (payloadLen - 40) with
          | none => none
          | some packet =>
            let r := lowpanRawIpv6HeaderUnpack frame hdrs packet false
            if r.1 ≠ payloadLen then none
            else if (ipv6BasicHeaderGetPayloadLength r.2.1.header).toNat ≠ payloadLen - 40 then none
            else some r.2.1
      else none

/-! ## Unlocking, timeouts and termination -/

def lowpanDefragmenterUnlockPacket (state : LowpanDefragGlobalState) (locked : Option ℕ) :
    Whip6Error × LowpanDefragGlobalState :=
  match lowpanDefragmenterUnlockDefragPacket state locked with
  | none => (.argumentError, state)
  | some (p, state) =>
    let state := state.setNextPacket p state.currentPackets
    (.noError, { state with currentPackets := some p })

/-- The loop over the current packets that destroys those that took too long. -/
def lowpanTimeoutLoop (currTimeInMs reassemblyTimeoutInMs : UInt32) :
    ℕ → LowpanDefragGlobalState → Option ℕ → Option ℕ → LowpanDefragGlobalState
  | fuel + 1, state, prev, some curr =>
    let next := state.nextPacket curr
    if currTimeInMs - (state.packets curr).defragStartTime < reassemblyTimeoutInMs then
      lowpanTimeoutLoop currTimeInMs reassemblyTimeoutInMs fuel state (some curr) next
    else
      let state :=
        match prev with
        | none => { state with currentPackets := next }
        | some prev => state.setNextPacket prev next
      lowpanTimeoutLoop currTimeInMs reassemblyTimeoutInMs fuel
        (lowpanDefragmenterDestroyDefragPacket state curr) prev next
  | _, state, _, _ => state

def lowpanDefragmenterPeriodicTimeout (state : LowpanDefragGlobalState)
    (currTimeInMs reassemblyTimeoutInMs : UInt32) : Whip6Error × LowpanDefragGlobalState :=
  if state.lockedPackets.isSome then (.stateError, state)
  else
    (.noError, lowpanTimeoutLoop currTimeInMs reassemblyTimeoutInMs state.numPackets state none
      state.currentPackets)

/-- The loop over the current packets that destroys all of them. -/
def lowpanTerminateLoop : ℕ → LowpanDefragGlobalState → Option ℕ → LowpanDefragGlobalState
  | fuel + 1, state, some curr =>
    lowpanTerminateLoop fuel (lowpanDefragmenterDestroyDefragPacket state curr)
      (state.nextPacket curr)
  | _, state, _ => state

def lowpanDefragmenterTerminateAllReassemblies (state : LowpanDefragGlobalState) :
    Whip6Error × LowpanDefragGlobalState :=
  if state.lockedPackets.isSome then (.stateError, state)
  else
    let state := lowpanTerminateLoop state.numPackets state state.currentPackets
    (.noError, { state with currentPackets := none })

end Whip6
