import Whip6.Base.IoVec

/-!
# IPv6 packets

The basic header of a packet is the 40 bytes it has in memory and on the wire; its fields are
read and written at their offsets.  The payload is a chain of I/O vector elements.  The pointer
to the last element of the chain is the last index of the list.
-/

namespace Whip6

open Lib

def WHIP6_IPV6_VERSION_NUMBER : UInt8 := 6

def WHIP6_IPV6_DEFAULT_HOP_LIMIT : UInt8 := 64

def WHIP6_IPV6_MIN_MTU : ℕ := 1280

/-- The basic IPv6 header, as the bytes it is laid out in. -/
@[ext] structure Ipv6BasicHeader where
  bytes : List UInt8
  length_bytes : bytes.length = 40

/-- A header full of zeros. -/
def Ipv6BasicHeader.zero : Ipv6BasicHeader := ⟨List.replicate 40 0, rfl⟩

/-- An IPv6 address. -/
abbrev Ipv6Addr := Vector UInt8 16

structure Ipv6Packet where
  header : Ipv6BasicHeader
  firstPayloadIov : IovBlist

namespace Ipv6BasicHeader

/-- The byte at an offset of the header. -/
def byte (hdr : Ipv6BasicHeader) (o : ℕ) : UInt8 := hdr.bytes.getD o 0

/-- The header after `size` bytes are copied over it from the offset `o` on. -/
def memCpy (hdr : Ipv6BasicHeader) (src : List UInt8) (o size : ℕ) : Ipv6BasicHeader where
  bytes := shortMemCpy src hdr.bytes o size
  length_bytes := by rw [shortMemCpy_eq_splice, length_splice, hdr.length_bytes]

/-- The header with some of its bytes overwritten. -/
def overwrite (hdr : Ipv6BasicHeader) (o : ℕ) (ys : List UInt8) : Ipv6BasicHeader where
  bytes := splice hdr.bytes o ys
  length_bytes := by rw [length_splice, hdr.length_bytes]

end Ipv6BasicHeader

def ipv6BasicHeaderGetVersion (hdr : Ipv6BasicHeader) : UInt8 := hdr.byte 0 >>> 4

def ipv6BasicHeaderSetVersion (hdr : Ipv6BasicHeader) (ver : UInt8) : Ipv6BasicHeader :=
  hdr.overwrite 0 [(hdr.byte 0 &&& (0x0f : UInt8)) ||| (ver <<< 4)]

def ipv6BasicHeaderSetTrafficClass (hdr : Ipv6BasicHeader) (tc : UInt8) : Ipv6BasicHeader :=
  hdr.overwrite 0 [(hdr.byte 0 &&& (0xf0 : UInt8)) ||| (tc >>> 4),
    (hdr.byte 1 &&& (0x0f : UInt8)) ||| (tc <<< 4)]

def ipv6BasicHeaderSetFlowLabel (hdr : Ipv6BasicHeader) (fl : UInt32) : Ipv6BasicHeader :=
  hdr.overwrite 1 [(hdr.byte 1 &&& (0xf0 : UInt8)) ||| ((fl >>> 16).toUInt8 &&& (0x0f : UInt8)),
    (fl >>> 8).toUInt8, fl.toUInt8]

def ipv6BasicHeaderGetPayloadLength (hdr : Ipv6BasicHeader) : UInt16 :=
  networkWord (hdr.byte 4) (hdr.byte 5)

def ipv6BasicHeaderSetPayloadLength (hdr : Ipv6BasicHeader) (pl : UInt16) : Ipv6BasicHeader :=
  hdr.overwrite 4 (networkBytes pl)

def ipv6BasicHeaderGetNextHeader (hdr : Ipv6BasicHeader) : UInt8 := hdr.byte 6

def ipv6BasicHeaderSetNextHeader (hdr : Ipv6BasicHeader) (nh : UInt8) : Ipv6BasicHeader :=
  hdr.overwrite 6 [nh]

def ipv6BasicHeaderGetHopLimit (hdr : Ipv6BasicHeader) : UInt8 := hdr.byte 7

def ipv6BasicHeaderSetHopLimit (hdr : Ipv6BasicHeader) (hl : UInt8) : Ipv6BasicHeader :=
  hdr.overwrite 7 [hl]

def ipv6BasicHeaderGetSrcAddr (hdr : Ipv6BasicHeader) : List UInt8 := (hdr.bytes.drop 8).take 16

def ipv6BasicHeaderSetSrcAddr (hdr : Ipv6BasicHeader) (addr : Ipv6Addr) : Ipv6BasicHeader :=
  hdr.overwrite 8 addr.toList

def ipv6BasicHeaderGetDstAddr (hdr : Ipv6BasicHeader) : List UInt8 := (hdr.bytes.drop 24).take 16

def ipv6BasicHeaderSetDstAddr (hdr : Ipv6BasicHeader) (addr : Ipv6Addr) : Ipv6BasicHeader :=
  hdr.overwrite 24 addr.toList

/-! ## Allocation -/

/-- What the allocators that lie outside of the code answer while a packet is allocated: the
memory of the packet, and one chunk of an I/O vector for each call that asks for one. -/
structure Ipv6AllocAnswers where
  newPacket : Option Ipv6BasicHeader
  chunks : List (Option IovElem)

/-- A chain of chunks with `length` bytes in all. -/
def iovAllocateChain : List (Option IovElem) → ℕ → Option IovBlist
  | _, 0 => some []
  | some chunk :: chunks, length + 1 =>
    (iovAllocateChain chunks (length + 1 - chunk.length)).map fun rest => chunk :: rest
  | _, _ + 1 => none

def ipv6AllocatePacket (answers : Ipv6AllocAnswers) (payloadLength : ℕ) : Option Ipv6Packet :=
  match answers.newPacket with
  | none => none
  | some hdr => (iovAllocateChain answers.chunks payloadLength).map fun payload => ⟨hdr, payload⟩

/-- The chunk allocator keeps what it is documented to do: a chunk has at least one byte and at
most as many as it was asked for. -/
def IovChunksFit : List (Option IovElem) → ℕ → Prop
  | some chunk :: chunks, length + 1 =>
    0 < chunk.length ∧ chunk.length ≤ length + 1 ∧ IovChunksFit chunks (length + 1 - chunk.length)
  | _, _ => True

theorem iovAllocateChain_length {chunks : List (Option IovElem)} {length : ℕ} {l : IovBlist}
    (hfit : IovChunksFit chunks length) (h : iovAllocateChain chunks length = some l) :
    l.flatten.length = length := by
  induction chunks generalizing length l with
  | nil =>
    cases length with
    | zero => simp_all [iovAllocateChain]
    | succ n => simp [iovAllocateChain] at h
  | cons chunk chunks ih =>
    cases length with
    | zero => simp_all [iovAllocateChain]
    | succ n =>
      cases chunk with
      | none => simp [iovAllocateChain] at h
      | some chunk =>
        obtain ⟨-, hle, hrest⟩ := hfit
        simp only [iovAllocateChain, Option.map_eq_some_iff] at h
        obtain ⟨rest, hr, rfl⟩ := h
        rw [List.flatten_cons, List.length_append, ih hrest hr]
        omega

/-! ## Reading back what was written -/

theorem length_getSrcAddr (hdr : Ipv6BasicHeader) :
    (ipv6BasicHeaderGetSrcAddr hdr).length = 16 := by
  simp [ipv6BasicHeaderGetSrcAddr, hdr.length_bytes]

theorem length_getDstAddr (hdr : Ipv6BasicHeader) :
    (ipv6BasicHeaderGetDstAddr hdr).length = 16 := by
  simp [ipv6BasicHeaderGetDstAddr, hdr.length_bytes]

theorem Ipv6BasicHeader.byte_overwrite_of_outside (hdr : Ipv6BasicHeader) {o i : ℕ}
    {ys : List UInt8} (h : i < o ∨ o + ys.length ≤ i) : (hdr.overwrite o ys).byte i = hdr.byte i := by
  rw [byte, byte, overwrite, List.getD_eq_getElem?_getD, getElem?_splice_of_outside h,
    List.getD_eq_getElem?_getD]

theorem Ipv6BasicHeader.byte_overwrite_of_inside (hdr : Ipv6BasicHeader) {o i : ℕ}
    {ys : List UInt8} (h1 : o ≤ i) (h2 : i < o + ys.length) (h3 : i < 40) :
    (hdr.overwrite o ys).byte i = ys.getD (i - o) 0 := by
  rw [byte, overwrite, List.getD_eq_getElem?_getD, List.getD_eq_getElem?_getD,
    getElem?_splice_of_inside h1 h2 (by rwa [hdr.length_bytes])]

@[simp] theorem getPayloadLength_setPayloadLength (hdr : Ipv6BasicHeader) (pl : UInt16) :
    ipv6BasicHeaderGetPayloadLength (ipv6BasicHeaderSetPayloadLength hdr pl) = pl := by
  rw [ipv6BasicHeaderGetPayloadLength, ipv6BasicHeaderSetPayloadLength,
    Ipv6BasicHeader.byte_overwrite_of_inside _ (Nat.le_refl 4) (by simp) (by omega),
    Ipv6BasicHeader.byte_overwrite_of_inside _ (by omega : 4 ≤ 5) (by simp) (by omega)]
  exact networkWord_networkBytes pl

/-- The payload length is not touched by writing behind it. -/
theorem getPayloadLength_overwrite (hdr : Ipv6BasicHeader) {o : ℕ} (ys : List UInt8) (h : 6 ≤ o) :
    ipv6BasicHeaderGetPayloadLength (hdr.overwrite o ys) = ipv6BasicHeaderGetPayloadLength hdr := by
  rw [ipv6BasicHeaderGetPayloadLength, ipv6BasicHeaderGetPayloadLength,
    Ipv6BasicHeader.byte_overwrite_of_outside _ (Or.inl (by omega)),
    Ipv6BasicHeader.byte_overwrite_of_outside _ (Or.inl (by omega))]

end Whip6
