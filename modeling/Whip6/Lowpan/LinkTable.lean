import Whip6.Ieee154.Address
import Whip6.Lib.LinkedList

/-!
# The link table

The links of a node to its neighbours: a pool of links, a hash table for the links with extended
addresses and one for those with short addresses, and a list of the free links.  The chains of the
hash tables and the free list are threaded through the links by their indices in the pool; an index
that is not below the length of the pool ends a list.

The two kinds of addresses are treated alike (`LinkAddrKind`).  What lies behind the pool in memory
is written as further links.  A loop along a chain runs with the length of the pool as fuel, which
suffices for a chain without a cycle.
-/

namespace Whip6

open Lib

/-! ## Metrics -/

def WHIP6_ETX_METRIC_ZERO : UInt16 := 0

def WHIP6_ETX_METRIC_ONE : UInt16 := 16

def WHIP6_ETX_METRIC_INFINITE : UInt16 := 0xffff

def WHIP6_PRR_METRIC_ZERO : UInt8 := 0

def WHIP6_PRR_METRIC_ONE : UInt8 := 0xff

def metricPrrToEtx (prr : UInt8) : UInt16 :=
  if prr ≤ WHIP6_PRR_METRIC_ZERO then WHIP6_ETX_METRIC_INFINITE
  else
    (WHIP6_PRR_METRIC_ONE - WHIP6_PRR_METRIC_ZERO).toUInt16 * WHIP6_ETX_METRIC_ONE /
      (prr - WHIP6_PRR_METRIC_ZERO).toUInt16

def metricEtxToPrr (etx : UInt16) : UInt8 :=
  if etx ≤ WHIP6_ETX_METRIC_ONE then WHIP6_PRR_METRIC_ONE
  else if etx ≥ WHIP6_ETX_METRIC_INFINITE then WHIP6_PRR_METRIC_ZERO
  else
    ((WHIP6_PRR_METRIC_ONE - WHIP6_PRR_METRIC_ZERO).toUInt16 * WHIP6_ETX_METRIC_ONE /
      etx).toUInt8 + WHIP6_PRR_METRIC_ZERO

/-! ## Links and tables -/

def WHIP6_6LOWPAN_INVALID_LINK_IDX : UInt8 := 0xff

def WHIP6_6LOWPAN_LINK_FLAG_HAS_EXT_ADDR : UInt8 := 0x80

def WHIP6_6LOWPAN_LINK_FLAG_HAS_SHORT_ADDR : UInt8 := 0x40

def WHIP6_6LOWPAN_LINK_FLAG_INIT : UInt8 := 0x20

def WHIP6_6LOWPAN_LINK_FLAG_REFRESHED : UInt8 := 0x10

def WHIP6_6LOWPAN_LINK_FLAG_RECLAIMABLE : UInt8 := 0x08

def WHIP6_6LOWPAN_LINK_FLAG_PINNED : UInt8 := 0x02

structure LowpanLinkQualityData where
  etx : UInt16
  lastBeaconSeqNo : UInt8
  numReceivedBeacons : UInt8
  numMissedBeacons : UInt8
  numAckedUnicasts : UInt8
  numUnackedUnicasts : UInt8
  inPrr : UInt8
  deriving DecidableEq, Repr

def WHIP6_6LOWPAN_MAC_EMPTY_TIMESTAMP : UInt32 := 42

def WHIP6_6LOWPAN_MAC_NO_COMPENSATION_DATA : Int16 := 0x7fff

structure LowpanLinkMacState where
  lastBeaconTimestamp : UInt32
  lastBeaconRandState : UInt32
  driftCompensation : Int16
  driftBeaconTimestamp : UInt32
  driftBeaconRandState : UInt32
  deriving DecidableEq, Repr

structure LowpanLink where
  extAddr : Ieee154ExtAddr
  shrtAddr : Ieee154ShortAddr
  idx : UInt8
  flags : UInt8
  quality : LowpanLinkQualityData
  mac : LowpanLinkMacState
  nextExtAddrIdx : UInt8
  nextShrtAddrIdx : UInt8
  deriving DecidableEq, Repr

structure LowpanLinkTable where
  linkPoolPtr : ℕ → LowpanLink
  extAddrHashMapPtr : ℕ → UInt8
  shrtAddrHashMapPtr : ℕ → UInt8
  linkPoolLen : UInt8
  extAddrHashMapLen : UInt8
  shrtAddrHashMapLen : UInt8
  firstLinkInPool : UInt8

/-- The kinds of addresses for which there is a hash table. -/
inductive LinkAddrKind
  | ext
  | shrt
  deriving DecidableEq, Repr

/-- The flag of a link that has an address of this kind. -/
def LinkAddrKind.flag : LinkAddrKind → UInt8
  | .ext => WHIP6_6LOWPAN_LINK_FLAG_HAS_EXT_ADDR
  | .shrt => WHIP6_6LOWPAN_LINK_FLAG_HAS_SHORT_ADDR

namespace LowpanLink

/-- The address of a kind that is stored in a link. -/
def addr (link : LowpanLink) : LinkAddrKind → Ieee154Addr
  | .ext => .ext link.extAddr
  | .shrt => .shrt link.shrtAddr

def nextAddrIdx (link : LowpanLink) : LinkAddrKind → UInt8
  | .ext => link.nextExtAddrIdx
  | .shrt => link.nextShrtAddrIdx

def setNextAddrIdx (link : LowpanLink) : LinkAddrKind → UInt8 → LowpanLink
  | .ext, idx => { link with nextExtAddrIdx := idx }
  | .shrt, idx => { link with nextShrtAddrIdx := idx }

end LowpanLink

namespace LowpanLinkTable

def setLink (table : LowpanLinkTable) (i : ℕ) (link : LowpanLink) : LowpanLinkTable :=
  { table with linkPoolPtr := Function.update table.linkPoolPtr i link }

def addrHashMap (table : LowpanLinkTable) : LinkAddrKind → ℕ → UInt8
  | .ext => table.extAddrHashMapPtr
  | .shrt => table.shrtAddrHashMapPtr

def addrHashMapLen (table : LowpanLinkTable) : LinkAddrKind → UInt8
  | .ext => table.extAddrHashMapLen
  | .shrt => table.shrtAddrHashMapLen

def setBucket (table : LowpanLinkTable) : LinkAddrKind → ℕ → UInt8 → LowpanLinkTable
  | .ext, bucketIdx, idx =>
    { table with extAddrHashMapPtr := Function.update table.extAddrHashMapPtr bucketIdx idx }
  | .shrt, bucketIdx, idx =>
    { table with shrtAddrHashMapPtr := Function.update table.shrtAddrHashMapPtr bucketIdx idx }

/-- The link with an index, `none` for an index that ends a list. -/
def linkAt (table : LowpanLinkTable) (idx : UInt8) : Option ℕ :=
  if idx < table.linkPoolLen then some idx.toNat else none

/-- The link behind a link in a chain of a kind. -/
def nextLink (table : LowpanLinkTable) (kind : LinkAddrKind) (i : ℕ) : Option ℕ :=
  table.linkAt ((table.linkPoolPtr i).nextAddrIdx kind)

end LowpanLinkTable

def lowpanMeshLinkTableIsLinkAllocatedInternal (link : LowpanLink) : Bool :=
  link.flags &&& (WHIP6_6LOWPAN_LINK_FLAG_HAS_EXT_ADDR |||
    WHIP6_6LOWPAN_LINK_FLAG_HAS_SHORT_ADDR) != 0

def lowpanMeshLinkTableCanExistingLinkBeRemovedInternal (link : LowpanLink) : Bool :=
  lowpanMeshLinkTableIsLinkAllocatedInternal link &&
    link.flags &&& (WHIP6_6LOWPAN_LINK_FLAG_INIT ||| WHIP6_6LOWPAN_LINK_FLAG_PINNED) == 0

/-! ## The hash tables -/

/-- The bucket of the bytes of an address: their sum, with eight bits, modulo the number of
buckets. -/
def lowpanMeshLinkTableHashAddr (addr : List UInt8) (numBuckets : UInt8) : UInt8 :=
  addr.foldl (· + ·) 0 % numBuckets

def lowpanMeshLinkTableHashExtAddr (addr : Ieee154ExtAddr) (numBuckets : UInt8) : UInt8 :=
  lowpanMeshLinkTableHashAddr addr.toList numBuckets

def lowpanMeshLinkTableHashShortAddr (addr : Ieee154ShortAddr) (numBuckets : UInt8) : UInt8 :=
  lowpanMeshLinkTableHashAddr addr.toList numBuckets

/-- Remove link `i` from the hash table of a kind. -/
def lowpanMeshLinkTableRemoveFromHashTable (kind : LinkAddrKind) (table : LowpanLinkTable) (i : ℕ) :
    LowpanLinkTable :=
  let link := table.linkPoolPtr i
  if link.flags &&& kind.flag = 0 then table
  else
    let bucketIdx :=
      (lowpanMeshLinkTableHashAddr (link.addr kind).bytes (table.addrHashMapLen kind)).toNat
    match findFrom (table.nextLink kind) (fun j => j == link.idx.toNat) table.linkPoolLen.toNat none
        (table.linkAt (table.addrHashMap kind bucketIdx)) with
    | (_, none) => table
    | (prevLink, some _) =>
      let table :=
        match prevLink with
        | none => table.setBucket kind bucketIdx (link.nextAddrIdx kind)
        | some prev => table.setLink prev
            ((table.linkPoolPtr prev).setNextAddrIdx kind (link.nextAddrIdx kind))
      let link := (table.linkPoolPtr i).setNextAddrIdx kind WHIP6_6LOWPAN_INVALID_LINK_IDX
      table.setLink i { link with flags := link.flags &&& ~~~kind.flag }

def lowpanMeshLinkTableRemoveFromHashTableForExtAddr (table : LowpanLinkTable) (i : ℕ) :
    LowpanLinkTable :=
  lowpanMeshLinkTableRemoveFromHashTable .ext table i

def lowpanMeshLinkTableRemoveFromHashTableForShortAddr (table : LowpanLinkTable) (i : ℕ) :
    LowpanLinkTable :=
  lowpanMeshLinkTableRemoveFromHashTable .shrt table i

def lowpanMeshLinkTableLookupLink (table : LowpanLinkTable) (addr : Ieee154Addr) : UInt8 :=
  let find (kind : LinkAddrKind) (bucketIdx : UInt8) (same : LowpanLink → Bool) : UInt8 :=
    match (findFrom (table.nextLink kind) (fun j => same (table.linkPoolPtr j))
        table.linkPoolLen.toNat none (table.linkAt (table.addrHashMap kind bucketIdx.toNat))).2 with
    | none => WHIP6_6LOWPAN_INVALID_LINK_IDX
    | some j => UInt8.ofNat j
  match addr with
  | .shrt shrt =>
    find .shrt (lowpanMeshLinkTableHashShortAddr shrt table.shrtAddrHashMapLen) fun link =>
      shortMemCmp shrt.toList link.shrtAddr.toList IEEE154_SHORT_ADDR_BYTE_LENGTH == 0
  | .ext ext =>
    find .ext (lowpanMeshLinkTableHashExtAddr ext table.extAddrHashMapLen) fun link =>
      shortMemCmp ext.toList link.extAddr.toList IEEE154_EXT_ADDR_BYTE_LENGTH == 0
  | .none => WHIP6_6LOWPAN_INVALID_LINK_IDX

/-! ## Allocation and removal -/

def lowpanMeshLinkTableResetLinkQuality (quality : LowpanLinkQualityData) :
    LowpanLinkQualityData :=
  { quality with
    etx := WHIP6_ETX_METRIC_INFINITE
    lastBeaconSeqNo := 0
    numReceivedBeacons := 0
    numMissedBeacons := 0
    numAckedUnicasts := 0
    numUnackedUnicasts := 0
    inPrr := WHIP6_PRR_METRIC_ZERO }

def lowpanMeshLinkTableResetMACState (mac : LowpanLinkMacState) : LowpanLinkMacState :=
  { mac with
    lastBeaconTimestamp := WHIP6_6LOWPAN_MAC_EMPTY_TIMESTAMP
    driftBeaconTimestamp := WHIP6_6LOWPAN_MAC_EMPTY_TIMESTAMP
    driftCompensation := WHIP6_6LOWPAN_MAC_NO_COMPENSATION_DATA }

/-- A link from the free list as it is set up for an address; it ends up before the link `next` of
the chain of the address. -/
def LowpanLink.allocate (link : LowpanLink) (addr : Ieee154Addr) (next : UInt8) : LowpanLink :=
  let link := { link with
    quality := lowpanMeshLinkTableResetLinkQuality link.quality
    mac := lowpanMeshLinkTableResetMACState link.mac }
  match addr with
  | .ext ext =>
    { link with
      flags := WHIP6_6LOWPAN_LINK_FLAG_HAS_EXT_ADDR
      extAddr := ext
      nextExtAddrIdx := next
      nextShrtAddrIdx := WHIP6_6LOWPAN_INVALID_LINK_IDX }
  | .shrt shrt =>
    { link with
      flags := WHIP6_6LOWPAN_LINK_FLAG_HAS_SHORT_ADDR
      shrtAddr := shrt
      nextShrtAddrIdx := next
      nextExtAddrIdx := WHIP6_6LOWPAN_INVALID_LINK_IDX }
  | .none => link

/-- Allocate the first free link, of which there must be one, for an address of a kind. -/
def lowpanMeshLinkTableAllocateLink (kind : LinkAddrKind) (table : LowpanLinkTable)
    (addr : Ieee154Addr) : UInt8 × LowpanLinkTable :=
  let linkIdx := table.firstLinkInPool
  let link := table.linkPoolPtr linkIdx.toNat
  let bucketIdx := (lowpanMeshLinkTableHashAddr addr.bytes (table.addrHashMapLen kind)).toNat
  let table' := { table with firstLinkInPool := link.nextExtAddrIdx }
  (linkIdx, (table'.setLink linkIdx.toNat
    (link.allocate addr (table.addrHashMap kind bucketIdx))).setBucket kind bucketIdx linkIdx)

def lowpanMeshLinkTableAllocateLinkForShortAddr (table : LowpanLinkTable)
    (addr : Ieee154ShortAddr) : UInt8 × LowpanLinkTable :=
  lowpanMeshLinkTableAllocateLink .shrt table (.shrt addr)

def lowpanMeshLinkTableAllocateLinkForExtAddr (table : LowpanLinkTable) (addr : Ieee154ExtAddr) :
    UInt8 × LowpanLinkTable :=
  lowpanMeshLinkTableAllocateLink .ext table (.ext addr)

def lowpanMeshLinkTableRemoveExistingLink (table : LowpanLinkTable) (index : UInt8) :
    LowpanLinkTable :=
  if index ≥ table.linkPoolLen then table
  else if !lowpanMeshLinkTableIsLinkAllocatedInternal (table.linkPoolPtr index.toNat) then table
  else
    let table := lowpanMeshLinkTableRemoveFromHashTableForExtAddr table index.toNat
    let table := lowpanMeshLinkTableRemoveFromHashTableForShortAddr table index.toNat
    let table := table.setLink index.toNat { table.linkPoolPtr index.toNat with
      flags := 0
      nextExtAddrIdx := table.firstLinkInPool }
    { table with firstLinkInPool := index }

/-- The loop that looks for the worst link that may be removed, over `numLinks` links from `i` on:
its index. -/
def lowpanWorstLinkLoop (table : LowpanLinkTable) : ℕ → ℕ → UInt16 → UInt8 → UInt8
  | 0, _, _, worstIdx => worstIdx
  | numLinks + 1, i, worstEtx, worstIdx =>
    let link := table.linkPoolPtr i
    if lowpanMeshLinkTableCanExistingLinkBeRemovedInternal link ∧ worstEtx < link.quality.etx then
      lowpanWorstLinkLoop table numLinks (i + 1) link.quality.etx link.idx
    else lowpanWorstLinkLoop table numLinks (i + 1) worstEtx worstIdx

def lowpanMeshLinkTableTryToEvictWorstLink (table : LowpanLinkTable) : LowpanLinkTable :=
  let worstIdx := lowpanWorstLinkLoop table table.linkPoolLen.toNat 0 WHIP6_ETX_METRIC_ZERO
    WHIP6_6LOWPAN_INVALID_LINK_IDX
  if worstIdx = WHIP6_6LOWPAN_INVALID_LINK_IDX then table
  else lowpanMeshLinkTableRemoveExistingLink table worstIdx

/-- Allocate a link for an address that has none, by the mode of the address. -/
def lowpanCreateNewLink (table : LowpanLinkTable) (addr : Ieee154Addr) :
    UInt8 × LowpanLinkTable :=
  match addr with
  | .shrt shrt => lowpanMeshLinkTableAllocateLinkForShortAddr table shrt
  | .ext ext => lowpanMeshLinkTableAllocateLinkForExtAddr table ext
  | .none => (WHIP6_6LOWPAN_INVALID_LINK_IDX, table)

def lowpanMeshLinkTableFindExistingOrCreateNewLink (table : LowpanLinkTable) (addr : Ieee154Addr)
    (allowEviction : Bool) : UInt8 × LowpanLinkTable :=
  let linkIdx := lowpanMeshLinkTableLookupLink table addr
  if linkIdx ≠ WHIP6_6LOWPAN_INVALID_LINK_IDX then (linkIdx, table)
  else if table.firstLinkInPool = WHIP6_6LOWPAN_INVALID_LINK_IDX then
    if allowEviction then
      let table := lowpanMeshLinkTableTryToEvictWorstLink table
      if table.firstLinkInPool = WHIP6_6LOWPAN_INVALID_LINK_IDX then
        (WHIP6_6LOWPAN_INVALID_LINK_IDX, table)
      else lowpanCreateNewLink table addr
    else (WHIP6_6LOWPAN_INVALID_LINK_IDX, table)
  else lowpanCreateNewLink table addr

/-- The loop of the reset over `left` links and the last one behind them, from `idx` on. -/
def lowpanResetLinksLoop : ℕ → ℕ → (ℕ → LowpanLink) → ℕ → LowpanLink
  | 0, idx, pool =>
    Function.update pool idx { pool idx with
      idx := UInt8.ofNat idx
      flags := 0
      nextExtAddrIdx := WHIP6_6LOWPAN_INVALID_LINK_IDX }
  | left + 1, idx, pool =>
    lowpanResetLinksLoop left (idx + 1) (Function.update pool idx { pool idx with
      idx := UInt8.ofNat idx
      flags := 0
      nextExtAddrIdx := UInt8.ofNat idx + 1 })

/-- The loop of the reset over the `num` buckets of a hash table from `bucketIdx` on. -/
def lowpanResetBucketsLoop : ℕ → ℕ → (ℕ → UInt8) → ℕ → UInt8
  | 0, _, hashMap => hashMap
  | num + 1, bucketIdx, hashMap =>
    lowpanResetBucketsLoop num (bucketIdx + 1)
      (Function.update hashMap bucketIdx WHIP6_6LOWPAN_INVALID_LINK_IDX)

def lowpanMeshLinkTableReset (table : LowpanLinkTable) : LowpanLinkTable :=
  { table with
    linkPoolPtr :=
      match table.linkPoolLen.toNat with
      | 0 => table.linkPoolPtr
      | num + 1 => lowpanResetLinksLoop num 0 table.linkPoolPtr
    firstLinkInPool := if table.linkPoolLen > 0 then 0 else WHIP6_6LOWPAN_INVALID_LINK_IDX
    extAddrHashMapPtr :=
      lowpanResetBucketsLoop table.extAddrHashMapLen.toNat 0 table.extAddrHashMapPtr
    shrtAddrHashMapPtr :=
      lowpanResetBucketsLoop table.shrtAddrHashMapLen.toNat 0 table.shrtAddrHashMapPtr }

/-- A table in memory that is zero, as it is before it is initialised. -/
def lowpanLinkTableAtBoot (maxNumLinks extAddrHashTableLen shortAddrHashTableLen : UInt8) :
    LowpanLinkTable where
  linkPoolPtr := fun _ => ⟨Vector.replicate 8 0, Vector.replicate 2 0, 0, 0,
    ⟨0, 0, 0, 0, 0, 0, 0⟩, ⟨0, 0, 0, 0, 0⟩, 0, 0⟩
  extAddrHashMapPtr := fun _ => 0
  shrtAddrHashMapPtr := fun _ => 0
  linkPoolLen := maxNumLinks
  extAddrHashMapLen := extAddrHashTableLen
  shrtAddrHashMapLen := shortAddrHashTableLen
  firstLinkInPool := 0

/-! ## Sweeps -/

/-- What a call of a sweep returns and leaves, with the links that it looked at and the number of
removals it made. -/
structure LowpanLinkSweep where
  res : UInt8
  table : LowpanLinkTable
  visited : List ℕ
  numRemoved : ℕ

/-- What both sweeps begin with: how many links to visit from `firstIdx` on, and what to return;
`none` when there is nothing to visit. -/
def lowpanSweepRange (linkPoolLen firstIdx numIdx : UInt8) : Option (UInt8 × UInt8) :=
  let numIdx := numIdx + firstIdx
  if firstIdx ≥ linkPoolLen then none
  else if numIdx ≥ linkPoolLen then some (linkPoolLen - firstIdx, 0)
  else some (numIdx - firstIdx, 1)

/-- A link that was not refreshed is marked; one that was loses the flag. -/
def LowpanLink.markUnrefreshed (link : LowpanLink) : LowpanLink :=
  if lowpanMeshLinkTableIsLinkAllocatedInternal link then
    if link.flags &&& WHIP6_6LOWPAN_LINK_FLAG_REFRESHED = 0 then
      { link with flags := link.flags ||| WHIP6_6LOWPAN_LINK_FLAG_RECLAIMABLE }
    else { link with flags := link.flags &&& ~~~WHIP6_6LOWPAN_LINK_FLAG_REFRESHED }
  else link

/-- The loop of the marking sweep over `numIdx` links from `i` on. -/
def lowpanMarkUnrefreshedLoop : ℕ → ℕ → LowpanLinkTable → LowpanLinkTable × List ℕ
  | 0, _, table => (table, [])
  | numIdx + 1, i, table =>
    let r := lowpanMarkUnrefreshedLoop numIdx (i + 1)
      (table.setLink i (table.linkPoolPtr i).markUnrefreshed)
    (r.1, i :: r.2)

def lowpanMeshLinkTableMarkUnrefreshedLinksForRemoval (table : LowpanLinkTable)
    (firstIdx numIdx : UInt8) : LowpanLinkSweep :=
  match lowpanSweepRange table.linkPoolLen firstIdx numIdx with
  | none => ⟨0, table, [], 0⟩
  | some (numIdx, res) =>
    let r := lowpanMarkUnrefreshedLoop numIdx.toNat firstIdx.toNat table
    ⟨res, r.1, r.2, 0⟩

/-- The loop of the removal sweep over `numIdx` links from `i` on: the table, the links it looked
at and the number of removals. -/
def lowpanRemoveMarkedLoop : ℕ → ℕ → ℕ → LowpanLinkTable → LowpanLinkTable × List ℕ × ℕ
  | numIdx + 1, i, maxRemoved + 1, table =>
    let link := table.linkPoolPtr i
    if lowpanMeshLinkTableCanExistingLinkBeRemovedInternal link ∧
        link.flags &&& WHIP6_6LOWPAN_LINK_FLAG_RECLAIMABLE ≠ 0 then
      let r := lowpanRemoveMarkedLoop numIdx (i + 1) maxRemoved
        (lowpanMeshLinkTableRemoveExistingLink table link.idx)
      (r.1, i :: r.2.1, r.2.2 + 1)
    else
      let r := lowpanRemoveMarkedLoop numIdx (i + 1) (maxRemoved + 1) table
      (r.1, i :: r.2.1, r.2.2)
  | _, _, _, table => (table, [], 0)

def lowpanMeshLinkTableRemoveLinksMarkedForRemoval (table : LowpanLinkTable)
    (firstIdx numIdx maxRemoved : UInt8) : LowpanLinkSweep :=
  match lowpanSweepRange table.linkPoolLen firstIdx numIdx with
  | none => ⟨0, table, [], 0⟩
  | some (numIdx, res) =>
    let r := lowpanRemoveMarkedLoop numIdx.toNat firstIdx.toNat maxRemoved.toNat table
    ⟨res, r.1, r.2.1, r.2.2⟩

end Whip6
