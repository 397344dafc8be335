import Whip6.Base.IoVecRefinement
import Whip6.Ipv6.Packet

/-!
# Building RPL messages

The builders write a message byte by byte to a chain.  Behind every byte they look for the place of
the next one, and give up where the chain ends; the iterator of the message is set only at the end.
A byte that would be written behind the end of a buffer, in an element without any byte, has no
meaning in the code; here the builder then has no result.
-/

namespace Whip6

open Lib

/-- The variables of a builder: the chain, the current element, the offset into it, and the number
of bytes processed. -/
structure RplCursor where
  chain : IovBlist
  iovCurrElem : ℕ
  iovOffset : ℕ
  numProcessed : UInt8

/-- How a builder stops early. -/
inductive RplExit
  | outside
  | failureRollback (cur : RplCursor)

/-- `*iovBufPtr = b`, and `whip6_icmpv6RplAdvanceIovIterByOne`. -/
def icmpv6RplPut (b : UInt8) (cur : RplCursor) : Except RplExit RplCursor :=
  if cur.iovOffset < iovElemLen cur.chain cur.iovCurrElem then
    .ok ⟨iovSetByte cur.chain cur.iovCurrElem cur.iovOffset b, cur.iovCurrElem, cur.iovOffset + 1,
      cur.numProcessed + 1⟩
  else .error .outside

/-- `whip6_icmpv6RplCheckIovIterAfterAdvance` -/
def icmpv6RplCheckIovIterAfterAdvance (cur : RplCursor) : Except RplExit RplCursor :=
  if cur.iovOffset ≥ iovElemLen cur.chain cur.iovCurrElem then
    match iovNext cur.chain cur.iovCurrElem with
    | none => .error (.failureRollback cur)
    | some next => .ok { cur with iovCurrElem := next, iovOffset := 0 }
  else .ok cur

/-- `whip6_icmpv6RplFinishAdvancingIovIter` -/
def icmpv6RplFinishAdvancingIovIter (cur : RplCursor) : IovBlistIter :=
  if cur.iovOffset ≥ iovElemLen cur.chain cur.iovCurrElem then
    ⟨iovNext cur.chain cur.iovCurrElem, 0⟩
  else ⟨some cur.iovCurrElem, cur.iovOffset⟩

/-- Bytes are written, each with the check behind it. -/
def icmpv6RplPutThenCheck : List UInt8 → RplCursor → Except RplExit RplCursor
  | [], cur => .ok cur
  | b :: bs, cur => do
    let cur ← icmpv6RplPut b cur
    let cur ← icmpv6RplCheckIovIterAfterAdvance cur
    icmpv6RplPutThenCheck bs cur

/-- Bytes are written, each with the check before it. -/
def icmpv6RplCheckThenPut : List UInt8 → RplCursor → Except RplExit RplCursor
  | [], cur => .ok cur
  | b :: bs, cur => do
    let cur ← icmpv6RplCheckIovIterAfterAdvance cur
    let cur ← icmpv6RplPut b cur
    icmpv6RplCheckThenPut bs cur

/-- What a builder returns, and the iterator and the chain it leaves. -/
structure RplBuilt (α : Type) where
  ret : α
  iter : IovBlistIter
  chain : IovBlist

/-! ## The prefix of an address -/

/-- The number of bytes that hold the bits of a prefix. -/
def icmpv6RplPrefixBytes (prefixLengthInBits : UInt8) : UInt8 :=
  UInt8.ofNat ((prefixLengthInBits.toNat + 7) >>> 3)

/-- The bits of the last byte that belong to the prefix. -/
def icmpv6RplLastByteMask (prefixLengthInBits : UInt8) : UInt8 :=
  if prefixLengthInBits &&& 0x07 = 0 then 0xff else 0xff <<< (8 - (prefixLengthInBits &&& 0x07))

/-- The bytes of the prefix, the last one masked, and then zeros.  The first loop counts
`realBytesToStore` down to zero, so that the second one always writes `bytesToStore` bytes. -/
def icmpv6RplStoreBytes (prefixData : Ipv6Addr) (prefixLengthInBits bytesToStore : UInt8)
    (cur : RplCursor) : Except RplExit RplCursor := do
  let realBytesToStore := icmpv6RplPrefixBytes prefixLengthInBits
  let lastByteMask := if realBytesToStore > bytesToStore then 0xff
    else icmpv6RplLastByteMask prefixLengthInBits
  let realBytesToStore := if realBytesToStore > bytesToStore then bytesToStore
    else realBytesToStore
  let (cur, realBytesToStore) ← if realBytesToStore > 0 then do
      let whole := realBytesToStore.toNat - 1
      let cur ← icmpv6RplPutThenCheck (prefixData.toList.take whole) cur
      let cur ← icmpv6RplPut (prefixData.toList.getD whole 0 &&& lastByteMask) cur
      pure (cur, (0 : UInt8))
    else pure (cur, realBytesToStore)
  icmpv6RplCheckThenPut (List.replicate (bytesToStore - realBytesToStore).toNat 0x00) cur

def icmpv6RplStoreAddressPrefixInMessage (chain : IovBlist) (iovIterOrg : IovBlistIter)
    (prefixData : Ipv6Addr) (prefixLengthInBits bytesToStore : UInt8) : Option (RplBuilt UInt8) :=
  match iovIterOrg.currElem with
  | none => none
  | some elem =>
    match icmpv6RplStoreBytes prefixData prefixLengthInBits bytesToStore
        ⟨chain, elem, iovIterOrg.offset, 0⟩ with
    | .ok cur => some ⟨0, icmpv6RplFinishAdvancingIovIter cur, cur.chain⟩
    | .error (.failureRollback cur) =>
      some ⟨bytesToStore - cur.numProcessed, iovIterOrg, cur.chain⟩
    | .error .outside => none

/-! ## Options with a prefix -/

def WHIP6_ICMPV6_MESSAGE_TYPE_RPL_CONTROL_MESSAGE_OPTION_ROUTE_INFORMATION : UInt8 := 0x03

def WHIP6_ICMPV6_MESSAGE_TYPE_RPL_CONTROL_MESSAGE_OPTION_PREFIX_INFORMATION : UInt8 := 0x08

def WHIP6_RPL_CONTROL_MESSAGE_OPTION_PREFIX_INFORMATION_OPTION_LENGTH : UInt8 := 30

def WHIP6_RPL_CONTROL_MESSAGE_OPTION_PREFIX_INFORMATION_FLAG_ON_LINK : UInt8 := 0x80

def WHIP6_RPL_CONTROL_MESSAGE_OPTION_PREFIX_INFORMATION_FLAG_AAC : UInt8 := 0x40

def WHIP6_RPL_CONTROL_MESSAGE_OPTION_PREFIX_INFORMATION_FLAG_ROUTER_ADDR : UInt8 := 0x20

def WHIP6_RPL_CONTROL_MESSAGE_OPTION_ROUTE_INFORMATION_PREFERENCE_MASK : UInt8 := 0x11

def WHIP6_RPL_CONTROL_MESSAGE_OPTION_ROUTE_INFORMATION_PREFERENCE_SHIFT : UInt8 := 3

/-- `sizeof(rpl_message_opt_data_route_information_t)` -/
def rplMessageOptDataRouteInformationSize : UInt8 := 6

/-- The bytes of a word in the network byte order. -/
def icmpv6RplWord (w : UInt32) : List UInt8 :=
  [(w >>> 24).toUInt8, (w >>> 16).toUInt8, (w >>> 8).toUInt8, w.toUInt8]

/-- An option: its bytes before the prefix, each with the check behind it, the iterator set behind
them, and then the prefix.  `total` is what is reported as missing where nothing was written. -/
def icmpv6RplBuildOptionWithPrefix (chain : IovBlist) (iovIter : IovBlistIter) (hdr : List UInt8)
    (total : UInt16) (prefixPtr : Ipv6Addr) (prefixLen bytesToStore : UInt8) :
    Option (RplBuilt UInt16) :=
  match iovIter.currElem with
  | none => some ⟨total, iovIter, chain⟩
  | some elem =>
    if iovIter.offset ≥ iovElemLen chain elem then some ⟨total, iovIter, chain⟩
    else
      match icmpv6RplPutThenCheck hdr ⟨chain, elem, iovIter.offset, 0⟩ with
      | .ok cur =>
        (icmpv6RplStoreAddressPrefixInMessage cur.chain ⟨some cur.iovCurrElem, cur.iovOffset⟩
          prefixPtr prefixLen bytesToStore).map fun r => ⟨r.ret.toUInt16, r.iter, r.chain⟩
      | .error (.failureRollback cur) =>
        some ⟨total - cur.numProcessed.toUInt16, iovIter, cur.chain⟩
      | .error .outside => none

/-- The bytes of a route information option before its prefix. -/
def icmpv6RplRouteInformation (routeLifetimeInSecs : UInt32) (prefixLen routePreference : UInt8) :
    List UInt8 :=
  [WHIP6_ICMPV6_MESSAGE_TYPE_RPL_CONTROL_MESSAGE_OPTION_ROUTE_INFORMATION,
    rplMessageOptDataRouteInformationSize + icmpv6RplPrefixBytes prefixLen, prefixLen,
    (routePreference &&& WHIP6_RPL_CONTROL_MESSAGE_OPTION_ROUTE_INFORMATION_PREFERENCE_MASK) <<<
      WHIP6_RPL_CONTROL_MESSAGE_OPTION_ROUTE_INFORMATION_PREFERENCE_SHIFT] ++
    icmpv6RplWord routeLifetimeInSecs

def icmpv6RplContinueBuildingMessageByAddingOptionRouteInformation (chain : IovBlist)
    (iovIter : IovBlistIter) (prefixPtr : Ipv6Addr) (routeLifetimeInSecs : UInt32)
    (prefixLen routePreference : UInt8) : Option (RplBuilt UInt16) :=
  icmpv6RplBuildOptionWithPrefix chain iovIter
    (icmpv6RplRouteInformation routeLifetimeInSecs prefixLen routePreference)
    ((rplMessageOptDataRouteInformationSize + 2 + icmpv6RplPrefixBytes prefixLen).toUInt16)
    prefixPtr prefixLen (icmpv6RplPrefixBytes prefixLen)

/-- The bytes of a prefix information option before its prefix. -/
def icmpv6RplPrefixInformation (prefixLen : UInt8) (onLink autonomousAddrConf router : Bool)
    (validLifetime preferredLifetime : UInt32) : List UInt8 :=
  [WHIP6_ICMPV6_MESSAGE_TYPE_RPL_CONTROL_MESSAGE_OPTION_PREFIX_INFORMATION,
    WHIP6_RPL_CONTROL_MESSAGE_OPTION_PREFIX_INFORMATION_OPTION_LENGTH, prefixLen,
    (if onLink then WHIP6_RPL_CONTROL_MESSAGE_OPTION_PREFIX_INFORMATION_FLAG_ON_LINK else 0) |||
      (if autonomousAddrConf then WHIP6_RPL_CONTROL_MESSAGE_OPTION_PREFIX_INFORMATION_FLAG_AAC
        else 0) |||
      (if router then WHIP6_RPL_CONTROL_MESSAGE_OPTION_PREFIX_INFORMATION_FLAG_ROUTER_ADDR
        else 0)] ++
    icmpv6RplWord validLifetime ++ icmpv6RplWord preferredLifetime ++ [0, 0, 0, 0]

def icmpv6RplContinueBuildingMessageByAddingOptionPrefixInformation (chain : IovBlist)
    (iovIter : IovBlistIter) (prefixLen : UInt8) (onLink autonomousAddrConf router : Bool)
    (validLifetime preferredLifetime : UInt32) (prefixPtr : Ipv6Addr) : Option (RplBuilt UInt16) :=
  icmpv6RplBuildOptionWithPrefix chain iovIter
    (icmpv6RplPrefixInformation prefixLen onLink autonomousAddrConf router validLifetime
      preferredLifetime)
    ((WHIP6_RPL_CONTROL_MESSAGE_OPTION_PREFIX_INFORMATION_OPTION_LENGTH + 2).toUInt16) prefixPtr
    prefixLen 16

end Whip6
