import Whip6.Ipv6.Packet

/-!
# UDP headers and the wrapping of data into packets

A UDP header is the eight bytes of an I/O vector element that stands before the payload in the
chain of a packet.
-/

namespace Whip6

open Lib

/-- The number IANA assigned to UDP as a next header. -/
def WHIP6_IANA_IPV6_UDP : UInt8 := 17

structure UdpSocketAddr where
  ipv6Addr : Ipv6Addr
  udpPortNo : UInt16

def udpHeaderGetSrcPort (hdr : List UInt8) : UInt16 := networkWord (hdr.getD 0 0) (hdr.getD 1 0)

def udpHeaderGetDstPort (hdr : List UInt8) : UInt16 := networkWord (hdr.getD 2 0) (hdr.getD 3 0)

def udpHeaderGetLength (hdr : List UInt8) : UInt16 := networkWord (hdr.getD 4 0) (hdr.getD 5 0)

def udpHeaderGetChecksum (hdr : List UInt8) : UInt16 := networkWord (hdr.getD 6 0) (hdr.getD 7 0)

def udpHeaderSetChecksum (hdr : List UInt8) (cs : UInt16) : List UInt8 :=
  splice hdr 6 (networkBytes cs)

/-- Put the header element before a chain of at least `payloadLen` bytes and fill in an IPv6
header, in a packet that `alloc` provides (`none` when there is none).  The chain is given by its
first element, so that element has no predecessor. -/
def udpWrapDataIntoOutgoingIpv6PacketCarryingUdpDatagram (alloc : Option Ipv6Packet)
    (payloadIov : IovBlist) (payloadLen : ℕ) (udpHdrIov : IovElem)
    (srcSockAddr dstSockAddr : UdpSocketAddr) : Option Ipv6Packet :=
  if udpHdrIov.length ≠ 8 then none
  else if iovGetTotalLength payloadIov < payloadLen then none
  else
    match alloc with
    | none => none
    | some packet =>
      let len := UInt16.ofNat (payloadLen + 8)
      let hdr := ipv6BasicHeaderSetVersion packet.header WHIP6_IPV6_VERSION_NUMBER
      let hdr := ipv6BasicHeaderSetTrafficClass hdr 0
      let hdr := ipv6BasicHeaderSetFlowLabel hdr 0
      let hdr := ipv6BasicHeaderSetPayloadLength hdr len
      let hdr := ipv6BasicHeaderSetNextHeader hdr WHIP6_IANA_IPV6_UDP
      let hdr := ipv6BasicHeaderSetHopLimit hdr WHIP6_IPV6_DEFAULT_HOP_LIMIT
      let hdr := ipv6BasicHeaderSetSrcAddr hdr srcSockAddr.ipv6Addr
      let hdr := ipv6BasicHeaderSetDstAddr hdr dstSockAddr.ipv6Addr
      let udpHdr := networkBytes srcSockAddr.udpPortNo ++ networkBytes dstSockAddr.udpPortNo ++
        networkBytes len ++ networkBytes 0
      some ⟨hdr, udpHdr :: payloadIov⟩

end Whip6
