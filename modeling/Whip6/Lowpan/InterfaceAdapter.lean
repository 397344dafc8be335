import Whip6.Base.Queue
import Whip6.Ipv6.Address
import Whip6.Ipv6.Packet
import Whip6.Lib.Ledger
import Whip6.Lib.Runs

/-!
# The 6LoWPAN interface adapter, outgoing side

A packet waits in a first queue until a task finds a link-layer address for it and hands it down, and
in a second one until the lower layer has forwarded it.  When that has failed, the routing strategy may
name another address, and the packet is handed down again.  There is one buffer for the addresses.
-/

namespace Whip6

open Lib

structure LowpanInterfaceAdapter where
  llAddrBuf : Ieee154Addr
  routerQueue : List ℕ
  forwarderQueue : List ℕ
  routingTaskPosted : Bool
  /-- The packets to which the processing states of outgoing packets point. -/
  packet : ℕ → ℕ
  header : ℕ → Ipv6BasicHeader

/-- The capacities of the queues. -/
structure LowpanInterfaceAdapterSizes where
  routerQueueSize : ℕ
  forwarderQueueSize : ℕ

/-- What happens at the interfaces of the component.  A packet is handed down as it then is, to an
address, with the identifier of the local network. -/
inductive LowpanInterfaceAdapterAct
  | accepted (p : ℕ) (header : Ipv6BasicHeader)
  | finished (p : ℕ) (status : ErrorT)
  | handedDown (p : ℕ) (header : Ipv6BasicHeader) (llAddr : Ieee154Addr) (panId : Ieee154PanId)
    (answer : ErrorT)
  | forwardingFinished (p : ℕ) (status : ErrorT)

/-- What the component is answered when it hands a packet down: the address that the routing strategy
writes if it is asked, the identifier of the local network, and what the lower layer returns. -/
structure LowpanInterfaceAdapterAnswers where
  route : Ieee154Addr
  panId : Ieee154PanId
  startForwarding : ErrorT

inductive LowpanInterfaceAdapterEvent
  | startSendingIPv6Packet (p : ℕ) (packet : ℕ) (header : Ipv6BasicHeader) (ifaceIsOn : Bool)
  | startPacketRoutingTask (answers : LowpanInterfaceAdapterAnswers)
  | forwardingIpv6PacketFinished (packet : ℕ) (status : ErrorT)
    (answers : LowpanInterfaceAdapterAnswers)

namespace LowpanInterfaceAdapter

variable (sizes : LowpanInterfaceAdapterSizes) (s : LowpanInterfaceAdapter)

/-- The processing state of a packet is given with its packet. -/
def setPacket (p packet : ℕ) (header : Ipv6BasicHeader) : LowpanInterfaceAdapter :=
  { s with
    packet := Function.update s.packet p packet
    header := Function.update s.header packet header }

def startSendingIPv6Packet (p packet : ℕ) (header : Ipv6BasicHeader) (ifaceIsOn : Bool) :
    ErrorT × LowpanInterfaceAdapter × List LowpanInterfaceAdapterAct :=
  let s := s.setPacket p packet header
  if !ifaceIsOn then (EOFF, s, [])
  else if ipv6AddrIsLoopback (ipv6BasicHeaderGetSrcAddr header) then (EINVAL, s, [])
  else if ipv6AddrIsLoopback (ipv6BasicHeaderGetDstAddr header) then (ENOROUTE, s, [])
  else if s.routerQueue.length = sizes.routerQueueSize then (ENOMEM, s, [])
  else
    (SUCCESS, { s with routerQueue := s.routerQueue ++ [p], routingTaskPosted := true },
      [.accepted p header])

/-- The destination of a packet is on the link. -/
def isLinkLocal (header : Ipv6BasicHeader) : Bool :=
  let dstAddr := ipv6BasicHeaderGetDstAddr header
  if ipv6AddrIsMulticast dstAddr then ipv6AddrGetScope dstAddr == IPV6_ADDRESS_SCOPE_LINK_LOCAL
  else ipv6AddrIsLinkLocal dstAddr

/-- The first link-layer address for a packet: that of its destination, when the destination is on the
link, or what the strategy writes. -/
def pickFirstAddr (header : Ipv6BasicHeader) (answers : LowpanInterfaceAdapterAnswers) :
    Ieee154Addr :=
  let dstAddr := ipv6BasicHeaderGetDstAddr header
  if ipv6AddrIsMulticast dstAddr then
    if ipv6AddrGetScope dstAddr = IPV6_ADDRESS_SCOPE_LINK_LOCAL then ieee154AddrAnySetBroadcast
    else answers.route
  else if ipv6AddrIsLinkLocal dstAddr then
    ipv6AddrExtractFromSuffixIeee154AddrAny dstAddr answers.panId
  else answers.route

def startPacketRoutingTask (answers : LowpanInterfaceAdapterAnswers) :
    LowpanInterfaceAdapter × List LowpanInterfaceAdapterAct :=
  match s.routerQueue with
  | [] => ({ s with routingTaskPosted := false }, [])
  | p :: routerQueue =>
    let header := s.header (s.packet p)
    let llAddr := pickFirstAddr header answers
    let header := if isLinkLocal header then ipv6BasicHeaderSetHopLimit header 1 else header
    let s := { s with
      routerQueue := routerQueue
      routingTaskPosted := true
      llAddrBuf := llAddr
      header := Function.update s.header (s.packet p) header }
    if s.llAddrBuf = .none then (s, [.finished p ENOROUTE])
    else if s.forwarderQueue.length = sizes.forwarderQueueSize then (s, [.finished p ENOMEM])
    else
      let handedDown := .handedDown p header s.llAddrBuf answers.panId answers.startForwarding
      if answers.startForwarding ≠ SUCCESS then
        (s, [handedDown, .finished p answers.startForwarding])
      else ({ s with forwarderQueue := s.forwarderQueue ++ [p] }, [handedDown])

/-- The lower layer has finished a packet.  The strategy writes the next address if it has failed. -/
def forwardingIpv6PacketFinished (packet : ℕ) (status : ErrorT)
    (answers : LowpanInterfaceAdapterAnswers) :
    LowpanInterfaceAdapter × List LowpanInterfaceAdapterAct :=
  match s.forwarderQueue.find? fun p => s.packet p = packet with
  | none => (s, [])
  | some p =>
    let finish (s : LowpanInterfaceAdapter) (acts : List LowpanInterfaceAdapterAct) :=
      ({ s with forwarderQueue := s.forwarderQueue.erase p },
        .forwardingFinished p status :: acts ++ [.finished p status])
    if status = SUCCESS then finish s []
    else
      let s := { s with llAddrBuf := answers.route }
      if s.llAddrBuf = .none then finish s []
      else
        let handedDown := .handedDown p (s.header (s.packet p)) s.llAddrBuf answers.panId
          answers.startForwarding
        if answers.startForwarding = SUCCESS then (s, [.forwardingFinished p status, handedDown])
        else finish s [handedDown]

def step : LowpanInterfaceAdapterEvent → LowpanInterfaceAdapter × List LowpanInterfaceAdapterAct
  | .startSendingIPv6Packet p packet header ifaceIsOn =>
    (s.startSendingIPv6Packet sizes p packet header ifaceIsOn).2
  | .startPacketRoutingTask answers => s.startPacketRoutingTask sizes answers
  | .forwardingIpv6PacketFinished packet status answers =>
    s.forwardingIpv6PacketFinished packet status answers

/-- The component before anything has happened. -/
def initial (packet : ℕ → ℕ) (header : ℕ → Ipv6BasicHeader) : LowpanInterfaceAdapter where
  llAddrBuf := .none
  routerQueue := []
  forwarderQueue := []
  routingTaskPosted := false
  packet := packet
  header := header

end LowpanInterfaceAdapter

end Whip6
