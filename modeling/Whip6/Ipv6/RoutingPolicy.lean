import Whip6.Base.Queue
import Whip6.Ipv6.Address
import Whip6.Ipv6.Packet
import Whip6.Lib.Ledger
import Whip6.Lib.Runs

/-!
# The routing policy for outgoing packets

A packet that is to be sent waits in a queue.  When it has no source address, one interface after
another is asked to select one; then, one after another, to send it.  A packet may be bound to an
interface, by who sends it or by the interface that selected its source address, and the number of
that interface is in the state of the packet; for other packets that number is the one of the
interface to try next.
-/

namespace Whip6

open Lib

/-! ## Packets -/

/-- The index of a network interface. -/
abbrev Ipv6NetIfaceId := UInt8

/-- The processing state of an outgoing packet; its flags are apart. -/
structure Ipv6OutPacketProcessingState where
  header : Ipv6BasicHeader
  assignedToIface : Bool
  hasSourceAddress : Bool
  beingAssignedSourceAddress : Bool
  beingRouted : Bool
  ifaceId : Ipv6NetIfaceId

namespace Ipv6OutPacketProcessingState

/-- The interface to which a packet is bound. -/
def bound (packet : Ipv6OutPacketProcessingState) : Option Ipv6NetIfaceId :=
  if packet.assignedToIface then some packet.ifaceId else none

/-- The packet when its sending starts: an unbound packet begins with the first interface, and a
source address may be there already. -/
def prepare (packet : Ipv6OutPacketProcessingState) : Ipv6OutPacketProcessingState :=
  { packet with
    ifaceId := if packet.assignedToIface then packet.ifaceId else 0
    hasSourceAddress := packet.hasSourceAddress ||
      !ipv6AddrIsUndefined (ipv6BasicHeaderGetSrcAddr packet.header) }

end Ipv6OutPacketProcessingState

/-! ## The component -/

/-- What is wired to the component: the interfaces that exist, the value of
`FailOnFirstErrorOtherThanNoRoute`, and the capacity of the queue. -/
structure Ipv6RoutingPolicyWiring where
  ifaceExists : Ipv6NetIfaceId → Bool
  failOnFirstErrorOtherThanNoRoute : Bool
  queueCapacity : ℕ

structure Ipv6RoutingPolicy where
  packets : ℕ → Ipv6OutPacketProcessingState
  routedPacketQueue : List ℕ
  routeTaskPosted : Bool

/-- What happens at the interfaces of the component.  `submitted` is the call with which a packet is
given to it, to be sent or only to get a source address. -/
inductive Ipv6RoutingPolicyAct
  | submitted (packet : ℕ) (bound : Option Ipv6NetIfaceId)
  | accepted (packet : ℕ)
  | finished (packet : ℕ) (status : ErrorT)
  | selectionAccepted (packet : ℕ)
  | selectionFinished (packet : ℕ) (status : ErrorT)
  | offerSelecting (iface : Ipv6NetIfaceId) (packet : ℕ) (answer : ErrorT)
  | selected (iface : Ipv6NetIfaceId) (packet : ℕ) (status : ErrorT)
  | offerSending (iface : Ipv6NetIfaceId) (packet : ℕ) (answer : ErrorT)
  | sent (iface : Ipv6NetIfaceId) (packet : ℕ) (status : ErrorT)
  deriving DecidableEq

/-- `answers` is what each interface returns when it is asked to select a source address; the packet
comes back from an interface as the interface has left it. -/
inductive Ipv6RoutingPolicyEvent
  | startSelectingSourceAddressForIPv6Packet (p : ℕ) (packet : Ipv6OutPacketProcessingState)
    (answers : Ipv6NetIfaceId → ErrorT)
  | finishSelectingSourceAddressForIPv6Packet (iface : Ipv6NetIfaceId) (p : ℕ)
    (packet : Ipv6OutPacketProcessingState) (status : ErrorT) (answers : Ipv6NetIfaceId → ErrorT)
  | startSendingIPv6Packet (p : ℕ) (packet : Ipv6OutPacketProcessingState)
    (answers : Ipv6NetIfaceId → ErrorT)
  | routeOutstandingPacketsTask (answer : ErrorT)
  | finishSendingIPv6Packet (iface : Ipv6NetIfaceId) (p : ℕ)
    (packet : Ipv6OutPacketProcessingState) (status : ErrorT)

/-- How a search over the interfaces ended: the status of the interface that was asked last, whether
the search stopped at it or there was no other interface, and what was asked. -/
structure Ipv6InterfaceSearch where
  status : ErrorT
  stopped : Bool
  offers : List Ipv6RoutingPolicyAct

namespace Ipv6RoutingPolicy

variable (wiring : Ipv6RoutingPolicyWiring)

/-- An error after which no other interface is tried. -/
def isCritical (status : ErrorT) : Bool :=
  wiring.failOnFirstErrorOtherThanNoRoute && status != ENOROUTE

/-- Ask one interface after another to select a source address.  There are 256 numbers of
interfaces, so the search has ended by then unless an interface has every one of them. -/
def searchInterfaces (p : ℕ) (answers : Ipv6NetIfaceId → ErrorT) :
    ℕ → Ipv6NetIfaceId → ErrorT → Ipv6InterfaceSearch
  | 0, _, status => ⟨status, false, []⟩
  | fuel + 1, iface, status =>
    if wiring.ifaceExists iface then
      let offer := .offerSelecting iface p (answers iface)
      if answers iface = SUCCESS ∨ isCritical wiring (answers iface) then
        ⟨answers iface, true, [offer]⟩
      else
        let r := searchInterfaces p answers fuel (iface + 1) (answers iface)
        ⟨r.status, r.stopped, offer :: r.offers⟩
    else ⟨status, false, []⟩

/-- The number of interfaces a search may have to ask. -/
def numIfaceIds : ℕ := 256

variable (s : Ipv6RoutingPolicy)

def setPacket (p : ℕ) (packet : Ipv6OutPacketProcessingState) : Ipv6RoutingPolicy :=
  { s with packets := Function.update s.packets p packet }

/-- Look for an interface that selects the source address of a packet. -/
def startSelecting (p : ℕ) (answers : Ipv6NetIfaceId → ErrorT) :
    ErrorT × List Ipv6RoutingPolicyAct :=
  if (s.packets p).assignedToIface then
    let iface := (s.packets p).ifaceId
    (answers iface, [.offerSelecting iface p (answers iface)])
  else
    let r := searchInterfaces wiring p answers numIfaceIds 0 ENOROUTE
    (if r.stopped then r.status else ENOROUTE, r.offers)

/-- The client asks for a source address only. -/
def startSelectingSourceAddressForIPv6Packet (p : ℕ) (packet : Ipv6OutPacketProcessingState)
    (answers : Ipv6NetIfaceId → ErrorT) : ErrorT × Ipv6RoutingPolicy × List Ipv6RoutingPolicyAct :=
  let s := s.setPacket p packet
  let r := s.startSelecting wiring p answers
  (r.1, s, .submitted p packet.bound :: r.2 ++
    (if r.1 = SUCCESS then [.selectionAccepted p] else []))

/-- The end of the selection for a packet that no interface has any more. -/
def completeSelecting (p : ℕ) (status : ErrorT) : Ipv6RoutingPolicy × List Ipv6RoutingPolicyAct :=
  if (s.packets p).beingAssignedSourceAddress then
    ({ s.setPacket p { s.packets p with beingAssignedSourceAddress := false } with
      routeTaskPosted := true }, [])
  else (s, [.selectionFinished p status])

def finishSelectingSourceAddressForIPv6Packet (iface : Ipv6NetIfaceId) (p : ℕ)
    (packet : Ipv6OutPacketProcessingState) (status : ErrorT) (answers : Ipv6NetIfaceId → ErrorT) :
    Ipv6RoutingPolicy × List Ipv6RoutingPolicyAct :=
  let s := s.setPacket p packet
  if status = SUCCESS then
    let r := (s.setPacket p { packet with ifaceId := iface }).completeSelecting p status
    (r.1, .selected iface p status :: r.2)
  else if isCritical wiring status then
    let r := s.completeSelecting p status
    (r.1, .selected iface p status :: r.2)
  else
    let search := searchInterfaces wiring p answers numIfaceIds (iface + 1) status
    if search.status = SUCCESS then (s, .selected iface p status :: search.offers)
    else
      let r := s.completeSelecting p search.status
      (r.1, .selected iface p status :: search.offers ++ r.2)

def startSendingIPv6Packet (p : ℕ) (packet : Ipv6OutPacketProcessingState)
    (answers : Ipv6NetIfaceId → ErrorT) : ErrorT × Ipv6RoutingPolicy × List Ipv6RoutingPolicyAct :=
  if s.routedPacketQueue.length = wiring.queueCapacity then
    (ENOMEM, s.setPacket p packet, [.submitted p packet.bound])
  else
    let s := s.setPacket p packet.prepare
    if packet.prepare.hasSourceAddress then
      (SUCCESS, { s with
        routedPacketQueue := s.routedPacketQueue ++ [p]
        routeTaskPosted := true }, [.submitted p packet.bound, .accepted p])
    else
      let r := s.startSelecting wiring p answers
      if r.1 = SUCCESS then
        (SUCCESS, { s.setPacket p { packet.prepare with beingAssignedSourceAddress := true } with
          routedPacketQueue := s.routedPacketQueue ++ [p] },
          .submitted p packet.bound :: r.2 ++ [.accepted p])
      else (r.1, s, .submitted p packet.bound :: r.2)

/-- A packet leaves the queue. -/
def finishHandlingRoutedPacket (p : ℕ) (status : ErrorT) :
    Ipv6RoutingPolicy × List Ipv6RoutingPolicyAct :=
  ({ s with routedPacketQueue := s.routedPacketQueue.erase p }, [.finished p status])

/-- Neither an interface nor the selection of its source address has the packet. -/
def isRoutable (p : ℕ) : Bool :=
  !(s.packets p).beingRouted && !(s.packets p).beingAssignedSourceAddress

/-- `answer` is what the interface returns to which the packet is offered. -/
def routeOutstandingPacketsTask (answer : ErrorT) :
    Ipv6RoutingPolicy × List Ipv6RoutingPolicyAct :=
  match s.routedPacketQueue.find? s.isRoutable with
  | none => ({ s with routeTaskPosted := false }, [])
  | some p =>
    let s := { s with routeTaskPosted := true }
    let packet := s.packets p
    if !packet.hasSourceAddress then s.finishHandlingRoutedPacket p ENOROUTE
    else if !wiring.ifaceExists packet.ifaceId then s.finishHandlingRoutedPacket p ENOROUTE
    else
      let offer := .offerSending packet.ifaceId p answer
      if answer = SUCCESS then (s.setPacket p { packet with beingRouted := true }, [offer])
      else if answer = ENOSYS ∨ packet.assignedToIface ∨ isCritical wiring answer then
        let r := s.finishHandlingRoutedPacket p answer
        (r.1, offer :: r.2)
      else (s.setPacket p { packet with ifaceId := packet.ifaceId + 1 }, [offer])

def finishSendingIPv6Packet (iface : Ipv6NetIfaceId) (p : ℕ)
    (packet : Ipv6OutPacketProcessingState) (status : ErrorT) :
    Ipv6RoutingPolicy × List Ipv6RoutingPolicyAct :=
  if status = SUCCESS ∨ packet.assignedToIface ∨ isCritical wiring status then
    if p ∈ s.routedPacketQueue then
      let r := (s.setPacket p { packet with beingRouted := false }).finishHandlingRoutedPacket p
        status
      (r.1, .sent iface p status :: r.2)
    else (s.setPacket p packet, [.sent iface p status])
  else
    ({ s.setPacket p { packet with beingRouted := false, ifaceId := iface + 1 } with
      routeTaskPosted := true }, [.sent iface p status])

def step : Ipv6RoutingPolicyEvent → Ipv6RoutingPolicy × List Ipv6RoutingPolicyAct
  | .startSelectingSourceAddressForIPv6Packet p packet answers =>
    (s.startSelectingSourceAddressForIPv6Packet wiring p packet answers).2
  | .finishSelectingSourceAddressForIPv6Packet iface p packet status answers =>
    s.finishSelectingSourceAddressForIPv6Packet wiring iface p packet status answers
  | .startSendingIPv6Packet p packet answers =>
    (s.startSendingIPv6Packet wiring p packet answers).2
  | .routeOutstandingPacketsTask answer => s.routeOutstandingPacketsTask wiring answer
  | .finishSendingIPv6Packet iface p packet status =>
    s.finishSendingIPv6Packet wiring iface p packet status

/-- The component before anything has happened. -/
def initial (packets : ℕ → Ipv6OutPacketProcessingState) : Ipv6RoutingPolicy where
  packets := packets
  routedPacketQueue := []
  routeTaskPosted := false

end Ipv6RoutingPolicy

end Whip6
