import Whip6.Ipv6.RoutingPolicy
import Whip6.Lib.History

/-!
# Runs of the routing policy

Every packet that is accepted is finished once, and on the way it is offered to one existing interface
at a time, in increasing order.  A packet that is bound to an interface is offered to no other one,
except in one case: when the interface to which a packet is bound fails to select a source address,
the search goes on as if the packet were bound to none.
-/

namespace Whip6

open Lib

/-! ## What the history tells of a packet -/

/-- What has happened to a packet since it was last submitted: the interface to which it was bound
then, the interfaces that were asked to select its source address and to send it, the last one first,
the one that selected the address, and those that have the packet. -/
@[ext] structure Ipv6PacketView where
  bound : Option Ipv6NetIfaceId
  selecting : List Ipv6NetIfaceId
  selectedBy : Option Ipv6NetIfaceId
  sending : List Ipv6NetIfaceId
  selector : Option Ipv6NetIfaceId
  sender : Option Ipv6NetIfaceId

namespace Ipv6PacketView

def submitted (bound : Option Ipv6NetIfaceId) : Ipv6PacketView := ⟨bound, [], none, [], none, none⟩

/-- No interface has the packet. -/
def IsFree (v : Ipv6PacketView) : Prop := v.selector = none ∧ v.sender = none

end Ipv6PacketView

namespace Ipv6RoutingPolicyAct

def packet : Ipv6RoutingPolicyAct → ℕ
  | submitted p _ => p
  | accepted p => p
  | finished p _ => p
  | selectionAccepted p => p
  | selectionFinished p _ => p
  | offerSelecting _ p _ => p
  | selected _ p _ => p
  | offerSending _ p _ => p
  | sent _ p _ => p

/-- How an act that concerns a packet changes what has happened to it. -/
def see (v : Ipv6PacketView) : Ipv6RoutingPolicyAct → Ipv6PacketView
  | submitted _ bound => .submitted bound
  | offerSelecting iface _ answer =>
    { v with
      selecting := iface :: v.selecting
      selector := if answer = SUCCESS then some iface else v.selector }
  | selected iface _ status =>
    { v with
      selectedBy := if status = SUCCESS then some iface else v.selectedBy
      selector := none }
  | offerSending iface _ answer =>
    { v with
      sending := iface :: v.sending
      sender := if answer = SUCCESS then some iface else v.sender }
  | sent _ _ _ => { v with sender := none }
  | _ => v

/-- What a history tells of a packet. -/
def view (p : ℕ) (acts : List Ipv6RoutingPolicyAct) : Ipv6PacketView :=
  viewOf packet see (.submitted none) p acts

/-- A packet is being sent from when it is accepted until it is finished. -/
def sendingEntry : Ipv6RoutingPolicyAct → LedgerEntry ℕ
  | accepted p => .opens p
  | finished p _ => .closes p
  | _ => .other

/-- The packets of which the client only wants the source address. -/
def selectingEntry : Ipv6RoutingPolicyAct → LedgerEntry ℕ
  | selectionAccepted p => .opens p
  | selectionFinished p _ => .closes p
  | _ => .other

/-- A packet is offered to existing interfaces, when no interface has it, in increasing order, and
only to the one to which it is bound or that selected its source address. -/
def OfferJustified (wiring : Ipv6RoutingPolicyWiring) (pre : List Ipv6RoutingPolicyAct) :
    Ipv6RoutingPolicyAct → Prop
  | offerSelecting iface p _ => wiring.ifaceExists iface = true ∧ (view p pre).IsFree ∧
    (∀ j ∈ (view p pre).selecting, j < iface) ∧ ∀ j, (view p pre).bound = some j → iface = j
  | offerSending iface p _ => wiring.ifaceExists iface = true ∧ (view p pre).IsFree ∧
    (∀ j ∈ (view p pre).sending, j < iface) ∧ (∀ j, (view p pre).bound = some j → iface = j) ∧
    ∀ j, (view p pre).selectedBy = some j → iface = j
  | _ => True

variable {acts new : List Ipv6RoutingPolicyAct} {act : Ipv6RoutingPolicyAct} {p q : ℕ}

theorem view_append_other (h : ∀ act ∈ new, act.packet ≠ q) :
    view q (acts ++ new) = view q acts := viewOf_append_other h

theorem view_concat (h : act.packet = p) : view p (acts ++ [act]) = see (view p acts) act :=
  viewOf_concat h

/-- A submission starts over. -/
theorem view_submitted (bound : Option Ipv6NetIfaceId) :
    view p (acts ++ [submitted p bound]) = .submitted bound := view_concat rfl

end Ipv6RoutingPolicyAct

/-! ## Searches -/

namespace Ipv6RoutingPolicyWiring

variable {wiring : Ipv6RoutingPolicyWiring} {iface : Ipv6NetIfaceId}

/-- All interfaces below a number exist. -/
def AllExist (wiring : Ipv6RoutingPolicyWiring) (iface : Ipv6NetIfaceId) : Prop :=
  ∀ j < iface, wiring.ifaceExists j = true

theorem allExist_zero : wiring.AllExist 0 := fun _ hj => absurd hj UInt8.not_lt_zero

/-- Where the interfaces below a number and the one with the number exist, the number is not the
last one, as some interface does not exist. -/
theorem AllExist.lt_succ (h : wiring.AllExist iface) (hexists : wiring.ifaceExists iface = true)
    (hwiring : ∃ iface, wiring.ifaceExists iface = false) : iface < iface + 1 := by
  obtain ⟨missing, hmissing⟩ := hwiring
  have hle : iface < missing := by
    have hne : missing ≠ iface := by
      intro heq
      rw [heq, hexists] at hmissing
      cases hmissing
    rcases UInt8.lt_or_lt_of_ne hne with hlt | hlt
    · rw [h missing hlt] at hmissing
      cases hmissing
    · exact hlt
  rw [UInt8.lt_iff_toNat_lt] at hle ⊢
  have hmax := missing.toNat_lt
  rw [UInt8.toNat_add, UInt8.toNat_one, Nat.mod_eq_of_lt (by omega)]
  exact Nat.lt_succ_self _

theorem AllExist.le_of_lt_succ (h : iface < iface + 1) {j : Ipv6NetIfaceId} (hj : j < iface + 1) :
    j ≤ iface := by
  rw [UInt8.lt_iff_toNat_lt] at h hj
  rw [UInt8.le_iff_toNat_le]
  rw [UInt8.toNat_add, UInt8.toNat_one] at h hj
  omega

theorem AllExist.succ (h : wiring.AllExist iface) (hexists : wiring.ifaceExists iface = true)
    (hwiring : ∃ iface, wiring.ifaceExists iface = false) : wiring.AllExist (iface + 1) := by
  intro j hj
  by_cases heq : j = iface
  · rw [heq]
    exact hexists
  · exact h j (UInt8.lt_of_le_of_ne (AllExist.le_of_lt_succ (h.lt_succ hexists hwiring) hj) heq)

end Ipv6RoutingPolicyWiring

namespace Ipv6RoutingPolicy

open Ipv6RoutingPolicyAct

variable {wiring : Ipv6RoutingPolicyWiring} {acts : List Ipv6RoutingPolicyAct} {p : ℕ}
  {answers : Ipv6NetIfaceId → ErrorT} {iface : Ipv6NetIfaceId} {status : ErrorT} {fuel : ℕ}

theorem mem_offers_searchInterfaces {act : Ipv6RoutingPolicyAct}
    (h : act ∈ (searchInterfaces wiring p answers fuel iface status).offers) :
    ∃ j answer, act = .offerSelecting j p answer := by
  induction fuel generalizing iface status with
  | zero => cases h
  | succ fuel ih =>
    rw [searchInterfaces] at h
    split at h
    · dsimp only at h
      split at h
      · exact ⟨_, _, List.mem_singleton.mp h⟩
      · rcases List.mem_cons.mp h with rfl | h
        · exact ⟨_, _, rfl⟩
        · exact ih h
    · cases h

theorem searchInterfaces_of_not_exists (h : wiring.ifaceExists iface = false) :
    searchInterfaces wiring p answers fuel iface status = ⟨status, false, []⟩ := by
  cases fuel with
  | zero => rfl
  | succ fuel =>
    rw [searchInterfaces, h]
    rfl

theorem searchInterfaces_stop (hexists : wiring.ifaceExists iface = true)
    (h : answers iface = SUCCESS ∨ isCritical wiring (answers iface) = true) :
    searchInterfaces wiring p answers (fuel + 1) iface status =
      ⟨answers iface, true, [.offerSelecting iface p (answers iface)]⟩ := by
  rw [searchInterfaces, if_pos hexists]
  exact if_pos h

theorem searchInterfaces_next (hexists : wiring.ifaceExists iface = true)
    (h : ¬(answers iface = SUCCESS ∨ isCritical wiring (answers iface) = true)) :
    searchInterfaces wiring p answers (fuel + 1) iface status =
      let r := searchInterfaces wiring p answers fuel (iface + 1) (answers iface)
      ⟨r.status, r.stopped, .offerSelecting iface p (answers iface) :: r.offers⟩ := by
  rw [searchInterfaces, if_pos hexists]
  exact if_neg h

/-- What is known of a packet while interfaces are asked in turn, up to one of them. -/
structure Searching (wiring : Ipv6RoutingPolicyWiring) (v : Ipv6PacketView)
    (iface : Ipv6NetIfaceId) : Prop where
  free : v.IsFree
  selecting : ∀ j ∈ v.selecting, j < iface
  bound : v.bound = none
  exist : wiring.AllExist iface

/-- An interface is selecting the source address of a packet. -/
structure HasSelector (wiring : Ipv6RoutingPolicyWiring) (v : Ipv6PacketView)
    (iface : Ipv6NetIfaceId) : Prop where
  selector : v.selector = some iface
  sender : v.sender = none
  exist : wiring.ifaceExists iface = true
  selecting : ∀ j ∈ v.selecting, j ≤ iface

theorem Searching.offer {v : Ipv6PacketView} (h : Searching wiring v iface)
    (hexists : wiring.ifaceExists iface = true)
    (hwiring : ∃ iface, wiring.ifaceExists iface = false) {answer : ErrorT}
    (hanswer : answer ≠ SUCCESS) :
    Searching wiring (see v (.offerSelecting iface p answer)) (iface + 1) := by
  have hlt := h.exist.lt_succ hexists hwiring
  refine ⟨⟨?_, h.free.2⟩, fun j hj => ?_, h.bound, h.exist.succ hexists hwiring⟩
  · exact (if_neg hanswer).trans h.free.1
  · rcases List.mem_cons.mp hj with rfl | hj
    · exact hlt
    · exact UInt8.lt_trans (h.selecting j hj) hlt

/-- The offers of a search are justified.  When an interface has accepted, it has the packet, and
otherwise none has it; nothing else that is known of the packet changes. -/
theorem searchInterfaces_spec (hjustified : Justified (OfferJustified wiring) acts)
    (hview : Searching wiring (view p acts) iface)
    (hwiring : ∃ iface, wiring.ifaceExists iface = false) (hstatus : status ≠ SUCCESS) :
    let r := searchInterfaces wiring p answers fuel iface status
    Justified (OfferJustified wiring) (acts ++ r.offers) ∧
      (∃ l o, view p (acts ++ r.offers) = { view p acts with selecting := l, selector := o }) ∧
      (if r.status = SUCCESS then r.stopped = true ∧
        ∃ j, wiring.AllExist j ∧ HasSelector wiring (view p (acts ++ r.offers)) j
      else (view p (acts ++ r.offers)).IsFree) := by
  induction fuel generalizing acts iface status with
  | zero =>
    intro r
    have hr : r = ⟨status, false, []⟩ := rfl
    rw [hr, List.append_nil, if_neg hstatus]
    exact ⟨hjustified, ⟨_, _, rfl⟩, hview.free⟩
  | succ fuel ih =>
    intro r
    by_cases hexists : wiring.ifaceExists iface = true
    · have hoffer : OfferJustified wiring acts (.offerSelecting iface p (answers iface)) := by
        refine ⟨hexists, hview.free, hview.selecting, fun j hj => ?_⟩
        rw [hview.bound] at hj
        cases hj
      have hconcat : Justified (OfferJustified wiring)
          (acts ++ [.offerSelecting iface p (answers iface)]) := hjustified.concat hoffer
      have hview₁ : view p (acts ++ [.offerSelecting iface p (answers iface)]) =
          see (view p acts) (.offerSelecting iface p (answers iface)) := view_concat rfl
      by_cases hsuccess : answers iface = SUCCESS
      · have hr : r = ⟨answers iface, true, [.offerSelecting iface p (answers iface)]⟩ :=
          searchInterfaces_stop hexists (Or.inl hsuccess)
        rw [hr, hview₁, if_pos hsuccess]
        refine ⟨hconcat, ⟨_, _, rfl⟩, rfl, iface, hview.exist, ?_, hview.free.2, hexists,
          fun j hj => ?_⟩
        · exact if_pos hsuccess
        · rcases List.mem_cons.mp hj with rfl | hj
          · exact UInt8.le_refl _
          · exact UInt8.le_of_lt (hview.selecting j hj)
      · have hsearching : Searching wiring
            (view p (acts ++ [.offerSelecting iface p (answers iface)])) (iface + 1) := by
          rw [hview₁]
          exact hview.offer hexists hwiring hsuccess
        by_cases hcritical : isCritical wiring (answers iface) = true
        · have hr : r = ⟨answers iface, true, [.offerSelecting iface p (answers iface)]⟩ :=
            searchInterfaces_stop hexists (Or.inr hcritical)
          rw [hr, if_neg hsuccess]
          exact ⟨hconcat, ⟨_, _, hview₁⟩, hsearching.free⟩
        · obtain ⟨hjustified', ⟨l, o, hview'⟩, hend⟩ := ih hconcat hsearching hsuccess
          have hr : r = ⟨_, _, _⟩ :=
            searchInterfaces_next hexists (not_or.mpr ⟨hsuccess, hcritical⟩)
          rw [hr]
          rw [← List.append_cons acts] at hjustified' hview' hend
          refine ⟨hjustified', ⟨l, o, ?_⟩, hend⟩
          rw [hview', hview₁]
          rfl
    · rw [Bool.not_eq_true] at hexists
      have hr : r = ⟨status, false, []⟩ := searchInterfaces_of_not_exists hexists
      rw [hr, List.append_nil, if_neg hstatus]
      exact ⟨hjustified, ⟨_, _, rfl⟩, hview.free⟩

/-! ## The invariant -/

/-- An interface was found that selects the source address of a packet. -/
structure Found (wiring : Ipv6RoutingPolicyWiring) (packet : Ipv6OutPacketProcessingState)
    (v : Ipv6PacketView) : Prop where
  selector : ∃ j, HasSelector wiring v j ∧ (packet.assignedToIface = true → packet.ifaceId = j) ∧
    (packet.assignedToIface = false → wiring.AllExist j)
  sending : v.sending = []
  selectedBy : v.selectedBy = none
  bound : v.bound = packet.bound

/-- A packet of which an interface selects the source address. -/
structure Selecting (wiring : Ipv6RoutingPolicyWiring) (packet : Ipv6OutPacketProcessingState)
    (v : Ipv6PacketView) : Prop extends Found wiring packet v where
  hasSource : packet.hasSourceAddress = false
  beingRouted : packet.beingRouted = false

/-- A packet that an interface sends, or that is to be offered to one. -/
structure Routing (wiring : Ipv6RoutingPolicyWiring) (packet : Ipv6OutPacketProcessingState)
    (v : Ipv6PacketView) : Prop where
  selector : v.selector = none
  sender : v.sender = if packet.beingRouted then some packet.ifaceId else none
  exist : packet.beingRouted = true →
    wiring.ifaceExists packet.ifaceId = true ∧ packet.hasSourceAddress = true
  sending : ∀ j ∈ v.sending, j < packet.ifaceId ∨ packet.beingRouted = true ∧ j = packet.ifaceId
  bound : packet.hasSourceAddress = true → ∀ j, v.bound = some j →
    packet.assignedToIface = true ∧ packet.ifaceId = j
  selectedBy : ∀ j, v.selectedBy = some j → packet.assignedToIface = true ∧ packet.ifaceId = j
  unbound : packet.hasSourceAddress = true → packet.assignedToIface = false →
    wiring.AllExist packet.ifaceId

/-- What holds of a packet that is in the queue, or of which the client wants only the source
address, or neither. -/
structure Stage (wiring : Ipv6RoutingPolicyWiring) (packet : Ipv6OutPacketProcessingState)
    (v : Ipv6PacketView) (queued external : Prop) : Prop where
  apart : external → ¬queued
  idle : ¬queued → ¬external → v.IsFree
  external : external → packet.beingAssignedSourceAddress = false ∧ Selecting wiring packet v
  selecting : queued → packet.beingAssignedSourceAddress = true → Selecting wiring packet v
  routing : queued → packet.beingAssignedSourceAddress = false → Routing wiring packet v

structure Inv (wiring : Ipv6RoutingPolicyWiring) (s : Ipv6RoutingPolicy) (external : List ℕ)
    (acts : List Ipv6RoutingPolicyAct) : Prop where
  nodup : s.routedPacketQueue.Nodup
  nodupExternal : external.Nodup
  sending : ∃ l, ledger sendingEntry [] acts = some l ∧ l.Perm s.routedPacketQueue
  selecting : ledger selectingEntry [] acts = some external
  stage : ∀ p, Stage wiring (s.packets p) (view p acts) (p ∈ s.routedPacketQueue) (p ∈ external)
  posted : ∀ p ∈ s.routedPacketQueue, s.isRoutable p = true → s.routeTaskPosted = true
  justified : Justified (OfferJustified wiring) acts

variable {s s' : Ipv6RoutingPolicy} {packet : Ipv6OutPacketProcessingState} {v : Ipv6PacketView}
  {external external' : List ℕ} {new : List Ipv6RoutingPolicyAct}

/-- What concerns one packet leaves the others as they are. -/
theorem Inv.of_concerns (h : Inv wiring s external acts)
    (hpackets : ∀ q, q ≠ p → s'.packets q = s.packets q)
    (hqueue : ∀ q, q ≠ p → (q ∈ s'.routedPacketQueue ↔ q ∈ s.routedPacketQueue))
    (hexternal : ∀ q, q ≠ p → (q ∈ external' ↔ q ∈ external))
    (hacts : ∀ act ∈ new, act.packet = p)
    (hnodup : s'.routedPacketQueue.Nodup) (hnodupExternal : external'.Nodup)
    (hsending : ∃ l, ledger sendingEntry [] (acts ++ new) = some l ∧
      l.Perm s'.routedPacketQueue)
    (hselecting : ledger selectingEntry [] (acts ++ new) = some external')
    (hstage : Stage wiring (s'.packets p) (view p (acts ++ new)) (p ∈ s'.routedPacketQueue)
      (p ∈ external'))
    (hposted : s'.routeTaskPosted = true ∨ s'.routeTaskPosted = s.routeTaskPosted ∧
      (p ∈ s'.routedPacketQueue → s'.isRoutable p = false))
    (hjustified : Justified (OfferJustified wiring) (acts ++ new)) :
    Inv wiring s' external' (acts ++ new) where
  nodup := hnodup
  nodupExternal := hnodupExternal
  sending := hsending
  selecting := hselecting
  stage q := by
    by_cases hq : q = p
    · rw [hq]
      exact hstage
    · have hview : view q (acts ++ new) = view q acts :=
        view_append_other fun act hact heq => hq (heq.symm.trans (hacts act hact))
      rw [hview, hpackets q hq, propext (hqueue q hq), propext (hexternal q hq)]
      exact h.stage q
  posted q hq hroutable := by
    rcases hposted with hposted | ⟨hposted, hunroutable⟩
    · exact hposted
    · by_cases hqp : q = p
      · rw [hqp] at hq hroutable
        rw [hunroutable hq] at hroutable
        cases hroutable
      · rw [isRoutable, hpackets q hqp] at hroutable
        rw [hposted]
        exact h.posted q ((hqueue q hqp).mp hq) hroutable
  justified := hjustified

/-- Acts that only concern the interfaces. -/
def IsInner (act : Ipv6RoutingPolicyAct) : Prop :=
  sendingEntry act = .other ∧ selectingEntry act = .other

theorem ledger_sending_of_inner (h : ∀ act ∈ new, IsInner act) {l : List ℕ} :
    ledger sendingEntry l new = some l :=
  ledger_of_other fun act hact => (h act hact).1

theorem ledger_selecting_of_inner (h : ∀ act ∈ new, IsInner act) {l : List ℕ} :
    ledger selectingEntry l new = some l :=
  ledger_of_other fun act hact => (h act hact).2

/-- Looking for an interface that selects the source address of a packet that is submitted. -/
theorem startSelecting_spec (s : Ipv6RoutingPolicy) (answers : Ipv6NetIfaceId → ErrorT)
    {bound : Option Ipv6NetIfaceId} (hpacket : s.packets p = packet) (hbound : packet.bound = bound)
    (h : Justified (OfferJustified wiring) acts)
    (hexists : packet.assignedToIface = true → wiring.ifaceExists packet.ifaceId = true)
    (hwiring : ∃ iface, wiring.ifaceExists iface = false) :
    let r := s.startSelecting wiring p answers
    Justified (OfferJustified wiring) (acts ++ .submitted p bound :: r.2) ∧
      (∀ act ∈ r.2, ∃ j answer, act = .offerSelecting j p answer) ∧
      (if r.1 = SUCCESS then Found wiring packet (view p (acts ++ .submitted p bound :: r.2))
        else (view p (acts ++ .submitted p bound :: r.2)).IsFree) := by
  intro r
  have hsubmitted : OfferJustified wiring acts (.submitted p bound) := trivial
  have hjustified : Justified (OfferJustified wiring) (acts ++ [.submitted p bound]) :=
    h.concat hsubmitted
  have hview : view p (acts ++ [.submitted p bound]) = .submitted bound := view_submitted bound
  rw [List.append_cons]
  by_cases hassigned : packet.assignedToIface = true
  · have hbound' : bound = some packet.ifaceId := hbound.symm.trans (if_pos hassigned)
    have hr : r = (answers packet.ifaceId,
        [.offerSelecting packet.ifaceId p (answers packet.ifaceId)]) := by
      show s.startSelecting wiring p answers = _
      rw [startSelecting, hpacket, if_pos hassigned]
    have hoffer : OfferJustified wiring (acts ++ [.submitted p bound])
        (.offerSelecting packet.ifaceId p (answers packet.ifaceId)) := by
      refine ⟨hexists hassigned, ?_, ?_, ?_⟩ <;> rw [hview]
      · exact ⟨rfl, rfl⟩
      · exact fun _ hj => absurd hj List.not_mem_nil
      · exact fun j hj => Option.some.inj (hbound'.symm.trans hj)
    have hview' : view p ((acts ++ [.submitted p bound]) ++ r.2) = see (.submitted bound)
        (.offerSelecting packet.ifaceId p (answers packet.ifaceId)) := by
      rw [hr, ← hview]
      exact view_concat rfl
    rw [hview', hr]
    refine ⟨hjustified.concat hoffer, fun act hact => ⟨_, _, List.mem_singleton.mp hact⟩, ?_⟩
    by_cases hanswer : answers packet.ifaceId = SUCCESS
    · rw [if_pos hanswer]
      have hselector : HasSelector wiring (see (.submitted bound)
          (.offerSelecting packet.ifaceId p (answers packet.ifaceId))) packet.ifaceId := by
        refine ⟨if_pos hanswer, rfl, hexists hassigned, fun j hj => ?_⟩
        obtain rfl := List.mem_singleton.mp hj
        exact UInt8.le_refl _
      refine ⟨⟨packet.ifaceId, hselector, fun _ => rfl, fun hfalse => ?_⟩, rfl, rfl, hbound.symm⟩
      rw [hassigned] at hfalse
      cases hfalse
    · rw [if_neg hanswer]
      exact ⟨if_neg hanswer, rfl⟩
  · have hr : r = (if (searchInterfaces wiring p answers numIfaceIds 0 ENOROUTE).stopped then
        (searchInterfaces wiring p answers numIfaceIds 0 ENOROUTE).status else ENOROUTE,
        (searchInterfaces wiring p answers numIfaceIds 0 ENOROUTE).offers) := by
      show s.startSelecting wiring p answers = _
      rw [startSelecting, hpacket, if_neg hassigned]
    have hsearching : Searching wiring (view p (acts ++ [.submitted p bound])) 0 := by
      rw [hview]
      exact ⟨⟨rfl, rfl⟩, fun _ hj => absurd hj List.not_mem_nil,
        hbound.symm.trans (if_neg hassigned), Ipv6RoutingPolicyWiring.allExist_zero⟩
    obtain ⟨hjustified', ⟨sel, o, hview'⟩, hend⟩ := @searchInterfaces_spec wiring _ p answers 0
      ENOROUTE numIfaceIds hjustified hsearching hwiring (by decide)
    have hoffers : r.2 = (searchInterfaces wiring p answers numIfaceIds 0 ENOROUTE).offers := by
      rw [hr]
    rw [hoffers]
    refine ⟨hjustified', fun act hact => mem_offers_searchInterfaces hact, ?_⟩
    by_cases hsuccess : (searchInterfaces wiring p answers numIfaceIds 0 ENOROUTE).status = SUCCESS
    · rw [if_pos hsuccess] at hend
      obtain ⟨hstopped, j, hallExist, hselector⟩ := hend
      rw [hr, if_pos hstopped, if_pos hsuccess]
      refine ⟨⟨j, hselector, fun htrue => absurd htrue hassigned, fun _ => hallExist⟩, ?_, ?_, ?_⟩ <;>
        rw [hview', hview]
      · rfl
      · rfl
      · exact hbound.symm
    · rw [if_neg hsuccess] at hend
      have hne : r.1 ≠ SUCCESS := by
        rw [hr]
        dsimp only
        split
        · exact hsuccess
        · decide
      rw [if_neg hne]
      exact hend

/-! ## Steps -/

theorem packets_setPacket_self (s : Ipv6RoutingPolicy) (p : ℕ)
    (packet : Ipv6OutPacketProcessingState) : (s.setPacket p packet).packets p = packet :=
  Function.update_self _ _ _

theorem packets_setPacket_ne (s : Ipv6RoutingPolicy) (packet : Ipv6OutPacketProcessingState) {q : ℕ}
    (hq : q ≠ p) : (s.setPacket p packet).packets q = s.packets q :=
  Function.update_of_ne hq _ _

theorem setPacket_setPacket (s : Ipv6RoutingPolicy) (p : ℕ)
    (packet packet' : Ipv6OutPacketProcessingState) :
    (s.setPacket p packet).setPacket p packet' = s.setPacket p packet' := by
  simp only [setPacket, Function.update_idem]

/-- A packet that nobody has. -/
theorem stage_idle (hv : v.IsFree) {queued external : Prop} (hqueued : ¬queued)
    (hexternal : ¬external) : Stage wiring packet v queued external where
  apart hmem := absurd hmem hexternal
  idle _ _ := hv
  external hmem := absurd hmem hexternal
  selecting hmem := absurd hmem hqueued
  routing hmem := absurd hmem hqueued

theorem stage_external (hselecting : Selecting wiring packet v)
    (hbeing : packet.beingAssignedSourceAddress = false) {queued external : Prop}
    (hqueued : ¬queued) (hexternal : external) : Stage wiring packet v queued external where
  apart _ := hqueued
  idle _ hmem := absurd hexternal hmem
  external _ := ⟨hbeing, hselecting⟩
  selecting hmem := absurd hmem hqueued
  routing hmem := absurd hmem hqueued

theorem stage_selecting (hselecting : Selecting wiring packet v)
    (hbeing : packet.beingAssignedSourceAddress = true) {queued external : Prop} (hqueued : queued)
    (hexternal : ¬external) : Stage wiring packet v queued external where
  apart hmem := absurd hmem hexternal
  idle hmem := absurd hqueued hmem
  external hmem := absurd hmem hexternal
  selecting _ _ := hselecting
  routing _ hfalse := by rw [hbeing] at hfalse; cases hfalse

theorem stage_routing (hrouting : Routing wiring packet v)
    (hbeing : packet.beingAssignedSourceAddress = false) {queued external : Prop} (hqueued : queued)
    (hexternal : ¬external) : Stage wiring packet v queued external where
  apart hmem := absurd hmem hexternal
  idle hmem := absurd hqueued hmem
  external hmem := absurd hmem hexternal
  selecting _ htrue := by rw [hbeing] at htrue; cases htrue
  routing _ _ := hrouting

/-- A packet as who gives it to the component should leave it. -/
structure Fresh (wiring : Ipv6RoutingPolicyWiring) (packet : Ipv6OutPacketProcessingState) :
    Prop where
  beingAssigned : packet.beingAssignedSourceAddress = false
  beingRouted : packet.beingRouted = false

/-- The interface to which a packet without a source address is bound exists. -/
def BoundExists (wiring : Ipv6RoutingPolicyWiring) (packet : Ipv6OutPacketProcessingState) : Prop :=
  packet.assignedToIface = true → wiring.ifaceExists packet.ifaceId = true

theorem concerns_submitted {bound : Option Ipv6NetIfaceId} {act : Ipv6RoutingPolicyAct}
    (hoffers : ∀ act ∈ new, ∃ j answer, act = .offerSelecting j p answer)
    {last : List Ipv6RoutingPolicyAct} (hlast : ∀ act ∈ last, act.packet = p)
    (hact : act ∈ .submitted p bound :: new ++ last) : act.packet = p := by
  rcases List.mem_append.mp hact with hact | hact
  · rcases List.mem_cons.mp hact with rfl | hact
    · rfl
    · obtain ⟨j, answer, rfl⟩ := hoffers act hact
      rfl
  · exact hlast act hact

theorem inner_submitted {bound : Option Ipv6NetIfaceId} {act : Ipv6RoutingPolicyAct}
    (hoffers : ∀ act ∈ new, ∃ j answer, act = .offerSelecting j p answer)
    (hact : act ∈ .submitted p bound :: new) : IsInner act := by
  rcases List.mem_cons.mp hact with rfl | hact
  · exact ⟨rfl, rfl⟩
  · obtain ⟨j, answer, rfl⟩ := hoffers act hact
    exact ⟨rfl, rfl⟩

namespace Inv

/-- A packet is not taken. -/
theorem reject (h : Inv wiring s external acts) (hqueue : p ∉ s.routedPacketQueue)
    (hexternal : p ∉ external) {offers : List Ipv6RoutingPolicyAct}
    (hoffers : ∀ act ∈ offers, ∃ j answer, act = .offerSelecting j p answer)
    {bound : Option Ipv6NetIfaceId}
    (hjustified : Justified (OfferJustified wiring) (acts ++ .submitted p bound :: offers))
    (hfree : (view p (acts ++ .submitted p bound :: offers)).IsFree) :
    Inv wiring (s.setPacket p packet) external (acts ++ .submitted p bound :: offers) := by
  obtain ⟨l, hledger, hperm⟩ := h.sending
  have hinner := fun act => @inner_submitted p offers bound act hoffers
  refine h.of_concerns (p := p) (fun q hq => s.packets_setPacket_ne packet hq)
    (fun q _ => Iff.rfl) (fun q _ => Iff.rfl) (fun act hact => ?_) h.nodup h.nodupExternal
    ⟨l, ?_, hperm⟩ ?_ ?_ ?_ hjustified
  · rw [← List.append_nil (_ :: offers)] at hact
    exact concerns_submitted hoffers (fun _ hmem => absurd hmem List.not_mem_nil) hact
  · rw [ledger_append, hledger]
    exact ledger_sending_of_inner hinner
  · rw [ledger_append, h.selecting]
    exact ledger_selecting_of_inner hinner
  · exact stage_idle hfree hqueue hexternal
  · exact Or.inr ⟨rfl, fun hmem => absurd hmem hqueue⟩

theorem startSelectingSourceAddressForIPv6Packet (h : Inv wiring s external acts)
    (hwiring : ∃ iface, wiring.ifaceExists iface = false) (hqueue : p ∉ s.routedPacketQueue)
    (hexternal : p ∉ external) (hfresh : Fresh wiring packet)
    (hsource : packet.hasSourceAddress = false) (hbound : BoundExists wiring packet)
    (answers : Ipv6NetIfaceId → ErrorT) :
    let r := s.startSelectingSourceAddressForIPv6Packet wiring p packet answers
    ∃ external', Inv wiring r.2.1 external' (acts ++ r.2.2) := by
  obtain ⟨l, hledger, hperm⟩ := h.sending
  have hself := s.packets_setPacket_self p packet
  obtain ⟨hjustified, hoffers, hend⟩ := startSelecting_spec (s.setPacket p packet) answers hself
    rfl h.justified hbound hwiring
  unfold Ipv6RoutingPolicy.startSelectingSourceAddressForIPv6Packet
  dsimp only
  generalize (s.setPacket p packet).startSelecting wiring p answers = found at *
  obtain ⟨status, offers⟩ := found
  dsimp only at hjustified hoffers hend ⊢
  have hinner := fun act => @inner_submitted p offers packet.bound act hoffers
  by_cases hsuccess : status = SUCCESS
  · rw [if_pos hsuccess] at hend ⊢
    have haccepted : OfferJustified wiring (acts ++ .submitted p packet.bound :: offers)
      (.selectionAccepted p) := trivial
    refine ⟨p :: external, h.of_concerns (p := p) (fun q hq => s.packets_setPacket_ne packet hq)
      (fun q _ => Iff.rfl) (fun q hq => ?_) (fun act hact => ?_) h.nodup
      (List.nodup_cons.mpr ⟨hexternal, h.nodupExternal⟩) ⟨l, ?_, hperm⟩ ?_ ?_ ?_ ?_⟩
    · exact ⟨fun hmem => (List.mem_cons.mp hmem).resolve_left hq, List.mem_cons_of_mem _⟩
    · exact concerns_submitted hoffers (fun act hact => by
        rw [List.mem_singleton.mp hact]; rfl) hact
    · rw [ledger_append, hledger]
      exact ledger_append.trans (by rw [ledger_sending_of_inner hinner]; rfl)
    · rw [ledger_append, h.selecting]
      exact ledger_append.trans (by rw [ledger_selecting_of_inner hinner]; rfl)
    · have hview : view p (acts ++ .submitted p packet.bound :: offers ++ [.selectionAccepted p]) =
          view p (acts ++ .submitted p packet.bound :: offers) := view_concat rfl
      rw [hself, ← List.append_assoc, hview]
      exact stage_external ⟨hend, hsource, hfresh.beingRouted⟩ hfresh.beingAssigned hqueue
        List.mem_cons_self
    · exact Or.inr ⟨rfl, fun hmem => absurd hmem hqueue⟩
    · rw [← List.append_assoc]
      exact hjustified.concat haccepted
  · rw [if_neg hsuccess] at hend ⊢
    rw [List.append_nil]
    exact ⟨external, h.reject hqueue hexternal hoffers hjustified hend⟩

/-- A packet is put at the end of the queue. -/
theorem enqueue (h : Inv wiring s external acts) (hqueue : p ∉ s.routedPacketQueue)
    (hexternal : p ∉ external) {posted : Bool} (hposted : posted = true ∨
      posted = s.routeTaskPosted ∧ packet.beingAssignedSourceAddress = true)
    {offers : List Ipv6RoutingPolicyAct}
    (hoffers : ∀ act ∈ offers, ∃ j answer, act = .offerSelecting j p answer)
    {bound : Option Ipv6NetIfaceId}
    (hjustified : Justified (OfferJustified wiring) (acts ++ .submitted p bound :: offers))
    (hstage : ∀ {queued external}, queued → ¬external →
      Stage wiring packet (view p (acts ++ .submitted p bound :: offers)) queued external) :
    Inv wiring { s.setPacket p packet with
      routedPacketQueue := s.routedPacketQueue ++ [p]
      routeTaskPosted := posted } external
      (acts ++ (.submitted p bound :: offers ++ [.accepted p])) := by
  obtain ⟨l, hledger, hperm⟩ := h.sending
  have hinner := fun act => @inner_submitted p offers bound act hoffers
  have haccepted : OfferJustified wiring (acts ++ .submitted p bound :: offers) (.accepted p) :=
    trivial
  have hmem : p ∈ s.routedPacketQueue ++ [p] :=
    List.mem_append_right _ (List.mem_singleton_self p)
  refine h.of_concerns (p := p) (fun q hq => s.packets_setPacket_ne packet hq) (fun q hq => ?_)
    (fun q _ => Iff.rfl) (fun act hact => ?_) ?_ h.nodupExternal ⟨p :: l, ?_, ?_⟩ ?_ ?_ ?_ ?_
  · refine ⟨fun hmem => ?_, List.mem_append_left _⟩
    rcases List.mem_append.mp hmem with hmem | hmem
    · exact hmem
    · exact absurd (List.mem_singleton.mp hmem) hq
  · exact concerns_submitted hoffers (fun act hact => by rw [List.mem_singleton.mp hact]; rfl) hact
  · rw [List.nodup_append]
    refine ⟨h.nodup, List.nodup_singleton p, fun a ha b hb heq => hqueue ?_⟩
    rw [← List.mem_singleton.mp hb, ← heq]
    exact ha
  · rw [ledger_append, hledger]
    exact ledger_append.trans (by rw [ledger_sending_of_inner hinner]; rfl)
  · exact (List.Perm.cons p hperm).trans (List.perm_append_singleton p _).symm
  · rw [ledger_append, h.selecting]
    exact ledger_append.trans (by rw [ledger_selecting_of_inner hinner]; rfl)
  · have hview : view p (acts ++ .submitted p bound :: offers ++ [.accepted p]) =
        view p (acts ++ .submitted p bound :: offers) := view_concat rfl
    rw [← List.append_assoc, hview]
    show Stage wiring ((s.setPacket p packet).packets p) _ _ _
    rw [packets_setPacket_self]
    exact hstage hmem hexternal
  · rcases hposted with hposted | ⟨hposted, hbeing⟩
    · exact Or.inl hposted
    · refine Or.inr ⟨hposted, fun _ => ?_⟩
      show (!((s.setPacket p packet).packets p).beingRouted &&
        !((s.setPacket p packet).packets p).beingAssignedSourceAddress) = false
      rw [packets_setPacket_self, hbeing, Bool.not_true, Bool.and_false]
  · rw [← List.append_assoc]
    exact hjustified.concat haccepted

theorem startSendingIPv6Packet (h : Inv wiring s external acts)
    (hwiring : ∃ iface, wiring.ifaceExists iface = false) (hqueue : p ∉ s.routedPacketQueue)
    (hexternal : p ∉ external) (hfresh : Fresh wiring packet)
    (hbound : s.routedPacketQueue.length ≠ wiring.queueCapacity →
      packet.hasSourceAddress = false →
      ipv6AddrIsUndefined (ipv6BasicHeaderGetSrcAddr packet.header) = true →
        BoundExists wiring packet) (answers : Ipv6NetIfaceId → ErrorT) :
    let r := s.startSendingIPv6Packet wiring p packet answers
    Inv wiring r.2.1 external (acts ++ r.2.2) := by
  have hnone : ∀ act ∈ ([] : List Ipv6RoutingPolicyAct),
      ∃ j answer, act = .offerSelecting j p answer := fun _ hmem => absurd hmem List.not_mem_nil
  have hsubmitted : OfferJustified wiring acts (.submitted p packet.bound) := trivial
  have hview : view p (acts ++ [.submitted p packet.bound]) = .submitted packet.bound :=
    view_submitted packet.bound
  unfold Ipv6RoutingPolicy.startSendingIPv6Packet
  by_cases hfull : s.routedPacketQueue.length = wiring.queueCapacity
  · rw [if_pos hfull]
    refine h.reject hqueue hexternal hnone (h.justified.concat hsubmitted) ?_
    rw [hview]
    exact ⟨rfl, rfl⟩
  rw [if_neg hfull]
  dsimp only
  have hprepare : packet.prepare.bound = packet.bound := by
    rw [Ipv6OutPacketProcessingState.bound, Ipv6OutPacketProcessingState.bound]
    show (if packet.assignedToIface then some (if packet.assignedToIface then _ else _) else none) = _
    split <;> rfl
  by_cases hsource : packet.prepare.hasSourceAddress = true
  · rw [if_pos hsource]
    have hunrouted : packet.prepare.beingRouted = false := hfresh.beingRouted
    have hbeing : packet.prepare.beingAssignedSourceAddress = false := hfresh.beingAssigned
    have hrouting : Routing wiring packet.prepare (.submitted packet.bound) := by
      refine
        { selector := rfl
          sender := by rw [hunrouted]; rfl
          exist := fun hrouted => by rw [hunrouted] at hrouted; cases hrouted
          sending := fun _ hj => absurd hj List.not_mem_nil
          bound := fun _ j hj => ?_
          selectedBy := fun _ hj => by cases hj
          unbound := fun _ hunbound => ?_ }
      · have hj' : packet.prepare.bound = some j := hprepare.trans hj
        rw [Ipv6OutPacketProcessingState.bound, Option.ite_none_right_eq_some] at hj'
        exact ⟨hj'.1, Option.some.inj hj'.2⟩
      · have hiface : packet.prepare.ifaceId = 0 := if_neg (by
          rw [show packet.assignedToIface = false from hunbound]
          exact Bool.false_ne_true)
        rw [hiface]
        exact Ipv6RoutingPolicyWiring.allExist_zero
    refine h.enqueue hqueue hexternal (Or.inl rfl) hnone (h.justified.concat hsubmitted) ?_
    intro queued external hqueued hout
    rw [hview]
    exact stage_routing hrouting hbeing hqueued hout
  · rw [if_neg hsource]
    have hself := s.packets_setPacket_self p packet.prepare
    rw [Bool.not_eq_true] at hsource
    obtain ⟨hno, hundefined⟩ := Bool.or_eq_false_iff.mp hsource
    have hexists : packet.prepare.assignedToIface = true →
        wiring.ifaceExists packet.prepare.ifaceId = true := by
      intro hassigned
      have hiface : packet.prepare.ifaceId = packet.ifaceId := if_pos hassigned
      rw [hiface]
      exact hbound hfull hno (by simpa using hundefined) hassigned
    obtain ⟨hjustified, hoffers, hend⟩ := startSelecting_spec (s.setPacket p packet.prepare) answers
      hself hprepare h.justified hexists hwiring
    generalize (s.setPacket p packet.prepare).startSelecting wiring p answers = found at *
    obtain ⟨status, offers⟩ := found
    dsimp only at hjustified hoffers hend ⊢
    by_cases hsuccess : status = SUCCESS
    · rw [if_pos hsuccess] at hend ⊢
      have hstate : ({ (s.setPacket p packet.prepare).setPacket p
          { packet.prepare with beingAssignedSourceAddress := true } with
          routedPacketQueue := s.routedPacketQueue ++ [p] } : Ipv6RoutingPolicy) =
        { s.setPacket p { packet.prepare with beingAssignedSourceAddress := true } with
          routedPacketQueue := s.routedPacketQueue ++ [p]
          routeTaskPosted := s.routeTaskPosted } := by
        simp [setPacket]
      show Inv wiring { (s.setPacket p packet.prepare).setPacket p
        { packet.prepare with beingAssignedSourceAddress := true } with
          routedPacketQueue := s.routedPacketQueue ++ [p] } external _
      rw [hstate]
      have hselecting : Selecting wiring { packet.prepare with beingAssignedSourceAddress := true }
          (view p (acts ++ .submitted p packet.bound :: offers)) :=
        ⟨⟨hend.selector, hend.sending, hend.selectedBy, hend.bound⟩, hsource, hfresh.beingRouted⟩
      exact h.enqueue hqueue hexternal (Or.inr ⟨rfl, rfl⟩) hoffers hjustified
        fun hqueued hout => stage_selecting hselecting rfl hqueued hout
    · rw [if_neg hsuccess] at hend ⊢
      exact h.reject hqueue hexternal hoffers hjustified hend

/-- A packet leaves the queue, finished. -/
theorem finishHandlingRoutedPacket (h : Inv wiring s external acts) (s' : Ipv6RoutingPolicy)
    (new : List Ipv6RoutingPolicyAct)
    (hmem : p ∈ s.routedPacketQueue) (hpackets : ∀ q, q ≠ p → s'.packets q = s.packets q)
    (hqueue : s'.routedPacketQueue = s.routedPacketQueue)
    (hposted : s'.routeTaskPosted = true ∨ s'.routeTaskPosted = s.routeTaskPosted)
    (hconcerns : ∀ act ∈ new, act.packet = p) (hinner : ∀ act ∈ new, IsInner act)
    (hjustified : Justified (OfferJustified wiring) (acts ++ new))
    (hfree : (view p (acts ++ new)).IsFree) (status : ErrorT) :
    Inv wiring (s'.finishHandlingRoutedPacket p status).1 external
      (acts ++ (new ++ (s'.finishHandlingRoutedPacket p status).2)) := by
  obtain ⟨l, hledger, hperm⟩ := h.sending
  have hfinished : OfferJustified wiring (acts ++ new) (.finished p status) := trivial
  have hnot : p ∉ s.routedPacketQueue.erase p := fun hin => (h.nodup.mem_erase_iff.mp hin).1 rfl
  unfold Ipv6RoutingPolicy.finishHandlingRoutedPacket
  rw [hqueue]
  refine h.of_concerns (p := p) hpackets (fun q hq => List.mem_erase_of_ne hq) (fun q _ => Iff.rfl)
    (fun act hact => ?_) (h.nodup.erase p) h.nodupExternal ⟨l.erase p, ?_, hperm.erase p⟩ ?_ ?_ ?_ ?_
  · rcases List.mem_append.mp hact with hact | hact
    · exact hconcerns act hact
    · rw [List.mem_singleton.mp hact]
      rfl
  · rw [ledger_append, hledger]
    refine ledger_append.trans ?_
    rw [ledger_sending_of_inner hinner]
    have hopen : p ∈ l := hperm.mem_iff.mpr hmem
    show (if p ∈ l then some (l.erase p) else none).bind _ = _
    rw [if_pos hopen]
    rfl
  · rw [ledger_append, h.selecting]
    exact ledger_append.trans (by rw [ledger_selecting_of_inner hinner]; rfl)
  · have hview : view p (acts ++ new ++ [.finished p status]) = view p (acts ++ new) :=
      view_concat rfl
    rw [← List.append_assoc, hview]
    exact stage_idle hfree hnot fun hout => (h.stage p).apart hout hmem
  · rcases hposted with hposted | hposted
    · exact Or.inl hposted
    · exact Or.inr ⟨hposted, fun hin => absurd hin hnot⟩
  · rw [← List.append_assoc]
    exact hjustified.concat hfinished

/-- A packet changes hands, and stays where it is. -/
theorem handle (h : Inv wiring s external acts) (s' : Ipv6RoutingPolicy)
    (new : List Ipv6RoutingPolicyAct) (hpackets : ∀ q, q ≠ p → s'.packets q = s.packets q)
    (hqueue : s'.routedPacketQueue = s.routedPacketQueue)
    (hconcerns : ∀ act ∈ new, act.packet = p) (hinner : ∀ act ∈ new, IsInner act)
    (hstage : Stage wiring (s'.packets p) (view p (acts ++ new)) (p ∈ s.routedPacketQueue)
      (p ∈ external))
    (hposted : s'.routeTaskPosted = true ∨ s'.routeTaskPosted = s.routeTaskPosted ∧
      (p ∈ s.routedPacketQueue → s'.isRoutable p = false))
    (hjustified : Justified (OfferJustified wiring) (acts ++ new)) :
    Inv wiring s' external (acts ++ new) := by
  obtain ⟨l, hledger, hperm⟩ := h.sending
  refine h.of_concerns (p := p) hpackets (fun q _ => by rw [hqueue]) (fun q _ => Iff.rfl) hconcerns
    (hqueue ▸ h.nodup) h.nodupExternal ⟨l, ?_, hqueue ▸ hperm⟩ ?_ (hqueue ▸ hstage)
    (hqueue ▸ hposted) hjustified
  · rw [ledger_append, hledger]
    exact ledger_sending_of_inner hinner
  · rw [ledger_append, h.selecting]
    exact ledger_selecting_of_inner hinner

theorem routeOutstandingPacketsTask (h : Inv wiring s external acts)
    (hwiring : ∃ iface, wiring.ifaceExists iface = false) (answer : ErrorT) :
    Inv wiring (s.routeOutstandingPacketsTask wiring answer).1 external
      (acts ++ (s.routeOutstandingPacketsTask wiring answer).2) := by
  unfold Ipv6RoutingPolicy.routeOutstandingPacketsTask
  cases hfind : s.routedPacketQueue.find? s.isRoutable with
  | none =>
    rw [List.append_nil]
    refine { h with posted := fun q hq hroutable => ?_ }
    exact absurd hroutable (List.find?_eq_none.mp hfind q hq)
  | some p =>
    have hmem := List.mem_of_find?_eq_some hfind
    have hroutable : s.isRoutable p = true := List.find?_some hfind
    obtain ⟨hunrouted, hbeing⟩ := Bool.and_eq_true_iff.mp hroutable
    rw [Bool.not_eq_true'] at hunrouted hbeing
    have hrouting := (h.stage p).routing hmem hbeing
    have hsender : (view p acts).sender = none := by
      rw [hrouting.sender, hunrouted]
      rfl
    have hfree : (view p acts).IsFree := ⟨hrouting.selector, hsender⟩
    have hdrop : ∀ status, Inv wiring
        (({ s with routeTaskPosted := true } : Ipv6RoutingPolicy).finishHandlingRoutedPacket p
          status).1 external (acts ++ [.finished p status]) := fun status =>
      h.finishHandlingRoutedPacket { s with routeTaskPosted := true } [] hmem (fun _ _ => rfl) rfl
        (Or.inl rfl) (fun _ hin => absurd hin List.not_mem_nil)
        (fun _ hin => absurd hin List.not_mem_nil) (by rw [List.append_nil]; exact h.justified)
        (by rw [List.append_nil]; exact hfree) status
    dsimp only
    by_cases hsource : (s.packets p).hasSourceAddress = true
    · rw [hsource, Bool.not_true, if_neg Bool.false_ne_true]
      by_cases hexists : wiring.ifaceExists (s.packets p).ifaceId = true
      · rw [hexists, Bool.not_true, if_neg Bool.false_ne_true]
        have hbelow : ∀ j ∈ (view p acts).sending, j < (s.packets p).ifaceId := by
          intro j hj
          rcases hrouting.sending j hj with hlt | ⟨hrouted, -⟩
          · exact hlt
          · rw [hunrouted] at hrouted
            cases hrouted
        have hoffer : OfferJustified wiring acts (.offerSending (s.packets p).ifaceId p answer) :=
          ⟨hexists, hfree, hbelow, fun j hj => (hrouting.bound hsource j hj).2,
            fun j hj => (hrouting.selectedBy j hj).2⟩
        have hjustified := h.justified.concat hoffer
        have hview : view p (acts ++ [.offerSending (s.packets p).ifaceId p answer]) =
            see (view p acts) (.offerSending (s.packets p).ifaceId p answer) := view_concat rfl
        have hconcerns : ∀ act ∈ [offerSending (s.packets p).ifaceId p answer],
            act.packet = p := fun act hact => by rw [List.mem_singleton.mp hact]; rfl
        have hinner : ∀ act ∈ [offerSending (s.packets p).ifaceId p answer], IsInner act :=
          fun act hact => by rw [List.mem_singleton.mp hact]; exact ⟨rfl, rfl⟩
        have hout : p ∉ external := fun hin => (h.stage p).apart hin hmem
        by_cases hanswer : answer = SUCCESS
        · rw [if_pos hanswer]
          refine h.handle _ _ (fun q hq => packets_setPacket_ne _ _ hq) rfl hconcerns hinner ?_
            (Or.inl rfl) hjustified
          rw [packets_setPacket_self, hview]
          refine stage_routing ?_ ?_ hmem hout
          swap
          · exact hbeing
          refine
            { selector := hrouting.selector
              sender := if_pos hanswer
              exist := fun _ => ⟨hexists, rfl⟩
              sending := fun j hj => ?_
              bound := fun _ => hrouting.bound hsource
              selectedBy := hrouting.selectedBy
              unbound := fun _ => hrouting.unbound hsource }
          rcases List.mem_cons.mp hj with rfl | hj
          · exact Or.inr ⟨rfl, rfl⟩
          · exact Or.inl (hbelow j hj)
        · rw [if_neg hanswer]
          split
          · refine h.finishHandlingRoutedPacket { s with routeTaskPosted := true } [_] hmem
              (fun _ _ => rfl) rfl (Or.inl rfl) hconcerns hinner hjustified ?_ answer
            rw [hview]
            exact ⟨hrouting.selector, (if_neg hanswer).trans hsender⟩
          · rename_i hgoOn
            have hunassigned : (s.packets p).assignedToIface = false := by
              cases hassigned : (s.packets p).assignedToIface with
              | true => exact absurd (Or.inr (Or.inl hassigned)) hgoOn
              | false => rfl
            have hallExist := hrouting.unbound hsource hunassigned
            have hlt := hallExist.lt_succ hexists hwiring
            refine h.handle _ _ (fun q hq => packets_setPacket_ne _ _ hq) rfl hconcerns hinner ?_
              (Or.inl rfl) hjustified
            rw [packets_setPacket_self, hview]
            refine stage_routing ?_ ?_ hmem hout
            swap
            · exact hbeing
            refine
              { selector := hrouting.selector
                sender := ?_
                exist := fun hrouted => ?_
                sending := fun j hj => Or.inl ?_
                bound := fun _ j hj => ?_
                selectedBy := fun j hj => ?_
                unbound := fun _ _ => hallExist.succ hexists hwiring }
            · exact ((if_neg hanswer).trans hsender).trans (by simp only [hunrouted]; rfl)
            · exact absurd (hunrouted.symm.trans hrouted) Bool.false_ne_true
            · rcases List.mem_cons.mp hj with rfl | hj
              · exact hlt
              · exact UInt8.lt_trans (hbelow j hj) hlt
            · have hassigned := (hrouting.bound hsource j hj).1
              rw [hunassigned] at hassigned
              cases hassigned
            · have hassigned := (hrouting.selectedBy j hj).1
              rw [hunassigned] at hassigned
              cases hassigned
      · rw [Bool.not_eq_true] at hexists
        rw [hexists, Bool.not_false, if_pos rfl]
        exact hdrop ENOROUTE
    · rw [Bool.not_eq_true] at hsource
      rw [hsource, Bool.not_false, if_pos rfl]
      exact hdrop ENOROUTE

/-- The packet that an interface sends is in the queue. -/
theorem routing_of_sender (h : Inv wiring s external acts)
    (hsender : (view p acts).sender = some iface) :
    p ∈ s.routedPacketQueue ∧ (s.packets p).beingAssignedSourceAddress = false ∧
      (s.packets p).beingRouted = true ∧ (s.packets p).ifaceId = iface ∧
      Routing wiring (s.packets p) (view p acts) := by
  have hstage := h.stage p
  have hne : (view p acts).sender ≠ none := by
    rw [hsender]
    exact Option.some_ne_none _
  have hmem : p ∈ s.routedPacketQueue := by
    by_contra hmem
    by_cases hout : p ∈ external
    · obtain ⟨_, hselector, -⟩ := (hstage.external hout).2.selector
      exact hne hselector.sender
    · exact hne (hstage.idle hmem hout).2
  have hbeing : (s.packets p).beingAssignedSourceAddress = false := by
    by_contra hbeing
    rw [Bool.not_eq_false] at hbeing
    obtain ⟨_, hselector, -⟩ := (hstage.selecting hmem hbeing).selector
    exact hne hselector.sender
  have hrouting := hstage.routing hmem hbeing
  have hrouted : (if (s.packets p).beingRouted = true then some (s.packets p).ifaceId else none) =
      some iface := hrouting.sender.symm.trans hsender
  rw [Option.ite_none_right_eq_some, Option.some.injEq] at hrouted
  exact ⟨hmem, hbeing, hrouted.1, hrouted.2, hrouting⟩

theorem finishSendingIPv6Packet (h : Inv wiring s external acts)
    (hwiring : ∃ iface, wiring.ifaceExists iface = false)
    (hsender : (view p acts).sender = some iface)
    (hbeing : packet.beingAssignedSourceAddress = (s.packets p).beingAssignedSourceAddress)
    (hassigned : (s.packets p).assignedToIface = true → packet.assignedToIface = true)
    (status : ErrorT) :
    Inv wiring (s.finishSendingIPv6Packet wiring iface p packet status).1 external
      (acts ++ (s.finishSendingIPv6Packet wiring iface p packet status).2) := by
  obtain ⟨hmem, hnotBeing, hrouted, rfl, hrouting⟩ := h.routing_of_sender hsender
  obtain ⟨hexists, hhasSource⟩ := hrouting.exist hrouted
  have hjustified : Justified (OfferJustified wiring)
      (acts ++ [sent (s.packets p).ifaceId p status]) :=
    h.justified.append_of_forall fun act hact => by
      rw [List.mem_singleton.mp hact]
      exact fun _ => trivial
  have hview : view p (acts ++ [sent (s.packets p).ifaceId p status]) =
      { view p acts with sender := none } := view_concat rfl
  have hconcerns : ∀ act ∈ [sent (s.packets p).ifaceId p status], act.packet = p :=
    fun act hact => by rw [List.mem_singleton.mp hact]; rfl
  have hinner : ∀ act ∈ [sent (s.packets p).ifaceId p status], IsInner act :=
    fun act hact => by rw [List.mem_singleton.mp hact]; exact ⟨rfl, rfl⟩
  unfold Ipv6RoutingPolicy.finishSendingIPv6Packet
  by_cases hstop : status = SUCCESS ∨ packet.assignedToIface = true ∨ isCritical wiring status = true
  · rw [if_pos hstop, if_pos hmem]
    refine h.finishHandlingRoutedPacket (s.setPacket p { packet with beingRouted := false }) [_] hmem
      (fun q hq => packets_setPacket_ne _ _ hq) rfl (Or.inr rfl) hconcerns hinner hjustified ?_
      status
    rw [hview]
    exact ⟨hrouting.selector, rfl⟩
  · rw [if_neg hstop]
    have hunassigned : (s.packets p).assignedToIface = false := by
      by_contra htrue
      rw [Bool.not_eq_false] at htrue
      exact hstop (Or.inr (Or.inl (hassigned htrue)))
    have hallExist := hrouting.unbound hhasSource hunassigned
    have hlt := hallExist.lt_succ hexists hwiring
    have hout : p ∉ external := fun hin => (h.stage p).apart hin hmem
    refine h.handle _ _ (fun q hq => packets_setPacket_ne _ _ hq) rfl hconcerns hinner ?_
      (Or.inl rfl) hjustified
    show Stage wiring ((s.setPacket p _).packets p) _ _ _
    rw [packets_setPacket_self, hview]
    refine stage_routing ?_ ?_ hmem hout
    swap
    · exact hbeing.trans hnotBeing
    refine
      { selector := hrouting.selector
        sender := rfl
        exist := fun hfalse => by cases hfalse
        sending := fun j hj => Or.inl ?_
        bound := fun _ j hj => ?_
        selectedBy := fun j hj => ?_
        unbound := fun _ _ => hallExist.succ hexists hwiring }
    · rcases hrouting.sending j hj with hlt' | ⟨-, rfl⟩
      · exact UInt8.lt_trans hlt' hlt
      · exact hlt
    · have htrue := (hrouting.bound hhasSource j hj).1
      rw [hunassigned] at htrue
      cases htrue
    · have htrue := (hrouting.selectedBy j hj).1
      rw [hunassigned] at htrue
      cases htrue

/-- The packet of which an interface selects the source address. -/
theorem selecting_of_selector (h : Inv wiring s external acts)
    (hselector : (view p acts).selector = some iface) :
    Selecting wiring (s.packets p) (view p acts) ∧
      (p ∈ s.routedPacketQueue ∧ p ∉ external ∧
          (s.packets p).beingAssignedSourceAddress = true ∨
        p ∉ s.routedPacketQueue ∧ p ∈ external ∧
          (s.packets p).beingAssignedSourceAddress = false) := by
  have hstage := h.stage p
  have hne : (view p acts).selector ≠ none := by
    rw [hselector]
    exact Option.some_ne_none _
  by_cases hmem : p ∈ s.routedPacketQueue
  · have hout : p ∉ external := fun hin => hstage.apart hin hmem
    have hbeing : (s.packets p).beingAssignedSourceAddress = true := by
      by_contra hbeing
      rw [Bool.not_eq_true] at hbeing
      exact hne (hstage.routing hmem hbeing).selector
    exact ⟨hstage.selecting hmem hbeing, Or.inl ⟨hmem, hout, hbeing⟩⟩
  · by_cases hout : p ∈ external
    · exact ⟨(hstage.external hout).2, Or.inr ⟨hmem, hout, (hstage.external hout).1⟩⟩
    · exact absurd (hstage.idle hmem hout).1 hne

/-- A packet that has no source address will not be offered to any interface. -/
theorem routing_of_no_source (hsource : packet.hasSourceAddress = false)
    (hunrouted : packet.beingRouted = false) (hfree : v.IsFree) (hsending : v.sending = [])
    (hselectedBy : v.selectedBy = none) :
    Routing wiring { packet with beingAssignedSourceAddress := false } v where
  selector := hfree.1
  sender := hfree.2.trans (if_neg (by rw [hunrouted]; exact Bool.false_ne_true)).symm
  exist hfalse := absurd (hunrouted.symm.trans hfalse) Bool.false_ne_true
  sending _ hj := by rw [hsending] at hj; cases hj
  bound htrue := absurd (hsource.symm.trans htrue) Bool.false_ne_true
  selectedBy _ hj := by rw [hselectedBy] at hj; cases hj
  unbound htrue := absurd (hsource.symm.trans htrue) Bool.false_ne_true

/-- The selection of a source address has ended, with or without success. -/
theorem completeSelecting (h : Inv wiring s external acts)
    (packet : Ipv6OutPacketProcessingState)
    (hwhere : p ∈ s.routedPacketQueue ∧ p ∉ external ∧ packet.beingAssignedSourceAddress = true ∨
      p ∉ s.routedPacketQueue ∧ p ∈ external ∧ packet.beingAssignedSourceAddress = false)
    (new : List Ipv6RoutingPolicyAct) (hconcerns : ∀ act ∈ new, act.packet = p)
    (hinner : ∀ act ∈ new, IsInner act)
    (hjustified : Justified (OfferJustified wiring) (acts ++ new))
    (hfree : (view p (acts ++ new)).IsFree)
    (hrouting : Routing wiring { packet with beingAssignedSourceAddress := false }
      (view p (acts ++ new))) (status : ErrorT) :
    ∃ external', Inv wiring ((s.setPacket p packet).completeSelecting p status).1 external'
      (acts ++ (new ++ ((s.setPacket p packet).completeSelecting p status).2)) := by
  unfold Ipv6RoutingPolicy.completeSelecting
  rw [packets_setPacket_self]
  rcases hwhere with ⟨hmem, hout, hbeing⟩ | ⟨hmem, hout, hbeing⟩
  · rw [if_pos hbeing, List.append_nil]
    refine ⟨external, h.handle _ _ (fun q hq => ?_) rfl hconcerns hinner ?_ (Or.inl rfl) hjustified⟩
    · exact (packets_setPacket_ne _ _ hq).trans (packets_setPacket_ne _ _ hq)
    · show Stage wiring (((s.setPacket p packet).setPacket p _).packets p) _ _ _
      rw [packets_setPacket_self]
      exact stage_routing hrouting rfl hmem hout
  · rw [if_neg (by rw [hbeing]; exact Bool.false_ne_true)]
    obtain ⟨l, hledger, hperm⟩ := h.sending
    have hfinished : OfferJustified wiring (acts ++ new) (.selectionFinished p status) := trivial
    have hnot : p ∉ external.erase p := fun hin => (h.nodupExternal.mem_erase_iff.mp hin).1 rfl
    refine ⟨external.erase p, h.of_concerns (p := p) (fun q hq => packets_setPacket_ne _ _ hq)
      (fun q _ => Iff.rfl) (fun q hq => List.mem_erase_of_ne hq) (fun act hact => ?_) h.nodup
      (h.nodupExternal.erase p) ⟨l, ?_, hperm⟩ ?_ ?_ ?_ ?_⟩
    · rcases List.mem_append.mp hact with hact | hact
      · exact hconcerns act hact
      · rw [List.mem_singleton.mp hact]
        rfl
    · rw [ledger_append, hledger]
      exact ledger_append.trans (by rw [ledger_sending_of_inner hinner]; rfl)
    · rw [ledger_append, h.selecting]
      refine ledger_append.trans ?_
      rw [ledger_selecting_of_inner hinner]
      show (if p ∈ external then some (external.erase p) else none).bind _ = _
      rw [if_pos hout]
      rfl
    · have hview : view p (acts ++ new ++ [.selectionFinished p status]) = view p (acts ++ new) :=
        view_concat rfl
      rw [← List.append_assoc, hview]
      exact stage_idle hfree hmem hnot
    · exact Or.inr ⟨rfl, fun hin => absurd hin hmem⟩
    · rw [← List.append_assoc]
      exact hjustified.concat hfinished

theorem finishSelectingSourceAddressForIPv6Packet (h : Inv wiring s external acts)
    (hwiring : ∃ iface, wiring.ifaceExists iface = false)
    (hselector : (view p acts).selector = some iface)
    (hbeing : packet.beingAssignedSourceAddress = (s.packets p).beingAssignedSourceAddress)
    (hrouted : packet.beingRouted = (s.packets p).beingRouted) {status : ErrorT}
    (hselected : status = SUCCESS → packet.assignedToIface = true ∧ packet.hasSourceAddress = true)
    (hfailed : status ≠ SUCCESS → packet.hasSourceAddress = false ∧
      packet.assignedToIface = (s.packets p).assignedToIface ∧
      packet.ifaceId = (s.packets p).ifaceId)
    (hkeeps : status ≠ SUCCESS → isCritical wiring status = false → packet.assignedToIface = true →
      wiring.ifaceExists (iface + 1) = false) (answers : Ipv6NetIfaceId → ErrorT) :
    let r := s.finishSelectingSourceAddressForIPv6Packet wiring iface p packet status answers
    ∃ external', Inv wiring r.1 external' (acts ++ r.2) := by
  obtain ⟨hselecting, hwhere⟩ := h.selecting_of_selector hselector
  obtain ⟨j, hhas, hassigned, hunassigned⟩ := hselecting.selector
  obtain rfl : j = iface := Option.some.inj (hhas.selector.symm.trans hselector)
  have hunrouted := hrouted.trans hselecting.beingRouted
  rw [← hbeing] at hwhere
  have hjustified : Justified (OfferJustified wiring) (acts ++ [selected j p status]) :=
    h.justified.append_of_forall fun act hact => by
      rw [List.mem_singleton.mp hact]
      exact fun _ => trivial
  have hview : view p (acts ++ [selected j p status]) = see (view p acts) (.selected j p status) :=
    view_concat rfl
  have hconcerns : ∀ act ∈ [selected j p status], act.packet = p :=
    fun act hact => by rw [List.mem_singleton.mp hact]; rfl
  have hinner : ∀ act ∈ [selected j p status], IsInner act :=
    fun act hact => by rw [List.mem_singleton.mp hact]; exact ⟨rfl, rfl⟩
  have hfree : (view p (acts ++ [selected j p status])).IsFree := by
    rw [hview]
    exact ⟨rfl, hhas.sender⟩
  unfold Ipv6RoutingPolicy.finishSelectingSourceAddressForIPv6Packet
  dsimp only
  by_cases hstatus : status = SUCCESS
  · rw [if_pos hstatus, setPacket_setPacket]
    obtain ⟨htrue, hsource⟩ := hselected hstatus
    refine h.completeSelecting { packet with ifaceId := j } hwhere _ hconcerns hinner hjustified hfree
      ?_ status
    rw [hview]
    refine
      { selector := rfl
        sender := hhas.sender.trans (if_neg (by rw [hunrouted]; exact Bool.false_ne_true)).symm
        exist := fun hfalse => absurd (hunrouted.symm.trans hfalse) Bool.false_ne_true
        sending := fun k hk => ?_
        bound := fun _ k hk => ⟨htrue, ?_⟩
        selectedBy := fun k hk => ⟨htrue, ?_⟩
        unbound := fun _ hfalse => absurd (htrue.symm.trans hfalse).symm Bool.false_ne_true }
    · have hmem : k ∈ (view p acts).sending := hk
      rw [hselecting.sending] at hmem
      cases hmem
    · have hbound : (s.packets p).bound = some k := hselecting.bound.symm.trans hk
      rw [Ipv6OutPacketProcessingState.bound, Option.ite_none_right_eq_some] at hbound
      exact (hassigned hbound.1).symm.trans (Option.some.inj hbound.2)
    · exact Option.some.inj ((if_pos hstatus).symm.trans hk)
  rw [if_neg hstatus]
  obtain ⟨hsource, hsameAssigned, hsameIface⟩ := hfailed hstatus
  have hselectedBy : (see (view p acts) (.selected j p status)).selectedBy = none :=
    (if_neg hstatus).trans hselecting.selectedBy
  by_cases hcritical : isCritical wiring status = true
  · rw [if_pos hcritical]
    refine h.completeSelecting _ hwhere _ hconcerns hinner hjustified hfree ?_ status
    rw [hview]
    exact routing_of_no_source hsource hunrouted ⟨rfl, hhas.sender⟩ hselecting.sending hselectedBy
  rw [if_neg hcritical]
  rw [Bool.not_eq_true] at hcritical
  by_cases hsearched : packet.assignedToIface = true
  -- The packet is bound, and there is no other interface.
  · rw [searchInterfaces_of_not_exists (hkeeps hstatus hcritical hsearched), if_neg hstatus]
    refine h.completeSelecting _ hwhere _ hconcerns hinner hjustified hfree ?_ status
    rw [hview]
    exact routing_of_no_source hsource hunrouted ⟨rfl, hhas.sender⟩ hselecting.sending hselectedBy
  rw [Bool.not_eq_true] at hsearched
  have hnotAssigned := hsameAssigned.symm.trans hsearched
  have hallExist := hunassigned hnotAssigned
  have hsearching : Searching wiring (view p (acts ++ [selected j p status])) (j + 1) := by
    rw [hview]
    refine ⟨⟨rfl, hhas.sender⟩, fun k hk => ?_, ?_, hallExist.succ hhas.exist hwiring⟩
    · exact UInt8.lt_of_le_of_lt (hhas.selecting k hk) (hallExist.lt_succ hhas.exist hwiring)
    · refine hselecting.bound.trans (if_neg ?_)
      rw [hnotAssigned]
      exact Bool.false_ne_true
  obtain ⟨hjustified', ⟨sel, o, hview'⟩, hend⟩ := @searchInterfaces_spec wiring _ p answers (j + 1)
    status numIfaceIds hjustified hsearching hwiring hstatus
  have hoffers := fun act => @mem_offers_searchInterfaces wiring p answers (j + 1) status
    numIfaceIds act
  generalize searchInterfaces wiring p answers numIfaceIds (j + 1) status = r at *
  obtain ⟨answer, stopped, offers⟩ := r
  dsimp only at hjustified' hview' hend hoffers ⊢
  rw [← List.append_cons] at hjustified' hview' hend
  have hconcerns' : ∀ act ∈ selected j p status :: offers, act.packet = p := by
    intro act hact
    rcases List.mem_cons.mp hact with rfl | hact
    · rfl
    · obtain ⟨k, answer, rfl⟩ := hoffers act hact
      rfl
  have hinner' : ∀ act ∈ selected j p status :: offers, IsInner act := by
    intro act hact
    rcases List.mem_cons.mp hact with rfl | hact
    · exact ⟨rfl, rfl⟩
    · obtain ⟨k, answer, rfl⟩ := hoffers act hact
      exact ⟨rfl, rfl⟩
  rw [hview] at hview'
  by_cases hanswer : answer = SUCCESS
  · rw [if_pos hanswer] at hend ⊢
    obtain ⟨-, k, hallExist', hhas'⟩ := hend
    have hselecting' : Selecting wiring packet (view p (acts ++ selected j p status :: offers)) := by
      refine ⟨⟨⟨k, hhas', fun htrue => ?_, fun _ => hallExist'⟩, ?_, ?_, ?_⟩, hsource, hunrouted⟩
      · rw [hsearched] at htrue
        cases htrue
      · rw [hview']
        exact hselecting.sending
      · rw [hview']
        exact hselectedBy
      · rw [hview']
        refine hselecting.bound.trans ?_
        rw [Ipv6OutPacketProcessingState.bound, Ipv6OutPacketProcessingState.bound, hsameAssigned,
          hsameIface]
    refine ⟨external, h.handle _ _ (fun q hq => packets_setPacket_ne _ _ hq) rfl hconcerns' hinner'
      ?_ (Or.inr ⟨rfl, ?_⟩) hjustified'⟩
    · rw [packets_setPacket_self]
      rcases hwhere with ⟨hmem, hout, hbeing'⟩ | ⟨hmem, hout, hbeing'⟩
      · exact stage_selecting hselecting' hbeing' hmem hout
      · exact stage_external hselecting' hbeing' hmem hout
    · intro hmem
      rcases hwhere with ⟨-, -, hbeing'⟩ | ⟨hnot, -, -⟩
      · rw [isRoutable, packets_setPacket_self, hbeing', Bool.not_true, Bool.and_false]
      · exact absurd hmem hnot
  · rw [if_neg hanswer] at hend ⊢
    refine h.completeSelecting _ hwhere _ hconcerns' hinner' hjustified' hend ?_ answer
    refine routing_of_no_source hsource hunrouted hend ?_ ?_ <;> rw [hview']
    · exact hselecting.sending
    · exact hselectedBy

end Inv

theorem inv_initial (packets : ℕ → Ipv6OutPacketProcessingState) :
    Inv wiring (initial packets) [] [] where
  nodup := List.nodup_nil
  nodupExternal := List.nodup_nil
  sending := ⟨[], rfl, List.Perm.refl _⟩
  selecting := rfl
  stage _ := stage_idle ⟨rfl, rfl⟩ List.not_mem_nil List.not_mem_nil
  posted _ hmem := absurd hmem List.not_mem_nil
  justified := justified_nil

end Ipv6RoutingPolicy

/-! ## Runs -/

/-- The machine beside its history. -/
abbrev Ipv6RoutingPolicyWorld := Watched Ipv6RoutingPolicy Ipv6RoutingPolicyAct

namespace Ipv6RoutingPolicyWorld

open Ipv6RoutingPolicy Ipv6RoutingPolicyAct

variable {wiring : Ipv6RoutingPolicyWiring} {w : Ipv6RoutingPolicyWorld}
  {event : Ipv6RoutingPolicyEvent} {events : List Ipv6RoutingPolicyEvent}

/-- The packets that are accepted and not finished. -/
def sending (w : Ipv6RoutingPolicyWorld) : List ℕ := (ledger sendingEntry [] w.history).getD []

/-- The packets of which the client waits for the source address. -/
def selecting (w : Ipv6RoutingPolicyWorld) : List ℕ :=
  (ledger selectingEntry [] w.history).getD []

def step (wiring : Ipv6RoutingPolicyWiring) : Ipv6RoutingPolicyWorld → Ipv6RoutingPolicyEvent →
    Ipv6RoutingPolicyWorld × List Ipv6RoutingPolicyAct :=
  watch (Ipv6RoutingPolicy.step wiring)

def initial (packets : ℕ → Ipv6OutPacketProcessingState) : Ipv6RoutingPolicyWorld :=
  ⟨Ipv6RoutingPolicy.initial packets, []⟩

/-- The events that may come.  A client submits packets that are not being handled.  An interface
that has a packet ends its work on it once; when it has selected a source address, it has set the
address and bound the packet to itself, and otherwise it has left the packet unbound if it was. -/
def Allowed (w : Ipv6RoutingPolicyWorld) : Ipv6RoutingPolicyEvent → Prop
  | .startSelectingSourceAddressForIPv6Packet p packet _ =>
    p ∉ w.sending ∧ p ∉ w.selecting ∧ packet.beingAssignedSourceAddress = false ∧
      packet.beingRouted = false ∧ packet.hasSourceAddress = false
  | .startSendingIPv6Packet p packet _ =>
    p ∉ w.sending ∧ p ∉ w.selecting ∧ packet.beingAssignedSourceAddress = false ∧
      packet.beingRouted = false
  | .finishSelectingSourceAddressForIPv6Packet iface p packet status _ =>
    (view p w.history).selector = some iface ∧
      packet.beingAssignedSourceAddress = (w.state.packets p).beingAssignedSourceAddress ∧
      packet.beingRouted = (w.state.packets p).beingRouted ∧
      (status = SUCCESS → packet.assignedToIface = true ∧ packet.hasSourceAddress = true) ∧
      (status ≠ SUCCESS → packet.hasSourceAddress = false ∧
        packet.assignedToIface = (w.state.packets p).assignedToIface ∧
        packet.ifaceId = (w.state.packets p).ifaceId)
  | .routeOutstandingPacketsTask _ => w.state.routeTaskPosted = true
  | .finishSendingIPv6Packet iface p packet _ =>
    (view p w.history).sender = some iface ∧
      packet.beingAssignedSourceAddress = (w.state.packets p).beingAssignedSourceAddress ∧
      ((w.state.packets p).assignedToIface = true → packet.assignedToIface = true)

/-- The search for a source address does not go on from the interface to which a packet is bound, and
a packet that has no source address is bound to an existing interface. -/
def KeepsBinding (wiring : Ipv6RoutingPolicyWiring) (w : Ipv6RoutingPolicyWorld) :
    Ipv6RoutingPolicyEvent → Prop
  | .startSelectingSourceAddressForIPv6Packet _ packet _ => BoundExists wiring packet
  | .startSendingIPv6Packet _ packet _ =>
    w.state.routedPacketQueue.length ≠ wiring.queueCapacity → packet.hasSourceAddress = false →
      ipv6AddrIsUndefined (ipv6BasicHeaderGetSrcAddr packet.header) = true →
        BoundExists wiring packet
  | .finishSelectingSourceAddressForIPv6Packet iface _ packet status _ =>
    status ≠ SUCCESS → isCritical wiring status = false → packet.assignedToIface = true →
      wiring.ifaceExists (iface + 1) = false
  | _ => True

/-- Nothing is left to do: no task is posted, and no interface has a packet. -/
def AtRest (w : Ipv6RoutingPolicyWorld) : Prop :=
  w.state.routeTaskPosted = false ∧ ∀ p, (view p w.history).IsFree

/-- Every accepted packet is finished once, after offers that are justified. -/
structure Correct (wiring : Ipv6RoutingPolicyWiring) (w : Ipv6RoutingPolicyWorld) : Prop where
  handled : ∃ l, ledger sendingEntry [] w.history = some l ∧ l.Perm w.state.routedPacketQueue
  nodup : w.state.routedPacketQueue.Nodup
  finishedOnce : ∀ p, opened sendingEntry p w.history =
    closed sendingEntry p w.history + w.state.routedPacketQueue.count p
  atRest : w.AtRest → ∀ p, opened sendingEntry p w.history = closed sendingEntry p w.history
  justified : Justified (OfferJustified wiring) w.history

def Inv (wiring : Ipv6RoutingPolicyWiring) (w : Ipv6RoutingPolicyWorld) : Prop :=
  ∃ external, Ipv6RoutingPolicy.Inv wiring w.state external w.history

theorem mem_sending_iff {external : List ℕ}
    (h : Ipv6RoutingPolicy.Inv wiring w.state external w.history) {p : ℕ} :
    p ∈ w.sending ↔ p ∈ w.state.routedPacketQueue := by
  obtain ⟨l, hledger, hperm⟩ := h.sending
  rw [sending, hledger]
  exact hperm.mem_iff

theorem selecting_eq {external : List ℕ}
    (h : Ipv6RoutingPolicy.Inv wiring w.state external w.history) : w.selecting = external := by
  rw [selecting, h.selecting]
  rfl

theorem Inv.step (h : w.Inv wiring) (hwiring : ∃ iface, wiring.ifaceExists iface = false)
    (hallowed : w.Allowed event) (hkeeps : w.KeepsBinding wiring event) :
    (step wiring w event).1.Inv wiring := by
  obtain ⟨external, h⟩ := h
  have hsending := fun p => (mem_sending_iff h (p := p)).not
  have hselecting := selecting_eq h
  cases event with
  | startSelectingSourceAddressForIPv6Packet p packet answers =>
    obtain ⟨hqueue, hout, hbeing, hrouted, hsource⟩ := hallowed
    exact h.startSelectingSourceAddressForIPv6Packet hwiring ((hsending p).mp hqueue)
      (hselecting ▸ hout) ⟨hbeing, hrouted⟩ hsource hkeeps answers
  | startSendingIPv6Packet p packet answers =>
    obtain ⟨hqueue, hout, hbeing, hrouted⟩ := hallowed
    exact ⟨external, h.startSendingIPv6Packet hwiring ((hsending p).mp hqueue) (hselecting ▸ hout)
      ⟨hbeing, hrouted⟩ hkeeps answers⟩
  | finishSelectingSourceAddressForIPv6Packet iface p packet status answers =>
    obtain ⟨hselector, hbeing, hrouted, hselected, hfailed⟩ := hallowed
    exact h.finishSelectingSourceAddressForIPv6Packet hwiring hselector hbeing hrouted hselected
      hfailed hkeeps answers
  | routeOutstandingPacketsTask answer =>
    exact ⟨external, h.routeOutstandingPacketsTask hwiring answer⟩
  | finishSendingIPv6Packet iface p packet status =>
    obtain ⟨hsender, hbeing, hassigned⟩ := hallowed
    exact ⟨external, h.finishSendingIPv6Packet hwiring hsender hbeing hassigned status⟩

/-- Where nothing is left to do, no packet is in the queue. -/
theorem queue_eq_nil {external : List ℕ}
    (h : Ipv6RoutingPolicy.Inv wiring w.state external w.history) (hrest : w.AtRest) :
    w.state.routedPacketQueue = [] := by
  rw [List.eq_nil_iff_forall_not_mem]
  intro p hmem
  obtain ⟨hselector, hsender⟩ := hrest.2 p
  cases hbeing : (w.state.packets p).beingAssignedSourceAddress with
  | true =>
    obtain ⟨j, hhas, -⟩ := ((h.stage p).selecting hmem hbeing).selector
    rw [hhas.selector] at hselector
    cases hselector
  | false =>
    have hrouting := (h.stage p).routing hmem hbeing
    cases hrouted : (w.state.packets p).beingRouted with
    | true =>
      rw [hrouting.sender, hrouted] at hsender
      cases hsender
    | false =>
      have hposted := h.posted p hmem (by rw [isRoutable, hrouted, hbeing]; rfl)
      rw [hrest.1] at hposted
      cases hposted

theorem Inv.correct (h : w.Inv wiring) : w.Correct wiring := by
  obtain ⟨external, h⟩ := h
  have hcount : ∀ p, opened sendingEntry p w.history =
      closed sendingEntry p w.history + w.state.routedPacketQueue.count p := by
    intro p
    obtain ⟨l, hledger, hperm⟩ := h.sending
    have hcount := count_ledger hledger p
    rwa [List.count_nil, Nat.zero_add, hperm.count_eq] at hcount
  refine ⟨h.sending, h.nodup, hcount, fun hrest p => ?_, h.justified⟩
  rw [hcount p, queue_eq_nil h hrest]
  rfl

end Ipv6RoutingPolicyWorld

section Results

open Ipv6RoutingPolicyWorld

variable (wiring : Ipv6RoutingPolicyWiring) (packets : ℕ → Ipv6OutPacketProcessingState)
  (events : List Ipv6RoutingPolicyEvent)

end Results

end Whip6
