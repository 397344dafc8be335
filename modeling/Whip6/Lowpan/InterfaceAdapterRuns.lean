import Whip6.Lib.History
import Whip6.Lowpan.InterfaceAdapter

/-!
# Runs of the interface adapter

Every packet that is accepted is finished once, with success exactly when its last attempt was a
success; the second queue holds what the lower layer has, and the first one what was not handed down
yet.  A packet whose destination is on the link is first handed down to the address of its own
destination: the buffer is written anew for every packet.
-/

namespace Whip6

open Lib

/-! ## What the history tells of a packet -/

/-- What has happened to a packet since it was accepted: its header then, how often it was handed
down, and how the last attempt has ended. -/
structure LowpanOutPacketView where
  header : Ipv6BasicHeader
  attempts : ℕ
  completed : Option ErrorT

namespace LowpanInterfaceAdapterAct

def packet : LowpanInterfaceAdapterAct → ℕ
  | accepted p _ => p
  | finished p _ => p
  | handedDown p _ _ _ _ => p
  | forwardingFinished p _ => p

def see (v : Option LowpanOutPacketView) : LowpanInterfaceAdapterAct → Option LowpanOutPacketView
  | accepted _ header => some ⟨header, 0, none⟩
  | handedDown _ _ _ _ _ => v.map fun v => ⟨v.header, v.attempts + 1, none⟩
  | forwardingFinished _ status => v.map fun v => ⟨v.header, v.attempts, some status⟩
  | finished _ _ => v

def view (p : ℕ) (acts : List LowpanInterfaceAdapterAct) : Option LowpanOutPacketView :=
  viewOf packet see none p acts

def sendingEntry : LowpanInterfaceAdapterAct → LedgerEntry ℕ
  | accepted p _ => .opens p
  | finished p _ => .closes p
  | _ => .other

/-- The lower layer has a packet from when it takes it until it has finished forwarding it. -/
def belowEntry : LowpanInterfaceAdapterAct → LedgerEntry ℕ
  | handedDown p _ _ _ answer => if answer = SUCCESS then .opens p else .other
  | forwardingFinished p _ => .closes p
  | _ => .other

/-- The link-layer address that the destination of a packet has on the link. -/
def onLinkAddr (header : Ipv6BasicHeader) (panId : Ieee154PanId) : Ieee154Addr :=
  let dstAddr := ipv6BasicHeaderGetDstAddr header
  if ipv6AddrIsMulticast dstAddr then ieee154AddrAnySetBroadcast
  else ipv6AddrExtractFromSuffixIeee154AddrAny dstAddr panId

/-- A packet is first handed down as it was accepted, and when its destination is on the link, with a
hop limit of one and to the address of that destination.  It is finished with success exactly when its
last attempt was one. -/
def ActJustified (pre : List LowpanInterfaceAdapterAct) : LowpanInterfaceAdapterAct → Prop
  | handedDown p header llAddr panId _ => ∃ v, view p pre = some v ∧ (v.attempts = 0 →
      if LowpanInterfaceAdapter.isLinkLocal v.header then
        header = ipv6BasicHeaderSetHopLimit v.header 1 ∧ llAddr = onLinkAddr v.header panId
      else header = v.header)
  | finished p status => ∃ v, view p pre = some v ∧
      (status = SUCCESS ↔ v.completed = some SUCCESS)
  | _ => True

variable {acts new : List LowpanInterfaceAdapterAct} {act : LowpanInterfaceAdapterAct} {p q : ℕ}

theorem view_append_other (h : ∀ act ∈ new, act.packet ≠ q) :
    view q (acts ++ new) = view q acts := viewOf_append_other h

theorem view_concat (h : act.packet = p) : view p (acts ++ [act]) = see (view p acts) act :=
  viewOf_concat h

end LowpanInterfaceAdapterAct

namespace LowpanInterfaceAdapter

open LowpanInterfaceAdapterAct

variable {sizes : LowpanInterfaceAdapterSizes} {s s' : LowpanInterfaceAdapter}
  {acts new : List LowpanInterfaceAdapterAct} {p q : ℕ} {answers : LowpanInterfaceAdapterAnswers}

/-! ## Addresses -/

theorem pickFirstAddr_of_isLinkLocal {header : Ipv6BasicHeader}
    (h : isLinkLocal header = true) :
    pickFirstAddr header answers = onLinkAddr header answers.panId := by
  unfold isLinkLocal at h
  unfold pickFirstAddr onLinkAddr
  dsimp only at h ⊢
  by_cases hmulticast : ipv6AddrIsMulticast (ipv6BasicHeaderGetDstAddr header) = true
  · rw [if_pos hmulticast, beq_iff_eq] at h
    rw [if_pos hmulticast, if_pos hmulticast, if_pos h]
  · rw [if_neg hmulticast] at h
    rw [if_neg hmulticast, if_neg hmulticast, if_pos h]

/-! ## The invariant -/

/-- The packets that the component has. -/
def held (s : LowpanInterfaceAdapter) : List ℕ := s.routerQueue ++ s.forwarderQueue

structure Inv (s : LowpanInterfaceAdapter) (acts : List LowpanInterfaceAdapterAct) : Prop where
  nodup : s.held.Nodup
  inj : ∀ p ∈ s.held, ∀ q ∈ s.held, s.packet p = s.packet q → p = q
  sending : ∃ l, ledger sendingEntry [] acts = some l ∧ l.Perm s.held
  below : ∃ l, ledger belowEntry [] acts = some l ∧ l.Perm s.forwarderQueue
  routed : ∀ p ∈ s.routerQueue, view p acts = some ⟨s.header (s.packet p), 0, none⟩
  forwarded : ∀ p ∈ s.forwarderQueue, ∃ v, view p acts = some v ∧ 0 < v.attempts
  posted : s.routerQueue ≠ [] → s.routingTaskPosted = true
  justified : Justified ActJustified acts

namespace Inv

/-- A packet is accepted, or not. -/
theorem startSendingIPv6Packet (h : Inv s acts) (hfresh : p ∉ s.held) {packet : ℕ}
    (hpacket : ∀ q ∈ s.held, s.packet q ≠ packet) (header : Ipv6BasicHeader) (ifaceIsOn : Bool) :
    let r := s.startSendingIPv6Packet sizes p packet header ifaceIsOn
    Inv r.2.1 (acts ++ r.2.2) := by
  have hpackets : ∀ q ∈ s.held, Function.update s.packet p packet q = s.packet q := by
    intro q hq
    refine Function.update_of_ne (fun heq => hfresh ?_) _ _
    rwa [← heq]
  have hheaders : ∀ q ∈ s.held, Function.update s.header packet header (s.packet q) =
      s.header (s.packet q) := fun q hq => Function.update_of_ne (hpacket q hq) _ _
  have hset : Inv (s.setPacket p packet header) (acts ++ []) := by
    rw [List.append_nil]
    refine { h with
      inj := fun a ha b hb heq => h.inj a ha b hb ?_
      routed := fun q hq => ?_ }
    · change Function.update s.packet p packet a = Function.update s.packet p packet b at heq
      rwa [hpackets a ha, hpackets b hb] at heq
    · have hheld : q ∈ s.held := List.mem_append_left _ hq
      rw [h.routed q hq]
      show _ = some (LowpanOutPacketView.mk
        (Function.update s.header packet header (Function.update s.packet p packet q)) 0 none)
      rw [hpackets q hheld, hheaders q hheld]
  unfold LowpanInterfaceAdapter.startSendingIPv6Packet
  dsimp only
  split
  · exact hset
  split
  · exact hset
  split
  · exact hset
  split
  · exact hset
  rw [List.append_nil] at hset
  obtain ⟨l, hledger, hperm⟩ := hset.sending
  obtain ⟨below, hbelow, hpermBelow⟩ := hset.below
  have hheld : (s.routerQueue ++ [p] ++ s.forwarderQueue).Perm (p :: s.held) := by
    rw [List.append_assoc, List.singleton_append]
    exact List.perm_middle
  have hother : ∀ q, q ∈ s.held → view q (acts ++ [.accepted p header]) = view q acts := by
    intro q hq
    refine view_append_other fun act hact heq => hfresh ?_
    rw [List.mem_singleton.mp hact] at heq
    rwa [show p = q from heq]
  have haccepted : ActJustified acts (.accepted p header) := trivial
  refine
    { nodup := ?_
      inj := fun a ha b hb heq => ?_
      sending := ⟨p :: l, ?_, ?_⟩
      below := ⟨below, ?_, hpermBelow⟩
      routed := fun q hq => ?_
      forwarded := fun q hq => ?_
      posted := fun _ => rfl
      justified := h.justified.concat haccepted }
  · exact hheld.nodup_iff.mpr (List.nodup_cons.mpr ⟨hfresh, h.nodup⟩)
  · have hself : Function.update s.packet p packet p = packet := Function.update_self _ _ _
    have ha' := hheld.mem_iff.mp ha
    have hb' := hheld.mem_iff.mp hb
    change Function.update s.packet p packet a = Function.update s.packet p packet b at heq
    rcases List.mem_cons.mp ha' with hap | ha' <;> rcases List.mem_cons.mp hb' with hbp | hb'
    · rw [hap, hbp]
    · rw [hap, hself, hpackets b hb'] at heq
      exact absurd heq.symm (hpacket b hb')
    · rw [hbp, hself, hpackets a ha'] at heq
      exact absurd heq (hpacket a ha')
    · rw [hpackets a ha', hpackets b hb'] at heq
      exact h.inj a ha' b hb' heq
  · rw [ledger_append, hledger]
    rfl
  · exact (List.Perm.cons p hperm).trans hheld.symm
  · rw [ledger_append, hbelow]
    rfl
  · rcases List.mem_append.mp hq with hq | hq
    · rw [hother q (List.mem_append_left _ hq)]
      exact hset.routed q hq
    · obtain rfl := List.mem_singleton.mp hq
      have hview : view q (acts ++ [.accepted q header]) = some ⟨header, 0, none⟩ := view_concat rfl
      rw [hview]
      show _ = some (LowpanOutPacketView.mk
        (Function.update s.header packet header (Function.update s.packet q packet q)) 0 none)
      rw [Function.update_self, Function.update_self]
  · rw [hother q (List.mem_append_right _ hq)]
    exact h.forwarded q hq

/-- What concerns one packet that the component has leaves the others as they are. -/
theorem of_concerns (h : Inv s acts) (hheld : p ∈ s.held) (hpacket : s'.packet = s.packet)
    (hheader : ∀ k, k ≠ s.packet p → s'.header k = s.header k)
    (hconcerns : ∀ act ∈ new, act.packet = p)
    (hrouter : ∀ q ∈ s'.routerQueue, q ∈ s.routerQueue ∧ q ≠ p)
    (hforwarder : ∀ q ∈ s'.forwarderQueue, q ≠ p → q ∈ s.forwarderQueue)
    (hnodup : s'.held.Nodup)
    (hsending : ∃ l, ledger sendingEntry [] (acts ++ new) = some l ∧ l.Perm s'.held)
    (hbelow : ∃ l, ledger belowEntry [] (acts ++ new) = some l ∧ l.Perm s'.forwarderQueue)
    (hforwarded : p ∈ s'.forwarderQueue → ∃ v, view p (acts ++ new) = some v ∧ 0 < v.attempts)
    (hposted : s'.routerQueue ≠ [] → s'.routingTaskPosted = true)
    (hjustified : Justified ActJustified (acts ++ new)) : Inv s' (acts ++ new) := by
  have hview : ∀ q, q ≠ p → view q (acts ++ new) = view q acts := fun q hq =>
    view_append_other fun act hact heq => hq (heq.symm.trans (hconcerns act hact))
  have hmem : ∀ q ∈ s'.held, q ∈ s.held := by
    intro q hq
    by_cases hqp : q = p
    · rw [hqp]
      exact hheld
    · rcases List.mem_append.mp hq with hq | hq
      · exact List.mem_append_left _ (hrouter q hq).1
      · exact List.mem_append_right _ (hforwarder q hq hqp)
  refine
    { nodup := hnodup
      inj := fun a ha b hb heq => ?_
      sending := hsending
      below := hbelow
      routed := fun q hq => ?_
      forwarded := fun q hq => ?_
      posted := hposted
      justified := hjustified }
  · rw [hpacket] at heq
    exact h.inj a (hmem a ha) b (hmem b hb) heq
  · obtain ⟨hq, hqp⟩ := hrouter q hq
    have hne : s.packet q ≠ s.packet p := fun heq =>
      hqp (h.inj q (List.mem_append_left _ hq) p hheld heq)
    rw [hview q hqp, hpacket, hheader _ hne]
    exact h.routed q hq
  · by_cases hqp : q = p
    · rw [hqp] at hq ⊢
      exact hforwarded hq
    · rw [hview q hqp]
      exact h.forwarded q (hforwarder q hq hqp)

theorem ledger_finished {l : List ℕ} (hmem : p ∈ l) (status : ErrorT) :
    ledger sendingEntry l [.finished p status] = some (l.erase p) := by
  show (if p ∈ l then some (l.erase p) else none).bind _ = _
  rw [if_pos hmem]
  rfl

theorem ledger_forwardingFinished {l : List ℕ} (hmem : p ∈ l) (status : ErrorT) :
    ledger belowEntry l [.forwardingFinished p status] = some (l.erase p) := by
  show (if p ∈ l then some (l.erase p) else none).bind _ = _
  rw [if_pos hmem]
  rfl

theorem startPacketRoutingTask (h : Inv s acts) (answers : LowpanInterfaceAdapterAnswers) :
    Inv (s.startPacketRoutingTask sizes answers).1
      (acts ++ (s.startPacketRoutingTask sizes answers).2) := by
  unfold LowpanInterfaceAdapter.startPacketRoutingTask
  cases hqueue : s.routerQueue with
  | nil =>
    have hidle : Inv { s with routingTaskPosted := false } acts :=
      { h with posted := fun hne => absurd hqueue hne }
    rw [hqueue] at hidle
    rw [List.append_nil]
    exact hidle
  | cons p rest =>
    have hrouter : p ∈ s.routerQueue := by
      rw [hqueue]
      exact List.mem_cons_self
    have hheld : p ∈ s.held := List.mem_append_left _ hrouter
    have hnodup := h.nodup
    obtain ⟨l, hledger, hperm⟩ := h.sending
    obtain ⟨below, hbelow, hpermBelow⟩ := h.below
    rw [held, hqueue, List.cons_append] at hnodup hperm
    obtain ⟨hnot, hnodupRest⟩ := List.nodup_cons.mp hnodup
    have hopen : p ∈ l := hperm.mem_iff.mpr List.mem_cons_self
    have hpermRest : (l.erase p).Perm (rest ++ s.forwarderQueue) := by
      have herase := hperm.erase p
      rwa [List.erase_cons_head] at herase
    have hview := h.routed p hrouter
    dsimp only
    -- The header with which the packet is handed down.
    obtain ⟨header, hheader⟩ : ∃ header, header = if isLinkLocal (s.header (s.packet p)) = true then
      ipv6BasicHeaderSetHopLimit (s.header (s.packet p)) 1 else s.header (s.packet p) := ⟨_, rfl⟩
    obtain ⟨llAddr, hllAddr⟩ : ∃ llAddr, llAddr = pickFirstAddr (s.header (s.packet p)) answers :=
      ⟨_, rfl⟩
    rw [← hheader, ← hllAddr]
    have hrest : ∀ q ∈ rest, q ∈ s.routerQueue ∧ q ≠ p := by
      intro q hq
      refine ⟨by rw [hqueue]; exact List.mem_cons_of_mem _ hq, fun heq => hnot ?_⟩
      rw [← heq]
      exact List.mem_append_left _ hq
    have hupdate : ∀ k, k ≠ s.packet p → Function.update s.header (s.packet p) header k =
        s.header k := fun k hk => Function.update_of_ne hk _ _
    have hdrop : ∀ first status, (∀ act ∈ first, act.packet = p) →
        (∀ act ∈ first, sendingEntry act = .other) → (∀ act ∈ first, belowEntry act = .other) →
        Justified ActJustified (acts ++ first) → ActJustified (acts ++ first) (.finished p status) →
        Inv { s with
          routerQueue := rest
          routingTaskPosted := true
          llAddrBuf := llAddr
          header := Function.update s.header (s.packet p) header }
          (acts ++ (first ++ [.finished p status])) := by
      intro first status hconcerns hsending hother hjustified hfinished
      refine h.of_concerns hheld rfl hupdate (fun act hact => ?_) hrest (fun q hq _ => hq) hnodupRest
        ⟨l.erase p, ?_, hpermRest⟩ ⟨below, ?_, hpermBelow⟩ (fun hmem => ?_) (fun _ => rfl) ?_
      · rcases List.mem_append.mp hact with hact | hact
        · exact hconcerns act hact
        · rw [List.mem_singleton.mp hact]
          rfl
      · rw [ledger_append, hledger, Option.bind_some, ledger_append, ledger_of_other hsending]
        exact ledger_finished hopen status
      · rw [ledger_append, hbelow, Option.bind_some, ledger_append, ledger_of_other hother]
        rfl
      · exact absurd (List.mem_append_right _ hmem) hnot
      · rw [← List.append_assoc]
        exact hjustified.concat hfinished
    have hdropNow : ∀ status, status ≠ SUCCESS → Inv { s with
          routerQueue := rest
          routingTaskPosted := true
          llAddrBuf := llAddr
          header := Function.update s.header (s.packet p) header } (acts ++ [.finished p status]) := by
      intro status hstatus
      refine hdrop [] status (fun _ hin => absurd hin List.not_mem_nil)
        (fun _ hin => absurd hin List.not_mem_nil) (fun _ hin => absurd hin List.not_mem_nil) ?_ ?_
      · rw [List.append_nil]
        exact h.justified
      · rw [List.append_nil]
        exact ⟨_, hview, fun hsuccess => absurd hsuccess hstatus, fun hnone => by cases hnone⟩
    have hhandedDown : ActJustified acts
        (.handedDown p header llAddr answers.panId answers.startForwarding) := by
      refine ⟨_, hview, fun _ => ?_⟩
      split <;> rename_i hlocal
      · rw [hheader, hllAddr, if_pos hlocal]
        exact ⟨rfl, pickFirstAddr_of_isLinkLocal hlocal⟩
      · rw [hheader, if_neg hlocal]
    have hview' : view p (acts ++
        [.handedDown p header llAddr answers.panId answers.startForwarding]) =
          some ⟨s.header (s.packet p), 1, none⟩ := by
      have hconcat : view p (acts ++
          [.handedDown p header llAddr answers.panId answers.startForwarding]) =
          see (view p acts) (.handedDown p header llAddr answers.panId answers.startForwarding) :=
        view_concat rfl
      rw [hconcat, hview]
      rfl
    split
    · exact hdropNow ENOROUTE (by decide)
    split
    · exact hdropNow ENOMEM (by decide)
    by_cases hanswer : answers.startForwarding = SUCCESS
    · rw [if_neg (not_not.mpr hanswer)]
      refine h.of_concerns hheld rfl hupdate (fun act hact => ?_) hrest (fun q hq hqp => ?_) ?_
        ⟨l, ?_, ?_⟩ ⟨p :: below, ?_, ?_⟩ (fun _ => ⟨_, hview', Nat.one_pos⟩) (fun _ => rfl)
        (h.justified.concat hhandedDown)
      · rw [List.mem_singleton.mp hact]
        rfl
      · rcases List.mem_append.mp hq with hq | hq
        · exact hq
        · exact absurd (List.mem_singleton.mp hq) hqp
      · show (rest ++ (s.forwarderQueue ++ [p])).Nodup
        rw [← List.append_assoc]
        exact (List.perm_append_singleton p _).nodup_iff.mpr hnodup
      · rw [ledger_append, hledger]
        rfl
      · show l.Perm (rest ++ (s.forwarderQueue ++ [p]))
        rw [← List.append_assoc]
        exact hperm.trans (List.perm_append_singleton p _).symm
      · rw [ledger_append, hbelow]
        show ((if answers.startForwarding = SUCCESS then LedgerEntry.opens p else .other).record
          below).bind _ = _
        rw [if_pos hanswer]
        rfl
      · exact (List.Perm.cons p hpermBelow).trans (List.perm_append_singleton p _).symm
    · rw [if_pos hanswer]
      refine hdrop [_] answers.startForwarding (fun act hact => ?_) (fun act hact => ?_)
        (fun act hact => ?_) (h.justified.concat hhandedDown) ?_
      · rw [List.mem_singleton.mp hact]
        rfl
      · rw [List.mem_singleton.mp hact]
        rfl
      · rw [List.mem_singleton.mp hact]
        exact if_neg hanswer
      · exact ⟨_, hview', fun hsuccess => absurd hsuccess hanswer, fun hnone => by cases hnone⟩

theorem forwardingIpv6PacketFinished (h : Inv s acts) (packet : ℕ) (status : ErrorT)
    (answers : LowpanInterfaceAdapterAnswers) :
    Inv (s.forwardingIpv6PacketFinished packet status answers).1
      (acts ++ (s.forwardingIpv6PacketFinished packet status answers).2) := by
  unfold LowpanInterfaceAdapter.forwardingIpv6PacketFinished
  cases hfind : s.forwarderQueue.find? fun p => s.packet p = packet with
  | none =>
    rw [List.append_nil]
    exact h
  | some p =>
    have hmem := List.mem_of_find?_eq_some hfind
    have hheld : p ∈ s.held := List.mem_append_right _ hmem
    obtain ⟨l, hledger, hperm⟩ := h.sending
    obtain ⟨below, hbelow, hpermBelow⟩ := h.below
    obtain ⟨v, hview, hattempts⟩ := h.forwarded p hmem
    have hopen : p ∈ l := hperm.mem_iff.mpr hheld
    have hopenBelow : p ∈ below := hpermBelow.mem_iff.mpr hmem
    obtain ⟨hnodupRouter, hnodupForwarder, hapart⟩ := List.nodup_append.mp h.nodup
    have hnotRouter : p ∉ s.routerQueue := fun hin => hapart p hin p hmem rfl
    have hnot : p ∉ s.forwarderQueue.erase p := fun hin =>
      (hnodupForwarder.mem_erase_iff.mp hin).1 rfl
    have hrouter : ∀ q ∈ s.routerQueue, q ∈ s.routerQueue ∧ q ≠ p := fun q hq =>
      ⟨hq, fun heq => hnotRouter (heq ▸ hq)⟩
    have hfinished : ActJustified acts (.forwardingFinished p status) := trivial
    have hjustified := h.justified.concat hfinished
    have hview₁ : view p (acts ++ [.forwardingFinished p status]) =
        some ⟨v.header, v.attempts, some status⟩ := by
      have hconcat : view p (acts ++ [.forwardingFinished p status]) =
        see (view p acts) (.forwardingFinished p status) := view_concat rfl
      rw [hconcat, hview]
      rfl
    have hheldErase : (s.routerQueue ++ s.forwarderQueue.erase p).Perm (s.held.erase p) := by
      rw [held, List.erase_append_right _ hnotRouter]
    -- The packet leaves the queue, after a failed attempt to hand it down again or none.
    have hdrop : ∀ llAddr again, (∀ act ∈ again, act.packet = p) →
        (∀ act ∈ again, sendingEntry act = .other) → (∀ act ∈ again, belowEntry act = .other) →
        Justified ActJustified (acts ++ [.forwardingFinished p status] ++ again) →
        ActJustified (acts ++ [.forwardingFinished p status] ++ again) (.finished p status) →
        Inv { s with llAddrBuf := llAddr, forwarderQueue := s.forwarderQueue.erase p }
          (acts ++ (.forwardingFinished p status :: again ++ [.finished p status])) := by
      intro llAddr again hconcerns hsending hother hjustified hfinished
      refine h.of_concerns hheld rfl (fun _ _ => rfl) (fun act hact => ?_) hrouter
        (fun q hq _ => List.mem_of_mem_erase hq) ?_ ⟨l.erase p, ?_, ?_⟩
        ⟨below.erase p, ?_, hpermBelow.erase p⟩ (fun hin => absurd hin hnot) h.posted ?_
      · rcases List.mem_append.mp hact with hact | hact
        · rcases List.mem_cons.mp hact with rfl | hact
          · rfl
          · exact hconcerns act hact
        · rw [List.mem_singleton.mp hact]
          rfl
      · exact hheldErase.nodup_iff.mpr (h.nodup.erase p)
      · rw [ledger_append, hledger, Option.bind_some, ledger_append,
          ledger_of_other (List.forall_mem_cons.mpr ⟨rfl, hsending⟩)]
        exact ledger_finished hopen status
      · exact (hperm.erase p).trans hheldErase.symm
      · rw [ledger_append, hbelow, Option.bind_some, List.cons_append, ← List.singleton_append,
          ledger_append, ledger_forwardingFinished hopenBelow]
        refine ledger_of_other fun act hact => ?_
        rcases List.mem_append.mp hact with hact | hact
        · exact hother act hact
        · rw [List.mem_singleton.mp hact]
          rfl
      · rw [List.cons_append, List.append_cons acts, ← List.append_assoc]
        exact hjustified.concat hfinished
    have hdropNow : ∀ llAddr, Inv { s with
          llAddrBuf := llAddr
          forwarderQueue := s.forwarderQueue.erase p }
        (acts ++ (.forwardingFinished p status :: [] ++ [.finished p status])) := by
      intro llAddr
      refine hdrop llAddr [] (fun _ hin => absurd hin List.not_mem_nil)
        (fun _ hin => absurd hin List.not_mem_nil) (fun _ hin => absurd hin List.not_mem_nil) ?_ ?_
      · rw [List.append_nil]
        exact hjustified
      · rw [List.append_nil]
        exact ⟨_, hview₁, Option.some_inj.symm⟩
    dsimp only
    by_cases hstatus : status = SUCCESS
    · rw [if_pos hstatus]
      exact hdropNow s.llAddrBuf
    rw [if_neg hstatus]
    split
    · exact hdropNow answers.route
    have hhandedDown : ActJustified (acts ++ [.forwardingFinished p status]) (.handedDown p
        (s.header (s.packet p)) answers.route answers.panId answers.startForwarding) :=
      ⟨_, hview₁, fun hzero => absurd hzero (Nat.ne_of_gt hattempts)⟩
    have hview₂ : view p (acts ++ [.forwardingFinished p status] ++ [.handedDown p
        (s.header (s.packet p)) answers.route answers.panId answers.startForwarding]) =
          some ⟨v.header, v.attempts + 1, none⟩ := by
      have hconcat : view p (acts ++ [.forwardingFinished p status] ++ [.handedDown p
          (s.header (s.packet p)) answers.route answers.panId answers.startForwarding]) =
          see (view p (acts ++ [.forwardingFinished p status])) (.handedDown p
            (s.header (s.packet p)) answers.route answers.panId answers.startForwarding) :=
        view_concat rfl
      rw [hconcat, hview₁]
      rfl
    have hjustified₂ := hjustified.concat hhandedDown
    by_cases hanswer : answers.startForwarding = SUCCESS
    · rw [if_pos hanswer]
      refine h.of_concerns hheld rfl (fun _ _ => rfl) (fun act hact => ?_) hrouter
        (fun q hq _ => hq) h.nodup ⟨l, ?_, hperm⟩ ⟨p :: below.erase p, ?_, ?_⟩ (fun _ => ?_) h.posted ?_
      · rcases List.mem_cons.mp hact with rfl | hact
        · rfl
        · rw [List.mem_singleton.mp hact]
          rfl
      · rw [ledger_append, hledger]
        rfl
      · rw [ledger_append, hbelow, Option.bind_some, ← List.singleton_append, ledger_append,
          ledger_forwardingFinished hopenBelow]
        show ((if answers.startForwarding = SUCCESS then LedgerEntry.opens p else .other).record
          (below.erase p)).bind _ = _
        rw [if_pos hanswer]
        rfl
      · exact (List.perm_cons_erase hopenBelow).symm.trans hpermBelow
      · rw [List.append_cons, hview₂]
        exact ⟨_, rfl, Nat.succ_pos _⟩
      · rw [List.append_cons]
        exact hjustified₂
    · rw [if_neg hanswer]
      refine hdrop answers.route [_] (fun act hact => ?_) (fun act hact => ?_) (fun act hact => ?_)
        hjustified₂ ?_
      · rw [List.mem_singleton.mp hact]
        rfl
      · rw [List.mem_singleton.mp hact]
        rfl
      · rw [List.mem_singleton.mp hact]
        exact if_neg hanswer
      · exact ⟨_, hview₂, fun hsuccess => absurd hsuccess hstatus, fun hnone => by cases hnone⟩

end Inv

theorem inv_initial (packet : ℕ → ℕ) (header : ℕ → Ipv6BasicHeader) :
    Inv (initial packet header) [] where
  nodup := List.nodup_nil
  inj _ hp := absurd hp List.not_mem_nil
  sending := ⟨[], rfl, List.Perm.refl _⟩
  below := ⟨[], rfl, List.Perm.refl _⟩
  routed _ hp := absurd hp List.not_mem_nil
  forwarded _ hp := absurd hp List.not_mem_nil
  posted h := absurd rfl h
  justified := justified_nil

end LowpanInterfaceAdapter

/-! ## Runs -/

/-- The machine beside its history. -/
abbrev LowpanInterfaceAdapterWorld := Watched LowpanInterfaceAdapter LowpanInterfaceAdapterAct

namespace LowpanInterfaceAdapterWorld

open LowpanInterfaceAdapterAct

variable {sizes : LowpanInterfaceAdapterSizes} {w : LowpanInterfaceAdapterWorld}
  {event : LowpanInterfaceAdapterEvent} {events : List LowpanInterfaceAdapterEvent}

/-- The packets that are accepted and not finished. -/
def sending (w : LowpanInterfaceAdapterWorld) : List ℕ :=
  (ledger sendingEntry [] w.history).getD []

/-- The packets that the lower layer has. -/
def below (w : LowpanInterfaceAdapterWorld) : List ℕ := (ledger belowEntry [] w.history).getD []

def step (sizes : LowpanInterfaceAdapterSizes) :
    LowpanInterfaceAdapterWorld → LowpanInterfaceAdapterEvent →
      LowpanInterfaceAdapterWorld × List LowpanInterfaceAdapterAct :=
  watch (LowpanInterfaceAdapter.step sizes)

def initial (packet : ℕ → ℕ) (header : ℕ → Ipv6BasicHeader) : LowpanInterfaceAdapterWorld :=
  ⟨LowpanInterfaceAdapter.initial packet header, []⟩

/-- The events that may come: a client sends a packet that is not being sent, in a processing state
that is not in use, and the lower layer finishes a packet that it has.  The component tells a client
that a packet is finished at the end of a step, so what the client then calls is a step of its own. -/
def Allowed (w : LowpanInterfaceAdapterWorld) : LowpanInterfaceAdapterEvent → Prop
  | .startSendingIPv6Packet p packet _ _ =>
    p ∉ w.sending ∧ ∀ q ∈ w.sending, w.state.packet q ≠ packet
  | .startPacketRoutingTask _ => w.state.routingTaskPosted = true
  | .forwardingIpv6PacketFinished packet _ _ => ∃ p ∈ w.below, w.state.packet p = packet

/-- Nothing is left to do. -/
def AtRest (w : LowpanInterfaceAdapterWorld) : Prop :=
  w.state.routingTaskPosted = false ∧ w.below = []

/-- Every accepted packet is finished once and in step with the queues, and every act is justified. -/
structure Correct (w : LowpanInterfaceAdapterWorld) : Prop where
  finishedOnce : ∀ p, opened sendingEntry p w.history =
    closed sendingEntry p w.history + (w.state.routerQueue ++ w.state.forwarderQueue).count p
  nodup : (w.state.routerQueue ++ w.state.forwarderQueue).Nodup
  forwarder : ∀ p, p ∈ w.state.forwarderQueue ↔ p ∈ w.below
  router : ∀ p, p ∈ w.state.routerQueue ↔
    p ∈ w.sending ∧ (view p w.history).map (·.attempts) = some 0
  atRest : w.AtRest → ∀ p, opened sendingEntry p w.history = closed sendingEntry p w.history
  justified : Justified ActJustified w.history

def Inv (w : LowpanInterfaceAdapterWorld) : Prop := w.state.Inv w.history

theorem mem_sending_iff (h : w.Inv) {p : ℕ} : p ∈ w.sending ↔ p ∈ w.state.held := by
  obtain ⟨l, hledger, hperm⟩ := LowpanInterfaceAdapter.Inv.sending h
  rw [sending, hledger]
  exact hperm.mem_iff

theorem mem_below_iff (h : w.Inv) {p : ℕ} : p ∈ w.below ↔ p ∈ w.state.forwarderQueue := by
  obtain ⟨l, hledger, hperm⟩ := LowpanInterfaceAdapter.Inv.below h
  rw [below, hledger]
  exact hperm.mem_iff

theorem Inv.step (h : w.Inv) (hallowed : w.Allowed event) : (step sizes w event).1.Inv := by
  cases event with
  | startSendingIPv6Packet p packet header ifaceIsOn =>
    refine LowpanInterfaceAdapter.Inv.startSendingIPv6Packet h
      (fun hmem => hallowed.1 ((mem_sending_iff h).mpr hmem)) (fun q hq => ?_) header ifaceIsOn
    exact hallowed.2 q ((mem_sending_iff h).mpr hq)
  | startPacketRoutingTask answers =>
    exact LowpanInterfaceAdapter.Inv.startPacketRoutingTask h answers
  | forwardingIpv6PacketFinished packet status answers =>
    exact LowpanInterfaceAdapter.Inv.forwardingIpv6PacketFinished h packet status answers

theorem Inv.correct (h : w.Inv) : w.Correct := by
  have hcount : ∀ p, opened sendingEntry p w.history =
      closed sendingEntry p w.history + w.state.held.count p := by
    intro p
    obtain ⟨l, hledger, hperm⟩ := LowpanInterfaceAdapter.Inv.sending h
    have hcount := count_ledger hledger p
    rwa [List.count_nil, Nat.zero_add, hperm.count_eq] at hcount
  refine
    { finishedOnce := hcount
      nodup := LowpanInterfaceAdapter.Inv.nodup h
      forwarder := fun p => (mem_below_iff h).symm
      router := fun p => ⟨fun hmem => ⟨?_, ?_⟩, fun ⟨hmem, hzero⟩ => ?_⟩
      atRest := fun ⟨hposted, hbelow⟩ p => ?_
      justified := LowpanInterfaceAdapter.Inv.justified h }
  · exact (mem_sending_iff h).mpr (List.mem_append_left _ hmem)
  · rw [LowpanInterfaceAdapter.Inv.routed h p hmem]
    rfl
  · rcases List.mem_append.mp ((mem_sending_iff h).mp hmem) with hmem | hmem
    · exact hmem
    · obtain ⟨v, hview, hattempts⟩ := LowpanInterfaceAdapter.Inv.forwarded h p hmem
      rw [hview, Option.map_some, Option.some.injEq] at hzero
      exact absurd hzero (Nat.ne_of_gt hattempts)
  · have hrouter : w.state.routerQueue = [] := by
      by_contra hne
      have htrue := LowpanInterfaceAdapter.Inv.posted h hne
      rw [hposted] at htrue
      cases htrue
    have hforwarder : w.state.forwarderQueue = [] := by
      rw [List.eq_nil_iff_forall_not_mem]
      intro q hq
      have hmem := (mem_below_iff h).mpr hq
      rw [hbelow] at hmem
      cases hmem
    rw [hcount p, LowpanInterfaceAdapter.held, hrouter, hforwarder]
    rfl

end LowpanInterfaceAdapterWorld

section Results

open LowpanInterfaceAdapterWorld LowpanInterfaceAdapterAct

variable (sizes : LowpanInterfaceAdapterSizes) (packet : ℕ → ℕ) (header : ℕ → Ipv6BasicHeader)
  (events : List LowpanInterfaceAdapterEvent)

end Results

end Whip6
