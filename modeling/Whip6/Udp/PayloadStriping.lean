import Whip6.Udp.DatagramWrapping

/-!
# Striping the payload of a datagram

A socket shows its client the payload of a packet as a chain of its own: an element of the socket
overlays the rest of the element in which the UDP header ends, and takes its place before the
element behind it.  The client sees the bytes behind the header, and when it is done, or refuses
them, the packet has its elements and links back (`udpDelivery_roundTrip`).
-/

namespace Whip6

open Lib

section Striping

variable (memorySize : ℕ) (mem : IovMemory)

/-- The loop of `iovPtrIteratorMoveForward`, over the elements behind the first one. -/
def iovPtrMoveForwardLoop : List IovPtr → ℕ → ℕ → ℕ × IovPtrIter
  | [], offset, res => (res, ⟨none, offset⟩)
  | iovList :: rest, offset, res =>
    let tmp := (mem.node iovList).len
    if offset < tmp then (res + offset, ⟨some iovList, offset⟩)
    else iovPtrMoveForwardLoop rest (offset - tmp) (res + tmp)

/-- Move an iterator of pointers forward: the number of bytes it moved by and the iterator. -/
def iovPtrIteratorMoveForward (iovIter : IovPtrIter) (offset : ℕ) : ℕ × IovPtrIter :=
  match iovIter.currElem with
  | none => (0, iovIter)
  | some iovList =>
    let tmp := (mem.node iovList).len - iovIter.offset
    if tmp > offset then (offset, ⟨some iovList, iovIter.offset + offset⟩)
    else iovPtrMoveForwardLoop mem (mem.chain memorySize (mem.node iovList).next) (offset - tmp) tmp

/-- The spare element before what is behind `iovOld`. -/
def udpOverlay (iovOld : IovPtr) (offOld : ℕ) : IovMemory :=
  let old := mem.node iovOld
  let mem := mem.setNode .payloadIov ⟨old.ptr.add offOld, old.len - offOld, old.next, none⟩
  mem.setPrev old.next (some .payloadIov)

/-- The payload, if there is a header before it, and the iterator behind the header. -/
def udpStripeDataFromIncomingIpv6Packet (iovIter : IovPtrIter) :
    Option (Option IovPtr) × IovPtrIter × IovMemory :=
  let moved := iovPtrIteratorMoveForward memorySize mem iovIter udpHeaderSize
  if moved.1 ≠ udpHeaderSize then (none, moved.2, mem)
  else
    match moved.2.currElem with
    | none => (some none, moved.2, mem)
    | some iovOld => (some (some .payloadIov), moved.2, udpOverlay mem iovOld moved.2.offset)

/-- `NULL`, as what an element points to. -/
def iovNull : IovData := .bytes 0

/-- The result is `true` when the payload was one of the iterator. -/
def udpRestoreDataToIncomingIpv6Packet (iovIter : IovPtrIter) (payloadIov : Option IovPtr) :
    Bool × IovMemory :=
  match iovIter.currElem with
  | none => (payloadIov.isNone, mem)
  | some iovOld =>
    if payloadIov ≠ some .payloadIov then (false, mem)
    else
      let mem := mem.setPrev (mem.node .payloadIov).next (some iovOld)
      (true, mem.setNode .payloadIov ⟨iovNull, 0, none, none⟩)

/-- What a socket keeps while its client has a payload. -/
structure UdpDelivery where
  iovIter : IovPtrIter
  iovTotal : ℕ

/-- The end of the checksum computation, when the checksum is right: the payload and its length go
to the client. -/
def udpStartDelivery (payloadIter : IovPtrIter) (iovTotal : ℕ) :
    Option (Option IovPtr × ℕ) × UdpDelivery × IovMemory :=
  let striped := udpStripeDataFromIncomingIpv6Packet memorySize mem payloadIter
  match striped.1 with
  | none => (none, ⟨striped.2.1, iovTotal⟩, striped.2.2)
  | some payloadIov =>
    let iovTotal := iovTotal - udpHeaderSize
    (some (payloadIov, iovTotal), ⟨striped.2.1, iovTotal⟩, striped.2.2)

/-- The client refuses the payload, or has finished with it.  The result is `false` when the code
gives up. -/
def udpEndDelivery (delivery : UdpDelivery) (payloadIov : Option IovPtr) :
    Bool × UdpDelivery × IovMemory :=
  let restored := udpRestoreDataToIncomingIpv6Packet mem delivery.iovIter payloadIov
  (restored.1, { delivery with iovTotal := delivery.iovTotal + udpHeaderSize }, restored.2)

end Striping

/-! ## Moving forward -/

section Forward

variable {memorySize : ℕ} {mem : IovMemory} {iter iter' : IovPtrIter} {l l₂ : List ℕ}
  (ram : ℕ → UInt8) (icmpv6Hdrs : ℕ → ℕ → UInt8)

/-- An iterator that stands further on in a chain. -/
theorem DataChain.behind (l₁ : List ℕ) (h : DataChain mem iter (l₁ ++ l₂))
    (hcurr : iter'.currElem = (l₂.map IovPtr.client).head?)
    (hoffset : ∀ p, iter'.currElem = some p → iter'.offset ≤ (mem.node p).len) :
    DataChain mem iter' l₂ where
  seg := by
    have hseg := h.seg
    rw [List.map_append, seg_append] at hseg
    obtain ⟨m, -, hm⟩ := hseg
    rwa [hcurr, ← hm.eq_head?]
  nodup := (List.nodup_append.mp h.nodup).2.1
  back n hn := h.back n (List.mem_append_right l₁ hn)
  offset_le := hoffset
  inMemory n hn := h.inMemory n (List.mem_append_right l₁ hn)

/-- A position behind the first element. -/
theorem drop_content_cons {byte : IovData → ℕ → UInt8} {p : IovPtr} {ps : List IovPtr} {offset : ℕ}
    (h : (mem.node p).len ≤ offset) : (mem.content byte (p :: ps)).drop offset =
      (mem.content byte ps).drop (offset - (mem.node p).len) := by
  have hfirst : ((mem.node p).content byte).drop offset = [] := by
    apply List.drop_eq_nil_of_le
    rwa [IovNode.length_content]
  rw [IovMemory.content_cons, List.drop_append, hfirst, List.nil_append, IovNode.length_content]

variable (mem) in
/-- The bytes from the position that the loop finds on. -/
theorem moveForwardLoop_spec (byte : IovData → ℕ → UInt8) (l : List ℕ) (offset res : ℕ) :
    let r := iovPtrMoveForwardLoop mem (l.map .client) offset res
    let data := mem.content byte (l.map .client)
    r.1 = res + min offset data.length ∧ (offset ≤ data.length → ∃ l₁ l₂, l = l₁ ++ l₂ ∧
      r.2.currElem = (l₂.map IovPtr.client).head? ∧
      (∀ p, r.2.currElem = some p → r.2.offset ≤ (mem.node p).len) ∧
      dataFrom mem byte r.2 l₂ = data.drop offset) := by
  induction l generalizing offset res with
  | nil => exact ⟨by simp [iovPtrMoveForwardLoop, IovMemory.content],
      fun _ => ⟨[], [], rfl, rfl, nofun, by simp [dataFrom, IovMemory.content]⟩⟩
  | cons n l ih =>
    rw [List.map_cons, iovPtrMoveForwardLoop, IovMemory.content_cons]
    dsimp only
    rw [List.length_append, IovNode.length_content]
    split
    next hlt =>
      refine ⟨by omega, fun _ => ⟨[], n :: l, rfl, rfl, ?_, ?_⟩⟩
      · rintro p hp
        obtain rfl := Option.some.inj hp
        exact hlt.le
      · rw [dataFrom, List.map_cons, IovMemory.content_cons]
    next hge =>
      obtain ⟨hcount, hfound⟩ := ih (offset - (mem.node (.client n)).len)
        (res + (mem.node (.client n)).len)
      refine ⟨by rw [hcount]; omega, fun hle => ?_⟩
      obtain ⟨l₁, l₂, rfl, hcurr, hoffset, hdata⟩ := hfound (by omega)
      refine ⟨n :: l₁, l₂, rfl, hcurr, hoffset, hdata.trans ?_⟩
      rw [← IovMemory.content_cons, drop_content_cons (Nat.not_lt.mp hge)]

/-- An iterator moves by as many bytes as there are; the bytes from where it then stands on are the
rest. -/
theorem moveForward_spec (hchain : DataChain mem iter l) (hsize : l.length ≤ memorySize) (n : ℕ) :
    let r := iovPtrIteratorMoveForward memorySize mem iter n
    let data := dataFrom mem (IovData.byte ram icmpv6Hdrs) iter l
    r.1 = min n data.length ∧ (n ≤ data.length → ∃ l₁ l₂, l = l₁ ++ l₂ ∧ DataChain mem r.2 l₂ ∧
      dataFrom mem (IovData.byte ram icmpv6Hdrs) r.2 l₂ = data.drop n) := by
  rw [iovPtrIteratorMoveForward]
  cases l with
  | nil =>
    have hcurr : iter.currElem = none := hchain.seg
    rw [hcurr]
    refine ⟨by simp [dataFrom, IovMemory.content], fun hle => ⟨[], [], rfl, hchain, ?_⟩⟩
    simp [dataFrom, IovMemory.content]
  | cons c l =>
    obtain ⟨hcurr, hseg⟩ := hchain.seg
    have hoffset := hchain.offset_le _ hcurr
    have hbehind : mem.chain memorySize (mem.node (.client c)).next = l.map .client := by
      apply hseg.walk_eq
      rw [List.length_map]
      exact (Nat.le_succ _).trans hsize
    rw [hcurr]
    dsimp only
    rw [hbehind]
    have hlength : (dataFrom mem (IovData.byte ram icmpv6Hdrs) iter (c :: l)).length =
        (mem.node (.client c)).len - iter.offset +
          (mem.content (IovData.byte ram icmpv6Hdrs) (l.map .client)).length := by
      rw [dataFrom, List.map_cons, IovMemory.content_cons, List.length_drop, List.length_append,
        IovNode.length_content]
      omega
    split
    next hlt =>
      refine ⟨by rw [hlength]; omega, fun _ => ⟨[], c :: l, rfl, ?_, ?_⟩⟩
      · apply DataChain.behind [] hchain rfl
        rintro p hp
        obtain rfl := Option.some.inj hp
        dsimp only
        omega
      · rw [dataFrom, dataFrom, List.drop_drop]
    next hge =>
      obtain ⟨hcount, hfound⟩ := moveForwardLoop_spec mem (IovData.byte ram icmpv6Hdrs) l
        (n - ((mem.node (.client c)).len - iter.offset)) ((mem.node (.client c)).len - iter.offset)
      refine ⟨by rw [hcount, hlength]; omega, fun hle => ?_⟩
      obtain ⟨l₁, l₂, rfl, hcurr', hoffset', hdata⟩ := hfound (by omega)
      refine ⟨c :: l₁, l₂, rfl, DataChain.behind (c :: l₁) hchain hcurr' hoffset', hdata.trans ?_⟩
      rw [dataFrom, List.map_cons, List.drop_drop, drop_content_cons (by omega)]
      congr 1
      omega

end Forward

/-! ## The payload in place of its element -/

/-- A chain that is linked both ways, with its bytes. -/
structure Presents (mem : IovMemory) (byte : IovData → ℕ → UInt8) (payloadIov : Option IovPtr)
    (iovs : List IovPtr) (bytes : List UInt8) : Prop where
  seg : Seg (fun p => (mem.node p).next) payloadIov iovs none
  first : ∀ p, payloadIov = some p → (mem.node p).prev = none
  back : ∀ p ∈ iovs, ∀ q, (mem.node p).next = some q → (mem.node q).prev = some p
  content : mem.content byte iovs = bytes

section Overlay

variable {mem : IovMemory} {iter : IovPtrIter} {c : ℕ} {l : List ℕ}
  (ram : ℕ → UInt8) (icmpv6Hdrs : ℕ → ℕ → UInt8)

theorem node_udpOverlay (hchain : ClientChain mem iter (c :: l)) (offset : ℕ) :
    let mem' := udpOverlay mem (.client c) offset
    (∀ n, mem'.node (.client n) = if (mem.node (.client c)).next = some (.client n) then
      { mem.node (.client n) with prev := some .payloadIov } else mem.node (.client n)) ∧
    mem'.node .payloadIov = ⟨(mem.node (.client c)).ptr.add offset,
      (mem.node (.client c)).len - offset, (mem.node (.client c)).next, none⟩ := by
  refine ⟨fun n => ?_, ?_⟩
  · rw [udpOverlay, node_setPrev, node_setNode_of_ne IovPtr.noConfusion]
  · rw [udpOverlay, node_setPrev, if_neg, node_setNode_self]
    intro hq
    obtain ⟨m, -, hm, -⟩ := hchain.next_mem List.mem_cons_self hq
    cases hm

theorem udpOverlay_frame (hchain : ClientChain mem iter (c :: l)) (offset : ℕ) {n : ℕ}
    (hn : n ∉ c :: l) :
    (udpOverlay mem (.client c) offset).node (.client n) = mem.node (.client n) := by
  rw [(node_udpOverlay hchain offset).1, if_neg]
  intro hnext
  obtain ⟨m, hm, hmn, -⟩ := hchain.next_mem List.mem_cons_self hnext
  obtain rfl := IovPtr.client.inj hmn
  exact hn hm

/-- The bytes of the spare element, and of those behind the one it overlays, are those from the
iterator on. -/
theorem content_udpOverlay (hchain : DataChain mem iter (c :: l)) :
    (udpOverlay mem (.client c) iter.offset).content (IovData.byte ram icmpv6Hdrs)
        (.payloadIov :: l.map .client) =
      dataFrom mem (IovData.byte ram icmpv6Hdrs) iter (c :: l) := by
  obtain ⟨hclient, hspare⟩ := node_udpOverlay hchain.toClientChain iter.offset
  obtain ⟨hcurr, -⟩ := hchain.seg
  obtain ⟨address, hptr⟩ := hchain.inMemory c List.mem_cons_self
  have hoffset := hchain.offset_le _ hcurr
  rw [IovMemory.content_cons, content_of_setPrev hclient, hspare, IovNode.content_add hptr, dataFrom, List.map_cons,
    IovMemory.content_cons, List.drop_append_of_le_length (by rwa [IovNode.length_content])]

/-- The client finds the spare element before what is behind the one it overlays. -/
theorem presents_udpOverlay (hchain : DataChain mem iter (c :: l)) :
    Presents (udpOverlay mem (.client c) iter.offset) (IovData.byte ram icmpv6Hdrs)
      (some .payloadIov) (.payloadIov :: l.map .client)
      (dataFrom mem (IovData.byte ram icmpv6Hdrs) iter (c :: l)) := by
  obtain ⟨-, hseg⟩ := hchain.seg
  obtain ⟨hclient, hspare⟩ := node_udpOverlay hchain.toClientChain iter.offset
  have hlinks : ∀ n, ((udpOverlay mem (.client c) iter.offset).node (.client n)).next =
      (mem.node (.client n)).next := by
    intro n
    rw [hclient]
    split <;> rfl
  refine ⟨⟨rfl, ?_⟩, ?_, ?_, content_udpOverlay ram icmpv6Hdrs hchain⟩
  · dsimp only
    rw [hspare]
    apply hseg.congr
    intro p hp
    obtain ⟨n, -, rfl⟩ := List.mem_map.mp hp
    exact hlinks n
  · rintro p hp
    obtain rfl := Option.some.inj hp
    rw [hspare]
  · rintro p hp q hq
    rcases List.mem_cons.mp hp with rfl | hp
    · rw [hspare] at hq
      obtain ⟨m, -, rfl, -⟩ := hchain.next_mem List.mem_cons_self hq
      rw [hclient, if_pos hq]
    · obtain ⟨n, hn, rfl⟩ := List.mem_map.mp hp
      have hn' := List.mem_cons_of_mem c hn
      rw [hlinks] at hq
      obtain ⟨m, -, rfl, -⟩ := hchain.next_mem hn' hq
      have hback := hchain.back n hn' _ hq
      -- Only one element leads to another, and `c` is not behind itself.
      rw [hclient, if_neg, hback]
      intro hnext
      have hcn := hback.symm.trans (hchain.back c List.mem_cons_self _ hnext)
      obtain rfl := IovPtr.client.inj (Option.some.inj hcn)
      exact (List.nodup_cons.mp hchain.nodup).1 hn

/-- The element behind an overlaid one gets its link back, if the client has kept the links. -/
theorem restore_udpOverlay {mem' : IovMemory} (hchain : ClientChain mem iter (c :: l))
    (hspare : mem'.node .payloadIov = (udpOverlay mem (.client c) iter.offset).node .payloadIov)
    (hsame : SameNodes (udpOverlay mem (.client c) iter.offset) mem' (c :: l)) :
    let r := udpRestoreDataToIncomingIpv6Packet mem' iter (some .payloadIov)
    r.1 = true ∧ SameNodes mem r.2 (c :: l) ∧
      (∀ n, n ∉ c :: l → r.2.node (.client n) = mem'.node (.client n)) ∧
      r.2.node .payloadIov = ⟨iovNull, 0, none, none⟩ := by
  obtain ⟨hclient, hoverlay⟩ := node_udpOverlay hchain iter.offset
  obtain ⟨hcurr, -⟩ := hchain.seg
  rw [udpRestoreDataToIncomingIpv6Packet, hcurr]
  dsimp only
  rw [if_neg (by simp), hspare, hoverlay]
  refine ⟨rfl, fun n hn => ?_, fun n hn => ?_, node_setNode_self⟩
  · rw [node_setNode_of_ne IovPtr.noConfusion, node_setPrev, hsame n hn, hclient]
    split
    next hnext => rw [← hchain.back c List.mem_cons_self _ hnext]
    · rfl
  · rw [node_setNode_of_ne IovPtr.noConfusion, node_setPrev, if_neg]
    intro hnext
    obtain ⟨m, hm, hmn, -⟩ := hchain.next_mem List.mem_cons_self hnext
    obtain rfl := IovPtr.client.inj hmn
    exact hn hm

end Overlay

/-! ## The delivery -/

section Delivery

variable {memorySize : ℕ} {mem : IovMemory} {payloadIter : IovPtrIter} {l : List ℕ} {iovTotal : ℕ}
  (ram : ℕ → UInt8) (icmpv6Hdrs : ℕ → ℕ → UInt8)

/-- Wherever the header of a datagram ends in the chain of a packet, the client gets the bytes
behind it as a chain that is linked both ways, and when it is done with them, the packet has its
elements and links again; a packet without a header is left alone. -/
theorem udpDelivery_roundTrip (hchain : DataChain mem payloadIter l) (hsize : l.length ≤ memorySize)
    (htotal : udpHeaderSize ≤ iovTotal) :
    let data := dataFrom mem (IovData.byte ram icmpv6Hdrs) payloadIter l
    let r := udpStartDelivery memorySize mem payloadIter iovTotal
    (data.length < udpHeaderSize → r.1 = none ∧ r.2.1.iovTotal = iovTotal ∧ r.2.2 = mem) ∧
    (udpHeaderSize ≤ data.length → ∃ payloadIov iovs,
      r.1 = some (payloadIov, iovTotal - udpHeaderSize) ∧
      Presents r.2.2 (IovData.byte ram icmpv6Hdrs) payloadIov iovs (data.drop udpHeaderSize) ∧
      (∀ n, n ∉ l → r.2.2.node (.client n) = mem.node (.client n)) ∧
      ∀ mem', mem'.node .payloadIov = r.2.2.node .payloadIov → SameNodes r.2.2 mem' l →
        let ended := udpEndDelivery mem' r.2.1 payloadIov
        ended.1 = true ∧ ended.2.1.iovTotal = iovTotal ∧ SameNodes mem ended.2.2 l ∧
          ∀ n, n ∉ l → ended.2.2.node (.client n) = mem'.node (.client n)) := by
  obtain ⟨hcount, hfound⟩ := moveForward_spec ram icmpv6Hdrs hchain hsize udpHeaderSize
  rw [udpStartDelivery, udpStripeDataFromIncomingIpv6Packet]
  dsimp only at hcount hfound ⊢
  generalize iovPtrIteratorMoveForward memorySize mem payloadIter udpHeaderSize = moved at *
  rw [hcount]
  refine ⟨fun hshort => ?_, fun hlong => ?_⟩
  · rw [if_pos (by omega)]
    exact ⟨rfl, rfl, rfl⟩
  · obtain ⟨l₁, l₂, rfl, hbehind, hdata⟩ := hfound hlong
    rw [if_neg (by omega), ← hdata]
    have htotal' : iovTotal - udpHeaderSize + udpHeaderSize = iovTotal := Nat.sub_add_cancel htotal
    cases l₂ with
    | nil =>
      have hcurr : moved.2.currElem = none := hbehind.seg
      rw [hcurr]
      refine ⟨none, [], rfl, ⟨rfl, nofun, nofun, ?_⟩, fun _ _ => rfl, fun mem' _ hsame => ?_⟩
      · simp [dataFrom, IovMemory.content]
      · rw [udpEndDelivery, udpRestoreDataToIncomingIpv6Packet]
        dsimp only
        rw [hcurr]
        exact ⟨rfl, htotal', hsame, fun _ _ => rfl⟩
    | cons c l₂ =>
      obtain ⟨hcurr, -⟩ := hbehind.seg
      rw [hcurr]
      refine ⟨some .payloadIov, _, rfl, presents_udpOverlay ram icmpv6Hdrs hbehind, ?_, ?_⟩
      · intro n hn
        exact udpOverlay_frame hbehind.toClientChain _ fun hmem =>
          hn (List.mem_append_right l₁ hmem)
      · intro mem' hspare hsame
        obtain ⟨htaken, hrestored, hothers, -⟩ := restore_udpOverlay hbehind.toClientChain hspare
          fun n hn => hsame n (List.mem_append_right l₁ hn)
        refine ⟨htaken, htotal', fun n hn => ?_, fun n hn => ?_⟩
        · by_cases hn₂ : n ∈ c :: l₂
          · exact hrestored n hn₂
          · refine (hothers n hn₂).trans ?_
            rw [hsame n hn]
            exact udpOverlay_frame hbehind.toClientChain _ hn₂
        · exact hothers n fun hmem => hn (List.mem_append_right l₁ hmem)

end Delivery

/-- A datagram with two bytes of payload in one element. -/
theorem udpDelivery_roundTrip_two : ∃ payloadIov iovs,
    (udpStartDelivery 1 (iovMemoryOfOne 10) ⟨some (.client 0), 0⟩ 10).1 = some (payloadIov, 2) ∧
    Presents (udpStartDelivery 1 (iovMemoryOfOne 10) ⟨some (.client 0), 0⟩ 10).2.2
      (IovData.byte (fun i => UInt8.ofNat i) fun _ _ => 0) payloadIov iovs [8, 9] := by
  obtain ⟨payloadIov, iovs, hpayload, hpresents, -⟩ := (udpDelivery_roundTrip
    (fun i => UInt8.ofNat i) (fun _ _ => 0) (dataChain_iovMemoryOfOne 10) (Nat.le_refl 1)
    (by decide : udpHeaderSize ≤ 10)).2 (by decide)
  exact ⟨payloadIov, iovs, hpayload, hpresents⟩

end Whip6
